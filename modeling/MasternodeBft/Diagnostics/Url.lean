import MasternodeBft.Host.Address
import MasternodeBft.Host.Name
import MasternodeBft.Text.Utf8

/-!
Addresses at which a node can be asked. They are read as web addresses are: slashes may stand the
other way round, blanks around an address do not matter, and what follows the host and the socket
number is not looked at.
-/

namespace MasternodeBft.Diagnostics.Url

open Text

/-- Splits at the first character of a kind, which is left with the second part. -/
def splitAt (stop : Char → Bool) (chars : List Char) : List Char × List Char :=
  (chars.takeWhile fun char => !stop char, chars.dropWhile fun char => !stop char)

/-- The characters without control characters and blanks around them, and without line breaks. -/
def trimmed (chars : List Char) : List Char :=
  let blank (char : Char) : Bool := char.toNat ≤ 0x20
  let inner := ((chars.dropWhile blank).reverse.dropWhile blank).reverse
  inner.filter fun char => char ≠ '\t' ∧ char ≠ '\n' ∧ char ≠ '\r'

def afterScheme? (chars : List Char) : Option (List Char) :=
  let (scheme, rest) := splitAt (· = ':') chars
  let scheme := scheme.map Char.toLower
  if scheme = ['h', 't', 't', 'p'] ∨ scheme = ['h', 't', 't', 'p', 's'] then
    match rest with
    | ':' :: rest => some rest
    | _ => none
  else none

def authority (chars : List Char) : List Char :=
  let slash (char : Char) : Bool := char = '/' ∨ char = '\\'
  let (whole, _) := splitAt (fun char => slash char || char = '?' || char = '#') (chars.dropWhile slash)
  (whole.reverse.takeWhile (· ≠ '@')).reverse

def validSocket (chars : List Char) : Bool :=
  match chars.mapM fun char => Decimal.digit? char.toNat with
  | none => false
  | some digits => Decimal.value digits < 65536

/-- Undoes the escapes, each a percent sign and two hexadecimal digits. Other percent signs stay. -/
def unescaped : Bytes → Bytes
  | [] => []
  | 37 :: high :: low :: rest =>
    match Hex.nibble? (Char.ofNat high.toNat), Hex.nibble? (Char.ofNat low.toNat) with
    | some high, some low => UInt8.ofNat (16 * high + low) :: unescaped rest
    | _, _ => 37 :: unescaped (high :: low :: rest)
  | byte :: rest => byte :: unescaped rest

/-- A host by name, whose normal form may turn out to be a numeric address. -/
def validName (host : List Char) : Bool :=
  match (Utf8.decode? (unescaped (Utf8.encode host))).bind Host.Name.ofChars? with
  | none => false
  | some name => !Host.Address.isNumeric name || Host.Address.validNumeric name

def valid (url : String) : Bool :=
  match afterScheme? (trimmed url.toList) with
  | none => false
  | some rest =>
    match authority rest with
    | '[' :: rest =>
      let (host, rest) := splitAt (· = ']') rest
      Host.Address.validGroups host && match rest with
        | [']'] => true
        | ']' :: ':' :: socket => validSocket socket
        | _ => false
    | whole =>
      let (host, socket) := splitAt (· = ':') whole
      validName host && validSocket (socket.drop 1)

end MasternodeBft.Diagnostics.Url
