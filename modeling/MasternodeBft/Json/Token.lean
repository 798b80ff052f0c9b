import MasternodeBft.Json.Basic

/-! The tokens of a JSON text: marks, strings, and the words between them. -/

namespace MasternodeBft.Json

inductive Token where
  | openBracket
  | closeBracket
  | openBrace
  | closeBrace
  | colon
  | comma
  | string (value : Quoted)
  | scalar (value : Json)

/-- Where reading stands: between strings with the bytes of an unfinished word, or inside a string
with its bytes so far. Bytes are kept with the last one first. -/
inductive Mode where
  | word (bytes : Bytes)
  | quoted (bytes : Bytes)
  | escape (bytes : Bytes)
  | unit (left : Nat) (bytes : Bytes)

namespace Token

def isBlank (byte : UInt8) : Bool := byte = 32 || byte = 9 || byte = 10 || byte = 13

def mark? (byte : UInt8) : Option Token :=
  if byte = 91 then some openBracket
  else if byte = 93 then some closeBracket
  else if byte = 123 then some openBrace
  else if byte = 125 then some closeBrace
  else if byte = 58 then some colon
  else if byte = 44 then some comma
  else none

/-- A word is one of the three names or a number. -/
def scalar? (word : Bytes) : Option Json :=
  if word = [110, 117, 108, 108] then some .null
  else if word = [116, 114, 117, 101] then some (.bool true)
  else if word = [102, 97, 108, 115, 101] then some (.bool false)
  else (Number.ofBytes? word).map .number

def endWord? (done : List Token) : Bytes → Option (List Token)
  | [] => some done
  | word => (scalar? word.reverse).map fun value => scalar value :: done

def isHexDigit (byte : UInt8) : Bool := (Text.Hex.nibble? (Char.ofNat byte.toNat)).isSome

/-- Reads the tokens of the remaining bytes behind those already read. A string ends at its first
quote that no backslash escapes, and holds no control characters. -/
def scan : Mode → List Token → Bytes → Option (List Token)
  | .word word, done, [] => (endWord? done word).map List.reverse
  | .word word, done, byte :: rest =>
    if isBlank byte then
      match endWord? done word with
      | some done => scan (.word []) done rest
      | none => none
    else if byte = 34 then
      match endWord? done word with
      | some done => scan (.quoted []) done rest
      | none => none
    else match mark? byte with
      | some mark =>
        match endWord? done word with
        | some done => scan (.word []) (mark :: done) rest
        | none => none
      | none => scan (.word (byte :: word)) done rest
  | .quoted bytes, done, byte :: rest =>
    if byte = 34 then scan (.word []) (string ⟨bytes.reverse⟩ :: done) rest
    else if byte = 92 then scan (.escape (byte :: bytes)) done rest
    else if byte.toNat < 0x20 then none
    else scan (.quoted (byte :: bytes)) done rest
  | .escape bytes, done, byte :: rest =>
    if byte = 117 then scan (.unit 4 (byte :: bytes)) done rest
    else if (Quoted.letter? byte).isSome then scan (.quoted (byte :: bytes)) done rest
    else none
  | .unit left bytes, done, byte :: rest =>
    if isHexDigit byte then
      match left with
      | left + 2 => scan (.unit (left + 1) (byte :: bytes)) done rest
      | _ => scan (.quoted (byte :: bytes)) done rest
    else none
  | _, _, [] => none

def ofBytes? (text : Bytes) : Option (List Token) := scan (.word []) [] text

end Token

end MasternodeBft.Json
