import MasternodeBft.Text.Hex
import MasternodeBft.Hash.Keccak

/-! Addresses of masternodes, and their two texts. -/

namespace MasternodeBft

abbrev Address := FixedBytes 20

instance : LawfulBEq Address := inferInstance

namespace Address

def zero : Address := FixedBytes.zero 20

def lowerChars (address : Address) : List Char := '0' :: 'x' :: Text.Hex.chars address.bytes

def lower (address : Address) : String := String.ofList address.lowerChars

def nibbles (bytes : Bytes) : List Nat := bytes.flatMap fun byte => [byte.toNat / 16, byte.toNat % 16]

/-- Raises the letters that meet a nibble of eight or more. -/
def raise : List Nat → List Char → List Char
  | nibble :: nibbles, char :: chars =>
    (if 8 ≤ nibble then char.toUpper else char) :: raise nibbles chars
  | _, chars => chars

def checksumChars (address : Address) : List Char :=
  let digits := Text.Hex.chars address.bytes
  let hash := Hash.Keccak.hash (digits.map fun char => UInt8.ofNat char.toNat)
  '0' :: 'x' :: raise (nibbles hash.bytes) digits

/-- The text whose letters' cases carry a checksum: those that meet a great nibble in the hash of the
lower-case digits are upper-case. -/
def checksummed (address : Address) : String := String.ofList address.checksumChars

/-- The last 20 bytes of the hash of an encoded key. -/
def ofKeyBytes (bytes : Bytes) : Address := FixedBytes.take 20 ((Hash.Keccak.hash bytes).bytes.drop 12)

end Address

end MasternodeBft
