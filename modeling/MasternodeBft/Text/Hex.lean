import MasternodeBft.Bytes

/-! Lower-case hexadecimal text of byte strings. -/

namespace MasternodeBft.Text.Hex

def digit (nibble : Nat) : Char :=
  if nibble < 10 then Char.ofNat (48 + nibble) else Char.ofNat (87 + nibble)

def chars : Bytes → List Char
  | [] => []
  | byte :: rest => digit (byte.toNat / 16) :: digit (byte.toNat % 16) :: chars rest

def encode (bytes : Bytes) : String := String.ofList (chars bytes)

/-- Digits of both cases are read. -/
def nibble? (char : Char) : Option Nat :=
  let code := char.toNat
  if 48 ≤ code ∧ code ≤ 57 then some (code - 48)
  else if 97 ≤ code ∧ code ≤ 102 then some (code - 87)
  else if 65 ≤ code ∧ code ≤ 70 then some (code - 55)
  else none

def read? : List Char → Option Bytes
  | [] => some []
  | high :: low :: rest => do
    let high ← nibble? high
    let low ← nibble? low
    let bytes ← read? rest
    pure (UInt8.ofNat (16 * high + low) :: bytes)
  | [_] => none

def decode? (text : String) : Option Bytes := read? text.toList

end MasternodeBft.Text.Hex
