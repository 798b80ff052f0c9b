import MasternodeBft.Bytes

/-! Characters as byte sequences: the shortest forms only, and no surrogates. -/

namespace MasternodeBft.Text.Utf8

def tail? (byte : UInt8) : Option Nat :=
  if 0x80 ≤ byte.toNat ∧ byte.toNat < 0xc0 then some (byte.toNat - 0x80) else none

/-- The character of a code point that is not below `least`. -/
def char? (least code : Nat) : Option Char :=
  if valid : code.isValidChar then
    if least ≤ code then some (Char.ofNatAux code valid) else none
  else none

def readAfter : List Char → Bytes → Option (List Char)
  | done, [] => some done.reverse
  | done, a :: rest =>
    if a.toNat < 0x80 then readAfter (Char.ofNat a.toNat :: done) rest
    else match rest with
      | b :: rest₁ =>
        if a.toNat < 0xe0 then do
          let b ← tail? b
          let char ← if 0xc0 ≤ a.toNat then char? 0x80 ((a.toNat - 0xc0) * 64 + b) else none
          readAfter (char :: done) rest₁
        else match rest₁ with
          | c :: rest₂ =>
            if a.toNat < 0xf0 then do
              let b ← tail? b
              let c ← tail? c
              let char ← char? 0x800 ((a.toNat - 0xe0) * 4096 + b * 64 + c)
              readAfter (char :: done) rest₂
            else match rest₂ with
              | d :: rest₃ => do
                let b ← tail? b
                let c ← tail? c
                let d ← tail? d
                let char ← if a.toNat < 0xf8 then
                    char? 0x10000 ((a.toNat - 0xf0) * 262144 + b * 4096 + c * 64 + d)
                  else none
                readAfter (char :: done) rest₃
              | [] => none
          | [] => none
      | [] => none

def decode? (bytes : Bytes) : Option (List Char) := readAfter [] bytes

def charBytes (char : Char) : Bytes :=
  let code := char.toNat
  if code < 0x80 then [UInt8.ofNat code]
  else if code < 0x800 then [UInt8.ofNat (0xc0 + code / 64), UInt8.ofNat (0x80 + code % 64)]
  else if code < 0x10000 then
    [UInt8.ofNat (0xe0 + code / 4096), UInt8.ofNat (0x80 + code / 64 % 64), UInt8.ofNat (0x80 + code % 64)]
  else
    [UInt8.ofNat (0xf0 + code / 262144), UInt8.ofNat (0x80 + code / 4096 % 64),
      UInt8.ofNat (0x80 + code / 64 % 64), UInt8.ofNat (0x80 + code % 64)]

def encode (chars : List Char) : Bytes := chars.flatMap charBytes

end MasternodeBft.Text.Utf8
