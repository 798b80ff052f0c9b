import MasternodeBft.Bytes
import MasternodeBft.Bls.Point

/-!
Points as bytes. The first three bits tell a compressed form, the point at infinity, and the greater
of the two second coordinates; a compressed form carries the first coordinate only.
-/

namespace MasternodeBft.Bls

inductive EncodingError where
  | badEncoding
  | notOnCurve
  | notInGroup
deriving DecidableEq

namespace EncodingError

def name : EncodingError → String
  | badEncoding => "BLST_BAD_ENCODING"
  | notOnCurve => "BLST_POINT_NOT_ON_CURVE"
  | notInGroup => "BLST_POINT_NOT_IN_GROUP"

end EncodingError

/-- The three leading bits of an encoding. -/
structure Flags where
  compressed : Bool
  infinity : Bool
  greater : Bool

namespace Flags

def ofByte (byte : UInt8) : Flags := ⟨byte &&& 0x80 != 0, byte &&& 0x40 != 0, byte &&& 0x20 != 0⟩

def toByte (flags : Flags) : UInt8 :=
  (if flags.compressed then 0x80 else 0) ||| (if flags.infinity then 0x40 else 0) |||
    (if flags.greater then 0x20 else 0)

def mark (flags : Flags) : Bytes → Bytes
  | [] => []
  | byte :: rest => (byte ||| flags.toByte) :: rest

end Flags

def split? : Bytes → Option (Flags × UInt8 × Bytes)
  | [] => none
  | byte :: rest => some (Flags.ofByte byte, byte &&& 0x1f, rest)

namespace Fp

def toBytes (a : Fp) : Bytes := Bytes.ofNat 48 a.val

def ofBytes? (bytes : Bytes) : Option Fp :=
  let value := Bytes.toNat bytes
  if reduced : value < fieldModulus then some ⟨value, reduced⟩ else none

end Fp

namespace G1

/-- 48 bytes. -/
def compress : G1 → Bytes
  | .infinity => Flags.mark ⟨true, true, false⟩ (List.replicate 48 0)
  | .affine x y => Flags.mark ⟨true, false, y.isGreater⟩ x.toBytes

/-- Reads a compressed point. The points with first coordinate zero are on the curve and outside the
group; every other point of the curve is accepted, in the group or not. -/
def decompress (bytes : Bytes) : Except EncodingError G1 :=
  match split? bytes with
  | none => .error .badEncoding
  | some (flags, first, rest) =>
    if bytes.length ≠ 48 ∨ ¬flags.compressed then .error .badEncoding
    else if flags.infinity then
      if ¬flags.greater ∧ (first :: rest).all (· == 0) then .ok .infinity else .error .badEncoding
    else match Fp.ofBytes? (first :: rest) with
      | none => .error .badEncoding
      | some x => match Fp.sqrt? (x * x * x + coefficient) with
        | none => .error .notOnCurve
        | some y =>
          if x = Fp.zero then .error .notInGroup
          else .ok (.affine x (if y.isGreater = flags.greater then y else -y))

end G1

namespace G2

/-- 96 bytes, the imaginary half of the coordinate first. -/
def compress : G2 → Bytes
  | .infinity => Flags.mark ⟨true, true, false⟩ (List.replicate 96 0)
  | .affine x y => Flags.mark ⟨true, false, y.isGreater⟩ (x.im.toBytes ++ x.re.toBytes)

def coordinate? (bytes : Bytes) : Option Fp2 := do
  let im ← Fp.ofBytes? (bytes.take 48)
  let re ← Fp.ofBytes? (bytes.drop 48)
  pure ⟨re, im⟩

/-- Reads a compressed point of 96 bytes or an uncompressed one of 192; a point of the curve is
accepted, in the group or not. -/
def read (bytes : Bytes) : Except EncodingError G2 :=
  match split? bytes with
  | none => .error .badEncoding
  | some (flags, first, rest) =>
    if bytes.length ≠ (if flags.compressed then 96 else 192) then .error .badEncoding
    else if flags.infinity then
      if ¬flags.greater ∧ (first :: rest).all (· == 0) then .ok .infinity else .error .badEncoding
    else if flags.compressed then
      match coordinate? (first :: rest) with
      | none => .error .badEncoding
      | some x => match Fp2.sqrt? (x * x * x + coefficient) with
        | none => .error .notOnCurve
        | some y => .ok (.affine x (if y.isGreater = flags.greater then y else -y))
    else if flags.greater then .error .badEncoding
    else match coordinate? ((first :: rest).take 96), coordinate? (rest.drop 95) with
      | some x, some y => if onCurve x y then .ok (.affine x y) else .error .notOnCurve
      | _, _ => .error .badEncoding

end G2

end MasternodeBft.Bls
