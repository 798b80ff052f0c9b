import MasternodeBft.Hash.Sha256
import MasternodeBft.Bls.Isogeny
import MasternodeBft.Bls.Point

/-!
Messages hashed to points of the signature group: the message is stretched to two field elements,
each is placed on a curve and carried over, and the sum is moved into the group of prime order.
-/

namespace MasternodeBft.Bls.HashToCurve

def domain : Bytes := "BLS_SIG_BLS12381G1_XMD:SHA-256_SSWU_RO_POP_".toUTF8.data.toList

def domainSuffix : Bytes := domain ++ [UInt8.ofNat domain.length]

/-- Blocks `counter`, `counter + 1`, …, each over the first block mixed with the one before it. -/
def stretchFrom (first : Bytes) : Nat → UInt8 → Bytes → Bytes
  | 0, _, _ => []
  | count + 1, counter, previous =>
    let block := (sha256 ((first.zip previous).map (fun pair => pair.1 ^^^ pair.2) ++
      counter :: domainSuffix)).bytes
    block ++ stretchFrom first count (counter + 1) block

def stretch (message : Bytes) (blocks : Nat) : Bytes :=
  let first := (sha256 (List.replicate 64 0 ++ message ++ Bytes.ofNat 2 (32 * blocks) ++
    0 :: domainSuffix)).bytes
  stretchFrom first blocks 1 (List.replicate 32 0)

/-- The least non-square that serves the placement. -/
def factor : Fp := Fp.ofNat 11

def onSource (x : Fp) : Fp := x * x * x + Isogeny.sourceA * x + Isogeny.sourceB

def place (element : Fp) : Fp × Fp :=
  let scaled := factor * (element * element)
  let mixed := scaled * scaled + scaled
  let x₁ :=
    if mixed = Fp.zero then Isogeny.sourceB * Fp.inverse (factor * Isogeny.sourceA)
    else -Isogeny.sourceB * Fp.inverse Isogeny.sourceA * (Fp.one + Fp.inverse mixed)
  let point := match Fp.sqrt? (onSource x₁) with
    | some y => (x₁, y)
    | none => (scaled * x₁, (Fp.sqrt? (onSource (scaled * x₁))).getD Fp.zero)
  if point.2.val % 2 = element.val % 2 then point else (point.1, -point.2)

def image (element : Fp) : G1 :=
  let placed := place element
  let carried := Isogeny.image placed.1 placed.2
  .affine carried.1 carried.2

/-- Digits of the multiple that leads into the group of prime order. -/
def clearing : List Bool := binary 0xd201000000010001

def hash (message : Bytes) : G1 :=
  let stretched := stretch message 4
  let first := image (Fp.ofNat (Bytes.toNat (stretched.take 64)))
  let second := image (Fp.ofNat (Bytes.toNat (stretched.drop 64)))
  (first.add second).multiple clearing

end MasternodeBft.Bls.HashToCurve
