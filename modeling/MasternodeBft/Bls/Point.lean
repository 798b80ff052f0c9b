import MasternodeBft.Bls.Quadratic

/-!
Points of a curve `y ^ 2 = x ^ 3 + b`. Sums are taken in weighted coordinates, where `(x, y, z)`
stands for `(x / z ^ 2, y / z ^ 3)` and `z = 0` for the point at infinity.
-/

namespace MasternodeBft.Bls

inductive Point (F : Type) where
  | infinity
  | affine (x y : F)
deriving DecidableEq

structure Weighted (F : Type) where
  x : F
  y : F
  z : F

namespace Weighted

variable {F : Type} [FieldOps F]

def infinity : Weighted F := ⟨FieldOps.one, FieldOps.one, FieldOps.zero⟩

@[specialize] def double (p : Weighted F) : Weighted F :=
  let xx := p.x * p.x
  let yy := p.y * p.y
  let yyyy := yy * yy
  let sum := p.x + yy
  let half := sum * sum - xx - yyyy
  let d := half + half
  let slope := xx + xx + xx
  let x := slope * slope - d - d
  let twice := yyyy + yyyy
  let fourTimes := twice + twice
  let product := p.y * p.z
  ⟨x, slope * (d - x) - fourTimes - fourTimes, product + product⟩

@[specialize] def addAffine (p : Weighted F) (x y : F) : Weighted F :=
  if FieldOps.isZero p.z then ⟨x, y, FieldOps.one⟩
  else
    let zz := p.z * p.z
    let h := x * zz - p.x
    let r := y * (zz * p.z) - p.y
    if FieldOps.isZero h then
      if FieldOps.isZero r then double p else infinity
    else
      let hh := h * h
      let hhh := hh * h
      let v := p.x * hh
      let nextX := r * r - hhh - v - v
      ⟨nextX, r * (v - nextX) - p.y * hhh, p.z * h⟩

@[specialize] def toPoint (p : Weighted F) : Point F :=
  if FieldOps.isZero p.z then .infinity
  else
    let inverse := FieldOps.inverse p.z
    let square := inverse * inverse
    .affine (p.x * square) (p.y * (square * inverse))

/-- The multiple of `(x, y)` by a number given by its binary digits, most significant first. -/
@[specialize] def multiple (digits : List Bool) (x y : F) : Weighted F :=
  digits.foldl (fun value digit => if digit then addAffine (double value) x y else double value) infinity

end Weighted

namespace Point

variable {F : Type} [FieldOps F]

@[specialize] def neg : Point F → Point F
  | infinity => infinity
  | affine x y => affine x (-y)

@[specialize] def add : Point F → Point F → Point F
  | infinity, q => q
  | p, infinity => p
  | affine x₁ y₁, affine x₂ y₂ => (Weighted.addAffine ⟨x₁, y₁, FieldOps.one⟩ x₂ y₂).toPoint

/-- The multiple by a number given by its binary digits, most significant first. -/
@[specialize] def multiple (digits : List Bool) : Point F → Point F
  | infinity => infinity
  | affine x y => (Weighted.multiple digits x y).toPoint

end Point

def orderDigits : List Bool := binary groupOrder

@[specialize] def Point.inGroup {F : Type} [FieldOps F] : Point F → Bool
  | .infinity => true
  | .affine x y => FieldOps.isZero (Weighted.multiple orderDigits x y).z

abbrev G1 := Point Fp
abbrev G2 := Point Fp2

namespace G1

def coefficient : Fp := Fp.ofNat 4

def onCurve (x y : Fp) : Bool := y * y = x * x * x + coefficient

end G1

namespace G2

def coefficient : Fp2 := ⟨Fp.ofNat 4, Fp.ofNat 4⟩

def onCurve (x y : Fp2) : Bool := y * y = x * x * x + coefficient

def generator : G2 := .affine
  ⟨Fp.ofNat 0x024aa2b2f08f0a91260805272dc51051c6e47ad4fa403b02b4510b647ae3d1770bac0326a805bbefd48056c8c121bdb8,
    Fp.ofNat 0x13e02b6052719f607dacd3a088274f65596bd0d09920b61ab5da61bbdc7f5049334cf11213945d57e5ac7d055d042b7e⟩
  ⟨Fp.ofNat 0x0ce5d527727d6e118cc9cdc6da2e351aadfd9baa8cbdd3a76d429a695160d12c923ac9cc3baca289e193548608b82801,
    Fp.ofNat 0x0606c4a02ea734cc32acd2b02bc28b99cb3e287e85a763af267492ab572e99ab3f370d275cec1da1aaa9075ff05f79be⟩

end G2

end MasternodeBft.Bls
