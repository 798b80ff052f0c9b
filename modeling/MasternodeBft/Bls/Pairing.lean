import MasternodeBft.Bls.Tower
import MasternodeBft.Bls.Point

/-!
The pairing of the two groups, as far as signatures need it: whether a product of pairings is one.
All pairs share one loop and one final power. A line is scaled by a factor from the quadratic field,
which the final power removes.
-/

namespace MasternodeBft.Bls.Pairing

/-- Digits of the absolute value of the curve's parameter, which is negative. -/
def parameter : List Bool := binary 0xd201000000010000

/-- One pair in the loop: the point of the first group, the one of the second, and its multiple so far. -/
structure Walk where
  px : Fp
  py : Fp
  qx : Fp2
  qy : Fp2
  multiple : Weighted Fp2

def tangent (value : Fp12) (walk : Walk) : Fp12 × Walk :=
  let t := walk.multiple
  let xx := t.x * t.x
  let yy := t.y * t.y
  let slope := xx + xx + xx
  let next := t.double
  let zz := t.z * t.z
  let constant := slope * t.x - yy - yy
  (value.mulSparse constant (-(slope * zz).scale walk.px) ((next.z * zz).scale walk.py),
    { walk with multiple := next })

def chord (value : Fp12) (walk : Walk) : Fp12 × Walk :=
  let t := walk.multiple
  let zz := t.z * t.z
  let slope := walk.qy * (zz * t.z) - t.y
  let next := t.addAffine walk.qx walk.qy
  let constant := slope * walk.qx - next.z * walk.qy
  (value.mulSparse constant (-slope.scale walk.px) (next.z.scale walk.py), { walk with multiple := next })

def advance (step : Fp12 → Walk → Fp12 × Walk) (value : Fp12) : List Walk → Fp12 × List Walk
  | [] => (value, [])
  | walk :: rest =>
    let (value, walk) := step value walk
    let (value, rest) := advance step value rest
    (value, walk :: rest)

def loop : List Bool → Fp12 → List Walk → Fp12
  | [], value, _ => value
  | digit :: digits, value, walks =>
    let (value, walks) := advance tangent value.square walks
    if digit then
      let (value, walks) := advance chord value walks
      loop digits value walks
    else loop digits value walks

/-- The power by the parameter, in the subgroup where the conjugate is the inverse. -/
def parameterPower (value : Fp12) : Fp12 := (value.power parameter).conjugate

/-- A power whose exponent is three times the one that leads into the group of prime order. -/
def finalPower (value : Fp12) : Fp12 :=
  let easy := value.conjugate * value.inverse
  let base := easy.frobenius.frobenius * easy
  let first := parameterPower base * base.conjugate
  let second := parameterPower first * first.conjugate
  let third := parameterPower second * second.frobenius
  let fourth := parameterPower (parameterPower third) * third.frobenius.frobenius * third.conjugate
  fourth * base.square * base

/-- A pair with a point at infinity contributes one. -/
def walk? : G1 × G2 → Option Walk
  | (.affine px py, .affine qx qy) => some ⟨px, py, qx, qy, ⟨qx, qy, Fp2.one⟩⟩
  | _ => none

def productIsOne (pairs : List (G1 × G2)) : Bool :=
  finalPower (loop parameter.tail Fp12.one (pairs.filterMap walk?)) = Fp12.one

end MasternodeBft.Bls.Pairing
