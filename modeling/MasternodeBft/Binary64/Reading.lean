import MasternodeBft.Json.Number

/-!
Binary fractions read from decimal numbers: the leading digits are gathered into 64 bits, and the
result is scaled by a power of ten. Each of the two steps rounds on its own.
-/

namespace MasternodeBft.Binary64

structure Gathered where
  significand : Nat
  exponent : Int

/-- Digits of the whole part. Once a digit no longer fits, it and those after it only raise the
exponent. -/
def gatherWhole : Nat → List (Fin 10) → Gathered
  | significand, [] => ⟨significand, 0⟩
  | significand, digit :: rest =>
    if significand * 10 + digit.val < UInt64.size then gatherWhole (significand * 10 + digit.val) rest
    else ⟨significand, rest.length + 1⟩

/-- Digits of the fraction. Once a digit no longer fits, it and those after it are dropped. -/
def gatherFraction : Gathered → List (Fin 10) → Gathered
  | gathered, [] => gathered
  | gathered, digit :: rest =>
    if gathered.significand * 10 + digit.val < UInt64.size then
      gatherFraction ⟨gathered.significand * 10 + digit.val, gathered.exponent - 1⟩ rest
    else gathered

def powerOfTen (exponent : Nat) : Float := Float.ofScientific 1 false exponent

/-- Scales by a power of ten, in steps of at most 308 places; `steps` bounds their number. A result
without bound has no value. -/
def scale : Nat → Float → Int → Option Float
  | 0, value, _ => some value
  | steps + 1, value, exponent =>
    if exponent.natAbs ≤ 308 then
      if 0 ≤ exponent then
        let scaled := value * powerOfTen exponent.natAbs
        if scaled.isInf then none else some scaled
      else some (value / powerOfTen exponent.natAbs)
    else if value == 0 then some value
    else if 0 ≤ exponent then none
    else scale steps (value / powerOfTen 308) (exponent + 308)

def scaleSteps : Nat := 8

def exponentLimit : Nat := 0x7fffffff

def combine (gathered : Gathered) (exponent : Int) : Option Float :=
  let significand := gathered.significand.toUInt64.toFloat
  if exponent.natAbs > exponentLimit then
    if gathered.significand ≠ 0 ∧ 0 < exponent then none else some 0
  else scale scaleSteps significand (gathered.exponent + exponent)

/-- The binary fraction for a number; a number without fraction and exponent that fits into 64 bits
is rounded once. -/
def ofNumber? (number : Json.Number) : Option Float :=
  let gathered := gatherWhole 0 (Text.Decimal.digits number.whole)
  let value := if number.fraction.isEmpty ∧ number.exponent.isNone then combine gathered 0
    else combine (gatherFraction gathered number.fraction) (number.exponent.getD 0)
  value.map fun value => if number.negative then -value else value

end MasternodeBft.Binary64
