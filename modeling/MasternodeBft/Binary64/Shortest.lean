import MasternodeBft.Text.Decimal

/-!
The shortest decimal text of a binary fraction: the fewest digits that lie within half a unit of its
last place, and of those the nearest. Where two are equally near, the layout of the text decides.
-/

namespace MasternodeBft.Binary64

/-- `significand * 10 ^ exponent`, the significand given by its digits. -/
structure Decimal where
  digits : List (Fin 10)
  exponent : Int

inductive Tie where
  /-- The one with an even last digit. -/
  | even
  /-- The one farther from zero. -/
  | outward
deriving DecidableEq

/-- A positive rational with the interval of the rationals that are rounded to it, all over one
denominator; the ends belong to the interval if `closed`. -/
structure Interval where
  low : Nat
  value : Nat
  high : Nat
  denominator : Nat
  closed : Bool

namespace Interval

def contains (interval : Interval) (numerator : Nat) : Bool :=
  if interval.closed then interval.low ≤ numerator && numerator ≤ interval.high
  else interval.low < numerator && numerator < interval.high

/-- The interval of `significand * 2 ^ exponent`. Below a power of two the neighbours lie half as far
away. -/
def ofBinary (significand : Nat) (exponent : Int) (narrow : Bool) : Interval :=
  let low := 4 * significand - (if narrow then 1 else 2)
  let value := 4 * significand
  let high := 4 * significand + 2
  let shift := exponent - 2
  let factor := 1 <<< shift.toNat
  ⟨low * factor, value * factor, high * factor, 1 <<< (-shift).toNat,
    significand % 2 = 0⟩

/-- The multiple of `10 ^ exponent` that the interval holds nearest to its value, if there is one. -/
def nearest? (tie : Tie) (interval : Interval) (exponent : Int) : Option Nat :=
  let (unit, scale) := if 0 ≤ exponent then (interval.denominator * Nat.pow 10 exponent.toNat, 1)
    else (interval.denominator, Nat.pow 10 (-exponent).toNat)
  let scaled : Interval := { interval with
    low := interval.low * scale, value := interval.value * scale, high := interval.high * scale }
  let below := scaled.value / unit
  let fits (count : Nat) : Bool := 0 < count && scaled.contains (count * unit)
  match fits below, fits (below + 1) with
  | true, true =>
    let rest := scaled.value - below * unit
    if 2 * rest < unit ∨ (2 * rest = unit ∧ tie = .even ∧ below % 2 = 0) then some below else some (below + 1)
  | true, false => some below
  | false, true => some (below + 1)
  | false, false => none

def magnitude (interval : Interval) : Int :=
  if interval.denominator ≤ interval.value then
    (Text.Decimal.digits (interval.value / interval.denominator)).length - 1
  else -(Text.Decimal.digits (interval.denominator / interval.value)).length

def refine (tie : Tie) (interval : Interval) : Nat → Int → Decimal
  | 0, exponent => ⟨[], exponent⟩
  | count + 1, exponent =>
    match interval.nearest? tie exponent with
    | some significand => ⟨Text.Decimal.digits significand, exponent⟩
    | none => refine tie interval count (exponent - 1)

end Interval

namespace Decimal

/-- Zeros at the end move into the exponent. -/
def trim (decimal : Decimal) : Decimal :=
  let zeros := (decimal.digits.reverse.takeWhile (· = 0)).length
  ⟨decimal.digits.take (decimal.digits.length - zeros), decimal.exponent + zeros⟩

end Decimal

def shortest (tie : Tie) (bits : Nat) : Decimal :=
  let fraction : Nat := bits % (1 <<< 52)
  let field : Nat := (bits >>> 52) % 2048
  let interval := if field = 0 then Interval.ofBinary fraction (-1074) false
    else Interval.ofBinary ((1 <<< 52) + fraction) (field - 1075) (fraction = 0 && field ≠ 1)
  (interval.refine tie 18 interval.magnitude).trim

/-- How a decimal is laid out: positionally where the point lies no further right than `furthest`
and, for values below one, after fewer than `deepest` zeros; with a fraction even where it is zero
or not. -/
structure Layout where
  tie : Tie
  furthest : Option Nat
  deepest : Option Nat
  keepsFraction : Bool

namespace Layout

/-- Always positional, and without a fraction where that is zero. Ties go outward. -/
def plain : Layout := ⟨.outward, none, none, false⟩

/-- Positional below `10 ^ 16` and from `10 ^ -5` on, with a fraction. Ties go to the even digit. -/
def json : Layout := ⟨.even, some 16, some 5, true⟩

def zeros (count : Nat) : List (Fin 10) := List.replicate count 0

end Layout

/-- Parts of a text: the digits before the point, those after it, and the exponent. -/
structure Parts where
  whole : List (Fin 10)
  fraction : List (Fin 10)
  exponent : Option Int

def Layout.parts (layout : Layout) (decimal : Decimal) : Parts :=
  let point : Int := decimal.digits.length + decimal.exponent
  let positional := if 0 < point then layout.furthest.all fun limit => point ≤ limit
    else layout.deepest.all fun limit => -point < limit
  let noFraction := if layout.keepsFraction then Layout.zeros 1 else []
  if positional then
    if 0 ≤ decimal.exponent then
      ⟨decimal.digits ++ Layout.zeros decimal.exponent.toNat, noFraction, none⟩
    else if 0 < point then
      ⟨decimal.digits.take point.toNat, decimal.digits.drop point.toNat, none⟩
    else ⟨Layout.zeros 1, Layout.zeros (-point).toNat ++ decimal.digits, none⟩
  else ⟨decimal.digits.take 1, decimal.digits.drop 1, some (point - 1)⟩

def parts (layout : Layout) (value : Float) : Parts :=
  let bits := value.toBits.toNat % (1 <<< 63)
  if bits = 0 then ⟨Layout.zeros 1, if layout.keepsFraction then Layout.zeros 1 else [], none⟩
  else layout.parts (shortest layout.tie bits)

def isNegative (value : Float) : Bool := value.toBits.toNat ≥ 1 <<< 63

def text (value : Float) : String :=
  if value.isNaN then "NaN"
  else
    let sign := if isNegative value then ['-'] else []
    if value.isInf then String.ofList (sign ++ ['i', 'n', 'f'])
    else
      let parts := parts .plain value
      String.ofList (sign ++ parts.whole.map Text.Decimal.char ++
        (if parts.fraction.isEmpty then [] else '.' :: parts.fraction.map Text.Decimal.char))

end MasternodeBft.Binary64
