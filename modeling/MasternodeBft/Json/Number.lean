import MasternodeBft.Text.Decimal

/-! Numbers of a JSON text, kept as they are written, and the numbers they stand for. -/

namespace MasternodeBft.Json

/-- A number as written. It has no fraction digits exactly if it has no point. -/
structure Number where
  negative : Bool
  whole : Nat
  fraction : List (Fin 10)
  exponent : Option Int
deriving DecidableEq

namespace Number

open Text.Decimal

def ofNat (value : Nat) : Number := ⟨false, value, [], none⟩

def exponentBytes (exponent : Int) : Bytes :=
  101 :: (if exponent < 0 then [45] else []) ++ (digits exponent.natAbs).map byte

def render (number : Number) : Bytes :=
  (if number.negative then [45] else []) ++ (digits number.whole).map byte ++
    (if number.fraction.isEmpty then [] else 46 :: number.fraction.map byte) ++
    (match number.exponent with
      | none => []
      | some exponent => exponentBytes exponent)

def spanDigits : Bytes → List (Fin 10) × Bytes
  | [] => ([], [])
  | byte :: rest =>
    match digit? byte.toNat with
    | none => ([], byte :: rest)
    | some digit =>
      let (digits, rest) := spanDigits rest
      (digit :: digits, rest)

def exponent? (bytes : Bytes) : Option Int :=
  let (negative, bytes) := match bytes with
    | 45 :: rest => (true, rest)
    | 43 :: rest => (false, rest)
    | bytes => (false, bytes)
  match spanDigits bytes with
  | ([], _) => none
  | (digits, []) => some (if negative then -(value digits : Int) else value digits)
  | (_, _ :: _) => none

def tail? (negative : Bool) (whole : Nat) (fraction : List (Fin 10)) : Bytes → Option Number
  | [] => some ⟨negative, whole, fraction, none⟩
  | letter :: rest =>
    if letter = 101 ∨ letter = 69 then
      (exponent? rest).map fun exponent => ⟨negative, whole, fraction, some exponent⟩
    else none

def ofBytes? (bytes : Bytes) : Option Number :=
  let (negative, bytes) := match bytes with
    | 45 :: rest => (true, rest)
    | bytes => (false, bytes)
  match spanDigits bytes with
  | ([], _) => none
  | (digits, rest) =>
    if digits.head? = some 0 ∧ digits.length ≠ 1 then none
    else match rest with
      | 46 :: rest =>
        match spanDigits rest with
        | ([], _) => none
        | (fraction, rest) => tail? negative (value digits) fraction rest
      | rest => tail? negative (value digits) [] rest

/-- The value of a number written as a natural number below `bound`. -/
def toNat? (bound : Nat) (number : Number) : Option Nat :=
  if ¬number.negative ∧ number.fraction.isEmpty ∧ number.exponent.isNone ∧ number.whole < bound then
    some number.whole
  else none

end Number

end MasternodeBft.Json
