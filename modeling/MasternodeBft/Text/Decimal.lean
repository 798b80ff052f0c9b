import MasternodeBft.Bytes

/-! Decimal digits of natural numbers, most significant first. -/

namespace MasternodeBft.Text.Decimal

instance neZero_ten : @NeZero Nat Zero.ofOfNat0 10 := ⟨by decide⟩

/-- Digits of a number put before those already known; `fuel` bounds their count. -/
def digitsBefore : Nat → Nat → List (Fin 10) → List (Fin 10)
  | 0, _, known => known
  | fuel + 1, value, known =>
    let digit : Fin 10 := ⟨value % 10, Nat.mod_lt _ (by decide)⟩
    if value < 10 then digit :: known else digitsBefore fuel (value / 10) (digit :: known)

def digits (value : Nat) : List (Fin 10) := digitsBefore (value.log2 + 1) value []

def value (digits : List (Fin 10)) : Nat := digits.foldl (fun value digit => value * 10 + digit.val) 0

def char (digit : Fin 10) : Char := Char.ofNat (48 + digit.val)

def byte (digit : Fin 10) : UInt8 := UInt8.ofNat (48 + digit.val)

def chars (number : Nat) : List Char := (digits number).map char

def text (number : Nat) : String := String.ofList (chars number)

def word (number : UInt64) : String := text number.toNat

def digit? (code : Nat) : Option (Fin 10) :=
  if within : 48 ≤ code ∧ code < 58 then some ⟨code - 48, by omega⟩ else none

end MasternodeBft.Text.Decimal
