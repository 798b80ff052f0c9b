import MasternodeBft.Text.Decimal

/-! Tables of characters, packed as texts of numbers with blanks between them. -/

namespace MasternodeBft.Host.Table

/-- The numbers of a text, behind one that has begun. -/
def numbersFrom : Option Nat → List Char → List Nat
  | begun, [] => begun.toList
  | begun, char :: rest =>
    match Text.Decimal.digit? char.toNat with
    | some digit => numbersFrom (some (begun.getD 0 * 10 + digit.val)) rest
    | none => begun.toList ++ numbersFrom none rest

def numbers (text : String) : List Nat := numbersFrom none text.toList

/-- The rows of a table after a code point, each with the one at which it begins. A row gives its distance from
the end of the row before, and what tells how many code points it covers. -/
def placed {ρ : Type} (covered : ρ → Nat) : Nat → List (Nat × ρ) → List (Nat × ρ)
  | _, [] => []
  | start, (gap, row) :: rest => (start + gap, row) :: placed covered (start + gap + covered row) rest

/-- The rows of a table in which each gives its distance from the beginning of the row before. -/
def spaced {ρ : Type} : Nat → List (Nat × ρ) → List (Nat × ρ) := placed fun _ => 0

def twos : List Nat → List (Nat × Nat)
  | first :: second :: rest => (first, second) :: twos rest
  | _ => []

def threes : List Nat → List (Nat × Nat × Nat)
  | first :: second :: third :: rest => (first, second, third) :: threes rest
  | _ => []

/-- Consecutive code points that share a property, named by a number. -/
structure Run where
  first : Nat
  length : Nat
  property : Nat

namespace Run

def holds (run : Run) (char : Char) : Bool := run.first ≤ char.toNat && char.toNat < run.first + run.length

end Run

def plain (start : Nat) (text : String) : List Run :=
  (placed id start (twos (numbers text))).map fun (first, length) => ⟨first, length, 1⟩

def marked (start : Nat) (text : String) : List Run :=
  (placed Prod.fst start (threes (numbers text))).map fun (first, length, property) => ⟨first, length, property⟩

def property (runs : List Run) (char : Char) : Nat := ((runs.find? (·.holds char)).map Run.property).getD 0

def holds (runs : List Run) (char : Char) : Bool := runs.any (·.holds char)

end MasternodeBft.Host.Table
