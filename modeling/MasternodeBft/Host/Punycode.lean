import MasternodeBft.Text.Decimal

/-!
Labels outside ASCII, spelled in ASCII: first the characters that are in ASCII, and then, in digits of
base 36, the others and their places. Both are given by differences, in the order of the characters,
with digits whose weights adapt to the size of the differences.
-/

namespace MasternodeBft.Host.Punycode

/-- Small letters are the digits below 26, and decimal digits those above. -/
def digit? (char : Char) : Option Nat :=
  let code := char.toNat
  if 97 ≤ code ∧ code < 123 then some (code - 97)
  else if 48 ≤ code ∧ code < 58 then some (code - 48 + 26)
  else none

/-- Halves a difference down to the size at which digits are balanced, and raises the bias with it. -/
def balance (difference bias : Nat) : Nat :=
  if 455 < difference then balance (difference / 35) (bias + 36)
  else bias + 36 * difference / (difference + 38)
termination_by difference
decreasing_by exact Nat.div_lt_self (by omega) (by decide)

def adapt (difference count : Nat) (first : Bool) : Nat :=
  let scaled := difference / (if first then 700 else 2)
  balance (scaled + scaled / count) 0

structure State where
  chars : List Char
  /-- The last character inserted, by its code point. -/
  code : Nat
  /-- The place at which the next insertion is looked for. -/
  place : Nat
  bias : Nat
  /-- The difference as far as its digits have been read. -/
  difference : Nat
  weight : Nat
  /-- The position of the next digit, times 36. -/
  position : Nat

namespace State

def start (chars : List Char) : State := ⟨chars, 128, 0, 72, 0, 1, 36⟩

/-- The least digit that is the last one at a position. -/
def threshold (state : State) : Nat :=
  if state.position ≤ state.bias then 1 else min (state.position - state.bias) 26

def insert? (state : State) (difference : Nat) : Option State :=
  let count := state.chars.length + 1
  let index := state.place + difference
  let code := state.code + index / count
  let place := index % count
  if code.isValidChar then
    some ⟨state.chars.insertIdx place (Char.ofNat code), code, place + 1,
      adapt difference count (state.chars.all fun char => char.toNat < 128), 0, 1, 36⟩
  else none

def read? (state : State) (digit : Nat) : Option State :=
  let difference := state.difference + digit * state.weight
  if digit < state.threshold then state.insert? difference
  else some { state with
    difference
    weight := state.weight * (36 - state.threshold)
    position := state.position + 36 }

end State

def readAll : State → List Char → Option (List Char)
  | state, [] => if state.position = 36 then some state.chars else none
  | state, char :: rest => do readAll (← state.read? (← digit? char)) rest

/-- Reads a spelling; what is in ASCII ends with the last hyphen, unless that comes first. -/
def decode? (spelling : List Char) : Option (List Char) :=
  let digits := (spelling.reverse.takeWhile (· ≠ '-')).reverse
  let plain := spelling.take (spelling.length - digits.length - 1)
  if plain.isEmpty then readAll (State.start []) spelling
  else if plain.all fun char => char.toNat < 128 then readAll (State.start plain) digits
  else none

end MasternodeBft.Host.Punycode
