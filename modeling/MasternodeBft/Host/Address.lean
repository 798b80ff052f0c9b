import MasternodeBft.Text.Decimal
import MasternodeBft.Text.Hex

/-! Numeric addresses of hosts: four bytes between points, or eight groups between colons. -/

namespace MasternodeBft.Host.Address

open Text

def part? (chars : List Char) : Option Nat :=
  let numeral (base : Nat) (digits : List Char) : Option Nat := do
    let digits ← digits.mapM Hex.nibble?
    if digits.all (· < base) then some (digits.foldl (fun value digit => value * base + digit) 0) else none
  match chars with
  | [] => none
  | ['0'] => some 0
  | '0' :: 'x' :: rest => numeral 16 rest
  | '0' :: 'X' :: rest => numeral 16 rest
  | '0' :: rest => numeral 8 rest
  | chars => numeral 10 chars

/-- The parts between points, without an empty one at the end. -/
def parts (host : List Char) : List (List Char) :=
  let parts := host.splitOn '.'
  if parts.length ≠ 1 ∧ parts.getLast? = some [] then parts.dropLast else parts

def isNumeric (host : List Char) : Bool :=
  match (parts host).getLast? with
  | none => false
  | some last =>
    (last ≠ [] ∧ last.all Char.isDigit) ∨
      ((last.take 2 = ['0', 'x'] ∨ last.take 2 = ['0', 'X']) ∧ (part? last).isSome)

/-- A numeric address has at most four parts; all but the last are bytes, and the last fills the rest. -/
def validNumeric (host : List Char) : Bool :=
  match (parts host).mapM part? with
  | none => false
  | some parts =>
    parts.length ≤ 4 ∧ parts.dropLast.all (· < 256) ∧
      parts.getLast?.all fun last => last < 1 <<< (8 * (5 - parts.length))

def isByte (chars : List Char) : Bool :=
  match chars.mapM fun char => Decimal.digit? char.toNat with
  | none => false
  | some digits => digits ≠ [] ∧ digits = Decimal.digits (Decimal.value digits) ∧ Decimal.value digits < 256

def isQuad (chars : List Char) : Bool :=
  let parts := chars.splitOn '.'
  parts.length = 4 ∧ parts.all isByte

def isGroup (chars : List Char) : Bool := chars.length ≤ 4 && chars.all fun char => (Hex.nibble? char).isSome

/-- Eight groups with colons between them. The last two may be written as four bytes, and one gap may
stand for groups of zeros. -/
def validGroups (host : List Char) : Bool :=
  let groups := host.splitOn ':'
  let last := groups.getLast?.getD []
  let quad := isQuad last
  let count := (groups.filter (· ≠ [])).length + (if quad then 1 else 0)
  let gaps := groups.tail.dropLast.count []
  let ends := (if groups.head? = some [] then 1 else 0) + (if last = [] then 1 else 0)
  groups.dropLast.all isGroup && (quad || isGroup last) &&
    (if gaps = 0 then ends = 0 ∧ count = 8
     else if ends = 0 then gaps = 1 ∧ count ≤ 7
     else if host = [':', ':'] then true
     else gaps = 1 ∧ ends = 1 ∧ count ≤ 7 ∧
       (host.take 2 = [':', ':'] ∨ host.reverse.take 2 = [':', ':']))

end MasternodeBft.Host.Address
