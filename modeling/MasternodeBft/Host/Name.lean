import MasternodeBft.Host.Direction
import MasternodeBft.Host.Joining
import MasternodeBft.Host.Punycode
import MasternodeBft.Host.Replacement

/-!
Names of hosts. A name is read in its normal form: characters are replaced by those they stand for,
and joined with their marks. Its labels may be spelled in ASCII, but only as they would be spelled.
-/

namespace MasternodeBft.Host.Name

/-- Characters that are marks on others, with which no label begins. -/
def marks : List Table.Run := Table.plain 768 "
0 112 275 7 263 45 1 1 1 2 1 2 1 1 72 11 48 21 16 1 101 7 2 6 2 2 1 4 35 1 30 27 91 11 58 9 9 1 24
4 1 9 1 3 1 5 43 3 59 9 42 58 54 3 1 18 1 7 10 2 29 3 56 1 1 16 9 1 10 2 26 6 56 22 30 2 3 1 11 3
56 1 1 16 20 2 22 10 56 1 1 26 10 2 30 1 59 16 9 1 40 5 55 1 1 25 11 2 29 3 56 1 1 25 11 2 15 17 55
2 1 16 9 1 10 2 29 3 70 22 18 2 61 1 2 7 12 8 98 1 2 9 11 7 73 2 27 1 1 1 1 1 4 2 49 20 1 2 5 48 9
1 100 20 23 4 4 3 1 3 2 7 3 4 13 12 1 1 10 4 703 3 946 4 28 3 29 2 30 2 66 30 9 1 167 2 34 1 118 28
219 5 57 43 48 85 47 17 38 9 12 3 30 13 56 14 48 20 152 3 1 21 4 1 6 1 2 3 198 64 720 33 3070 3 141
1 96 32 554 6 105 2 30164 4 1 10 32 2 80 2 272 1 3 1 4 1 23 5 4 1 83 2 50 18 26 18 13 1 38 8 25 13
44 4 47 14 36 1 67 14 12 1 8 2 45 3 50 1 1 3 2 2 5 2 1 1 41 5 5 2 236 8 1 2 20272 1 769 16 973 1
226 1 149 5 1670 15 40 8 165 2 573 4 65 5 317 2 77 6 70 11 49 4 122 3 53 15 41 1 2 2 10 4 45 11 7 1
61 3 36 14 16 2 44 1 12 3 48 14 8 4 1 2 92 12 6 1 2 1 157 12 21 4 55 2 1 16 9 1 10 19 67 25 1 1 14
2 82 18 23 1 81 20 235 18 27 2 82 17 106 13 101 15 256 15 245 15 1 1 1 2 141 16 3 1 28 10 40 7 1 4
8 1 9 11 46 16 198 8 199 17 82 37 122 21 1 1 66 14 347 4 9 2 1 1 48 15 23 1 5349 1 6 15 11464 18
2496 5 59 7 1048 1 1 66 81 14 19627 2 4705 71 542 5 3 22 2 7 30 4 148 3 1979 55 4 50 8 1 14 1 22 21
1360 144 160 7 375 1 61 4 508 4 254 2 243 1 2 1 7 2 5 1 474 7 109 7"

def normal? (chars : List Char) : Option (List Char) :=
  (chars.mapM Replacement.of?).map fun parts => Composition.compose parts.flatten

def labels (name : List Char) : List (List Char) := name.splitOn '.'

/-- What begins a label that is spelled in ASCII. -/
def spelled : List Char := ['x', 'n', '-', '-']

/-- The characters of a label. One that is spelled in ASCII must need it, and be in normal form. -/
def label? (label : List Char) : Option (List Char) :=
  if label.take 4 = spelled then do
    let chars ← Punycode.decode? (label.drop 4)
    if chars.any (fun char => 128 ≤ char.toNat) ∧ normal? chars = some chars then some chars else none
  else some label

def forbidden (char : Char) : Bool :=
  char.toNat ≤ 0x20 || char.toNat = 0x7f || "#%/:<>?@[\\]^|".toList.contains char

def validLabel (label : List Char) : Bool :=
  !label.head?.any (Table.holds marks) && Joining.valid label

def validLabels (labels : List (List Char)) : Bool :=
  labels.all validLabel && (!labels.flatten.any Direction.turns || labels.all Direction.valid)

def ofChars? (chars : List Char) : Option (List Char) := do
  let name ← normal? chars
  let labels ← (labels name).mapM label?
  if name ≠ [] ∧ name.all (!forbidden ·) ∧ validLabels labels then some name else none

end MasternodeBft.Host.Name
