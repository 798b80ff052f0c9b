import MasternodeBft.Bytes

/-! The 256-bit Keccak hash in its first padding, where a single one bit ends the message. -/

namespace MasternodeBft.Hash.Keccak

/-- Twenty-five lanes; lane `x + 5 * y` is column `x` of row `y`. -/
abbrev Lanes := Vector UInt64 25

def roundConstants : List UInt64 := [
  0x0000000000000001, 0x0000000000008082, 0x800000000000808a, 0x8000000080008000,
  0x000000000000808b, 0x0000000080000001, 0x8000000080008081, 0x8000000000008009,
  0x000000000000008a, 0x0000000000000088, 0x0000000080008009, 0x000000008000000a,
  0x000000008000808b, 0x800000000000008b, 0x8000000000008089, 0x8000000000008003,
  0x8000000000008002, 0x8000000000000080, 0x000000000000800a, 0x800000008000000a,
  0x8000000080008081, 0x8000000000008080, 0x0000000080000001, 0x8000000080008008]

def rotations : Vector UInt64 25 := #v[
  0, 1, 62, 28, 27, 36, 44, 6, 55, 20, 3, 10, 43, 25, 39, 41, 45, 15, 21, 8, 18, 2, 61, 56, 14]

def rotateLeft (word count : UInt64) : UInt64 :=
  if count = 0 then word else (word <<< count) ||| (word >>> (64 - count))

def lane (lanes : Lanes) (x y : Nat) : UInt64 := lanes.get ⟨(x % 5) + 5 * (y % 5), by omega⟩

def columnParity (lanes : Lanes) (x : Nat) : UInt64 :=
  lane lanes x 0 ^^^ lane lanes x 1 ^^^ lane lanes x 2 ^^^ lane lanes x 3 ^^^ lane lanes x 4

/-- Every lane takes up the parities of the two neighbouring columns. -/
def diffuse (lanes : Lanes) : Lanes :=
  let parity : Vector UInt64 5 := Vector.ofFn fun x => columnParity lanes x
  Vector.ofFn fun place => lanes[place] ^^^ parity.get ⟨(place.val + 4) % 5, by omega⟩ ^^^
    rotateLeft (parity.get ⟨(place.val + 1) % 5, by omega⟩) 1

/-- Lanes are rotated, each by its own amount, and moved to their new places. -/
def shuffle (lanes : Lanes) : Lanes :=
  Vector.ofFn fun place =>
    let x := place.val % 5
    let y := place.val / 5
    let source := (x + 3 * y) % 5 + 5 * x
    rotateLeft (lanes.get ⟨source, by omega⟩) (rotations.get ⟨source, by omega⟩)

/-- The only step that is not linear, row by row. -/
def mix (lanes : Lanes) : Lanes :=
  Vector.ofFn fun place =>
    let x := place.val % 5
    let y := place.val / 5
    lanes[place] ^^^ (~~~lane lanes (x + 1) y &&& lane lanes (x + 2) y)

def round (lanes : Lanes) (constant : UInt64) : Lanes :=
  let mixed := mix (shuffle (diffuse lanes))
  mixed.set 0 (mixed[0] ^^^ constant)

def permute (lanes : Lanes) : Lanes := roundConstants.foldl round lanes

def words : Bytes → List UInt64
  | a :: b :: c :: d :: e :: f :: g :: h :: rest =>
    (a.toUInt64 ||| b.toUInt64 <<< 8 ||| c.toUInt64 <<< 16 ||| d.toUInt64 <<< 24 |||
      e.toUInt64 <<< 32 ||| f.toUInt64 <<< 40 ||| g.toUInt64 <<< 48 ||| h.toUInt64 <<< 56) :: words rest
  | _ => []

def wordBytes (word : UInt64) : Bytes :=
  (List.range 8).map fun place => (word >>> UInt64.ofNat (8 * place)).toUInt8

def rate : Nat := 136

def pad (message : Bytes) : Bytes :=
  match rate - 1 - message.length % rate with
  | 0 => message ++ [0x81]
  | zeros + 1 => message ++ 0x01 :: (List.replicate zeros 0 ++ [0x80])

def absorb : Nat → Lanes → List UInt64 → Lanes
  | 0, lanes, _ => lanes
  | count + 1, lanes, rest =>
    let block := rest.take 17
    absorb count (permute (Vector.ofFn fun place => lanes[place] ^^^ block.getD place 0)) (rest.drop 17)

def digestBytes (lanes : Lanes) : Bytes :=
  wordBytes lanes[0] ++ wordBytes lanes[1] ++ wordBytes lanes[2] ++ wordBytes lanes[3]

theorem length_digestBytes (lanes : Lanes) : (digestBytes lanes).length = 32 := by
  simp [digestBytes, wordBytes]

def hash (message : Bytes) : FixedBytes 32 :=
  let padded := pad message
  let lanes := absorb (padded.length / rate) (Vector.replicate 25 0) (words padded)
  ⟨digestBytes lanes, length_digestBytes lanes⟩

end MasternodeBft.Hash.Keccak
