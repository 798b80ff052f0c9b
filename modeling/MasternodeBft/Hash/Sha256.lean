import MasternodeBft.Bytes

/-! The SHA-256 hash of a byte string, a digest of 32 bytes. -/

namespace MasternodeBft

abbrev Digest := FixedBytes 32

namespace Hash.Sha256

/-- First 32 bits of the fractional parts of the cube roots of the first 64 primes. -/
def roundConstants : List UInt32 := [
  0x428a2f98, 0x71374491, 0xb5c0fbcf, 0xe9b5dba5, 0x3956c25b, 0x59f111f1, 0x923f82a4, 0xab1c5ed5,
  0xd807aa98, 0x12835b01, 0x243185be, 0x550c7dc3, 0x72be5d74, 0x80deb1fe, 0x9bdc06a7, 0xc19bf174,
  0xe49b69c1, 0xefbe4786, 0x0fc19dc6, 0x240ca1cc, 0x2de92c6f, 0x4a7484aa, 0x5cb0a9dc, 0x76f988da,
  0x983e5152, 0xa831c66d, 0xb00327c8, 0xbf597fc7, 0xc6e00bf3, 0xd5a79147, 0x06ca6351, 0x14292967,
  0x27b70a85, 0x2e1b2138, 0x4d2c6dfc, 0x53380d13, 0x650a7354, 0x766a0abb, 0x81c2c92e, 0x92722c85,
  0xa2bfe8a1, 0xa81a664b, 0xc24b8b70, 0xc76c51a3, 0xd192e819, 0xd6990624, 0xf40e3585, 0x106aa070,
  0x19a4c116, 0x1e376c08, 0x2748774c, 0x34b0bcb5, 0x391c0cb3, 0x4ed8aa4a, 0x5b9cca4f, 0x682e6ff3,
  0x748f82ee, 0x78a5636f, 0x84c87814, 0x8cc70208, 0x90befffa, 0xa4506ceb, 0xbef9a3f7, 0xc67178f2]

structure State where
  a : UInt32
  b : UInt32
  c : UInt32
  d : UInt32
  e : UInt32
  f : UInt32
  g : UInt32
  h : UInt32

/-- First 32 bits of the fractional parts of the square roots of the first eight primes. -/
def initial : State :=
  ⟨0x6a09e667, 0xbb67ae85, 0x3c6ef372, 0xa54ff53a, 0x510e527f, 0x9b05688c, 0x1f83d9ab, 0x5be0cd19⟩

def rotateRight (word count : UInt32) : UInt32 := (word >>> count) ||| (word <<< (32 - count))

def round (state : State) (constant word : UInt32) : State :=
  let mixE := rotateRight state.e 6 ^^^ rotateRight state.e 11 ^^^ rotateRight state.e 25
  let choice := (state.e &&& state.f) ^^^ (~~~state.e &&& state.g)
  let first := state.h + mixE + choice + constant + word
  let mixA := rotateRight state.a 2 ^^^ rotateRight state.a 13 ^^^ rotateRight state.a 22
  let majority := (state.a &&& state.b) ^^^ (state.a &&& state.c) ^^^ (state.b &&& state.c)
  ⟨first + (mixA + majority), state.a, state.b, state.c, state.d + first, state.e, state.f, state.g⟩

/-- The next schedule word, from the words so far with the newest first. -/
def nextWord (recent : List UInt32) : UInt32 :=
  let early := recent.getD 14 0
  let late := recent.getD 1 0
  recent.getD 15 0 + (rotateRight early 7 ^^^ rotateRight early 18 ^^^ (early >>> 3)) +
    recent.getD 6 0 + (rotateRight late 17 ^^^ rotateRight late 19 ^^^ (late >>> 10))

def extend : Nat → List UInt32 → List UInt32
  | 0, recent => recent
  | count + 1, recent => extend count (nextWord recent :: recent)

def words : Bytes → List UInt32
  | a :: b :: c :: d :: rest =>
    (a.toUInt32 <<< 24 ||| b.toUInt32 <<< 16 ||| c.toUInt32 <<< 8 ||| d.toUInt32) :: words rest
  | _ => []

def wordBytes (word : UInt32) : Bytes :=
  [(word >>> 24).toUInt8, (word >>> 16).toUInt8, (word >>> 8).toUInt8, word.toUInt8]

def compress (state : State) (block : List UInt32) : State :=
  let schedule := (extend 48 block.reverse).reverse
  let mixed := (roundConstants.zip schedule).foldl (fun state pair => round state pair.1 pair.2) state
  ⟨state.a + mixed.a, state.b + mixed.b, state.c + mixed.c, state.d + mixed.d,
    state.e + mixed.e, state.f + mixed.f, state.g + mixed.g, state.h + mixed.h⟩

def absorb : Nat → State → List UInt32 → State
  | 0, state, _ => state
  | count + 1, state, rest => absorb count (compress state (rest.take 16)) (rest.drop 16)

/-- A one bit, zeros up to eight bytes short of a block, and the length in bits. -/
def pad (message : Bytes) : Bytes :=
  message ++ 0x80 :: (List.replicate ((119 - message.length % 64) % 64) 0 ++
    Bytes.ofNat 8 (8 * message.length))

def digestBytes (state : State) : Bytes :=
  wordBytes state.a ++ wordBytes state.b ++ wordBytes state.c ++ wordBytes state.d ++
    wordBytes state.e ++ wordBytes state.f ++ wordBytes state.g ++ wordBytes state.h

theorem length_digestBytes (state : State) : (digestBytes state).length = 32 := rfl

end Hash.Sha256

def sha256 (message : Bytes) : Digest :=
  let padded := Hash.Sha256.pad message
  let final := Hash.Sha256.absorb (padded.length / 64) Hash.Sha256.initial (Hash.Sha256.words padded)
  ⟨Hash.Sha256.digestBytes final, Hash.Sha256.length_digestBytes final⟩

end MasternodeBft
