/-!
The prime field under the curve, with its square roots. An element is the least natural number of
its residue class, and every operation reduces its result again.
-/

namespace MasternodeBft.Bls

def fieldModulus : Nat :=
  0x1a0111ea397fe69a4b1ba7b6434bacd764774b84f38512bf6730d2a0f6b0f6241eabfffeb153ffffb9feffffffffaaab

/-- Order of the two groups between which keys and signatures live. -/
def groupOrder : Nat := 0x73eda753299d7d483339d80809a1d80553bda402fffe5bfeffffffff00000001

/-- Binary digits of a positive number, most significant first. -/
def binary (number : Nat) : List Bool :=
  (List.range (number.log2 + 1)).reverse.map number.testBit

/-- What point arithmetic asks of the field its coordinates come from. -/
class FieldOps (F : Type) extends Add F, Sub F, Mul F, Neg F where
  zero : F
  one : F
  inverse : F → F
  isZero : F → Bool

structure Fp where
  val : Nat
  val_lt : val < fieldModulus
deriving DecidableEq

namespace Fp

theorem modulus_pos : 0 < fieldModulus := by decide

theorem sum_sub_lt {a b modulus : Nat} (ha : a < modulus) (hb : b < modulus) : a + b - modulus < modulus := by
  omega

theorem wrap_lt {a b modulus : Nat} (below : ¬b ≤ a) (hb : b < modulus) : a + (modulus - b) < modulus := by
  omega

def ofNat (value : Nat) : Fp := ⟨value % fieldModulus, Nat.mod_lt _ modulus_pos⟩

def zero : Fp := ⟨0, modulus_pos⟩

def one : Fp := ⟨1, by decide⟩

def add (a b : Fp) : Fp :=
  if small : a.val + b.val < fieldModulus then ⟨a.val + b.val, small⟩
  else ⟨a.val + b.val - fieldModulus, sum_sub_lt a.val_lt b.val_lt⟩

def neg (a : Fp) : Fp :=
  if isZero : a.val = 0 then a
  else ⟨fieldModulus - a.val, Nat.sub_lt modulus_pos (Nat.pos_of_ne_zero isZero)⟩

def sub (a b : Fp) : Fp :=
  if below : b.val ≤ a.val then ⟨a.val - b.val, Nat.lt_of_le_of_lt (Nat.sub_le ..) a.val_lt⟩
  else ⟨a.val + (fieldModulus - b.val), wrap_lt below b.val_lt⟩

def mul (a b : Fp) : Fp := ofNat (a.val * b.val)

def power (base : Fp) (exponent : List Bool) : Fp :=
  exponent.foldl (fun value digit =>
    let square := mul value value
    if digit then mul square base else square) one

def inverseExponent : List Bool := binary (fieldModulus - 2)

/-- The multiplicative inverse, and zero for zero. -/
def inverse (a : Fp) : Fp := power a inverseExponent

instance : FieldOps Fp where
  add := add
  sub := sub
  mul := mul
  neg := neg
  zero := zero
  one := one
  inverse := inverse
  isZero a := a.val == 0

def rootExponent : List Bool := binary ((fieldModulus + 1) / 4)

def sqrt? (a : Fp) : Option Fp :=
  let root := power a rootExponent
  if root * root = a then some root else none

def isGreater (a : Fp) : Bool := (fieldModulus - 1) / 2 < a.val

end Fp

end MasternodeBft.Bls
