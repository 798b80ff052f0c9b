import MasternodeBft.Bls.Field

/-! The quadratic extension of the prime field by a square root of minus one. -/

namespace MasternodeBft.Bls

structure Fp2 where
  re : Fp
  im : Fp
deriving DecidableEq

namespace Fp2

def zero : Fp2 := ⟨Fp.zero, Fp.zero⟩

def one : Fp2 := ⟨Fp.one, Fp.zero⟩

def add (a b : Fp2) : Fp2 := ⟨a.re + b.re, a.im + b.im⟩

def sub (a b : Fp2) : Fp2 := ⟨a.re - b.re, a.im - b.im⟩

def neg (a : Fp2) : Fp2 := ⟨-a.re, -a.im⟩

/-- Each coordinate is reduced once, after its two products are summed. -/
def mul (a b : Fp2) : Fp2 :=
  ⟨Fp.ofNat (a.re.val * b.re.val + (fieldModulus - a.im.val) * b.im.val),
    Fp.ofNat (a.re.val * b.im.val + a.im.val * b.re.val)⟩

def scale (a : Fp2) (factor : Fp) : Fp2 := ⟨a.re * factor, a.im * factor⟩

def conjugate (a : Fp2) : Fp2 := ⟨a.re, -a.im⟩

/-- The conjugate over the norm, and zero for zero. -/
def inverse (a : Fp2) : Fp2 :=
  scale (conjugate a) (Fp.inverse (a.re * a.re + a.im * a.im))

instance : FieldOps Fp2 where
  add := add
  sub := sub
  mul := mul
  neg := neg
  zero := zero
  one := one
  inverse := inverse
  isZero a := a.re.val == 0 && a.im.val == 0

def power (base : Fp2) (exponent : List Bool) : Fp2 :=
  exponent.foldl (fun value digit => if digit then value * value * base else value * value) one

/-- The product with `1 + i`, over which the higher extensions are built. -/
def twist (a : Fp2) : Fp2 := ⟨a.re - a.im, a.re + a.im⟩

def half : Fp := Fp.inverse (Fp.ofNat 2)

/-- A square root where there is one: its real part squares to half the sum or half the difference
of the real part and a root of the norm. -/
def sqrt? (a : Fp2) : Option Fp2 :=
  if a.im = Fp.zero then
    match Fp.sqrt? a.re with
    | some root => some ⟨root, Fp.zero⟩
    | none => (Fp.sqrt? (-a.re)).map fun root => ⟨Fp.zero, root⟩
  else do
    let norm ← Fp.sqrt? (a.re * a.re + a.im * a.im)
    let re ← Fp.sqrt? ((a.re + norm) * half) <|> Fp.sqrt? ((a.re - norm) * half)
    pure ⟨re, a.im * Fp.inverse (re + re)⟩

def isGreater (a : Fp2) : Bool := if a.im = Fp.zero then a.re.isGreater else a.im.isGreater

end Fp2

end MasternodeBft.Bls
