import MasternodeBft.Bls.Quadratic

/-!
The extension of degree twelve in which pairings take their values: a cubic extension by a root `v`
of `1 + i`, and a quadratic one above it by a root `w` of `v`.
-/

namespace MasternodeBft.Bls

structure Fp6 where
  c0 : Fp2
  c1 : Fp2
  c2 : Fp2
deriving DecidableEq

namespace Fp6

def zero : Fp6 := ⟨Fp2.zero, Fp2.zero, Fp2.zero⟩

def one : Fp6 := ⟨Fp2.one, Fp2.zero, Fp2.zero⟩

def add (a b : Fp6) : Fp6 := ⟨a.c0 + b.c0, a.c1 + b.c1, a.c2 + b.c2⟩

def sub (a b : Fp6) : Fp6 := ⟨a.c0 - b.c0, a.c1 - b.c1, a.c2 - b.c2⟩

def neg (a : Fp6) : Fp6 := ⟨-a.c0, -a.c1, -a.c2⟩

def mul (a b : Fp6) : Fp6 :=
  let p0 := a.c0 * b.c0
  let p1 := a.c1 * b.c1
  let p2 := a.c2 * b.c2
  ⟨p0 + ((a.c1 + a.c2) * (b.c1 + b.c2) - p1 - p2).twist,
    (a.c0 + a.c1) * (b.c0 + b.c1) - p0 - p1 + p2.twist,
    (a.c0 + a.c2) * (b.c0 + b.c2) - p0 - p2 + p1⟩

instance : Add Fp6 := ⟨add⟩
instance : Sub Fp6 := ⟨sub⟩
instance : Neg Fp6 := ⟨neg⟩
instance : Mul Fp6 := ⟨mul⟩

/-- The product with `v`. -/
def shift (a : Fp6) : Fp6 := ⟨a.c2.twist, a.c0, a.c1⟩

/-- The product with `b0 + b1 * v`. -/
def mulLow (a : Fp6) (b0 b1 : Fp2) : Fp6 :=
  let p0 := a.c0 * b0
  let p1 := a.c1 * b1
  ⟨((a.c1 + a.c2) * b1 - p1).twist + p0,
    (a.c0 + a.c1) * (b0 + b1) - p0 - p1,
    (a.c0 + a.c2) * b0 - p0 + p1⟩

/-- The product with `b1 * v`. -/
def mulMiddle (a : Fp6) (b1 : Fp2) : Fp6 := ⟨(a.c2 * b1).twist, a.c0 * b1, a.c1 * b1⟩

def inverse (a : Fp6) : Fp6 :=
  let d0 := a.c0 * a.c0 - (a.c1 * a.c2).twist
  let d1 := (a.c2 * a.c2).twist - a.c0 * a.c1
  let d2 := a.c1 * a.c1 - a.c0 * a.c2
  let factor := Fp2.inverse (a.c0 * d0 + (a.c2 * d1 + a.c1 * d2).twist)
  ⟨d0 * factor, d1 * factor, d2 * factor⟩

end Fp6

structure Fp12 where
  c0 : Fp6
  c1 : Fp6
deriving DecidableEq

namespace Fp12

def one : Fp12 := ⟨Fp6.one, Fp6.zero⟩

def mul (a b : Fp12) : Fp12 :=
  let p0 := a.c0 * b.c0
  let p1 := a.c1 * b.c1
  ⟨p0 + p1.shift, (a.c0 + a.c1) * (b.c0 + b.c1) - p0 - p1⟩

instance : Mul Fp12 := ⟨mul⟩

def square (a : Fp12) : Fp12 :=
  let product := a.c0 * a.c1
  ⟨(a.c0 + a.c1) * (a.c0 + a.c1.shift) - product - product.shift, product + product⟩

/-- The product with `b0 + b1 * v + b4 * v * w`. -/
def mulSparse (a : Fp12) (b0 b1 b4 : Fp2) : Fp12 :=
  let p0 := a.c0.mulLow b0 b1
  let p1 := a.c1.mulMiddle b4
  ⟨p0 + p1.shift, (a.c0 + a.c1).mulLow b0 (b1 + b4) - p0 - p1⟩

/-- The power by the sixth power of the field modulus. -/
def conjugate (a : Fp12) : Fp12 := ⟨a.c0, -a.c1⟩

def inverse (a : Fp12) : Fp12 :=
  let factor := Fp6.inverse (a.c0 * a.c0 - (a.c1 * a.c1).shift)
  ⟨a.c0 * factor, -(a.c1 * factor)⟩

/-- `w` to the power of the field modulus, over `w`. -/
def frobenius1 : Fp2 := Fp2.power (Fp2.twist Fp2.one) (binary ((fieldModulus - 1) / 6))
def frobenius2 : Fp2 := frobenius1 * frobenius1
def frobenius3 : Fp2 := frobenius2 * frobenius1
def frobenius4 : Fp2 := frobenius2 * frobenius2
def frobenius5 : Fp2 := frobenius3 * frobenius2

/-- The power by the field modulus. -/
def frobenius (a : Fp12) : Fp12 :=
  ⟨⟨a.c0.c0.conjugate, a.c0.c1.conjugate * frobenius2, a.c0.c2.conjugate * frobenius4⟩,
    ⟨a.c1.c0.conjugate * frobenius1, a.c1.c1.conjugate * frobenius3, a.c1.c2.conjugate * frobenius5⟩⟩

def power (base : Fp12) (exponent : List Bool) : Fp12 :=
  exponent.foldl (fun value digit => if digit then square value * base else square value) one

end Fp12

end MasternodeBft.Bls
