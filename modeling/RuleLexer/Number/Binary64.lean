/-!
# Double-precision magnitudes

A `Binary64` is the magnitude of a finite double-precision number, `mantissa · 2 ^ exponent`. All
arithmetic is exact on fractions of natural numbers and rounded once, to nearest with ties to even.
-/

namespace RuleLexer

structure Binary64 where
  mantissa : Nat
  exponent : Int
  deriving DecidableEq

namespace Binary64

/-- Mantissas of normal numbers are at least this, which has 53 bits. -/
def leastNormal : Nat := 0x10000000000000

def leastExponent : Int := -1074

def greatestExponent : Int := 971

def zero : Binary64 := ⟨0, leastExponent⟩

/-- A non-negative fraction. -/
structure Fraction where
  num : Nat
  den : Nat

/-- `f · 2 ^ e` -/
def Fraction.scale (f : Fraction) (e : Int) : Fraction :=
  if 0 ≤ e then ⟨f.num * Nat.pow 2 e.toNat, f.den⟩
  else ⟨f.num, f.den * Nat.pow 2 (-e).toNat⟩

def Fraction.floor (f : Fraction) : Nat := f.num / f.den

/-- The nearest natural number, the even one of two that are equally near. -/
def Fraction.round (f : Fraction) : Nat :=
  let low := f.num / f.den
  match compare (2 * (f.num % f.den)) f.den with
  | .lt => low
  | .gt => low + 1
  | .eq => if low % 2 = 0 then low else low + 1

/-- The exponent whose multiples are as close together as those of a double near `f`. -/
def Fraction.gridExponent (f : Fraction) : Int :=
  let guess : Int := (f.num.log2 : Int) - f.den.log2 - 52
  let fitted := if (f.scale (-guess)).floor < leastNormal then guess - 1 else guess
  max leastExponent fitted

/-- The double nearest to `f`; none when that is infinite. -/
def ofFraction? (f : Fraction) : Option Binary64 :=
  if f.num = 0 then some zero
  else
    let e := f.gridExponent
    let m := (f.scale (-e)).round
    let rounded : Binary64 := if m < 2 * leastNormal then ⟨m, e⟩ else ⟨m / 2, e + 1⟩
    if rounded.exponent ≤ greatestExponent then some rounded else none

def ofNat? (n : Nat) : Option Binary64 := ofFraction? ⟨n, 1⟩

def toFraction (x : Binary64) : Fraction := Fraction.scale ⟨x.mantissa, 1⟩ x.exponent

def mul? (x y : Binary64) : Option Binary64 :=
  let a := x.toFraction
  let b := y.toFraction
  ofFraction? ⟨a.num * b.num, a.den * b.den⟩

def div? (x y : Binary64) : Option Binary64 :=
  let a := x.toFraction
  let b := y.toFraction
  ofFraction? ⟨a.num * b.den, a.den * b.num⟩

def pow10? (k : Nat) : Option Binary64 := ofNat? (Nat.pow 10 k)

/-- Powers of ten up to this one are doubles. -/
def greatestPower : Nat := 308

/-- `x` divided by ten to the `k`, in steps that each divide by a power of ten that is a double. -/
def divPow10? (x : Binary64) (k : Nat) : Option Binary64 :=
  if x.mantissa = 0 then some x
  else if k ≤ greatestPower then (pow10? k).bind x.div?
  else ((pow10? greatestPower).bind x.div?).bind fun y => y.divPow10? (k - greatestPower)
termination_by k
decreasing_by simp [greatestPower] at *; omega

/-- The double that `significand · 10 ^ exponent` is read as: the significand is rounded first, and
then multiplied or divided by a power of ten. None when that is infinite. -/
def ofDecimal? (significand : Nat) (exponent : Int) : Option Binary64 :=
  (ofNat? significand).bind fun x =>
    if exponent < 0 then x.divPow10? (-exponent).toNat
    else if exponent.toNat ≤ greatestPower then (pow10? exponent.toNat).bind x.mul?
    else if x.mantissa = 0 then some x
    else none

end Binary64

end RuleLexer
