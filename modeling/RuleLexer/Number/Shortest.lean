import RuleLexer.Number.Binary64

/-!
# Shortest decimal text of a double

Of all decimals that round to a given double, the text has the fewest digits, and of those the
nearest. For one, two, … digits the two neighbours of the double on that decimal grid are tried, and
the first grid with a hit wins. Leading exponents from -5 to 15 are written positionally.
-/

namespace RuleLexer.Binary64

/-- The decimal `digits · 10 ^ exponent`. -/
structure Decimal where
  digits : Nat
  exponent : Int
  deriving DecidableEq

namespace Decimal

def toFraction (d : Decimal) : Fraction :=
  if 0 ≤ d.exponent then ⟨d.digits * Nat.pow 10 d.exponent.toNat, 1⟩
  else ⟨d.digits, Nat.pow 10 (-d.exponent).toNat⟩

end Decimal

def Fraction.cmp (a b : Fraction) : Ordering := compare (a.num * b.den) (b.num * a.den)

/-- The distance of two fractions. -/
def Fraction.dist (a b : Fraction) : Fraction :=
  ⟨(a.num * b.den - b.num * a.den) + (b.num * a.den - a.num * b.den), a.den * b.den⟩

/-- The ends of the interval of numbers that round to `x`. -/
def roundingInterval (x : Binary64) : Fraction × Fraction :=
  let quarters := Fraction.scale ⟨1, 4⟩ x.exponent
  let below := if x.mantissa = leastNormal ∧ leastExponent < x.exponent then 1 else 2
  (⟨(4 * x.mantissa - below) * quarters.num, quarters.den⟩,
    ⟨(4 * x.mantissa + 2) * quarters.num, quarters.den⟩)

/-- Whether `d` rounds to `x`; the ends of the interval do when the mantissa is even. -/
def admits (x : Binary64) (d : Decimal) : Bool :=
  let (low, high) := x.roundingInterval
  let ends := x.mantissa % 2 == 0
  let fits (o : Ordering) := o == .lt || (ends && o == .eq)
  fits (low.cmp d.toFraction) && fits (d.toFraction.cmp high)

/-- The exponent of the first decimal digit of `f`, which is positive. -/
def Fraction.leadingExponent (f : Fraction) : Int :=
  if f.den ≤ f.num then ((Nat.toDigits 10 f.floor).length : Int) - 1
  else
    let places := (Nat.toDigits 10 (f.den / f.num)).length
    if f.num * Nat.pow 10 (places - 1) = f.den then -((places : Int) - 1) else -(places : Int)

/-- The best decimal with `n` digits that rounds to `x`, if there is one. -/
def decimalWith? (x : Binary64) (n : Nat) : Option Decimal :=
  let value := x.toFraction
  let exponent := value.leadingExponent - n + 1
  let unit := Decimal.toFraction ⟨1, exponent⟩
  let low := value.num * unit.den / (value.den * unit.num)
  let below : Decimal := ⟨low, exponent⟩
  let above : Decimal := ⟨low + 1, exponent⟩
  match x.admits below, x.admits above with
  | true, false => some below
  | false, true => some above
  | false, false => none
  | true, true =>
    match (below.toFraction.dist value).cmp (above.toFraction.dist value) with
    | .lt => some below
    | .gt => some above
    | .eq => some (if low % 2 = 0 then below else above)

/-- Seventeen digits always suffice. -/
def shortest (x : Binary64) : Decimal :=
  ((List.range 17).findSome? fun n => x.decimalWith? (n + 1)).getD ⟨0, 0⟩

/-- The significant digits, without zeros at the end, and the exponent of the first. -/
def Decimal.normal (d : Decimal) : List Char × Int :=
  let written := Nat.toDigits 10 d.digits
  let trimmed := (written.reverse.dropWhile (· == '0')).reverse
  (trimmed, d.exponent + written.length - 1)

def exponentText (e : Int) : String :=
  if e < 0 then s!"e-{(-e).toNat}" else s!"e+{e.toNat}"

def Decimal.render (d : Decimal) : String :=
  let (digits, lead) := d.normal
  let zeros (n : Nat) := List.replicate n '0'
  if digits.isEmpty then "0.0"
  else if 0 ≤ lead ∧ lead ≤ 15 then
    let whole := lead.toNat + 1
    let padded := digits ++ zeros (whole - digits.length)
    let places := padded.drop whole
    String.ofList (padded.take whole ++ '.' :: if places.isEmpty then ['0'] else places)
  else if -5 ≤ lead ∧ lead < 0 then
    String.ofList ('0' :: '.' :: zeros ((-lead).toNat - 1) ++ digits)
  else
    match digits with
    | [] => "0.0"
    | [d] => String.ofList [d] ++ exponentText lead
    | d :: rest => String.ofList (d :: '.' :: rest) ++ exponentText lead

def render (x : Binary64) : String :=
  if x.mantissa = 0 then "0.0" else x.shortest.render

end RuleLexer.Binary64
