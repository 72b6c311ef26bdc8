set_option autoImplicit false

/-! # Binary floating point numbers

A finite number with 53 significant bits is `mantissa · 2 ^ exponent`, kept so that the mantissa
has all its bits unless the exponent is the least one. Arithmetic is exact on fractions of
natural numbers and then rounded to the nearest number, a tie to the even one. -/

namespace Fieldwise.Number

/-- A nonnegative number with 53 significant bits. -/
structure Binary where
  mantissa : Nat
  exponent : Int
  deriving DecidableEq, Repr

/-- A fraction of natural numbers. -/
structure Fraction where
  numerator : Nat
  denominator : Nat
  deriving DecidableEq, Repr

namespace Fraction

/-- The fraction times a power of two. -/
def scale (f : Fraction) (power : Int) : Fraction :=
  if 0 ≤ power then ⟨f.numerator * Nat.pow 2 power.toNat, f.denominator⟩
  else ⟨f.numerator, f.denominator * Nat.pow 2 (-power).toNat⟩

/-- The product of two fractions. -/
def mul (a b : Fraction) : Fraction :=
  ⟨a.numerator * b.numerator, a.denominator * b.denominator⟩

/-- The quotient of two fractions. -/
def div (a b : Fraction) : Fraction :=
  ⟨a.numerator * b.denominator, a.denominator * b.numerator⟩

/-- Whether a fraction is less than another. -/
def less (a b : Fraction) : Bool :=
  decide (a.numerator * b.denominator < b.numerator * a.denominator)

/-- The natural number nearest to a fraction, of two the even one. -/
def nearest (f : Fraction) : Nat :=
  let whole := f.numerator / f.denominator
  let twice := 2 * (f.numerator % f.denominator)
  if twice < f.denominator then whole
  else if f.denominator < twice then whole + 1
  else whole + whole % 2

end Fraction

namespace Binary

/-- The least exponent. -/
def leastExponent : Int := -1074

/-- The greatest exponent. -/
def greatestExponent : Int := 971

/-- Zero. -/
def zero : Binary := ⟨0, leastExponent⟩

/-- The value of a number as a fraction. -/
def value (b : Binary) : Fraction := (Fraction.mk b.mantissa 1).scale b.exponent

/-- The exponent at which a fraction has 53 bits before the point. -/
def exponentOf (f : Fraction) : Int :=
  let guess : Int := (Nat.log2 f.numerator : Int) - Nat.log2 f.denominator - 52
  let scaled := f.scale (-guess)
  if scaled.numerator < Nat.pow 2 52 * scaled.denominator then guess - 1
  else if Nat.pow 2 53 * scaled.denominator ≤ scaled.numerator then guess + 1
  else guess

/-- The number nearest to a fraction; there is none if the fraction is too great. -/
def round (f : Fraction) : Option Binary :=
  if f.numerator = 0 then some zero
  else
    let exponent := max (exponentOf f) leastExponent
    let mantissa := (f.scale (-exponent)).nearest
    let rounded : Binary :=
      if mantissa = Nat.pow 2 53 then ⟨Nat.pow 2 52, exponent + 1⟩ else ⟨mantissa, exponent⟩
    if rounded.exponent ≤ greatestExponent then some rounded else none

/-- The number nearest to a product. -/
def mul (a b : Binary) : Option Binary := round (a.value.mul b.value)

/-- The number nearest to a quotient. -/
def div (a b : Binary) : Option Binary := round (a.value.div b.value)

/-- The number nearest to a natural number. -/
def ofNat (n : Nat) : Option Binary := round ⟨n, 1⟩

/-- The number nearest to a power of ten. -/
def powerOfTen (n : Nat) : Option Binary := ofNat (Nat.pow 10 n)

end Binary

end Fieldwise.Number
