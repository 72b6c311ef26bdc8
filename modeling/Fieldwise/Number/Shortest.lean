import Fieldwise.Number.Binary

set_option autoImplicit false

/-! # The shortest decimal of a binary number

A number is written with the fewest digits that read back as it, and of several such decimals the
nearest. Numbers from `10 ^ -5` up to but without `10 ^ 16` are written out, others with an
exponent, which always has a sign. -/

namespace Fieldwise.Number

/-- Digits with a power of ten: the digits are read as a natural number. -/
structure Decimal where
  digits : Nat
  power : Int
  deriving DecidableEq, Repr

namespace Decimal

/-- The value of a decimal as a fraction. -/
def value (d : Decimal) : Fraction :=
  if 0 ≤ d.power then ⟨d.digits * Nat.pow 10 d.power.toNat, 1⟩
  else ⟨d.digits, Nat.pow 10 (-d.power).toNat⟩

/-- The decimal without zeros at its end, of which at most so many are dropped. -/
def dropZeros : Nat → Decimal → Decimal
  | 0, d => d
  | n + 1, d => if d.digits % 10 = 0 then dropZeros n ⟨d.digits / 10, d.power + 1⟩ else d

end Decimal

namespace Binary

/-- The least fraction and the greatest that round to a number, or lie on the border. -/
def borders (b : Binary) : Fraction × Fraction :=
  let high := (Fraction.mk (2 * b.mantissa + 1) 2).scale b.exponent
  let low :=
    if b.mantissa = Nat.pow 2 52 ∧ leastExponent < b.exponent then
      (Fraction.mk (4 * b.mantissa - 1) 4).scale b.exponent
    else (Fraction.mk (2 * b.mantissa - 1) 2).scale b.exponent
  (low, high)

/-- Whether a fraction rounds to a number. -/
def covers (b : Binary) (f : Fraction) : Bool :=
  let (low, high) := b.borders
  if b.mantissa % 2 = 0 then !f.less low && !high.less f
  else low.less f && f.less high

/-- The decimal on the grid of a power of ten that reads back as a number: the nearest one, else
the other neighbour. -/
def onGrid? (b : Binary) (power : Int) : Option Decimal :=
  let scaled := b.value.div (Decimal.mk 1 power).value
  let below := scaled.numerator / scaled.denominator
  let near := scaled.nearest
  let other := if near = below then below + 1 else below
  [Decimal.mk near power, Decimal.mk other power].find? fun d => d.digits ≠ 0 ∧ b.covers d.value

/-- The greatest power of ten that is not above a number is at most this one. -/
def powerAbove (b : Binary) : Int :=
  ((Nat.log2 b.mantissa : Int) + b.exponent + 1) * 30103 / 100000 + 1

/-- The shortest decimal of a number other than zero: on the coarsest grid that has one, from a
power of ten down over so many grids. -/
def shortestFrom (b : Binary) : Nat → Int → Decimal
  | 0, power => ⟨(b.value.div (Decimal.mk 1 power).value).nearest, power⟩
  | n + 1, power =>
    match b.onGrid? power with
    | some d => d
    | none => shortestFrom b n (power - 1)

/-- The shortest decimal of a number. -/
def shortest (b : Binary) : Decimal :=
  if b.mantissa = 0 then ⟨0, 0⟩ else (b.shortestFrom 22 b.powerAbove).dropZeros 22

end Binary

/-- Zeros as characters. -/
def zeros (n : Int) : List Char := List.replicate n.toNat '0'

/-- An exponent as text, with its sign. -/
def exponentText (exponent : Int) : List Char :=
  (if 0 ≤ exponent then ['+'] else []) ++ (toString exponent).toList

/-- A decimal as text. -/
def Decimal.text (d : Decimal) : String :=
  let digits := Nat.toDigits 10 d.digits
  let length : Int := digits.length
  let point := length + d.power
  String.ofList <|
    if d.digits = 0 then ['0', '.', '0']
    else if 0 ≤ d.power ∧ point ≤ 16 then digits ++ zeros d.power ++ ['.', '0']
    else if 0 < point ∧ point ≤ 16 then
      digits.take point.toNat ++ ['.'] ++ digits.drop point.toNat
    else if -5 < point ∧ point ≤ 0 then ['0', '.'] ++ zeros (-point) ++ digits
    else
      let exponent := exponentText (point - 1)
      match digits with
      | [d] => d :: 'e' :: exponent
      | d :: more => d :: '.' :: more ++ 'e' :: exponent
      | [] => []

end Fieldwise.Number
