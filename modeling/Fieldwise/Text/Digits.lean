set_option autoImplicit false

/-! # Numbers written in digits

Decimal digits stand for a number (`digitsValue`); a text is a number of 64 bits (`wordNumber?`)
if it is digits, perhaps after a plus. -/

namespace Fieldwise.Text

/-- The number that digits stand for. -/
def digitsValue (digits : List Char) : Nat :=
  digits.foldl (fun n c => 10 * n + (c.toNat - '0'.toNat)) 0

/-- The number that a text is: at least one digit, perhaps after a plus, below 2 to the 64. -/
def wordNumber? (text : String) : Option Nat :=
  let digits := match text.toList with
    | '+' :: rest => rest
    | all => all
  if !digits.isEmpty && digits.all Char.isDigit && digitsValue digits < UInt64.size then
    some (digitsValue digits)
  else none

end Fieldwise.Text
