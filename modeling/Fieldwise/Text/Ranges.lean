set_option autoImplicit false

/-! # Tables of characters

A property of characters beyond ASCII is a table of ranges of character numbers (`Ranges`), or
of ranges with a step (`Strides`) where a property holds of every second character. -/

namespace Fieldwise.Text

/-- Ranges of character numbers, both ends included. -/
abbrev Ranges := List (Nat × Nat)

/-- Whether a character lies in one of the ranges. -/
def Ranges.has (table : Ranges) (c : Char) : Bool :=
  table.any fun (first, last) => first ≤ c.toNat && c.toNat ≤ last

/-- Ranges of character numbers with a step: first, last, step. -/
abbrev Strides := List (Nat × Nat × Nat)

/-- Whether a character is met by one of the strides. -/
def Strides.has (table : Strides) (c : Char) : Bool :=
  table.any fun (first, last, step) =>
    first ≤ c.toNat && c.toNat ≤ last && (c.toNat - first) % step == 0

end Fieldwise.Text
