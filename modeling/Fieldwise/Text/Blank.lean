import Fieldwise.Text.Ranges

set_option autoImplicit false

/-! # Blank characters

White space as the Unicode property `White_Space` has it (`isBlank`), and the slightly larger
class that separates tokens in source text (`isTokenBlank`): it adds the two direction marks. -/

namespace Fieldwise.Text

/-- The blank characters beyond ASCII. -/
def blankRanges : Ranges :=
  [(0x85, 0x85), (0xa0, 0xa0), (0x1680, 0x1680), (0x2000, 0x200a), (0x2028, 0x2029),
   (0x202f, 0x202f), (0x205f, 0x205f), (0x3000, 0x3000)]

/-- Whether a character is white space. -/
def isBlank (c : Char) : Bool :=
  if c.toNat < 128 then c == ' ' || (9 ≤ c.toNat && c.toNat ≤ 13) else blankRanges.has c

/-- Whether a character separates tokens: white space, and the marks U+200E and U+200F. -/
def isTokenBlank (c : Char) : Bool :=
  isBlank c || c.toNat == 0x200e || c.toNat == 0x200f

end Fieldwise.Text
