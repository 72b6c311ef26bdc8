import Fieldwise.Text.Printable

set_option autoImplicit false

/-! # Quoted text

A text as a string literal (`quote`). Quotation marks, backslashes, newlines, carriage returns
and tabs have short escapes; a character that cannot be shown on its own is written by its
number. A zero character is written `\0`, or `\x00` where an octal digit follows and the short
form would read as a longer number. In a message (`quoteShown`) it is always written `\0`. -/

namespace Fieldwise.Text

/-- A character by its number, as in `\u{7f}`. -/
def numberEscape (c : Char) : List Char :=
  ['\\', 'u', '\x7b'] ++ Nat.toDigits 16 c.toNat ++ ['\x7d']

/-- A character, other than the zero character, inside a string literal. -/
def escapeChar (c : Char) : List Char :=
  if c = '\t' then ['\\', 't']
  else if c = '\r' then ['\\', 'r']
  else if c = '\n' then ['\\', 'n']
  else if c = '\\' then ['\\', '\\']
  else if c = '"' then ['\\', '"']
  else if isExtending c || !isPrintable c then numberEscape c
  else [c]

/-- Whether a text begins with an octal digit. -/
def startsOctal : List Char → Bool
  | c :: _ => '0' ≤ c && c ≤ '7'
  | [] => false

/-- The inside of the string literal of a text. -/
def quoteBody : List Char → List Char
  | [] => []
  | c :: rest =>
    if c.toNat = 0 then
      (if startsOctal rest then ['\\', 'x', '0', '0'] else ['\\', '0']) ++ quoteBody rest
    else
      escapeChar c ++ quoteBody rest

/-- The string literal of a text. -/
def quote (text : String) : String :=
  String.ofList ('"' :: quoteBody text.toList ++ ['"'])

/-- A text between quotation marks, for a message. -/
def quoteShown (text : String) : String :=
  String.ofList ('"' :: text.toList.flatMap shown ++ ['"'])
where
  /-- A character inside a quoted text. -/
  shown (c : Char) : List Char := if c.toNat = 0 then ['\\', '0'] else escapeChar c

end Fieldwise.Text
