import Fieldwise.Text.Digits

set_option autoImplicit false

/-! # Versions

A version is three numbers with dots between them, then perhaps a mark of a release to come after
`-` and a mark of the build after `+`. A requirement is a list of comparisons with versions, of
which the last numbers may be missing or stars. Only the form is checked: nothing here compares
versions. -/

namespace Fieldwise.CommandLine.Version

open Text

/-- What follows the number at the front of a text. It fits 64 bits and has no needless zeros. -/
def number? (text : List Char) : Option (List Char) :=
  let digits := text.takeWhile Char.isDigit
  let spare := digits.head? = some '0' && 1 < digits.length
  if digits.isEmpty || spare || UInt64.size ≤ digitsValue digits then none
  else some (text.dropWhile Char.isDigit)

/-- What follows a dot. -/
def dot? : List Char → Option (List Char)
  | '.' :: rest => some rest
  | _ => none

/-- Whether a character may stand in a mark, dots apart. -/
def isMarkChar (c : Char) : Bool := c.isAlphanum || c = '-'

/-- What follows a mark: words with dots between them. A word that is a number has no needless
zeros unless `zeros` admits them. Each of at most so many steps reads a word. -/
def markRest? (zeros : Bool) : Nat → List Char → Option (List Char)
  | 0, _ => none
  | n + 1, text =>
    let word := text.takeWhile isMarkChar
    let spare := word.all Char.isDigit && 1 < word.length && word.head? = some '0'
    if word.isEmpty || (!zeros && spare) then none
    else
      match text.dropWhile isMarkChar with
      | '.' :: rest => markRest? zeros n rest
      | rest => some rest

/-- What follows a mark that begins with a character, if it comes next. -/
def optionalMark? (sign : Char) (zeros : Bool) (text : List Char) : Option (List Char) :=
  match text with
  | c :: rest => if c = sign then markRest? zeros (rest.length + 1) rest else some text
  | [] => some []

/-- What follows the two marks that a version may end in. -/
def marks? (text : List Char) : Option (List Char) :=
  (optionalMark? '-' false text).bind (optionalMark? '+' true)

/-- Whether a text is a version. -/
def isVersion (text : String) : Bool :=
  ((((((number? text.toList).bind dot?).bind number?).bind dot?).bind number?).bind marks?)
    == some []

/-- Whether a text is the least version of a compiler: a version without marks, of which the last
number may be missing. -/
def isCompilerVersion (text : String) : Bool :=
  let full := if text.toList.count '.' = 1 then text ++ ".0" else text
  !text.toList.contains '-' && !text.toList.contains '+' && isVersion full

/-! ## Requirements -/

/-- A text without the blanks at its front. -/
def skipSpaces (text : List Char) : List Char := text.dropWhile (· == ' ')

/-- What follows a star. -/
def star? : List Char → Option (List Char)
  | '*' :: rest | 'x' :: rest | 'X' :: rest => some rest
  | _ => none

/-- What follows the sign of a comparison, which may be missing. -/
def afterSign : List Char → List Char
  | '>' :: '=' :: rest | '<' :: '=' :: rest => rest
  | '=' :: rest | '>' :: rest | '<' :: rest | '~' :: rest | '^' :: rest => rest
  | text => text

/-- What follows a comparison: after the first number the others may be missing, and after a star
no number comes. Only three numbers may be followed by marks. -/
def comparison? (text : List Char) : Option (List Char) :=
  (number? (skipSpaces (afterSign text))).bind fun rest =>
    match dot? rest with
    | none => some (skipSpaces rest)
    | some minor =>
      match star? minor with
      | some rest =>
        match dot? rest with
        | none => some (skipSpaces rest)
        | some patch => (star? patch).map skipSpaces
      | none =>
        (number? minor).bind fun rest =>
          match dot? rest with
          | none => some (skipSpaces rest)
          | some patch =>
            match star? patch with
            | some rest => some (skipSpaces rest)
            | none => ((number? patch).bind marks?).map skipSpaces

/-- The greatest number of comparisons in a requirement. -/
def comparisonLimit : Nat := 32

/-- Whether a text is comparisons with commas between them, at most so many. -/
def areComparisons : Nat → List Char → Bool
  | 0, _ => false
  | n + 1, text =>
    match comparison? text with
    | some [] => true
    | some (',' :: rest) => areComparisons n (skipSpaces rest)
    | _ => false

/-- Whether a text is a requirement. A star alone is one. -/
def isRequirement (text : String) : Bool :=
  let body := skipSpaces text.toList
  match star? body with
  | some rest => (skipSpaces rest).isEmpty
  | none => areComparisons comparisonLimit body

end Fieldwise.CommandLine.Version
