import Fieldwise.Text.Letter

set_option autoImplicit false

/-! # Snake case

A text is cut into words (`words`) and the words, in lower case, are joined by underscores
(`snakeCase`). A word is a run of letters and numerals; inside a run a new word begins

* at an upper-case letter after a lower-case one, numerals keeping the case of the letter before
  them (`fooBar`, `foo1Bar`);
* at the last capital of a run of capitals that a lower-case letter follows (`HTTPServer`).
-/

namespace Fieldwise.Text

/-- The runs of characters that satisfy `keep`, in order; the empty ones are left out. `run` is
the current run, last character first. -/
def runsFrom (keep : Char → Bool) (run : List Char) : List Char → List (List Char)
  | [] => if run.isEmpty then [] else [run.reverse]
  | c :: rest =>
    if keep c then runsFrom keep (c :: run) rest
    else if run.isEmpty then runsFrom keep [] rest
    else run.reverse :: runsFrom keep [] rest

/-- The case of the word read so far. -/
inductive WordCase
  | undecided
  | lower
  | upper
  deriving DecidableEq, Repr

/-- The case of a word once `c` is added to it. -/
def WordCase.add (now : WordCase) (c : Char) : WordCase :=
  if isLower c then .lower else if isUpper c then .upper else now

/-- The words inside one run. `word` is the current word, last character first. -/
def caseWords (now : WordCase) (word : List Char) : List Char → List (List Char)
  | [] => []
  | [c] => [(c :: word).reverse]
  | c :: next :: rest =>
    if now.add c = .lower ∧ isUpper next = true then
      (c :: word).reverse :: caseWords .undecided [] (next :: rest)
    else if now = .upper ∧ isUpper c = true ∧ isLower next = true then
      word.reverse :: caseWords .undecided [c] (next :: rest)
    else
      caseWords (now.add c) (c :: word) (next :: rest)

/-- The words of a text. -/
def words (text : String) : List (List Char) :=
  (runsFrom isAlphanumeric [] text.toList).flatMap (caseWords .undecided [])

/-- A word in lower case. A sigma that ends the word takes its final form. -/
def lowerWord : List Char → List Char
  | [] => []
  | [c] => if c.toNat = 0x3a3 then [Char.ofNat 0x3c2] else toLower c
  | c :: rest => toLower c ++ lowerWord rest

/-- The words of a text in lower case, joined by underscores. -/
def snakeCase (text : String) : String :=
  "_".intercalate ((words text).map fun word => String.ofList (lowerWord word))

end Fieldwise.Text
