set_option autoImplicit false

/-! # Splitting text

A text is split at every occurrence of a separator; joining the pieces with the separator gives
the text back. -/

namespace Fieldwise.Text

/-- The pieces of a list between the occurrences of a separator. There is always at least one. -/
def pieces (separator : Char) : List Char → List (List Char)
  | [] => [[]]
  | c :: rest =>
    if c = separator then [] :: pieces separator rest
    else
      match pieces separator rest with
      | [] => [[c]]
      | first :: more => (c :: first) :: more

/-- The pieces of a text between the occurrences of a separator. -/
def splitText (separator : Char) (text : String) : List String :=
  (pieces separator text.toList).map String.ofList

/-- The rest of a text after a given beginning. -/
def afterStart? (start text : String) : Option String :=
  (dropStart start.toList text.toList).map String.ofList
where
  /-- The rest of a list after a given beginning. -/
  dropStart : List Char → List Char → Option (List Char)
    | [], rest => some rest
    | _ :: _, [] => none
    | a :: start, b :: rest => if a = b then dropStart start rest else none

/-- A text in which the capitals from `A` to `Z` are replaced by small letters. -/
def lowerLatin (text : String) : String := String.ofList (text.toList.map Char.toLower)

end Fieldwise.Text
