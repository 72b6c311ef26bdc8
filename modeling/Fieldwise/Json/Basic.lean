import Fieldwise.Number.Shortest

set_option autoImplicit false

/-! # JSON documents

A document is kept with its whole numbers apart from the others. The members of an object are in
the order of their names, each name once. -/

namespace Fieldwise

/-- A JSON document. -/
inductive Json
  | null
  | bool (value : Bool)
  /-- A whole number that fits 64 bits. -/
  | integer (value : Int)
  /-- Any other number. -/
  | float (negative : Bool) (magnitude : Number.Binary)
  | string (value : String)
  | array (items : List Json)
  | object (members : List (String × Json))
  deriving Repr

namespace Json

/-- The members of an object with one more, in place of one of the same name. -/
def insertMember (name : String) (value : Json) : List (String × Json) → List (String × Json)
  | [] => [(name, value)]
  | (other, old) :: rest =>
    if name = other then (name, value) :: rest
    else if name < other then (name, value) :: (other, old) :: rest
    else (other, old) :: insertMember name value rest

/-- The member of an object. -/
def get? (j : Json) (name : String) : Option Json :=
  match j with
  | .object members => members.lookup name
  | _ => none

/-- The text of a string. -/
def string? : Json → Option String
  | .string value => some value
  | _ => none

/-- The items of an array. -/
def array? : Json → Option (List Json)
  | .array items => some items
  | _ => none

/-- The text of a number that is not whole. -/
def floatText (negative : Bool) (magnitude : Number.Binary) : String :=
  (if negative then "-" else "") ++ magnitude.shortest.text

end Json

end Fieldwise
