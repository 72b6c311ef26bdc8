import Fieldwise.Json.Basic

set_option autoImplicit false

/-! # JSON documents as they are written

A document can be well formed without having a value: a number may be too great, a string may hold
half of a character, and a name may occur twice in an object. `Written` keeps a document as it
stands; `Written.value?` gives its value, if there is one. A reader that knows what it looks for
(`Json/Record.lean`) passes over the parts that it does not want, whatever they hold. -/

namespace Fieldwise.Json

/-- A document as it is written. -/
inductive Written
  | null
  | bool (value : Bool)
  /-- A number, and its value unless that is too great. -/
  | number (value : Option Json)
  /-- A string, and its text unless it holds half of a character. -/
  | string (value : Option String)
  | array (items : List Written)
  | object (members : List (Option String × Written))

/-- How deep arrays and objects may lie inside each other in a value. -/
def depthLimit : Nat := 127

namespace Written

mutual

/-- The value of a document with arrays and objects nested at most so deep. -/
def value? : Nat → Written → Option Json
  | _, .null => some .null
  | _, .bool b => some (.bool b)
  | _, .number value => value
  | _, .string value => value.map .string
  | 0, .array _ => none
  | depth + 1, .array items => (values? depth items).map .array
  | 0, .object _ => none
  | depth + 1, .object members => (members? depth members []).map .object

/-- The values of the items of an array. -/
def values? : Nat → List Written → Option (List Json)
  | _, [] => some []
  | depth, item :: rest =>
    match value? depth item, values? depth rest with
    | some value, some values => some (value :: values)
    | _, _ => none

/-- The values of the members of an object, added to those before them. Of two members with one
name the last counts. -/
def members? : Nat → List (Option String × Written) → List (String × Json) →
    Option (List (String × Json))
  | _, [], before => some before
  | depth, (name, item) :: rest, before =>
    match name, value? depth item with
    | some name, some value => members? depth rest (insertMember name value before)
    | _, _ => none

end

mutual

/-- A value as a document. -/
def ofValue : Json → Written
  | .null => .null
  | .bool b => .bool b
  | .integer n => .number (some (.integer n))
  | .float negative magnitude => .number (some (.float negative magnitude))
  | .string text => .string (some text)
  | .array items => .array (ofValues items)
  | .object members => .object (ofMembers members)

/-- The items of an array as documents. -/
def ofValues : List Json → List Written
  | [] => []
  | value :: rest => ofValue value :: ofValues rest

/-- The members of an object as documents. -/
def ofMembers : List (String × Json) → List (Option String × Written)
  | [] => []
  | (name, value) :: rest => (some name, ofValue value) :: ofMembers rest

end

end Written

end Fieldwise.Json
