import Fieldwise.Json.Written

set_option autoImplicit false

/-! # Reading records from JSON documents

A record has fields with fixed names. It is written as an object, in which names that are not
those of fields are passed over, or as an array with the fields in order. A field may be required,
or it may be absent: in an object simply so, in an array only if the field has a default. -/

namespace Fieldwise.Json

namespace Written

/-- The text of a string. -/
def text? : Written → Option String
  | .string value => value
  | _ => none

/-- A truth value. -/
def bool? : Written → Option Bool
  | .bool b => some b
  | _ => none

/-- A whole number of 64 bits that is not negative. -/
def natural? : Written → Option Nat
  | .number (some (.integer n)) => if 0 ≤ n then some n.toNat else none
  | _ => none

/-- The items of an array, each read in the same way. -/
def list? {α : Type} (read : Written → Option α) : Written → Option (List α)
  | .array items => items.mapM read
  | _ => none

/-- The texts of an array of strings. -/
def texts? : Written → Option (List String) := list? text?

/-- Something that may also be null. -/
def nullable? {α : Type} (read : Written → Option α) : Written → Option (Option α)
  | .null => some none
  | w => (read w).map some

/-- The members of an object with arbitrary names, each read in the same way. -/
def table? {α : Type} (read : Written → Option α) : Written → Option (List (String × α))
  | .object members => members.mapM fun (name, w) =>
    match name, read w with
    | some name, some a => some (name, a)
    | _, _ => none
  | _ => none

/-- One of several words: as a string, or as an object with that word as its only member, which
has no value. -/
def word? (admits : String → Bool) : Written → Option String
  | .string (some word) => if admits word then some word else none
  | .object [(some word, .null)] => if admits word then some word else none
  | _ => none

end Written

/-- The fields of a record that were given, and whether they were given in order. -/
structure Record where
  positional : Bool
  fields : List (String × Written)

namespace Record

/-- Whether the names of a list differ. -/
def distinct : List String → Bool
  | [] => true
  | name :: rest => !rest.contains name && distinct rest

/-- Reads a record with fields of given names. No field may be given twice. -/
def read? (names : List String) : Written → Option Record
  | .object members =>
    match members.mapM fun (name, w) => name.map fun name => (name, w) with
    | none => none
    | some members =>
      let known := members.filter fun (name, _) => names.contains name
      if distinct (known.map Prod.fst) then some ⟨false, known⟩ else none
  | .array items => if items.length ≤ names.length then some ⟨true, names.zip items⟩ else none
  | _ => none

/-- A field that has to be there. -/
def required {α : Type} (r : Record) (name : String) (read : Written → Option α) : Option α :=
  (r.fields.lookup name).bind read

/-- A field that may be null or, in an object, absent. -/
def optional {α : Type} (r : Record) (name : String) (read : Written → Option α) :
    Option (Option α) :=
  match r.fields.lookup name with
  | some w => Written.nullable? read w
  | none => if r.positional then none else some none

/-- A field that has a value of its own if it is absent. -/
def defaulted {α : Type} (r : Record) (name : String) (read : Written → Option α) (value : α) :
    Option α :=
  match r.fields.lookup name with
  | some w => read w
  | none => some value

end Record

end Fieldwise.Json
