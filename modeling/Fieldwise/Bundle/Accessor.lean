import Fieldwise.Grammar.File
import Fieldwise.Halt
import Fieldwise.Text.Digits

set_option autoImplicit false

/-! # Accessors

How generated code reaches a field of a value: a tuple field by its index, a named field by its
name, as a raw one where the name is a keyword. -/

namespace Fieldwise

open Token

/-- What stands after the dot that reaches a field. -/
inductive Accessor
  | index (n : Nat)
  | name (n : Name)
  deriving DecidableEq, Repr

/-- An accessor as it is printed. -/
def Accessor.written : Accessor → String
  | .index n => toString n
  | .name n => n.written

/-- The numbers from this one on are no indices. -/
def indexLimit : Nat := 4294967295

/-- The accessor of a field from its label. There is none if the label is no number and no name,
not even with the mark of a raw name before it. -/
def Accessor.ofLabel (label : String) : Except Halt (Option Accessor) :=
  match Text.wordNumber? label with
  | some n => if n < indexLimit then .ok (some (.index n)) else .error (.indexTooLarge n)
  | none =>
    match Grammar.readIdentifier label with
    | .ok n => .ok (some (.name n))
    | .error _ =>
      match Grammar.readIdentifier ("r#" ++ label) with
      | .ok n => .ok (some (.name n))
      | .error _ => .ok none

/-- The accessors of fields, or the first label that has none. -/
def Accessor.ofLabels : List String → Except Halt (Except String (List Accessor))
  | [] => .ok (.ok [])
  | label :: rest =>
    match ofLabel label with
    | .error halt => .error halt
    | .ok none => .ok (.error label)
    | .ok (some accessor) =>
      match ofLabels rest with
      | .error halt => .error halt
      | .ok (.error bad) => .ok (.error bad)
      | .ok (.ok accessors) => .ok (.ok (accessor :: accessors))

end Fieldwise
