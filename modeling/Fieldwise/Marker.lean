import Fieldwise.Grammar.File

set_option autoImplicit false

/-! # Placing the marker

The marker stands before a type and takes no arguments. `Marker.place` checks that and leaves the
item as it is. -/

namespace Fieldwise.Marker

open Token Grammar

/-- What is wrong with a marker. -/
inductive Misplacement
  | takesNoArguments (place : Position)
  | notOnType (place : Position)
  /-- What it stands before is no item. -/
  | notItem (fault : Fault)
  deriving DecidableEq, Repr

/-- The rule that a marker breaks, in words. -/
def Misplacement.message : Misplacement → String
  | .takesNoArguments _ => "#[static_string_util] takes no arguments"
  | .notOnType _ => "#[static_string_util] can only be applied to type declarations"
  | .notItem fault => fault.message

/-- Where the first of some trees begins. -/
def firstPlace (trees : List Tree) : Position :=
  match trees with
  | t :: _ => t.place
  | [] => .start

/-- Whether an item declares a type. -/
def isType : Item → Bool
  | .type _ => true
  | _ => false

/-- Checks a marker with its arguments before an item. -/
def place (arguments item : List Tree) : Except Misplacement (List Tree) :=
  if !arguments.isEmpty then .error (.takesNoArguments (firstPlace arguments))
  else
    match readTrees Rules.attributedItem item with
    | .error fault => .error (.notItem fault)
    | .ok read => if isType read then .ok item else .error (.notOnType (firstPlace item))

end Fieldwise.Marker
