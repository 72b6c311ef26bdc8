import Fieldwise.Conditions.Basic
import Fieldwise.Grammar.File

set_option autoImplicit false

/-! # Predicates over conditions

The attribute `cfg` holds a predicate that says under which conditions an item is part of a
crate. `Predicate.ofAttribute` reads it and `Predicate.holds` decides it. What does not read as a
predicate is no reason to leave an item out: it holds. -/

namespace Fieldwise

open Token Grammar

/-- A predicate. -/
inductive Predicate
  | option (name : String) (value : Option String)
  | all (inner : List Predicate)
  | any (inner : List Predicate)
  /-- The opposite of what is inside, which has to be one predicate. -/
  | not (inner : List Predicate)
  /-- Something else, which holds or does not. -/
  | constant (holds : Bool)
  deriving Repr

namespace Predicate

/-! ## Deciding -/

mutual

/-- Whether a predicate holds. -/
def holds (s : Conditions) : Predicate → Bool
  | .option name value => s.has name value
  | .all inner => allHold s inner
  | .any inner => anyHolds s inner
  | .not inner => inner.length == 1 && !anyHolds s inner
  | .constant b => b

/-- Whether all of a list hold. -/
def allHold (s : Conditions) : List Predicate → Bool
  | [] => true
  | p :: rest => holds s p && allHold s rest

/-- Whether one of a list holds. -/
def anyHolds (s : Conditions) : List Predicate → Bool
  | [] => false
  | p :: rest => holds s p || anyHolds s rest

end

/-! ## Reading -/

/-- The predicate for a list of inner ones under a name. -/
def ofList (path : PlainPath) (inner : List Predicate) : Predicate :=
  if path.isWord "all" then .all inner
  else if path.isWord "any" then .any inner
  else if path.isWord "not" then .not inner
  else .constant false

/-- The predicate for an option, whose path is one name. -/
def ofOption (path : PlainPath) (value : Option String) : Predicate :=
  match path.single? with
  | some name => .option name.written value
  | none => .constant false

/-- The predicate that the inside of an attribute stands for, nested at most so deep. -/
def ofInside : Nat → Attribute → Predicate
  | 0, _ => .constant true
  | depth + 1, a =>
    match a.body with
    | .word => ofOption a.path none
    | .value _ =>
      match a.text? with
      | some value => ofOption a.path (some value)
      | none => .constant false
    | .list _ content =>
      match readTrees (fun r => Parser.commaTerminated r.attributeInside) content with
      | .error _ => .constant true
      | .ok inner => ofList a.path (inner.map (ofInside depth))

/-- The predicate in the attribute `cfg`. -/
def ofAttribute (a : Attribute) : Predicate :=
  match a.body with
  | .list _ content =>
    match readTrees Rules.attributeInside content with
    | .error _ => .constant true
    | .ok inside => ofInside (Tree.sizeAll content + 1) inside
  | _ => .constant true

end Predicate

/-- Whether what carries the attributes is part of the crate. -/
def Conditions.enables (s : Conditions) (attributes : List Attribute) : Bool :=
  (attributes.filter fun a => a.path.isWord "cfg").all fun a => (Predicate.ofAttribute a).holds s

end Fieldwise
