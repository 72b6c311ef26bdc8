import Fieldwise.Conditions.Predicate
import Fieldwise.Location

set_option autoImplicit false

/-! # From items to declarations

What the items of a source file declare under given conditions. Fields and variants that are not
part of the crate are left out; the index of a tuple field counts those that remain. -/

namespace Fieldwise

open Token Grammar

namespace Conditions

/-- The parts that belong to the crate, as members. -/
def namedMembers (s : Conditions) (kind : MemberKind) (parts : List NamedPart) : List Member :=
  (parts.filter fun p => s.enables p.attributes).map fun p => ⟨p.name.text, kind⟩

/-- The tuple fields that belong to the crate, as members. -/
def tupleMembers (s : Conditions) (fields : List (List Attribute)) : List Member :=
  (List.range (fields.filter s.enables).length).map fun i => ⟨toString i, .field⟩

/-- The members of a type. -/
def members (s : Conditions) : TypeBody → List Member
  | .struct (.named fields) => s.namedMembers .field fields
  | .struct (.tuple fields) => s.tupleMembers fields
  | .struct .unit => []
  | .enum variants => s.namedMembers .variant variants
  | .union fields => s.namedMembers .unionField fields
  | .trait members => members.map fun (name, kind) => ⟨name.text, kind⟩

end Conditions

/-- The kind of a type. -/
def Grammar.TypeBody.kind : TypeBody → Kind
  | .struct _ => .struct
  | .enum _ => .enum
  | .union _ => .union
  | .trait _ => .trait

/-- The declaration of a type in a package and file, if the type is part of the crate. -/
def Grammar.TypeItem.declaration? (t : TypeItem) (s : Conditions) (package : Package)
    (file : Location) : Option Declaration :=
  if s.enables t.attributes then
    some {
      qualifiedName := package.qualify t.name.written
      simpleName := t.name.written
      package
      visibility := t.visibility
      kind := t.body.kind
      attributes := t.attributes.filterMap Attribute.lastName
      generics := t.generics.map Parameter.name
      members := s.members t.body
      anchor := some ⟨file.text, t.place.line⟩ }
  else none

end Fieldwise
