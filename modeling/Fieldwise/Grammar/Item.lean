import Fieldwise.Declaration
import Fieldwise.Grammar.Parts.Attribute

set_option autoImplicit false

/-! # What is read from source text

The parts of a source file that matter for finding its types: items with their fields, variants
and members, and modules. -/

namespace Fieldwise.Grammar

open Fieldwise.Token Fieldwise.Layout

/-- A generic parameter, and how it is printed. A lifetime is named with its apostrophe. -/
structure Parameter where
  attributes : List Attribute
  isLifetime : Bool
  name : String
  layout : Doc

/-- A named field or a variant. -/
structure NamedPart where
  attributes : List Attribute
  name : Name

/-- The fields of a struct. Of a tuple field only its attributes are kept. -/
inductive Fields
  | named (fields : List NamedPart)
  | tuple (fields : List (List Attribute))
  | unit

/-- The inside of a type. -/
inductive TypeBody
  | struct (fields : Fields)
  | enum (variants : List NamedPart)
  | union (fields : List NamedPart)
  | trait (members : List (Name × MemberKind))

/-- An item that declares a type. -/
structure TypeItem where
  attributes : List Attribute
  visibility : Visibility
  name : Name
  place : Position
  generics : List Parameter
  body : TypeBody

/-- An item: a type, a module with or without its content, or anything else. -/
inductive Item
  | type (t : TypeItem)
  | submodule (attributes : List Attribute) (name : Name) (content : Option (List Item))
  | other

/-- A source file: its own attributes and its items. -/
structure SourceFile where
  attributes : List Attribute
  items : List Item

end Fieldwise.Grammar
