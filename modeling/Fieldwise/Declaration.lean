set_option autoImplicit false

/-! # Declarations

A `Declaration` describes one type of a crate: what it is called, the package (module) that owns
it, who may see it, what attributes and generic parameters it carries and which members it has.
Everything that decides about a type looks at its declaration, never at source text. -/

namespace Fieldwise

/-! ## Packages -/

/-- The module that owns a declaration, as the names of the modules on the way to it, outermost
first. The root of the crate has no names and is the unnamed package. -/
structure Package where
  segments : List String
  deriving DecidableEq, Repr

namespace Package

/-- The root of a crate. -/
def root : Package := ⟨[]⟩

/-- Whether a package is the root of its crate, which has no name. -/
def isUnnamed (p : Package) : Bool := p.segments.isEmpty

/-- The package of a module directly inside this one. -/
def child (p : Package) (name : String) : Package := ⟨p.segments ++ [name]⟩

/-- The path of a package. -/
def text (p : Package) : String := "::".intercalate p.segments

/-- A name inside a package, with the path of the package before it. -/
def qualify (p : Package) (name : String) : String :=
  if p.isUnnamed then name else p.text ++ "::" ++ name

end Package

/-! ## Parts of a declaration -/

/-- Who may see a declaration: everyone, those in a scope, or its own module. -/
inductive Visibility
  | unrestricted
  | restricted (scope : String)
  | inherited
  deriving DecidableEq, Repr

/-- The four kinds of types. -/
inductive Kind
  | struct
  | enum
  | union
  | trait
  deriving DecidableEq, Repr

/-- Whether no value can have a type of this kind. -/
def Kind.isAbstract : Kind → Bool
  | .trait => true
  | _ => false

/-- What a member of a type is. -/
inductive MemberKind
  | field
  | unionField
  | variant
  | method
  | constant
  | type
  deriving DecidableEq, Repr

/-- A member of a type. A tuple field is named by its index. -/
structure Member where
  name : String
  kind : MemberKind
  deriving DecidableEq, Repr

/-- A line of a source file that a message can point at. -/
structure Anchor where
  file : String
  line : Nat
  deriving DecidableEq, Repr

/-- An anchor as text. -/
def Anchor.text (a : Anchor) : String := a.file ++ ":" ++ toString a.line

/-! ## Declarations -/

/-- The description of one type of a crate. -/
structure Declaration where
  /-- The name with the path of its package. -/
  qualifiedName : String
  /-- The name as written. -/
  simpleName : String
  package : Package
  visibility : Visibility
  kind : Kind
  /-- The last name in the path of every attribute. -/
  attributes : List String
  /-- The names of the generic parameters. -/
  generics : List String
  members : List Member
  anchor : Option Anchor
  deriving DecidableEq, Repr

namespace Declaration

/-- Whether an attribute of that name stands on the declaration. -/
def hasAttribute (d : Declaration) (name : String) : Bool := d.attributes.contains name

/-- The names of the fields, in order: what is written for a value of the type. Variants, union
fields and what a trait declares are no fields. -/
def fields (d : Declaration) : List String :=
  (d.members.filter fun m => m.kind = .field).map Member.name

end Declaration

end Fieldwise
