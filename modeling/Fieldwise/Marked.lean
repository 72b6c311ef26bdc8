import Fieldwise.Declaration

set_option autoImplicit false

/-! # Marked types

What is kept of a declaration that a function will be made for, and when that is possible. A
batch is the list of those that one run works on. -/

namespace Fieldwise

/-- A type that a function is made for. -/
structure Marked where
  qualifiedName : String
  /-- The name without `r#`, as it will be shown. -/
  simpleName : String
  package : Package
  fields : List String
  anchor : Option Anchor
  deriving DecidableEq, Repr

/-- Why no function can be made for a type. -/
inductive DescribeError
  | genericParameters
  deriving DecidableEq, Repr

/-- The reason in words. -/
def DescribeError.message : DescribeError → String
  | .genericParameters => "generic parameters are not supported"

/-- A text without the mark of a raw name before it. -/
def dropRawMark (text : String) : String :=
  match text.toList with
  | 'r' :: '#' :: rest => String.ofList rest
  | _ => text

/-- What is kept of a declaration. A generic type cannot be used. -/
def Declaration.describe (d : Declaration) : Except DescribeError Marked :=
  if d.generics.isEmpty then
    .ok {
      qualifiedName := d.qualifiedName
      simpleName := dropRawMark d.simpleName
      package := d.package
      fields := d.fields
      anchor := d.anchor }
  else .error .genericParameters

/-- The types of one run, in order. -/
abbrev Batch := List Marked

/-- The type that decides where the result of a run belongs. -/
def Batch.leader? (b : Batch) : Option Marked := b.head?

end Fieldwise
