import Fieldwise.Grammar.Parser
import Fieldwise.Grammar.Parts.Item
import Fieldwise.Grammar.Parts.Pattern

set_option autoImplicit false

/-! # The grammar as a set of rules

Types, expressions, patterns, statements and items contain each other. `Rules` holds a reader for
each of them; the modules that follow say how one level of each is read *given* the rules for the
levels inside it, and `Grammar/File.lean` ties the levels together. -/

namespace Fieldwise.Grammar

open Fieldwise.Layout

/-- How tightly an operator binds, the loosest first. -/
inductive Precedence
  | loosest
  | assignment
  | range
  | disjunction
  | conjunction
  | comparison
  | bitOr
  | bitXor
  | bitAnd
  | shift
  | sum
  | product
  | cast
  deriving DecidableEq, Repr

/-- The place of an operator in the order of binding. -/
def Precedence.rank : Precedence → Nat
  | .loosest => 0
  | .assignment => 1
  | .range => 2
  | .disjunction => 3
  | .conjunction => 4
  | .comparison => 5
  | .bitOr => 6
  | .bitXor => 7
  | .bitAnd => 8
  | .shift => 9
  | .sum => 10
  | .product => 11
  | .cast => 12

/-- What a `use` item names, as it is printed, and whether it ends in braces. -/
structure UseTree where
  layout : Doc
  grouped : Bool

/-- Readers for the parts of a source file that contain each other. -/
structure Rules where
  /-- A type; bounds may be added with `+` if the argument says so. -/
  type : Bool → Parser TypeExpr
  /-- A generic argument. -/
  argument : Parser GenericArgument
  /-- The word `for` and the parameters that it binds, if it comes next. -/
  binder : Parser (Option Doc)
  /-- An expression; the argument says whether a struct literal may stand open in it. -/
  expr : Bool → Parser Expr
  /-- An operand with the operators before it. -/
  operand : Bool → Parser Expr
  /-- The operators that bind at least so tightly, after a first operand. -/
  operators : Expr → Bool → Precedence → Parser Expr
  /-- An expression at the start of a line or of a match arm. -/
  line : Parser Expr
  /-- A pattern without alternatives. -/
  pattern : Parser Pattern
  /-- The statements of a block. -/
  statements : Parser (List Statement)
  /-- An item after its attributes, and how it is printed. -/
  item : List Attribute → Parser (Item × Doc)
  /-- The fields of a struct in braces, and how each is printed. -/
  namedFields : Parser (List (NamedPart × Doc))
  /-- What a `use` item names; the argument says whether a path from the root may stand there. -/
  useTree : Bool → Parser UseTree

/-- The rules that read nothing. -/
def Rules.empty : Rules :=
  let refuse {α : Type} : Parser α := Parser.failHere (.rule "nested too deeply")
  { type := fun _ => refuse
    argument := refuse
    binder := refuse
    expr := fun _ => refuse
    operand := fun _ => refuse
    operators := fun _ _ _ => refuse
    line := refuse
    pattern := refuse
    statements := refuse
    item := fun _ => refuse
    namedFields := refuse
    useTree := fun _ => refuse }

end Fieldwise.Grammar
