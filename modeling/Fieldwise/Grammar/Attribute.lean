import Fieldwise.Grammar.Rules

set_option autoImplicit false

/-! # Reading attributes

An attribute is `#[..]` before an item or `#![..]` inside one. Its inside is a path alone, a path
with a group of arbitrary trees, or a path, `=` and an expression. -/

namespace Fieldwise.Grammar

open Fieldwise.Token Fieldwise.Layout Fieldwise.Grammar.Parser

/-- The kind of expression that a literal is. -/
def literalKind : LiteralKind → ExprKind
  | .string value => .string value
  | kind => if kind.isScalar then .scalar else .literal

/-- A literal as an expression. -/
def literalExpr (l : Literal) : Expr :=
  .plain (literalKind l.kind) (if l.kind = .unwritten then .hole else .word l.text)

/-- Reads a literal: a token of that kind, a truth value, or a number with its sign. -/
def literal : Parser Expr := do
  match (← get).rest with
  | .literal l _ :: _ => skip 1; pure (literalExpr l)
  | .punct '-' _ _ :: .literal l _ :: _ =>
    if ← ask .literal then
      skip 2
      pure (.plain (literalKind l.kind) (.word ("-" ++ l.text)))
    else failHere (.rule "expected literal")
  | .name n _ :: _ =>
    if ← ask .literal then skip 1; pure (.plain .scalar (.word n.written))
    else failHere (.rule "expected literal")
  | _ => failHere (.rule "expected literal")

/-- The words that may stand in a path although they are keywords. -/
def pathWords : List String := ["super", "self", "Self", "crate"]

/-- Reads names with `::` between them. -/
def plainPath : Parser PlainPath := do
  let leading ← punct? [':', ':']
  let (names, pending) ← iterate (fun (names, pending) => do
    if !pending then return none
    if ← ask (.or .identifier (.anyWord pathWords)) then
      let name ← anyName
      let pending ← punct? [':', ':']
      return some (name :: names, pending)
    else return none) (([] : List Name), true)
  if names.isEmpty then
    let name ← identifier
    return ⟨leading, [name]⟩
  else if pending then failHere (.rule "expected path segment after `::`")
  else return ⟨leading, names.reverse⟩

namespace Rules

/-- Reads the expression of an attribute from after its `=`. A literal that ends the attribute
is taken as it is. -/
def attributeValue (r : Rules) : Parser Expr := do
  let lone ← attempt do
    let e ← literal
    if ← finished then pure e else failExpected []
  match lone with
  | some e => return e
  | none =>
    if ← ask (.and (.punct ['#']) (.second (.group .bracket))) then
      failHere (.rule "unexpected attribute inside of attribute")
    else r.expr true

/-- Whether a value comes next: an equals sign that is no part of another operator. -/
def valueAhead : Ahead :=
  .butNot (.punct ['=']) (.or (.punct ['=', '=']) (.punct ['=', '>']))

/-- Reads the inside of an attribute. The word `unsafe` is taken for a path. -/
def attributeInside (r : Rules) : Parser Attribute := do
  let path ←
    if ← ask (.word "unsafe") then pure ⟨false, [← anyName]⟩
    else plainPath
  if ← ask .anyGroup then
    let (d, content) ← anyGroup
    return ⟨path, .list d content⟩
  else if ← ask valueAhead then
    punct ['=']
    return ⟨path, .value (← r.attributeValue)⟩
  else
    return ⟨path, .word⟩

/-- Reads the attributes before an item. -/
def outerAttributes (r : Rules) : Parser (List Attribute) :=
  collect do
    if ← punct? ['#'] then return some (← group .bracket r.attributeInside)
    else return none

/-- Reads the attributes at the front of what they belong to. -/
def innerAttributes (r : Rules) : Parser (List Attribute) :=
  collect do
    if ← ask (.and (.punct ['#']) (.second (.punct ['!']))) then
      skip 2
      return some (← group .bracket r.attributeInside)
    else return none

/-- Reads the attributes before something that does not look into them, as they are printed. -/
def outerLayout (r : Rules) : Parser Doc := do
  return Attribute.layoutAll false (← r.outerAttributes)

/-- Reads the attributes at the front of something that does not look into them. -/
def innerLayout (r : Rules) : Parser Doc := do
  return Attribute.layoutAll true (← r.innerAttributes)

/-- Reads a block that may have attributes of its own. -/
def block (r : Rules) : Parser Block :=
  group .brace do
    let attributes ← r.innerLayout
    return ⟨attributes, ← r.statements⟩

end Rules

end Fieldwise.Grammar
