import Fieldwise.Grammar.Item
import Fieldwise.Grammar.Parts.Statement

set_option autoImplicit false

/-! # The layout of items

Items stand in blocks, and so they may be printed. Each function here puts the parts of an item
together; what it is given are the documents of its parts. -/

namespace Fieldwise.Grammar

open Fieldwise.Token Fieldwise.Layout

/-! ## Generic parameters and where clauses -/

/-- Generic parameters in angle brackets, of which lifetimes come first. -/
def genericsLayout (parameters : List Parameter) : Doc :=
  if parameters.isEmpty then .empty
  else
    let (lifetimes, others) := parameters.partition Parameter.isLifetime
    let items := (lifetimes ++ others).map Parameter.layout
    .word "<" ++ .stack 0 (.zeroGap ++ Doc.commaItems .lastComma items).outdentLast ++ .word ">"

/-- The conditions of a where clause, each on a line of its own, with a comma after each; the last
may have a semicolon instead. -/
def conditionLines (semicolon : Bool) : List Doc → Doc
  | [] => .empty
  | [c] => if semicolon then c ++ .word ";" else c ++ .word "," ++ Doc.lineEnd.outdentLast
  | c :: rest => c ++ .word "," ++ .lineEnd ++ conditionLines semicolon rest

/-- A where clause on lines of its own, and the gap or the semicolon after it. -/
def whereLines (semicolon : Bool) (conditions : List Doc) : Doc :=
  if conditions.isEmpty then .word (if semicolon then ";" else " ")
  else
    Doc.lineEnd.outdentLast ++ .word "where" ++ .lineEnd ++ conditionLines semicolon conditions

/-- A where clause on one line if it fits, and the gap or the semicolon after it. -/
def whereLine (semicolon : Bool) (conditions : List Doc) : Doc :=
  if conditions.isEmpty then .word (if semicolon then ";" else " ")
  else
    let last : Doc := if semicolon then .word ";" else Doc.lastCommaOrSpace.outdentLast
    Doc.spaceGap.outdentLast ++ .word "where" ++ .spaceGap ++ .commaItems last conditions

/-- A condition on a type. -/
def typeCondition (subject : Doc) (bounds : List Doc) : Doc :=
  subject ++ .word ":" ++ .fill (if bounds.length = 1 then 0 else indentStep)
    (.introduced (.word " ") (.spaceGap ++ .word "+ ") bounds)

/-- A condition on a lifetime. -/
def lifetimeCondition (subject : Doc) (bounds : List Doc) : Doc :=
  subject ++ .word ":" ++ .fill indentStep
    (.introduced (.word " ") (.spaceGap ++ .word "+ ") bounds)

/-! ## Heads and bodies -/

/-- A visibility as it is printed. -/
def visibilityLayout (v : Visibility) (scope : Doc) : Doc :=
  match v with
  | .unrestricted => .word "pub "
  | .restricted _ => .word "pub(" ++ scope ++ .word ") "
  | .inherited => .empty

/-- An item whose content is in braces, on lines of its own. -/
def bodied (head content : Doc) : Doc :=
  .stack indentStep (head ++ .word "\x7b" ++ (.optionalLineEnd ++ content).outdentLast)
    ++ .word "\x7d" ++ .lineEnd

/-- An item on a line of its own. -/
def lineItem (shift : Int) (content : Doc) : Doc := .stack shift content ++ .lineEnd

/-- Parts each of which a comma ends, on lines of their own. -/
def partLines (parts : List Doc) : Doc :=
  .concat (parts.map fun p => p ++ .word "," ++ .lineEnd)

/-- The head of a function. -/
def signatureLayout (words : String) (name : Name) (generics : Doc) (arguments : List Doc)
    (variadic : Option Doc) (result : Doc) : Doc :=
  let listed : Doc := match variadic with
    | none => .commaItems .lastComma arguments
    | some dots => .commaItems (.word "," ++ .spaceGap) arguments ++ dots ++ .zeroGap
  .word (words ++ "fn " ++ name.written) ++ generics ++ .word "(" ++ .noGap
    ++ .stack 0 (.zeroGap ++ listed).outdentLast ++ .word ")"
    ++ .stack (-indentStep) result

/-- The value of a constant, if it has one. -/
def valueLayout : Option Expr → Doc
  | some e => .word " = " ++ .noGap ++ e.layout
  | none => .empty

/-- The definition of a type. -/
def definitionLayout : Option TypeExpr → Doc
  | some t => .word " = " ++ .noGap ++ .fill (-indentStep) t.layout
  | none => .empty

/-- The greatest width of a variant with named fields on one line. -/
def variantWidth : Nat := 34

/-- The fields of a variant in braces. -/
def variantFields (fields : List Doc) : Doc :=
  .word " \x7b" ++ .stackWithin variantWidth indentStep
      (.spaceGap ++ Doc.commaItems .lastCommaOrSpace fields).outdentLast
    ++ .word "\x7d"

end Fieldwise.Grammar
