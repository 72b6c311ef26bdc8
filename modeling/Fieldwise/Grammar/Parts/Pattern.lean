import Fieldwise.Layout.Doc
import Fieldwise.Token.Basic

set_option autoImplicit false

/-! # Patterns

A pattern is kept as the document it will be printed as, with what the rules around it need to
know. -/

namespace Fieldwise.Grammar

open Fieldwise.Token Fieldwise.Layout

/-- What kind of pattern was read. -/
inductive PatternForm
  | rest
  /-- A range with an open end, from its dots on. -/
  | openRange (dots : Position)
  /-- A literal or an underscore. -/
  | simple
  | other
  deriving DecidableEq, Repr

/-- A pattern. -/
structure Pattern where
  form : PatternForm
  layout : Doc
  deriving Repr

namespace Pattern

/-- A pattern that the rules around it need not know. -/
def plain (layout : Doc) : Pattern := ⟨.other, layout⟩

/-- A pattern that cannot be printed. -/
def unprintable : Pattern := plain .hole

/-- Whether a pattern is the dots that stand for the rest. -/
def isRest (p : Pattern) : Bool := p.form == .rest

/-- Several patterns of which one has to fit. Short ones fill their lines. -/
def alternatives (cases : List Pattern) : Pattern :=
  let breaks : Breaks :=
    if cases.all fun p => p.form == .simple then .inconsistent else .consistent
  plain (.group breaks 0 (.separated (.spaceGap ++ .word "| ") (cases.map Pattern.layout)))

/-- A name, perhaps with a pattern that it stands for. -/
def binding (name : String) (inner : Option Pattern) : Pattern :=
  plain (match inner with
    | some p => .word (name ++ " @ ") ++ p.layout
    | none => .word name)

/-- A struct with patterns for its fields; dots may stand for the rest of them. -/
def record (path : Doc) (fields : List Doc) (rest : Option Doc) : Pattern :=
  let inside : Doc := match rest with
    | none => .commaItems .lastCommaOrSpace fields
    | some dots => .commaItems (.word "," ++ .spaceGap) fields ++ dots ++ .spaceGap
  plain (.stack indentStep
      (path ++ .word " \x7b" ++ (.optionalSpace ++ inside).outdentLast)
    ++ .word "\x7d")

/-- A tuple. A single pattern is followed by a comma if it was so written. -/
def tuple (items : List Pattern) (trailing : Bool) : Pattern :=
  plain (match items with
    | [p] =>
      if trailing then .tupled [p.layout]
      else
        .word "(" ++ .stack indentStep (.zeroGap ++ p.layout ++ Doc.zeroGap.outdentLast)
          ++ .word ")"
    | items => .bracketed "(" ")" (items.map Pattern.layout))

/-- A tuple struct with patterns for its fields. -/
def tupleRecord (path : Doc) (items : List Pattern) : Pattern :=
  plain (path ++ .bracketed "(" ")" (items.map Pattern.layout))

/-- A slice. -/
def slice (items : List Pattern) : Pattern :=
  plain (.bracketed "[" "]" (items.map Pattern.layout))

end Pattern

end Fieldwise.Grammar
