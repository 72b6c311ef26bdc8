import Fieldwise.Layout.Doc

set_option autoImplicit false

/-! # Expressions

An expression is kept as the documents it will be printed as, with what the rules around it need
to know (`Expr`). It is printed differently in the middle of a line and at its start, alone and at
the front of a chain of fields and calls, so it has a document for each. One constructor function
stands for each kind of expression. -/

namespace Fieldwise.Grammar

open Fieldwise.Layout

/-- What kind of expression was read, as far as the rules around it need to know. -/
inductive ExprKind
  | string (value : String)
  /-- A truth value, a character or a whole number. -/
  | scalar
  | literal
  | path
  | array
  | tuple (empty : Bool)
  | record
  | closure
  | call
  | asyncBlock
  /-- A block after `unsafe`, `const` or `try`. -/
  | wordBlock
  /-- A block: how it is printed as the body of an arm, and how if its braces stay. -/
  | block (arm braced : Doc)
  /-- An `if`, which may end in an `else`. -/
  | conditional (closed : Bool)
  /-- A `for` or `while` loop. -/
  | loop
  /-- A loop without a condition. -/
  | forever
  /-- A `match`. -/
  | selection
  /-- An invocation of a rule set, in braces or not. -/
  | invocation (braced : Bool)
  | range (started : Bool)
  | comparison
  | assignment
  /-- A `break`, `continue`, `return` or `yield`. -/
  | jump
  | other
  deriving Repr

namespace ExprKind

/-- Whether an expression may stand as an arm without a comma after it. -/
def standsAlone : ExprKind → Bool
  | .wordBlock | .block _ _ | .conditional _ | .loop | .forever | .selection => true
  | _ => false

/-- Whether an expression needs a semicolon to be a statement. -/
def needsSemicolon : ExprKind → Bool
  | .invocation braced => !braced
  | kind => !kind.standsAlone

/-- Whether an expression is printed with brackets around all of it. -/
def isBracketed : ExprKind → Bool
  | .array | .tuple _ | .record | .closure | .asyncBlock | .wordBlock | .block _ _ => true
  | _ => false

/-- Whether a semicolon is added at the end of a block. -/
def takesSemicolon : ExprKind → Bool
  | .assignment | .jump => true
  | _ => false

/-- Whether a semicolon is dropped. -/
def dropsSemicolon : ExprKind → Bool
  | .loop | .conditional false => true
  | _ => false

/-- Whether an expression is a range. -/
def isRange : ExprKind → Bool
  | .range _ => true
  | _ => false

/-- Whether an expression is a comparison. -/
def isComparison : ExprKind → Bool
  | .comparison => true
  | _ => false

/-- Whether an array of such expressions fills its lines. -/
def isScalar : ExprKind → Bool
  | .scalar => true
  | _ => false

end ExprKind

/-- An expression. -/
structure Expr where
  kind : ExprKind
  /-- Whether attributes stand before it. -/
  attributed : Bool := false
  /-- In the middle of a line. -/
  layout : Doc
  /-- At the start of a line. -/
  lineLayout : Doc
  /-- At the front of a chain. -/
  chain : Doc
  /-- At the front of a chain at the start of a line. -/
  lineChain : Doc
  /-- Whether a brace after it stands on a line of its own if it does not fit on one. -/
  wraps : Bool := false
  /-- Whether it would be read in the same way at the start of a line. -/
  startsLine : Bool := true
  /-- Whether it is a name no longer than one step of indentation. -/
  shortName : Bool := false
  /-- How many groups it is inside of that attributes before it also go into. -/
  lead : Nat := 0

namespace Expr

/-! ## Any expression -/

/-- An expression that is printed in the same way everywhere. -/
def plain (kind : ExprKind) (layout : Doc) : Expr :=
  let chain := Doc.stack (-indentStep) layout
  { kind, layout, lineLayout := layout, chain, lineChain := chain }

/-- An expression that goes on one that is not printed differently. -/
def around (kind : ExprKind) (inner : Expr) (layout : Doc) : Expr :=
  { plain kind layout with wraps := inner.wraps }

/-- An expression that cannot be printed. -/
def unprintable : Expr := plain .other .hole

/-- Whether an expression may be the left end of one at the start of a line. -/
def leadsLine (e : Expr) : Bool := e.kind.needsSemicolon && e.startsLine

/-- Whether an expression has brackets around all of it, and nothing before them. -/
def isBracketed (e : Expr) : Bool := e.kind.isBracketed && !e.attributed

/-- An expression with attributes before it. They belong to its first operand; a range takes them
as a whole, in parentheses. -/
def withAttributes (attributes : Doc) (e : Expr) : Expr :=
  if attributes.isEmpty then e
  else
    let kind := match e.kind with
      | .block _ braced => .block braced braced
      | kind => kind
    let place (d : Doc) : Doc :=
      if e.kind.isRange then attributes ++ .word "(" ++ d ++ .word ")"
      else Doc.insertInside attributes e.lead d
    { e with
      kind
      attributed := true
      layout := place e.layout
      lineLayout := place e.lineLayout
      chain := .stack (-indentStep) (place e.layout)
      lineChain := .stack (-indentStep) (place e.layout)
      shortName := false }

/-! ## Operands -/

/-- A path. -/
def path (layout : Doc) (shortName : Bool) : Expr := { plain .path layout with shortName }

/-- An expression in parentheses. -/
def parenthesised (e : Expr) : Expr := around .other e (.word "(" ++ e.layout ++ .word ")")

/-- A tuple. -/
def tuple (items : List Expr) : Expr :=
  plain (.tuple items.isEmpty) (.tupled (items.map Expr.layout))

/-- An array of items. Numbers and characters fill its lines. -/
def array (items : List Expr) : Expr :=
  plain .array <|
    if items.isEmpty then .word "[]"
    else if items.all fun e => e.kind.isScalar && !e.attributed then
      let filled := Doc.fill 0 (.separated (.word "," ++ .spaceGap) (items.map Expr.layout))
      .stack indentStep
        (.word "[" ++ .zeroGap ++ filled ++ Doc.lastComma.outdentLast ++ .word "]")
    else .bracketed "[" "]" (items.map Expr.layout)

/-- An array of so many equal items. -/
def repeated (item count : Expr) : Expr :=
  plain .other (.word "[" ++ item.layout ++ .word "; " ++ count.layout ++ .word "]")

/-- The value of a field in a struct literal; it may be left out. -/
def fieldValue (attributes : Doc) (name : String) (value : Option Expr) : Doc :=
  attributes ++ .word name ++ match value with
    | some e => .word ": " ++ .fill 0 e.layout
    | none => .empty

/-- A struct literal; a value may stand for the fields that are not given. -/
def record (path : Doc) (fields : List Doc) (rest : Option Expr) : Expr :=
  let inside : Doc := match rest with
    | none => .commaItems .lastCommaOrSpace fields
    | some e =>
      .commaItems (.word "," ++ .spaceGap) fields ++ .word ".." ++ e.layout ++ .spaceGap
  plain .record <|
    .stack indentStep (.fill (-indentStep) path ++ .word " \x7b"
      ++ (.optionalSpace ++ inside).outdentLast)
    ++ .word "\x7d"

/-- An operator before an operand. -/
def before (operator : String) (e : Expr) : Expr := around .other e (.word operator ++ e.layout)

/-- A word with what may follow it. -/
def jump (word : String) (label : Option String) (value : Option Expr) : Expr :=
  let head : Doc := .word (match label with
    | some label => word ++ " " ++ label
    | none => word)
  match value with
  | some e => around .jump e (head ++ .word " " ++ e.layout)
  | none => plain .jump head

/-! ## Chains -/

/-- A gap before a point, except after a short name at the start of a line. -/
def linkGap (e : Expr) : Doc := if e.shortName then .empty else .zeroGap

/-- An expression that goes on a chain. -/
def linked (wraps startsLine : Bool) (chain lineChain : Doc) : Expr :=
  { kind := .other
    layout := .stack indentStep chain
    lineLayout := .stack indentStep lineChain
    chain
    lineChain
    wraps
    startsLine }

/-- A field or a method without arguments of its own, after a point. -/
def member (e : Expr) (name : Doc) : Expr :=
  linked true e.startsLine (e.chain ++ .zeroGap ++ .word "." ++ name)
    (e.lineChain ++ e.linkGap ++ .word "." ++ name)

/-- An item of an array. -/
def index (e i : Expr) : Expr :=
  let brackets : Doc := .word "[" ++ i.layout ++ .word "]"
  linked true e.leadsLine (e.chain ++ brackets) (e.lineChain ++ brackets)

/-- An expression with a question mark after it. -/
def question (e : Expr) : Expr :=
  linked e.wraps e.startsLine (e.chain ++ .word "?") (e.lineChain ++ .word "?")

/-- The arguments of a call. A single one with brackets of its own stands right inside the
parentheses. -/
def argumentsLayout (arguments : List Expr) : Doc :=
  match arguments with
  | [e] =>
    if e.isBracketed then .word "(" ++ e.layout ++ .word ")" else .bracketed "(" ")" [e.layout]
  | arguments => .bracketed "(" ")" (arguments.map Expr.layout)

/-- A call. -/
def call (e : Expr) (arguments : List Expr) : Expr :=
  let brackets := argumentsLayout arguments
  { kind := .call
    layout := e.layout ++ brackets
    lineLayout := e.lineLayout ++ brackets
    chain := e.chain ++ brackets
    lineChain := e.chain ++ brackets
    wraps := e.wraps
    startsLine := e.leadsLine }

/-- The call of a method; `name` includes its generic arguments. -/
def method (e : Expr) (name : Doc) (arguments : List Expr) : Expr :=
  let brackets (shift : Int) := Doc.stack shift (argumentsLayout arguments)
  let front := e.lineChain ++ e.linkGap ++ .word "." ++ name
  { linked true e.startsLine (e.chain ++ .zeroGap ++ .word "." ++ name ++ brackets 0)
      (front ++ brackets 0) with
    lineLayout :=
      .stack indentStep (front ++ brackets (if e.shortName then -indentStep else 0)) }

/-! ## Operators -/

/-- An operator between two operands. -/
def binary (kind : ExprKind) (left : Expr) (operator : String) (right : Doc) : Expr :=
  { plain kind (.fill indentStep (.fill (-indentStep) left.layout ++ .spaceGap
      ++ .word (operator ++ " ") ++ right)) with
    wraps := true
    startsLine := left.leadsLine
    lead := left.lead + 2 }

/-- An assignment. -/
def assign (left right : Expr) : Expr :=
  { plain .assignment (.fill 0 (left.layout ++ .word " = " ++ .noGap ++ right.layout)) with
    wraps := true
    startsLine := left.leadsLine
    lead := left.lead + 1 }

/-- A range, each end of which may be missing. A blank stands before a range without a start at
its end. -/
def range (start : Option Expr) (limits : String) (stop : Option Expr) : Expr :=
  let ending : Doc := match stop with
    | none => .empty
    | some e =>
      match e.kind with
      | .range false => .word " " ++ e.layout
      | _ => e.layout
  let beginning : Doc := match start with
    | none => .empty
    | some e => e.layout
  { plain (.range start.isSome) (beginning ++ .word limits ++ ending) with
    wraps := stop.any Expr.wraps
    startsLine := start.all leadsLine }

/-- A pattern that an expression has to fit, as a condition. -/
def letting (pattern : Doc) (e : Expr) : Expr :=
  around .other e (.word "let " ++ .fill 0 (pattern ++ .word " = " ++ .noGap ++ e.layout))

/-! ## Closures -/

/-- Whether the body of a closure without a result type stands right after its arguments. -/
def isClosureBody (e : Expr) : Bool :=
  match e.kind with
  | .selection | .call => !e.attributed
  | _ => e.isBracketed

/-- A closure. What does not fit on its line is put into braces, or parentheses where a line could
not begin so. -/
def closure (head : Doc) (inputs : List Doc) (result : Option Doc) (body : Expr) : Expr :=
  let semicolon : Option Char := if body.kind.takesSemicolon then some ';' else none
  let layout : Doc := match result with
    | none =>
      let listed : Doc :=
        if inputs.isEmpty then .empty
        else .zeroGap ++ .separated (.word "," ++ .spaceGap) inputs
      let wrapped : Doc :=
        if body.isClosureBody then body.layout
        else if body.startsLine then
          .stack indentStep (.gap { before := some '{' } ++ body.layout
            ++ .gap { shift := -indentStep, before := semicolon, after := "\x7d" })
        else
          .stack indentStep (.gap { before := some '(' } ++ body.layout
            ++ .gap { shift := -indentStep, after := ")" })
      .stack indentStep (.word "|" ++ listed ++ .word "|" ++ Doc.spaceGap.outdentLast)
        ++ .noGap ++ wrapped
    | some result =>
      let listed : Doc :=
        if inputs.isEmpty then .empty
        else (Doc.zeroGap ++ .separated (.word "," ++ .spaceGap) inputs ++ .lastComma).outdentLast
      .stack indentStep (.word "|" ++ listed ++ .word "|") ++ .word " -> " ++ result ++ .word " "
        ++ .noGap ++ body.layout
  plain .closure (.fill 0 (head ++ layout))

end Expr

end Fieldwise.Grammar
