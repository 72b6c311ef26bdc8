import Fieldwise.Grammar.Parts.Expr

set_option autoImplicit false

/-! # Statements, blocks and the expressions made of them

A block is a list of statements with attributes of its own. It is printed small, on one line if it
holds one short expression, or with every statement on a line of its own. -/

namespace Fieldwise.Grammar

open Fieldwise.Layout

/-- A statement. -/
inductive Statement
  | expr (e : Expr) (semicolon : Bool)
  | invocation (layout : Doc) (braced semicolon : Bool)
  /-- A `let`, an item, or nothing, as it is printed. -/
  | other (layout : Doc)

namespace Statement

/-- A statement as it is printed; the last one of a block may do without a semicolon. -/
def layout (last : Bool) : Statement → Doc
  | .expr e false =>
    .fill 0 (e.lineLayout ++ (if e.kind.takesSemicolon then .word ";" else .empty)) ++ .lineEnd
  | .expr e true =>
    .fill 0 (e.lineLayout ++ (if e.kind.dropsSemicolon then .empty else .word ";")) ++ .lineEnd
  | .invocation layout braced semicolon =>
    layout ++ (if !braced && (semicolon || !last) then .word ";" else .empty) ++ .lineEnd
  | .other layout => layout

/-- Statements as they are printed. -/
def layoutAll : List Statement → Doc
  | [] => .empty
  | s :: rest => s.layout rest.isEmpty ++ layoutAll rest

/-- A `let` statement. -/
def letting (attributes pattern : Doc) (value : Option Expr) : Statement :=
  let init : Doc := match value with
    | some e => .word " = " ++ .noGap ++ e.layout
    | none => .empty
  .other (attributes ++ .fill 0 (.word "let " ++ pattern ++ init) ++ .word ";" ++ .lineEnd)

end Statement

/-- A block: its attributes as they are printed, and its statements. -/
structure Block where
  attributes : Doc := .empty
  statements : List Statement

namespace Block

/-- A block inside of a group: on one line, or the statements one step further in. -/
def small (b : Block) : Doc :=
  let inside : Doc := match b.statements with
    | [.expr e false] => .fill 0 e.lineLayout ++ .spaceGap
    | statements => Statement.layoutAll statements
  .word "\x7b"
    ++ (if b.attributes.isEmpty && b.statements.isEmpty then .empty
      else (.spaceGap ++ b.attributes ++ inside).outdentLast)
    ++ .word "\x7d"

/-- The content of a block on lines of its own, up to its closing brace. -/
def lines (b : Block) : Doc :=
  (.optionalLineEnd ++ b.attributes ++ Statement.layoutAll b.statements).outdentLast

/-- A block with its content on lines of its own. -/
def tall (b : Block) : Doc :=
  .word "\x7b" ++ .noGap ++ .stack indentStep b.lines ++ .word "\x7d"

/-- The block that a `let` goes to if its pattern does not fit. -/
def letElse (attributes pattern : Doc) (value : Expr) (b : Block) : Statement :=
  .other (attributes
    ++ .fill 0 (.word "let " ++ pattern ++ .word " = " ++ .noGap ++ value.layout ++ .spaceGap
      ++ .word "else ")
    ++ .noGap ++ .stack indentStep b.small ++ .word ";" ++ .lineEnd)

end Block

/-! ## Arms -/

/-- The body of an arm. What does not fit on its line is put into braces, or parentheses where a
line could not begin so. -/
def Expr.arm (e : Expr) : Doc :=
  let comma : Option Char := if e.kind.standsAlone then none else some ','
  let semicolon : Option Char := if e.kind.takesSemicolon then some ';' else none
  let wrapped : Doc :=
    if e.startsLine then
      .noGap ++ .stack indentStep (.gap { before := some '{' } ++ e.lineLayout
        ++ .gap { shift := -indentStep, before := semicolon, after := "\x7d", inline := comma })
    else
      .noGap ++ .stack indentStep (.gap { before := some '(' } ++ e.lineLayout
        ++ .gap { shift := -indentStep, after := "),", inline := comma })
  match e.kind with
  | .block arm _ => arm
  | .tuple true => if e.attributed then wrapped else .word "\x7b" ++ .noGap ++ .word "\x7d"
  | _ => wrapped

/-- An arm of a `match`. -/
def armLayout (attributes : Doc) (pattern : Doc) (guard : Option Expr) (body : Expr) : Doc :=
  let condition : Doc := match guard with
    | some e => .word " if " ++ e.layout
    | none => .empty
  attributes ++ .fill 0 (pattern ++ condition ++ .word " => " ++ body.arm)

namespace Expr

/-! ## Blocks -/

/-- A label as it is printed. -/
def labelLayout (label : Option String) : Doc :=
  match label with
  | some name => .word (name ++ ": ")
  | none => .empty

/-- A block. As the body of an arm, one that holds just an expression is that expression. -/
def block (label : Option String) (b : Block) : Expr :=
  let braced := labelLayout label ++ b.tall
  let arm : Doc := match label, b.attributes, b.statements with
    | none, .empty, [.expr e false] => e.arm
    | _, _, _ => braced
  plain (.block arm braced) (labelLayout label ++ .stack indentStep b.small)

/-- A block after a word or two. -/
def wordBlock (kind : ExprKind) (words : String) (b : Block) : Expr :=
  plain kind (.word words ++ .stack indentStep b.small)

/-! ## Loops and conditions -/

/-- A condition and the gap before the brace that follows it. -/
def condition (e : Expr) : Doc :=
  .stack 0 (e.layout ++ (if e.wraps then .spaceGap else .word " "))

/-- A loop without a condition. -/
def forever (label : Option String) (b : Block) : Expr :=
  plain .forever (labelLayout label ++ .word "loop \x7b" ++ .stack indentStep b.lines
    ++ .word "\x7d")

/-- A loop with a condition. -/
def whileLoop (label : Option String) (e : Expr) (b : Block) : Expr :=
  plain .loop (labelLayout label ++ .word "while " ++ e.condition ++ b.tall)

/-- A loop over the items of something. -/
def forLoop (label : Option String) (pattern : Doc) (e : Expr) (b : Block) : Expr :=
  plain .loop (.fill 0 (labelLayout label ++ .word "for " ++ pattern ++ .word " in " ++ .noGap
    ++ e.condition ++ b.tall))

/-- An `if` with its condition. -/
def ifHead (e : Expr) : Doc := .word "if " ++ .stack (-indentStep) e.condition

/-- Conditions with their blocks, and a last block. A single block without an alternative is never
on one line. -/
def conditional (branches : List (Expr × Block)) (last : Option Block) : Expr :=
  let layout : Doc := match branches, last with
    | [(e, b)], none =>
      e.ifHead ++ (if b.statements.isEmpty then .word "\x7b\x7d"
        else .word "\x7b" ++ (.lineEnd ++ Statement.layoutAll b.statements).outdentLast
          ++ .word "\x7d")
    | branches, last =>
      .separated (.word " else ") (branches.map fun (e, b) => e.ifHead ++ b.small)
        ++ match last with
          | some b => .word " else " ++ b.small
          | none => .empty
  plain (.conditional last.isSome) (.stack indentStep layout)

/-- A `match` with its arms. -/
def selection (e : Expr) (attributes : Doc) (arms : List Doc) : Expr :=
  plain .selection (.fill 0 (.word "match " ++ e.condition ++ .word "\x7b" ++ .noGap
    ++ .stack indentStep
      (.optionalLineEnd ++ attributes ++ .concat (arms.map fun a => a ++ .lineEnd)).outdentLast
    ++ .word "\x7d"))

end Expr

end Fieldwise.Grammar
