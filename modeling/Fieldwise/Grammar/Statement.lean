import Fieldwise.Grammar.Expression

set_option autoImplicit false

/-! # Reading statements

A block holds items, `let` statements, invocations of rule sets and expressions. A semicolon ends
an expression, unless it is a block or the last thing in the block. -/

namespace Fieldwise.Grammar

open Fieldwise.Token Fieldwise.Layout Fieldwise.Grammar.Parser

/-- How a path that an exclamation mark follows is to be read at the start of a statement. -/
inductive Invocation
  | none
  /-- The invocation names what it defines and is an item. -/
  | item
  /-- The invocation is in braces and is a statement. -/
  | statement
  deriving DecidableEq

/-- What invocation comes next. -/
def invocationAhead : Parser Invocation := do
  let afterPath ← ahead (attempt do
    let _ ← plainPath
    return (← get).rest)
  match afterPath with
  | Option.none => return .none
  | some trees =>
    if !Ahead.punct ['!'] trees then return .none
    else if Ahead.second (.or .identifier (.word "try")) trees then return .item
    else if Ahead.second (.group .brace) trees
        && !Ahead.third (.or pointAhead (.punct ['?'])) trees then return .statement
    else return .none

/-- Whether an item comes next, invocations apart. -/
def itemAhead : Ahead :=
  let signature : Ahead := .anyWord ["unsafe", "extern", "fn"]
  let closureHead : Ahead := .or (.word "move") (.punct ['|'])
  .any
    [.anyWord ["pub", "extern", "use", "fn", "mod", "type", "struct", "enum", "trait", "impl",
       "macro"],
     .butNot (.word "crate") (.second (.punct [':', ':'])),
     .and (.word "static") (.second (.or (.word "mut")
       (.butNot .identifier (.and (.word "async") (.second closureHead))))),
     .butNot (.word "const") (.second (.any
       [.group .brace, .word "static", .butNot (.word "async") (.second signature),
        closureHead])),
     .butNot (.word "unsafe") (.second (.group .brace)),
     .and (.word "async") (.second signature),
     .and (.word "union") (.second .identifier),
     .and (.word "auto") (.second (.word "trait")),
     .and (.word "default") (.second (.anyWord ["unsafe", "impl"]))]

/-- The statement that an expression is. An invocation that a semicolon or a brace ends is one of
its own. -/
def Statement.ofExpr (e : Expr) (semicolon : Bool) : Statement :=
  match e.kind with
  | .invocation braced =>
    if braced || semicolon then .invocation e.layout braced semicolon else .expr e semicolon
  | _ => .expr e semicolon

namespace Rules

/-- Reads a `let` statement after its attributes. -/
def letStatement (r : Rules) (attributes : Doc) : Parser Statement := do
  word "let"
  let pattern ← r.pattern
  let type ← if ← punct? [':'] then pure (.word ": " ++ (← r.type true).layout) else pure .empty
  let place := pattern.layout ++ type
  let value ← if ← punct? ['='] then pure (some (← r.expr true)) else pure none
  let braced := (← get).afterBrace
  match value with
  | some e =>
    if !braced then
      if ← word? "else" then
        let otherwise ← r.plainBlock
        punct [';']
        return otherwise.letElse attributes place e
    punct [';']
    return .letting attributes place (some e)
  | none =>
    punct [';']
    return .letting attributes place none

/-- Reads a statement and says whether a semicolon is missing after it, should another follow. -/
def statement (r : Rules) : Parser (Statement × Bool) := do
  let attributes ← r.outerAttributes
  let layout := Attribute.layoutAll false attributes
  let invocation ← invocationAhead
  if invocation = .statement then
    let path ← plainPath
    let (call, braced) ← Rules.invocation path.layout
    let semicolon ← punct? [';']
    return (.invocation (layout ++ call) braced semicolon, false)
  if ← ask (.word "let") then return (← r.letStatement layout, false)
  if invocation = .item || (← ask itemAhead) then
    let (_, item) ← r.item attributes
    return (.other item, false)
  let e ← r.line
  let semicolon ← punct? [';']
  return (.ofExpr (e.withAttributes layout) semicolon, !semicolon && e.kind.needsSemicolon)

/-- Reads semicolons that nothing stands before; each is a statement of which nothing is
printed. -/
def emptyStatements : Parser (List Statement) :=
  collect do
    if ← punct? [';'] then return some (.other .empty) else return none

/-- Reads the statements of a block, given the rules for what is inside them. -/
def statementsRule (r : Rules) : Parser (List Statement) := do
  let first ← emptyStatements
  let more ← collect do
    if ← finished then return none
    let (s, unfinished) ← r.statement
    if unfinished && !(← finished) then
      failHere (.rule "unexpected token, expected `;`")
    return some (s :: (← emptyStatements))
  return first ++ more.flatten

end Rules

end Fieldwise.Grammar
