import Fieldwise.Grammar.ItemReader
import Fieldwise.Token.Lexer

set_option autoImplicit false

/-! # Reading source text

The rules of the grammar tied together (`rules`), and the readers of whole texts: a source file
(`readFile`), an identifier, a path, attributes, an item. Each reads all of its text. -/

namespace Fieldwise.Grammar

open Fieldwise.Token

/-- The rules of the grammar for texts nested at most so deep. -/
def rules : Nat → Rules
  | 0 => .empty
  | n + 1 =>
    { type := fun allowPlus s => (rules n).typeRule allowPlus s
      argument := fun s => (rules n).argumentRule s
      binder := fun s => (rules n).binderRule s
      expr := fun openStruct s => (rules n).exprRule openStruct s
      operand := fun openStruct s => (rules n).operandRule openStruct s
      operators := fun first openStruct base s => (rules n).operatorsRule first openStruct base s
      line := fun s => (rules n).lineRule s
      pattern := fun s => (rules n).patternRule s
      statements := fun s => (rules n).statementsRule s
      item := fun attributes s => (rules n).itemRule attributes s
      namedFields := fun s => (rules n).namedFieldsRule s
      useTree := fun allowRoot s => (rules n).useTreeRule allowRoot s }

/-- The rules for a list of trees: every level of nesting but a few takes a token. -/
def rulesFor (trees : List Tree) : Rules := rules (4 * Tree.sizeAll trees + 16)

/-- Reads all of a list of trees. -/
def readTrees {α : Type} (p : Rules → Parser α) (trees : List Tree) : Except Fault α :=
  (p (rulesFor trees)).run trees

/-- The trees of a text. -/
def treesOf (text : List Char) : Except Fault (List Tree) :=
  match lex text with
  | .ok trees => .ok trees
  | .error place => .error ⟨.malformed, some place, false⟩

/-- Reads all of a text. -/
def readText {α : Type} (p : Rules → Parser α) (text : List Char) : Except Fault α := do
  readTrees p (← treesOf text)

/-! ## Small texts -/

/-- Reads a text as an identifier. -/
def readIdentifier (text : String) : Except Fault Name :=
  readText (fun _ => Parser.identifier) text.toList

/-- Reads a text as a path. -/
def readPath (text : String) : Except Fault Path :=
  readText (fun r => r.path false) text.toList

/-- Reads a text as a type. -/
def readType (text : String) : Except Fault TypeExpr :=
  readText (fun r => r.typeRule true) text.toList

/-- Reads a text as attributes before an item. -/
def readAttributes (text : String) : Except Fault (List Attribute) :=
  readText Rules.outerAttributes text.toList

/-- Reads an item with its attributes. -/
def Rules.attributedItem (r : Rules) : Parser Item := do
  return (← r.itemRule (← r.outerAttributes)).1

/-! ## Source files -/

/-- Reads the inside of a source file. -/
def Rules.file (r : Rules) : Parser SourceFile := do
  let attributes ← r.innerAttributes
  let items ← Parser.untilFinished r.attributedItem
  return ⟨attributes, items⟩

/-- A text from its first newline on. -/
def fromNewline (text : List Char) : List Char := text.dropWhile (· != '\n')

/-- A text without the line by which a file names the program that runs it. An attribute at the
front of a file is no such line. -/
def dropInterpreterLine (text : List Char) : List Char :=
  match text with
  | '#' :: '!' :: rest =>
    match (Source.skipBlank (rest.length + 1) ⟨rest, .start⟩).text with
    | '[' :: _ => text
    | _ => fromNewline text
  | _ => text

/-- Reads a text as a source file. -/
def readFile (text : String) : Except Fault SourceFile :=
  readText Rules.file (dropInterpreterLine (dropByteOrderMark text.toList))

end Fieldwise.Grammar
