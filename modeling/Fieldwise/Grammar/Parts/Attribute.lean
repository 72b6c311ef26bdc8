import Fieldwise.Grammar.Parts.Expr
import Fieldwise.Grammar.Parts.Path

set_option autoImplicit false

/-! # Attributes

An attribute is a path alone, a path with a group of arbitrary trees, or a path and a value.
Documentation is printed as comments. -/

namespace Fieldwise.Grammar

open Fieldwise.Token Fieldwise.Layout

/-- What follows the path of an attribute. -/
inductive AttributeBody
  | word
  | list (d : Delimiter) (content : List Tree)
  | value (e : Expr)

/-- The inside of an attribute. -/
structure Attribute where
  path : PlainPath
  body : AttributeBody

namespace Attribute

/-- The last name of an attribute's path, `r#` removed. -/
def lastName (a : Attribute) : Option String := a.path.names.getLast?.map Name.text

/-- The text that is the value of an attribute. -/
def text? (a : Attribute) : Option String :=
  match a.body with
  | .value e =>
    match e.kind with
    | .string value => if e.attributed then none else some value
    | _ => none
  | _ => none

/-! ## Comments -/

/-- A text without blanks at its end. -/
def dropBlanks (text : List Char) : List Char := (text.reverse.dropWhile (· == ' ')).reverse

/-- A text without blanks at the ends of its lines, the last one apart. `line` is what has been
read of a line, last character first. -/
def dropLineBlanks (line : List Char) : List Char → List Char
  | [] => line.reverse
  | '\n' :: rest => (line.dropWhile (· == ' ')).reverse ++ '\n' :: dropLineBlanks [] rest
  | c :: rest => dropLineBlanks (c :: line) rest

/-- Whether every comment that begins in a text also ends in it. `depth` are open. -/
def isClosed : Nat → List Char → Bool
  | depth, '/' :: '*' :: rest => isClosed (depth + 1) rest
  | 0, '*' :: '/' :: _ => false
  | depth + 1, '*' :: '/' :: rest => isClosed depth rest
  | depth, _ :: rest => isClosed depth rest
  | depth, [] => depth == 0

/-- Whether a text begins with one of several characters. -/
def begins (marks : List Char) (text : List Char) : Bool := text.head?.any marks.contains

/-- A text as a comment: on one line, or on several unless the text could end it. The marks are
those that would make it another comment. -/
def comment? (lineMark blockMark : String) (lineExcept blockExcept : List Char)
    (text : List Char) : Option Doc :=
  if !text.contains '\n' && !begins lineExcept text then
    some (.word (lineMark ++ String.ofList (dropBlanks text)) ++ .lineEnd)
  else if isClosed 0 text && !begins blockExcept text then
    some (.word (blockMark ++ String.ofList (dropLineBlanks [] text) ++ "*/") ++ .lineEnd)
  else none

/-- The comment that an attribute stands for. -/
def asComment? (inner : Bool) (a : Attribute) : Option Doc :=
  match a.text? with
  | none => none
  | some text =>
    if a.path.isWord "doc" then
      if inner then comment? "//!" "/*!" [] [] text.toList
      else comment? "///" "/**" ['/'] ['*', '/'] text.toList
    else if a.path.isWord "comment" then comment? "//" "/*" [] ['*', '!'] text.toList
    else none

/-! ## Layout -/

/-- What follows the path of an attribute, as it is printed. -/
def bodyLayout : AttributeBody → Doc
  | .word => .empty
  | .list d content => (attributeTokens .mark [.group d content .start .start]).1
  | .value e => .word " = " ++ e.layout

/-- An attribute as it is printed, with the gap after it. -/
def layout (inner : Bool) (a : Attribute) : Doc :=
  match a.asComment? inner with
  | some comment => comment
  | none =>
    .word (if inner then "#![" else "#[") ++ a.path.layout ++ bodyLayout a.body ++ .word "]"
      ++ .spaceGap

/-- Attributes as they are printed. -/
def layoutAll (inner : Bool) (attributes : List Attribute) : Doc :=
  .concat (attributes.map (layout inner))

end Attribute

end Fieldwise.Grammar
