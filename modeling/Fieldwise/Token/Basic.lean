set_option autoImplicit false

/-! # Tokens

Source text is read as a list of token trees (`Tree`): names, lifetimes, punctuation marks and
literals, and bracketed groups of trees. Every tree knows where it begins, a group also where
its closing bracket stands. A punctuation mark is one character; it is *joint* when another mark
follows without a blank, so that longer operators can be recognised. -/

namespace Fieldwise.Token

/-- A place in a text: the line from 1, the column from 0 in characters. -/
structure Position where
  line : Nat
  column : Nat
  deriving DecidableEq, Repr

namespace Position

/-- The first place of a text. -/
def start : Position := ⟨1, 0⟩

/-- The place after one more character. -/
def next (p : Position) (c : Char) : Position :=
  if c = '\n' then ⟨p.line + 1, 0⟩ else ⟨p.line, p.column + 1⟩

/-- The place after a piece of text. -/
def after (p : Position) (text : List Char) : Position :=
  text.foldl next p

end Position

/-- The three kinds of brackets. -/
inductive Delimiter
  | parenthesis
  | bracket
  | brace
  deriving DecidableEq, Repr

/-- The kind of bracket a character opens. -/
def Delimiter.ofOpening? : Char → Option Delimiter
  | '(' => some .parenthesis
  | '[' => some .bracket
  | '{' => some .brace
  | _ => none

/-- The kind of bracket a character closes. -/
def Delimiter.ofClosing? : Char → Option Delimiter
  | ')' => some .parenthesis
  | ']' => some .bracket
  | '}' => some .brace
  | _ => none

/-- The opening character of a kind of bracket. -/
def Delimiter.opening : Delimiter → Char
  | .parenthesis => '('
  | .bracket => '['
  | .brace => '{'

/-- The closing character of a kind of bracket. -/
def Delimiter.closing : Delimiter → Char
  | .parenthesis => ')'
  | .bracket => ']'
  | .brace => '}'

/-- A name. A raw name was written with `r#` before it, which makes a name of a keyword. -/
structure Name where
  raw : Bool
  text : String
  deriving DecidableEq, Repr

namespace Name

/-- A name as it was written. -/
def written (n : Name) : String :=
  if n.raw then "r#" ++ n.text else n.text

/-- A name that is not raw. -/
def plain (text : String) : Name := ⟨false, text⟩

end Name

/-- What a literal is. The value of a string literal is kept, because attributes need it. -/
inductive LiteralKind
  | string (value : String)
  /-- A string of bytes, or one that a zero character ends. -/
  | otherString
  /-- A character or a byte. -/
  | character
  | integer (suffixed : Bool)
  | float
  /-- The mark that stands for a value which could not be written. -/
  | unwritten
  deriving DecidableEq, Repr

/-- Whether a literal is a character or a whole number. -/
def LiteralKind.isScalar : LiteralKind → Bool
  | .character | .integer _ => true
  | _ => false

/-- A literal as it was written. -/
structure Literal where
  kind : LiteralKind
  text : String
  deriving DecidableEq, Repr

/-- A token tree. -/
inductive Tree
  | name (n : Name) (place : Position)
  | lifetime (n : Name) (place : Position)
  | punct (mark : Char) (joint : Bool) (place : Position)
  | literal (l : Literal) (place : Position)
  | group (d : Delimiter) (content : List Tree) (opening closing : Position)
  deriving Repr

namespace Tree

/-- Where a tree begins. -/
def place : Tree → Position
  | .name _ p | .lifetime _ p | .punct _ _ p | .literal _ p | .group _ _ p _ => p

mutual

/-- The number of tokens in a tree, a group counting two for its brackets. -/
def size : Tree → Nat
  | .group _ content _ _ => sizeAll content + 2
  | _ => 1

/-- The number of tokens in a list of trees. -/
def sizeAll : List Tree → Nat
  | [] => 0
  | t :: rest => t.size + sizeAll rest

end

end Tree

end Fieldwise.Token
