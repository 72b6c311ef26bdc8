import Fieldwise.Text.Blank
import Fieldwise.Text.Quoted
import Fieldwise.Token.Literal

set_option autoImplicit false

/-! # Reading source text as tokens

`lex` reads a text as token trees, or gives the place where that fails: the token that cannot be
read, the closing bracket that does not match, or the opening bracket that is never closed.
Blanks and comments separate tokens and vanish, except documentation comments, which stand for
the attribute `#[doc = ".."]` or `#![doc = ".."]`. -/

namespace Fieldwise.Token

open Fieldwise.Text

/-- A text with the place of its first character. -/
structure Source where
  text : List Char
  place : Position

namespace Source

/-- The source after a piece of text that ends where `rest` begins. -/
def moveTo (s : Source) (rest : List Char) : Source :=
  ⟨rest, s.place.after (textBefore s.text rest)⟩

/-! ## Blanks and comments -/

/-- The source from the end of the line on. -/
def skipLine : Position → List Char → Source
  | p, [] => ⟨[], p⟩
  | p, c :: rest => if c = '\n' then ⟨c :: rest, p⟩ else skipLine (p.next c) rest

/-- The source after a block comment in which `depth` comments are open. -/
def skipBlock (depth : Nat) : Position → List Char → Option Source
  | p, '/' :: '*' :: rest => skipBlock (depth + 1) ((p.next '/').next '*') rest
  | p, '*' :: '/' :: rest =>
    let after := (p.next '*').next '/'
    if depth ≤ 1 then some ⟨rest, after⟩ else skipBlock (depth - 1) after rest
  | p, c :: rest => skipBlock depth (p.next c) rest
  | _, [] => none

/-- Whether a text begins with a line comment that is no documentation. -/
def startsLineComment : List Char → Bool
  | '/' :: '/' :: '/' :: '/' :: _ => true
  | '/' :: '/' :: '/' :: _ => false
  | '/' :: '/' :: '!' :: _ => false
  | '/' :: '/' :: _ => true
  | _ => false

/-- Whether a text begins with a block comment that is no documentation. -/
def startsBlockComment : List Char → Bool
  | '/' :: '*' :: '*' :: '/' :: _ => true
  | '/' :: '*' :: '*' :: '*' :: _ => true
  | '/' :: '*' :: '*' :: _ => false
  | '/' :: '*' :: '!' :: _ => false
  | '/' :: '*' :: _ => true
  | _ => false

/-- The source from the next token on. The first argument bounds the number of blanks and
comments; the length of the text is enough. -/
def skipBlank : Nat → Source → Source
  | 0, s => s
  | n + 1, s =>
    if startsLineComment s.text then skipBlank n (skipLine s.place s.text)
    else if startsBlockComment s.text then
      match skipBlock 0 s.place s.text with
      | some after => skipBlank n after
      | none => s
    else
      match s.text with
      | c :: rest => if isTokenBlank c then skipBlank n ⟨rest, s.place.next c⟩ else s
      | [] => s

/-! ## Documentation comments -/

/-- The text of a line, without the carriage return that may stand before its newline. -/
def lineText : List Char → List Char
  | [] => []
  | '\r' :: '\n' :: _ => []
  | '\n' :: _ => []
  | c :: rest => c :: lineText rest

/-- Whether every carriage return of a text stands before a newline. -/
def returnsPaired : List Char → Bool
  | [] => true
  | '\r' :: '\n' :: rest => returnsPaired rest
  | '\r' :: _ => false
  | _ :: rest => returnsPaired rest

/-- The documentation comment at the front of a source: its text, whether it documents what it
stands in rather than what follows, and the source after it. -/
def docComment (s : Source) : Option (List Char × Bool × Source) :=
  let line (inner : Bool) (body : List Char) :=
    some (lineText body, inner, skipLine s.place s.text)
  let block (inner : Bool) :=
    (skipBlock 0 s.place s.text).map fun after =>
      let whole := textBefore s.text after.text
      ((whole.drop 3).take (whole.length - 5), inner, after)
  let found := match s.text with
    | '/' :: '/' :: '!' :: body => line true body
    | '/' :: '*' :: '!' :: _ => block true
    | '/' :: '/' :: '/' :: '/' :: _ => none
    | '/' :: '/' :: '/' :: body => line false body
    | '/' :: '*' :: '*' :: '*' :: _ => none
    | '/' :: '*' :: '*' :: _ => block false
    | _ => none
  found.filter fun (text, _) => returnsPaired text

/-- The attribute a documentation comment stands for. -/
def docAttribute (text : List Char) (inner : Bool) (p : Position) : List Tree :=
  let value := String.ofList text
  let body := Tree.group .bracket
    [.name (.plain "doc") p, .punct '=' false p, .literal ⟨.string value, quote value⟩ p] p p
  if inner then [.punct '#' false p, .punct '!' false p, body]
  else [.punct '#' false p, body]

/-! ## Names and marks -/

/-- The name at the front of a text, raw or not. Five words cannot be raw names. -/
def scanAnyName (text : List Char) : Option (Name × List Char) :=
  match text with
  | 'r' :: '#' :: rest =>
    (scanName rest).bind fun (word, after) =>
      let name := String.ofList word
      if ["_", "super", "self", "Self", "crate"].contains name then none
      else some (⟨true, name⟩, after)
  | _ => (scanName text).map fun (word, after) => (.plain (String.ofList word), after)

/-- Whether a text begins like a string or byte literal, which no name does. -/
def startsLiteral : List Char → Bool
  | 'r' :: '"' :: _ => true
  | 'r' :: '#' :: '"' :: _ => true
  | 'r' :: '#' :: '#' :: _ => true
  | 'b' :: '"' :: _ => true
  | 'b' :: '\'' :: _ => true
  | 'b' :: 'r' :: '"' :: _ => true
  | 'b' :: 'r' :: '#' :: _ => true
  | 'c' :: '"' :: _ => true
  | 'c' :: 'r' :: '"' :: _ => true
  | 'c' :: 'r' :: '#' :: _ => true
  | _ => false

/-- The punctuation marks. -/
def marks : List Char :=
  ['~', '!', '@', '#', '$', '%', '^', '&', '*', '-', '=', '+', '|', ';', ':', ',', '<', '.', '>',
   '/', '?', '\'']

/-- Whether a text begins with a punctuation mark; the slash of a comment is none. -/
def startsMark : List Char → Bool
  | '/' :: '/' :: _ => false
  | '/' :: '*' :: _ => false
  | c :: _ => marks.contains c
  | [] => false

/-- A lifetime from after its apostrophe. A character literal is none, whatever it holds. -/
def scanLifetime (text : List Char) : Option (Name × List Char) :=
  (scanAnyName text).filter fun (_, after) =>
    match after with
    | '\'' :: _ => false
    | '#' :: _ => text.take 2 == ['r', '#']
    | _ => true

/-- The token at the front of a source, brackets apart. -/
def scanToken (s : Source) : Option (Tree × Source) :=
  match scanLiteral s.text with
  | some (literal, rest) => some (.literal literal s.place, s.moveTo rest)
  | none =>
    match s.text with
    | '\'' :: rest =>
      (scanLifetime rest).map fun (name, after) =>
        -- a string literal after the apostrophe stays a token of its own
        if startsLiteral rest then (.punct '\'' true s.place, s.moveTo rest)
        else (.lifetime name s.place, s.moveTo after)
    | c :: rest =>
      if startsMark s.text then
        some (.punct c (startsMark rest) s.place, ⟨rest, s.place.next c⟩)
      else if startsLiteral s.text then none
      else
        (scanAnyName s.text).map fun (name, after) =>
          (.name name s.place, ⟨after, s.place.after name.written.toList⟩)
    | [] => none

end Source

/-! ## Trees -/

/-- A bracket that is open: its kind, its place and the trees before it, last one first. -/
structure OpenGroup where
  delimiter : Delimiter
  place : Position
  before : List Tree

/-- The trees of a source. `done` holds the finished trees of the innermost open group and
`groups` the open groups, innermost first; the first argument bounds the number of tokens. -/
def lexFrom : Nat → Source → List Tree → List OpenGroup → Except Position (List Tree)
  | 0, s, _, _ => .error s.place
  | n + 1, source, done, groups =>
    let s := Source.skipBlank (n + 1) source
    match Source.docComment s with
    | some (text, inner, after) =>
      lexFrom n after ((Source.docAttribute text inner s.place).reverse ++ done) groups
    | none =>
      match s.text with
      | [] =>
        match groups with
        | [] => .ok done.reverse
        | g :: _ => .error g.place
      | c :: rest =>
        match scanUnwritten s.text with
        | some after =>
          let tree := Tree.literal ⟨.unwritten, unwrittenText⟩ s.place
          lexFrom n (s.moveTo after) (tree :: done) groups
        | none =>
          match Delimiter.ofOpening? c with
          | some d => lexFrom n ⟨rest, s.place.next c⟩ [] (⟨d, s.place, done⟩ :: groups)
          | none =>
            match Delimiter.ofClosing? c with
            | some d =>
              match groups with
              | [] => .error s.place
              | g :: outer =>
                if g.delimiter = d then
                  let tree := Tree.group d done.reverse g.place s.place
                  lexFrom n ⟨rest, s.place.next c⟩ (tree :: g.before) outer
                else .error s.place
            | none =>
              match Source.scanToken s with
              | some (tree, after) => lexFrom n after (tree :: done) groups
              | none => .error s.place

/-- A text without the byte order mark it may begin with. -/
def dropByteOrderMark : List Char → List Char
  | c :: rest => if c.toNat = 0xfeff then rest else c :: rest
  | [] => []

/-- The token trees of a text, or the place where no token can be read. A byte order mark is
passed over, but takes its column. -/
def lex (text : List Char) : Except Position (List Tree) :=
  let body := dropByteOrderMark text
  lexFrom (body.length + 1) (Source.moveTo ⟨text, .start⟩ body) [] []

end Fieldwise.Token
