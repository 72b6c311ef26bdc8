import Fieldwise.Layout.Doc
import Fieldwise.Token.Basic

set_option autoImplicit false

/-! # The layout of token trees

What an invocation of a rule set or an attribute holds is not read any further. Its trees are laid
out by rules of thumb that look at neighbours: `invocationTokens` for invocations and the
definitions of rule sets, `attributeTokens` for attributes. -/

namespace Fieldwise.Layout

open Fieldwise.Token

/-! ## Invocations -/

/-- What stands before a tree, as far as the gap between them depends on it. -/
inductive Before
  | nothing
  | dollar
  | dollarName
  | dollarNameColon
  | dollarGroup
  | dollarGroupSeparator
  | pound
  | poundBang
  | dot
  | colon
  | doubleColon
  | name
  | nameBang
  | closing
  | other
  deriving DecidableEq, Repr

/-- A tree, as far as gaps depend on it. A lifetime is its apostrophe and a name. -/
inductive TreeKind
  | name (plain : Bool)
  | literal
  | mark (c : Char) (joint : Bool)
  | group (d : Delimiter)
  deriving DecidableEq, Repr

/-- The names that gaps treat like marks. -/
def keywordNames : List String :=
  ["as", "async", "await", "box", "break", "const", "continue", "crate", "dyn", "else", "enum",
   "extern", "fn", "for", "if", "impl", "in", "let", "loop", "macro", "match", "mod", "move",
   "mut", "pub", "ref", "return", "static", "struct", "trait", "type", "unsafe", "use", "where",
   "while", "yield"]

/-- The kind of a name. -/
def TreeKind.ofName (n : Name) : TreeKind := .name (!keywordNames.contains n.written)

/-- Whether a gap stands before a tree, and what the tree is to the next one. A `matcher` is the
pattern of a rule. -/
def Before.next (matcher : Bool) (before : Before) (kind : TreeKind) : Bool × Before :=
  match before, kind with
  | .dollar, .name _ => (false, if matcher then .dollarName else .other)
  | .dollarName, .mark ':' false => (false, .dollarNameColon)
  | .dollarNameColon, .name _ => (false, .other)
  | .dollarGroup, .mark '+' false | .dollarGroup, .mark '*' false
  | .dollarGroup, .mark '?' false => (false, .other)
  | .dollarGroup, .name _ | .dollarGroup, .literal => (false, .dollarGroupSeparator)
  | .dollarGroup, .mark _ true => (false, .dollarGroup)
  | .dollarGroup, .mark _ false => (false, .dollarGroupSeparator)
  | .dollarGroupSeparator, .mark '+' _ | .dollarGroupSeparator, .mark '*' _ => (false, .other)
  | .pound, .mark '!' _ => (false, .poundBang)
  | .dollar, .group .parenthesis => (false, .dollarGroup)
  | .pound, .group .bracket | .poundBang, .group .bracket => (false, .other)
  | .name, .group .parenthesis | .name, .group .bracket => (false, .closing)
  | .name, .mark '!' false => (false, .nameBang)
  | .nameBang, .group .parenthesis | .nameBang, .group .bracket => (false, .other)
  | .colon, .mark ':' _ => (false, .doubleColon)
  | _, .group .parenthesis | _, .group .bracket => (true, .closing)
  | _, .group .brace => (true, .other)
  | before, .name true => (before != .dot && before != .doubleColon, .name)
  | before, .literal => (before != .dot, .name)
  | _, .mark ',' _ | _, .mark ';' _ => (false, .other)
  | before, .mark '.' _ =>
    if matcher then (true, .other) else (before != .name && before != .closing, .dot)
  | before, .mark ':' true => (before != .name, .colon)
  | _, .mark '$' _ => (true, .dollar)
  | _, .mark '#' _ => (true, .pound)
  | _, _ => (true, .other)

/-- How far trees have been laid out: what the last of them was, and whether it is joint to the
next. -/
structure Cursor where
  before : Before := .nothing
  joint : Bool := true

/-- The gap before a tree, and the cursor after it. -/
def Cursor.step (matcher : Bool) (c : Cursor) (kind : TreeKind) : Doc × Cursor :=
  let (wide, before) := c.before.next matcher kind
  let gap : Doc :=
    if c.joint then .empty
    else if wide then .spaceGap
    else
      match kind with
      | .mark '.' _ => .zeroGap
      | _ => .empty
  let joint := match kind with
    | .mark mark joint => joint || mark == '$'
    | _ => false
  (gap, ⟨before, joint⟩)

/-- A group from the layout of what it holds. -/
def groupLayout (d : Delimiter) (content : Doc) : Doc :=
  let inside : Doc := match content, d with
    | .empty, _ => .empty
    | content, .brace => .spaceGap ++ content ++ .spaceGap
    | content, _ => content
  .word d.opening.toString ++ inside ++ .word d.closing.toString

mutual

/-- The layout of the trees of an invocation. -/
def invocationTokens (matcher : Bool) (c : Cursor) : List Tree → Doc
  | [] => .empty
  | t :: rest =>
    let (layout, next) := invocationToken matcher c t
    layout ++ invocationTokens matcher next rest

/-- The layout of one tree of an invocation with the gap before it, and the cursor after it. -/
def invocationToken (matcher : Bool) (c : Cursor) : Tree → Doc × Cursor
  | .name n _ =>
    let (gap, next) := c.step matcher (.ofName n)
    (gap ++ .word n.written, next)
  | .lifetime n _ =>
    let (gap, middle) := c.step matcher (.mark '\'' true)
    let (_, next) := middle.step matcher (.ofName n)
    (gap ++ .word ("'" ++ n.written), next)
  | .punct mark joint _ =>
    let (gap, next) := c.step matcher (.mark mark joint)
    (gap ++ .word mark.toString, next)
  | .literal l _ =>
    let (gap, next) := c.step matcher .literal
    (gap ++ .word l.text, next)
  | .group d content _ _ =>
    let (gap, next) := c.step matcher (.group d)
    (gap ++ groupLayout d (invocationTokens matcher {} content), next)

end

/-- The inside of an invocation's brackets, on lines of their own if it does not fit. -/
def invocationInside (edge : Doc) (matcher : Bool) (content : List Tree) : Doc :=
  if content.isEmpty then .empty
  else
    .stack indentStep
      (edge ++ .fill 0 (invocationTokens matcher {} content) ++ edge).outdentLast

/-- An invocation of a rule set from its path and the name of what it defines. -/
def invocationLayout (path : Doc) (defined : Option Name) (d : Delimiter)
    (content : List Tree) : Doc :=
  let (opening, closing, edge) : String × String × Doc := match d with
    | .parenthesis => ("(", ")", .zeroGap)
    | .bracket => ("[", "]", .zeroGap)
    | .brace => (" \x7b", "\x7d", .lineEnd)
  path ++ .word "!"
    ++ (match defined with
      | some n => .word (" " ++ n.written)
      | none => .empty)
    ++ .word opening ++ invocationInside edge false content ++ .word closing

/-! ## Definitions of rule sets -/

/-- What is wanted next of a rule. -/
inductive RulePart
  | pattern
  | arrow
  | arrowTip
  | body
  | semicolon
  deriving DecidableEq, Repr

/-- The layout of rules: patterns and bodies with arrows between them. Rules that are not written
so cannot be printed. -/
def rulesLayout : RulePart → List Tree → Doc
  | .pattern, [] => .empty
  | .semicolon, [] => .word ";" ++ .lineEnd
  | _, [] => .lineEnd
  | .pattern, .group d content _ _ :: rest =>
    .word d.opening.toString ++ invocationInside .zeroGap true content
      ++ .word d.closing.toString ++ rulesLayout .arrow rest
  | .arrow, .punct '=' true _ :: rest => .word " =" ++ rulesLayout .arrowTip rest
  | .arrowTip, .punct '>' false _ :: rest => .word ">" ++ rulesLayout .body rest
  | .body, .group _ content _ _ :: rest =>
    .word " \x7b" ++ .noGap ++ invocationInside .lineEnd false content ++ .word "\x7d"
      ++ rulesLayout .semicolon rest
  | .semicolon, .punct ';' false _ :: rest => .word ";" ++ .lineEnd ++ rulesLayout .pattern rest
  | _, _ :: _ => .hole

/-- The definition of a rule set. -/
def ruleSetLayout (name : Name) (content : List Tree) : Doc :=
  .word ("macro_rules! " ++ name.written ++ " \x7b")
    ++ .stack indentStep (.optionalLineEnd ++ rulesLayout .pattern content).outdentLast
    ++ .word "\x7d"

/-! ## Attributes -/

/-- What stands before a tree of an attribute. -/
inductive AttributeBefore
  | word
  | mark
  | lastComma
  deriving DecidableEq, Repr

/-- The gap between two words. -/
def AttributeBefore.gap : AttributeBefore → Doc
  | .word => .spaceGap
  | _ => .empty

mutual

/-- The layout of the trees of an attribute, and what the last of them is. -/
def attributeTokens (before : AttributeBefore) : List Tree → Doc × AttributeBefore
  | [] => (.empty, before)
  | t :: rest =>
    let (first, next) := attributeToken before rest.isEmpty t
    let (others, final) := attributeTokens next rest
    (first ++ others, final)

/-- The layout of one tree of an attribute, and what it is to the next. -/
def attributeToken (before : AttributeBefore) (last : Bool) : Tree → Doc × AttributeBefore
  | .name n _ => (before.gap ++ .word n.written, .word)
  | .literal l _ => (before.gap ++ .word l.text, .word)
  | .lifetime n _ => (.word ("'" ++ n.written), .word)
  | .punct ',' _ _ =>
    if last then (.lastComma, .lastComma) else (.word "," ++ .spaceGap, .mark)
  | .punct '=' _ _ => (.word (if before = .word then " = " else "= "), .mark)
  | .punct mark _ _ => (.word mark.toString, .mark)
  | .group d content _ _ =>
    let (inside, final) := attributeTokens .mark content
    let layout : Doc := match d with
      | .parenthesis =>
        let ending : Doc := if final = .lastComma then .empty else .zeroGap
        .stack indentStep (.zeroGap ++ inside ++ ending).outdentLast
      | _ => inside
    (.word d.opening.toString ++ layout ++ .word d.closing.toString, .mark)

end

end Fieldwise.Layout
