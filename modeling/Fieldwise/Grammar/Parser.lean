import Fieldwise.Token.Basic

set_option autoImplicit false

/-! # Reading token trees

A `Parser` reads from an `Input`: the trees that are left of the current group. It fails with a
`Fault`, which says what was wrong and where. Three rules shape the faults:

* a fault lies at the next tree, or, where the group has ended, at its closing bracket; the end
  of the whole text has no place;
* trees that are left over in a group are no fault at once: the first of them is remembered and
  reported when all else has been read (`Parser.run`);
* `attempt` forgets whatever a failed reader did.
-/

namespace Fieldwise.Grammar

open Fieldwise.Token

/-! ## Faults -/

/-- What can be wrong with a text. -/
inductive Cause
  /-- The text is no list of tokens. -/
  | malformed
  /-- A complete text is followed by something else, in a group that the bracket closes. -/
  | leftover (inside : Option Delimiter)
  /-- None of the wanted things is there. -/
  | expected (wanted : List String)
  /-- A keyword stands where a name is wanted. -/
  | keyword (word : String)
  /-- A rule that words of its own explain. -/
  | rule (text : String)
  deriving DecidableEq, Repr

/-- A fault with its place; the end of the text has none. `early` says that a text or group
ended too early. -/
structure Fault where
  cause : Cause
  place : Option Position
  early : Bool
  deriving DecidableEq, Repr

namespace Fault

/-- The line a fault is reported on. -/
def line (f : Fault) : Nat :=
  match f.place with
  | some p => p.line
  | none => 1

/-- What was wanted, in words. -/
def wantedText : List String → String
  | [] => ""
  | [a] => "expected " ++ a
  | [a, b] => "expected " ++ a ++ " or " ++ b
  | many => "expected one of: " ++ ", ".intercalate many

/-- A fault in words. -/
def message (f : Fault) : String :=
  let located (text : String) := if f.early then "unexpected end of input, " ++ text else text
  match f.cause with
  | .malformed => "cannot parse string into token stream"
  | .leftover none => "unexpected token"
  | .leftover (some d) => "unexpected token, expected `" ++ d.closing.toString ++ "`"
  | .expected [] => if f.early then "unexpected end of input" else "unexpected token"
  | .expected wanted => located (wantedText wanted)
  | .keyword word => located ("expected identifier, found keyword `" ++ word ++ "`")
  | .rule text => located text

end Fault

/-! ## Looking ahead -/

/-- The words that are no names. -/
def keywords : List String :=
  ["_", "abstract", "as", "async", "await", "become", "box", "break", "const", "continue",
   "crate", "do", "dyn", "else", "enum", "extern", "false", "final", "fn", "for", "if", "impl",
   "in", "let", "loop", "macro", "match", "mod", "move", "mut", "override", "priv", "pub", "ref",
   "return", "Self", "self", "static", "struct", "super", "trait", "true", "try", "type",
   "typeof", "unsafe", "unsized", "use", "virtual", "where", "while", "yield"]

/-- Whether a name is no keyword; a raw name never is one. -/
def isIdentifier (n : Name) : Bool :=
  n.raw || !keywords.contains n.text

/-- A question about the next trees. -/
abbrev Ahead := List Tree → Bool

namespace Ahead

/-- An operator comes next: its marks without blanks between them. -/
def punct : List Char → Ahead
  | [], _ => true
  | [c], .punct mark _ _ :: _ => mark == c
  | c :: more, .punct mark joint _ :: rest => mark == c && joint && punct more rest
  | _, _ => false

/-- A certain word comes next. -/
def word (text : String) : Ahead
  | .name n _ :: _ => !n.raw && n.text == text
  | _ => false

/-- One of several words comes next. -/
def anyWord (texts : List String) : Ahead := fun trees => texts.any fun text => word text trees

/-- A name comes next that is no keyword. -/
def identifier : Ahead
  | .name n _ :: _ => isIdentifier n
  | _ => false

/-- A name or keyword comes next. -/
def anyName : Ahead
  | .name _ _ :: _ => true
  | _ => false

/-- A lifetime comes next. -/
def lifetime : Ahead
  | .lifetime _ _ :: _ => true
  | _ => false

/-- A group comes next. -/
def group (d : Delimiter) : Ahead
  | .group kind _ _ _ :: _ => kind == d
  | _ => false

/-- A group of any kind comes next. -/
def anyGroup : Ahead
  | .group _ _ _ _ :: _ => true
  | _ => false

/-- A literal comes next: a token of that kind, a truth value, or a negative number. -/
def literal : Ahead
  | .literal _ _ :: _ => true
  | .name n _ :: _ => !n.raw && (n.text == "true" || n.text == "false")
  | .punct '-' _ _ :: .literal ⟨.integer _, _⟩ _ :: _ => true
  | .punct '-' _ _ :: .literal ⟨.float, _⟩ _ :: _ => true
  | _ => false

/-- A string literal comes next. -/
def string : Ahead
  | .literal ⟨.string _, _⟩ _ :: _ => true
  | _ => false

/-- Nothing is left. -/
def finished : Ahead := List.isEmpty

/-- The question about what follows the next tree. -/
def second (ask : Ahead) : Ahead := fun trees => ask trees.tail

/-- The question about what follows the next two trees. -/
def third (ask : Ahead) : Ahead := fun trees => ask trees.tail.tail

/-- Both questions are answered yes. -/
def and (ask other : Ahead) : Ahead := fun trees => ask trees && other trees

/-- One of two questions is answered yes. -/
def or (ask other : Ahead) : Ahead := fun trees => ask trees || other trees

/-- A question is answered no. -/
def not (ask : Ahead) : Ahead := fun trees => !ask trees

/-- The first question is answered yes and the second no. -/
def butNot (ask other : Ahead) : Ahead := fun trees => ask trees && !other trees

/-- One of several questions is answered yes. -/
def any (questions : List Ahead) : Ahead := fun trees => questions.any fun ask => ask trees

end Ahead

/-! ## Parsers -/

/-- What a parser reads from. -/
structure Input where
  /-- What is left of the current group. -/
  rest : List Tree
  /-- The closing bracket of the current group. -/
  limit : Option Position
  /-- The first tree left over in a group that has been read, and the kind of that group. -/
  stray : Option (Position × Delimiter)
  /-- Whether the last tree read was a group in braces. -/
  afterBrace : Bool

/-- A reader of token trees. -/
abbrev Parser := StateT Input (Except Fault)

namespace Parser

/-- The fault of a cause at the next tree. -/
def faultHere (cause : Cause) (s : Input) : Fault :=
  match s.rest with
  | t :: _ => ⟨cause, some t.place, false⟩
  | [] => ⟨cause, s.limit, true⟩

/-- Fails at the next tree. -/
def failHere {α : Type} (cause : Cause) : Parser α := fun s => .error (faultHere cause s)

/-- Fails at a place. -/
def failAt {α : Type} (place : Position) (cause : Cause) : Parser α :=
  fun _ => .error ⟨cause, some place, false⟩

/-- Fails at a place, or at the end of the text. -/
def failFrom {α : Type} (place : Option Position) (cause : Cause) : Parser α :=
  fun _ => .error ⟨cause, place, false⟩

/-- Fails because none of the wanted things comes next. -/
def failExpected {α : Type} (wanted : List String) : Parser α := failHere (.expected wanted)

/-- The answer to a question about the next trees. -/
def ask (question : Ahead) : Parser Bool := fun s => .ok (question s.rest, s)

/-- The place of the next tree, or where the group ends. -/
def here : Parser (Option Position) := fun s =>
  .ok (match s.rest with | t :: _ => some t.place | [] => s.limit, s)

/-- Passes over `n` trees. -/
def skip (n : Nat) : Parser Unit := fun s =>
  let braced := match (s.rest.take n).getLast? with
    | some (.group .brace _ _ _) => true
    | _ => false
  .ok ((), { s with rest := s.rest.drop n, afterBrace := braced })

/-- An operator in quotation, for a message. -/
def quoted (text : String) : String := "`" ++ text ++ "`"

/-- Reads an operator. -/
def punct (marks : List Char) : Parser Unit := do
  if ← ask (.punct marks) then skip marks.length
  else failExpected [quoted (String.ofList marks)]

/-- Reads an operator if it comes next, and says whether it did. -/
def punct? (marks : List Char) : Parser Bool := do
  if ← ask (.punct marks) then skip marks.length; pure true
  else pure false

/-- Reads a word. -/
def word (text : String) : Parser Unit := do
  if ← ask (.word text) then skip 1
  else failExpected [quoted text]

/-- Reads a word if it comes next, and says whether it did. -/
def word? (text : String) : Parser Bool := do
  if ← ask (.word text) then skip 1; pure true
  else pure false

/-- Reads any name, keywords included. -/
def anyName : Parser Name := do
  match (← get).rest with
  | .name n _ :: _ => skip 1; pure n
  | _ => failExpected ["identifier"]

/-- Reads a name that is no keyword. -/
def identifier : Parser Name := do
  match (← get).rest with
  | .name n _ :: _ => if isIdentifier n then skip 1; pure n else failHere (.keyword n.text)
  | _ => failExpected ["identifier"]

/-- Reads a name with its place. -/
def placedIdentifier : Parser (Name × Position) := do
  match (← get).rest with
  | t :: _ => let n ← identifier; pure (n, t.place)
  | [] => failExpected ["identifier"]

/-- Reads a lifetime. -/
def lifetime : Parser Name := do
  match (← get).rest with
  | .lifetime n _ :: _ => skip 1; pure n
  | _ => failExpected ["lifetime"]

/-- The kind of a bracket in words. -/
def bracketText : Delimiter → String
  | .parenthesis => "parentheses"
  | .bracket => "square brackets"
  | .brace => "curly braces"

/-- Reads a group with a reader of its content. What that leaves is remembered. -/
def group {α : Type} (d : Delimiter) (content : Parser α) : Parser α := fun s =>
  match s.rest with
  | .group kind inner _ closing :: rest =>
    if kind = d then
      match content { rest := inner, limit := some closing, stray := s.stray,
                      afterBrace := false } with
      | .error fault => .error fault
      | .ok (a, after) =>
        let stray := match after.stray, after.rest with
          | some found, _ => some found
          | none, t :: _ => some (t.place, d)
          | none, [] => none
        .ok (a, { s with rest, stray, afterBrace := d == .brace })
    else .error (faultHere (.expected [bracketText d]) s)
  | _ => .error (faultHere (.expected [bracketText d]) s)

/-- Reads a group of any kind, whatever it holds, and gives its kind and content. -/
def anyGroup : Parser (Delimiter × List Tree) := do
  match (← get).rest with
  | .group d content _ _ :: _ => skip 1; pure (d, content)
  | _ => failHere (.rule "expected delimiter")

/-- Passes over all that is left of the group. -/
def skipAll : Parser Unit := fun s => .ok ((), { s with rest := [] })

/-- Whether the group has ended. -/
def finished : Parser Bool := ask .finished

/-- Reads something, or reads nothing if that fails. -/
def attempt {α : Type} (p : Parser α) : Parser (Option α) := fun s =>
  match p s with
  | .ok (a, after) => .ok (some a, after)
  | .error _ => .ok (none, s)

/-- What a reader gives, without reading it. -/
def ahead {α : Type} (p : Parser α) : Parser α := fun s =>
  match p s with
  | .ok (a, _) => .ok (a, s)
  | .error fault => .error fault

/-! ## Repetition -/

/-- The results of a reader until it gives none, at most so many times. -/
def collectUpTo {α : Type} (step : Parser (Option α)) : Nat → Parser (List α)
  | 0 => pure []
  | n + 1 => do
    match ← step with
    | none => pure []
    | some a => return a :: (← collectUpTo step n)

/-- The results of a reader until it gives none. The reader reads a tree whenever it gives
something, so that the number of trees is bound enough. -/
def collect {α : Type} (step : Parser (Option α)) : Parser (List α) := fun s =>
  collectUpTo step (s.rest.length + 1) s

/-- Passes a value through a reader until that gives none, at most so many times. -/
def iterateUpTo {α : Type} (step : α → Parser (Option α)) : Nat → α → Parser α
  | 0, a => pure a
  | n + 1, a => do
    match ← step a with
    | none => pure a
    | some next => iterateUpTo step n next

/-- Passes a value through a reader until that gives none. The reader reads a tree whenever it
gives something. -/
def iterate {α : Type} (step : α → Parser (Option α)) (a : α) : Parser α := fun s =>
  iterateUpTo step (s.rest.length + 1) a s

/-- Items up to the end of the group, with a comma after each; the last may do without. -/
def commaTerminated {α : Type} (item : Parser α) : Parser (List α) :=
  collect do
    if ← finished then return none
    let a ← item
    if !(← finished) then punct [',']
    return some a

/-- Items up to a closing mark, which is not read, with a separator between any two; one may
stand before the mark. -/
def separatedBefore {α : Type} (stop : Ahead) (separator : List Char) (item : Parser α) :
    Parser (List α) :=
  collect do
    if ← ask stop then return none
    let a ← item
    if !(← ask stop) then punct separator
    return some a

/-- Items up to a closing mark, with a separator after each but the last. The items also end
where no separator follows. -/
def separatedWhile {α : Type} (stop : Ahead) (separator : List Char) (item : Parser α) :
    Parser (List α) := do
  let (items, _) ← iterate (fun (items, more) => do
    if !more then return none
    if ← ask stop then return none
    let a ← item
    let more ← punct? separator
    return some (a :: items, more)) (([] : List α), true)
  return items.reverse

/-- Items up to the end of the group. -/
def untilFinished {α : Type} (item : Parser α) : Parser (List α) :=
  collect do
    if ← finished then return none
    return some (← item)

/-! ## Whole texts -/

/-- Reads all of a list of trees. What is left over, inside a group first, is a fault. -/
def run {α : Type} (p : Parser α) (trees : List Tree) : Except Fault α :=
  match p { rest := trees, limit := none, stray := none, afterBrace := false } with
  | .error fault => .error fault
  | .ok (a, after) =>
    match after.stray, after.rest with
    | some (place, d), _ => .error ⟨.leftover (some d), some place, false⟩
    | none, t :: _ => .error ⟨.leftover none, some t.place, false⟩
    | none, [] => .ok a

end Parser

end Fieldwise.Grammar
