import Fieldwise.Grammar.Type
import Fieldwise.Token.Literal

set_option autoImplicit false

/-! # Reading patterns

`Rules.patternRule` reads one pattern, without alternatives, given the rules for the patterns
inside it. -/

namespace Fieldwise.Grammar

open Fieldwise.Token Fieldwise.Layout Fieldwise.Grammar.Parser

/-! ## Fields -/

/-- The number that the digits of a base stand for; what is no digit does not count. -/
def valueInBase (base : Nat) (digits : List Char) : Nat :=
  digits.foldl (fun value c => match hexValue? c with
    | some d => base * value + d
    | none => value) 0

/-- The number that an integer without a suffix stands for. -/
def integerValue (text : String) : Nat :=
  match text.toList with
  | '0' :: 'x' :: digits => valueInBase 16 digits
  | '0' :: 'o' :: digits => valueInBase 8 digits
  | '0' :: 'b' :: digits => valueInBase 2 digits
  | digits => valueInBase 10 digits

/-- A field of a value: a name, or the index of a tuple field. -/
inductive FieldLabel
  | name (n : Name)
  | index (i : Nat)

/-- Whether a field has a name. -/
def FieldLabel.isName : FieldLabel → Bool
  | .name _ => true
  | .index _ => false

/-- A field as it is printed. -/
def FieldLabel.written : FieldLabel → String
  | .name n => n.written
  | .index i => toString i

/-- The index of a tuple field that a literal stands for, or the rule that it breaks. -/
def indexOf (l : Literal) : Except String Nat :=
  match l.kind with
  | .integer true => .error "expected unsuffixed integer"
  | .integer false =>
    let value := integerValue l.text
    if value < UInt32.size then .ok value else .error "number too large to fit in target type"
  | _ => .error "expected integer literal"

/-- Reads a field of a value. -/
def fieldLabel : Parser FieldLabel := do
  match (← get).rest with
  | .literal ⟨.integer suffixed, text⟩ place :: _ =>
    match indexOf ⟨.integer suffixed, text⟩ with
    | .ok i => skip 1; pure (.index i)
    | .error rule => failAt place (.rule rule)
  | _ =>
    if ← ask .identifier then pure (.name (← identifier))
    else failHere (.rule "expected identifier or integer")

/-! ## Ranges -/

/-- The limits of a range. -/
inductive Limits
  | halfOpen
  | closed
  deriving DecidableEq

/-- The limits of a range as they are printed. -/
def Limits.written : Limits → String
  | .halfOpen => ".."
  | .closed => "..="

/-- Reads `..` or `..=`. -/
def limits : Parser Limits := do
  if ← punct? ['.', '.', '='] then return .closed
  if ← ask (.punct ['.', '.', '.']) then failExpected ["`..`", "`..=`"]
  punct ['.', '.']
  return .halfOpen

/-- Reads `..`, `..=` or `...`, as ranges were once written in patterns. -/
def patternLimits : Parser Limits := do
  if ← punct? ['.', '.', '='] then return .closed
  if ← punct? ['.', '.', '.'] then return .closed
  punct ['.', '.']
  return .halfOpen

/-- Whether a mark of alternatives comes next. -/
def alternativeAhead : Ahead := fun trees =>
  Ahead.punct ['|'] trees && !Ahead.punct ['|', '|'] trees && !Ahead.punct ['|', '='] trees

namespace Rules

/-- Reads a pattern with alternatives; a mark may stand before the first. -/
def alternatives (r : Rules) : Parser Pattern := do
  let leading ← punct? ['|']
  let first ← r.pattern
  let more ← collect do
    if ← ask alternativeAhead then
      punct ['|']
      return some (← r.pattern)
    else return none
  return if leading || !more.isEmpty then .alternatives (first :: more) else first

/-- Reads a block after the word `const`. -/
def constantBlock (r : Rules) : Parser Expr := do
  word "const"
  return .wordBlock .wordBlock "const " (← r.block)

/-- Reads the end of a range, if there is one. -/
def rangeEnd (r : Rules) : Parser (Option Expr) := do
  let ends : Ahead := .any [.finished, .punct ['|'], .punct ['='], colonAhead, .punct [','],
    .punct [';'], .word "if"]
  if ← ask ends then return none
  if ← ask .literal then return some (← literal)
  else if ← ask (.any [.identifier, .punct [':', ':'], .punct ['<'], .anyWord pathWords]) then
    return some (.path ((← r.qualifiedPath true).layout true) false)
  else if ← ask (.word "const") then return some (← r.constantBlock)
  else failExpected ["literal", "identifier", "`::`", "`<`", "`self`", "`Self`", "`super`",
    "`crate`", "`const`"]

/-- Reads the limits and the end of a range that has a start. -/
def rangeAfterStart (r : Rules) (start : Expr) : Parser Pattern := do
  match (← get).rest with
  | t :: _ =>
    let kind ← patternLimits
    let stop ← r.rangeEnd
    if stop.isNone ∧ kind = .closed then failHere (.rule "expected range upper bound")
    return ⟨if stop.isNone then .openRange t.place else .other,
      (Expr.range (some start) kind.written stop).layout⟩
  | [] => failExpected []

/-! ## Structs and tuples -/

/-- Reads one field of a struct pattern. -/
def fieldPattern (r : Rules) : Parser Doc := do
  let boxed ← word? "box"
  let reference ← spacedWord "ref"
  let mutable ← spacedWord "mut"
  let words := reference ++ mutable
  if boxed || words ≠ "" then
    let name ← identifier
    return if boxed then .hole else .word (words ++ name.written)
  let label ← fieldLabel
  if label.isName && !(← ask (.punct [':'])) then return .word label.written
  punct [':']
  return .word (label.written ++ ": ") ++ (← r.alternatives).layout

/-- Reads the fields of a struct pattern; dots may stand for the rest of them. -/
def structPattern (r : Rules) (path : Doc) : Parser Pattern := do
  let (fields, rest, _) ← iterate (fun (fields, rest, more) => do
    if !more || (← finished) then return none
    let attributes ← r.outerLayout
    if ← punct? ['.', '.'] then return some (fields, some (attributes ++ .word ".."), false)
    let fields := (attributes ++ (← r.fieldPattern)) :: fields
    if ← finished then return some (fields, rest, false)
    punct [',']
    return some (fields, rest, true)) (([] : List Doc), (none : Option Doc), true)
  return .record path fields.reverse rest

/-- Reads the inside of a pattern in parentheses: a single pattern, or those of a tuple. -/
def tuplePattern (r : Rules) : Parser Pattern := do
  let (items, trailing) ← iterate (fun (items, _) => do
    if ← finished then return none
    let item ← r.alternatives
    if ← finished then return some (item :: items, false)
    punct [',']
    return some (item :: items, true)) (([] : List Pattern), false)
  match items, trailing with
  | [p], false => return if p.isRest then .tuple [p] false else .plain (parenthesised p.layout)
  | items, trailing => return .tuple items.reverse trailing

/-- Reads the inside of a slice pattern. A range with an open end needs parentheses there. -/
def slicePattern (r : Rules) : Parser Pattern := do
  let items ← commaTerminated do
    let item ← r.alternatives
    match item.form with
    | .openRange dots =>
      failAt dots (.rule "range pattern is not allowed unparenthesized inside slice pattern")
    | _ => pure item
  return .slice items

/-! ## Patterns -/

/-- Reads a pattern that begins with a path. -/
def pathPattern (r : Rules) : Parser Pattern := do
  let path ← r.qualifiedPath true
  let layout := path.layout true
  if path.isPlain && (← ask bangAhead) then return .plain (← invocation layout).1
  if ← ask (.group .brace) then group .brace (r.structPattern layout)
  else if ← ask (.group .parenthesis) then
    return .tupleRecord layout (← group .parenthesis (commaTerminated r.alternatives))
  else if ← ask (.punct ['.', '.']) then r.rangeAfterStart (.path layout false)
  else return .plain layout

/-- Reads a name, perhaps with `ref` and `mut` before it and a pattern after `@`. -/
def bindingPattern (r : Rules) : Parser Pattern := do
  let reference ← spacedWord "ref"
  let mutable ← spacedWord "mut"
  let name ← if ← ask (.word "self") then anyName else identifier
  let inner ← if ← punct? ['@'] then pure (some (← r.pattern)) else pure none
  return .binding (reference ++ mutable ++ name.written) inner

/-- Reads a literal, a constant block, or a range that begins with one. -/
def valuePattern (r : Rules) : Parser Pattern := do
  let block ← ask (.word "const")
  match ← r.rangeEnd with
  | none => failExpected []
  | some start =>
    if ← ask (.punct ['.', '.']) then r.rangeAfterStart start
    else return ⟨if block then .other else .simple, start.layout⟩

/-- Reads a range pattern without a start, or the dots that stand for the rest. -/
def halfOpenPattern (r : Rules) : Parser Pattern := do
  match (← get).rest with
  | t :: _ =>
    let kind ← limits
    match ← r.rangeEnd, kind with
    | some stop, kind =>
      return ⟨.openRange t.place, (Expr.range none kind.written (some stop)).layout⟩
    | none, .halfOpen => return ⟨.rest, .word ".."⟩
    | none, .closed => failHere (.rule "expected range upper bound")
  | [] => failExpected []

/-- Whether a pattern that begins with a path comes next, rather than a name alone. -/
def pathPatternAhead : Ahead :=
  let afterName : Ahead := .any [.punct [':', ':'], .punct ['!'], .group .brace,
    .group .parenthesis, .punct ['.', '.']]
  .any
    [.and .identifier (.second afterName), .and (.word "self") (.second (.punct [':', ':'])),
     .punct [':', ':'], .punct ['<'], .anyWord ["Self", "super", "crate"]]

/-- Reads a pattern without alternatives, given the rules for what is inside it. -/
def patternRule (r : Rules) : Parser Pattern := do
  if ← ask pathPatternAhead then r.pathPattern
  else if ← word? "_" then return ⟨.simple, .word "_"⟩
  else if ← word? "box" then
    let _ ← r.pattern
    return .unprintable
  else if ← ask (.any [.punct ['-'], .literal, .word "const"]) then r.valuePattern
  else if ← ask (.or (.anyWord ["ref", "mut", "self"]) .identifier) then r.bindingPattern
  else if ← punct? ['&'] then
    let mutable ← spacedWord "mut"
    return .plain (.word ("&" ++ mutable) ++ (← r.pattern).layout)
  else if ← ask (.group .parenthesis) then group .parenthesis r.tuplePattern
  else if ← ask (.group .bracket) then group .bracket r.slicePattern
  else if ← ask (.butNot (.punct ['.', '.']) (.punct ['.', '.', '.'])) then r.halfOpenPattern
  else failExpected ["identifier", "`::`", "`<`", "`_`", "literal", "`const`", "`ref`", "`mut`",
    "`&`", "parentheses", "square brackets", "`..`"]

end Rules

end Fieldwise.Grammar
