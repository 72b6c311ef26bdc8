import Fieldwise.Grammar.Path

set_option autoImplicit false

/-! # Reading types and where clauses

`Rules.typeRule` reads one type given the rules for the types inside it. -/

namespace Fieldwise.Grammar

open Fieldwise.Token Fieldwise.Layout Fieldwise.Grammar.Parser

/-- What may begin a type, in words. -/
def typeStarts : List String :=
  ["`for`", "parentheses", "`fn`", "`unsafe`", "`extern`", "identifier", "`::`", "`<`", "`dyn`",
   "square brackets", "`*`", "`&`", "`!`", "`impl`", "`_`", "lifetime"]

/-- Whether a bound may follow a `+`. -/
def boundAhead : Ahead :=
  .any [.anyName, .punct [':', ':'], .punct ['?'], .lifetime, .group .parenthesis]

/-- Whether a colon comes next that begins no `::`. -/
def colonAhead : Ahead := .butNot (.punct [':']) (.punct [':', ':'])

/-- Reads a string literal if it comes next, as it was written. -/
def string? : Parser (Option String) := do
  match (← get).rest with
  | .literal l _ :: _ => if ← ask .string then skip 1; pure (some l.text) else pure none
  | _ => pure none

/-- A calling convention as it is printed, before a blank. -/
def conventionText : Option String → String
  | some name => "extern " ++ name ++ " "
  | none => "extern "

/-- Reads `extern` and the name of a calling convention, if they come next, as they are
printed. -/
def convention : Parser String := do
  if ← word? "extern" then return conventionText (← string?) else return ""

/-- Reads a word if it comes next, as it is printed before something else. -/
def spacedWord (text : String) : Parser String := do
  if ← word? text then return text ++ " " else return ""

namespace Rules

/-! ## Bounds of a type -/

/-- Reads bounds with `+` between them, just one if no `+` is allowed. A `+` may be left at the
end. -/
def boundList (r : Rules) (allowPlus allowCapture allowConst : Bool) : Parser (List Bound) := do
  let next := if allowConst then
      Ahead.any [boundAhead, .group .bracket, .word "const"] else boundAhead
  let (bounds, _) ← iterate (fun (bounds, more) => do
    if !more then return none
    let b ← r.bound allowCapture allowConst
    let plus ← if allowPlus then punct? ['+'] else pure false
    let more ← ask next
    return some (b :: bounds, plus && more)) (([] : List Bound), true)
  return bounds.reverse

/-- Reads the bounds of a trait object; one of them is a trait. -/
def objectBounds (r : Rules) (start : Option Position) (allowPlus : Bool) :
    Parser (List Bound) := do
  let bounds ← r.boundList allowPlus false false
  if bounds.any Bound.isTrait then return bounds
  else failFrom start (.rule "at least one trait is required for an object type")

/-- Reads the bounds that follow a first one and a `+`. -/
def addedBounds (r : Rules) : Parser (List Bound × Bool) := do
  let (bounds, plus) ← iterate (fun (bounds, plus) => do
    if plus then return none
    if ← punct? ['+'] then
      if ← ask boundAhead then return some ((← r.bound false false) :: bounds, false)
      else return some (bounds, true)
    else return none) (([] : List Bound), false)
  return (bounds.reverse, plus)

/-! ## Function types -/

/-- Reads one argument of a function type after its attributes. A value of its own that may change
cannot be printed. -/
def functionTypeArgument (r : Rules) (allowSelf : Bool) : Parser Doc := do
  let mutSelf : Ahead := .and (.word "mut") (.second (.word "self"))
  let hasMutSelf ← if allowSelf then ask mutSelf else pure false
  if hasMutSelf then word "mut"
  let hasSelf ← if allowSelf then ask (.and (.word "self") (.second colonAhead)) else pure false
  let named ← ask (.and (.any [.identifier, .word "_"]) (.second colonAhead))
  let label ←
    if named || hasSelf then
      let name ← anyName
      punct [':']
      pure (Doc.word (name.written ++ ": "))
    else pure .empty
  if allowSelf && !hasSelf && (← ask mutSelf) then
    skip 2
    return .hole
  else if hasMutSelf && !(named || hasSelf) then
    word "self"
    return .hole
  else
    let t ← r.type true
    return if hasMutSelf then .hole else label ++ t.layout

/-- Whether the dots that stand for more arguments come next, perhaps with a name. -/
def variadicAhead : Ahead := fun trees =>
  Ahead.punct ['.', '.', '.'] trees
    || ((Ahead.identifier trees || Ahead.word "_" trees)
      && Ahead.second (.punct [':']) trees && Ahead.third (.punct ['.', '.', '.']) trees)

/-- Reads the dots that stand for more arguments of a function type. -/
def variadicType : Parser Doc := do
  let label ←
    if ← ask .anyName then
      let name ← anyName
      punct [':']
      pure (name.written ++ ": ")
    else pure ""
  punct ['.', '.', '.']
  let _ ← punct? [',']
  return .word (label ++ "...")

/-- Reads the arguments of a function type; dots may stand for more of them. -/
def functionTypeArguments (r : Rules) : Parser (List Doc × Option Doc) := do
  let (inputs, dots, _) ← iterate (fun (inputs, dots, more) => do
    if !more || (← finished) then return none
    let attributes ← r.outerLayout
    if ← ask variadicAhead then
      return some (inputs, some (attributes ++ (← variadicType)), false)
    let input ← r.functionTypeArgument inputs.isEmpty
    let inputs := (attributes ++ input) :: inputs
    if ← finished then return some (inputs, dots, false)
    punct [',']
    return some (inputs, dots, true)) (([] : List Doc), (none : Option Doc), true)
  return (inputs.reverse, dots)

/-- A function type as it is printed. -/
def functionTypeLayout (head : Doc) (inputs : List Doc) (dots : Option Doc)
    (result : Option TypeExpr) : Doc :=
  let listed : Doc := match dots with
    | none => .commaItems .lastComma inputs
    | some dots => .commaItems (.word "," ++ .spaceGap) inputs ++ dots ++ .zeroGap
  head ++ .word "fn(" ++ .stack indentStep (.zeroGap ++ listed).outdentLast ++ .word ")"
    ++ resultLayout result

/-- Reads a function type after the parameters that it binds. -/
def functionType (r : Rules) (outer : Option Doc) : Parser TypeExpr := do
  let safety ← spacedWord "unsafe"
  let convention ← convention
  word "fn"
  let (inputs, dots) ← group .parenthesis r.functionTypeArguments
  let result ← r.resultType false
  let head := outer.getD .empty ++ .word (safety ++ convention)
  return .plain (functionTypeLayout head inputs dots result)

/-! ## Types in parentheses -/

/-- What a group in parentheses holds: a finished type, or the first type of one that a `+` after
the group may extend. -/
inductive Parenthesised
  | done (t : TypeExpr)
  | maybeBound (layout : Doc)
  | single (t : TypeExpr)

/-- Reads the inside of a type in parentheses. -/
def parenthesisedInside (r : Rules) : Parser Parenthesised := do
  if ← finished then return .done (.plain (.tupled []))
  if ← ask .lifetime then
    let bounds ← r.objectBounds (← here) true
    return .done (.plain (parenthesised (objectLayout (bounds.map Bound.layout))))
  if ← ask (.punct ['?']) then return .maybeBound (← r.traitBound false)
  let first ← r.type true
  if ← punct? [','] then
    let more ← commaTerminated (r.type true)
    return .done (.plain (.tupled ((first :: more).map TypeExpr.layout)))
  return .single first

/-- Reads a type in parentheses, and the bounds after it. -/
def parenthesisedType (r : Rules) (allowPlus : Bool) : Parser TypeExpr := do
  let extended (first : Doc) : Parser TypeExpr := do
    let bounds ← collect do
      if ← punct? ['+'] then return some (← r.bound false false).layout else return none
    return ⟨if bounds.isEmpty then .bound first else .other,
      objectLayout (parenthesised first :: bounds)⟩
  match ← group .parenthesis r.parenthesisedInside with
  | .done t => return t
  | .maybeBound layout => extended layout
  | .single t =>
    let plus ← ask (.punct ['+'])
    match t.form, allowPlus && plus with
    | .path p, true => extended (p.layout false)
    | .bound layout, true => extended layout
    | _, _ => return .plain (parenthesised t.layout)

/-! ## Types that begin with a path -/

/-- Reads a type that begins with a path: the path itself, an invocation of a rule set, or
bounds. -/
def pathType (r : Rules) (outer : Option Doc) (allowPlus : Bool) : Parser TypeExpr := do
  let path ← r.qualifiedPath false
  if path.qualifier.isSome then return .plain (path.layout false)
  if path.isPlain && (← ask bangAhead) then
    return .plain (← invocation (path.layout false)).1
  if outer.isSome || (allowPlus && (← ask (.punct ['+']))) then
    let (bounds, plus) ← if allowPlus then r.addedBounds else pure ([], false)
    let first := outer.getD .empty ++ path.layout false
    return ⟨if bounds.isEmpty && !plus then .bound first else .other,
      objectLayout (first :: bounds.map Bound.layout)⟩
  return ⟨.path path.path, path.layout false⟩

/-! ## Types -/

/-- Reads a type that the compiler builds in, which cannot be printed. -/
def builtInType : Parser TypeExpr := do
  skip 2
  let _ ← identifier
  group .parenthesis skipAll
  return .plain .hole

/-- Reads a type of brackets around others: an array or a slice. -/
def bracketType (r : Rules) : Parser TypeExpr :=
  group .bracket do
    let item ← r.type true
    let length ←
      if ← punct? [';'] then pure (.word "; " ++ (← r.expr true).layout) else pure Doc.empty
    return .plain (.word "[" ++ item.layout ++ length ++ .word "]")

/-- Reads the word that says what a pointer may do, and says whether it may change things. -/
def pointerMutability : Parser Bool := do
  if ← word? "const" then return false
  else if ← word? "mut" then return true
  else failExpected ["`const`", "`mut`"]

/-- Reads a pointer. -/
def pointerType (r : Rules) : Parser TypeExpr := do
  punct ['*']
  let mutable ← pointerMutability
  return .plain (.word (if mutable then "*mut " else "*const ") ++ (← r.type false).layout)

/-- Reads a reference. -/
def referenceType (r : Rules) : Parser TypeExpr := do
  punct ['&']
  let region ← if ← ask .lifetime then pure (lifetimeText (← lifetime) ++ " ") else pure ""
  let mutable ← spacedWord "mut"
  return .plain (.word ("&" ++ region ++ mutable) ++ (← r.type false).layout)

/-- Reads a trait object after the word `dyn`. -/
def dynType (r : Rules) (allowPlus : Bool) : Parser TypeExpr := do
  let start ← here
  word "dyn"
  let star ← punct? ['*']
  let bounds ← r.objectBounds start allowPlus
  return .plain (if star then .hole else objectLayout (bounds.map Bound.layout))

/-- Reads a type of which just the bounds are given. -/
def implType (r : Rules) (allowPlus : Bool) : Parser TypeExpr := do
  let start ← here
  word "impl"
  let bounds ← r.boundList allowPlus true true
  if bounds.any Bound.isTrait then
    return .plain (.word "impl " ++ plusSeparated (bounds.map Bound.layout))
  else failFrom start (.rule "at least one trait must be specified")

/-- Reads a type, given the rules for what is inside it. -/
def typeRule (r : Rules) (allowPlus : Bool) : Parser TypeExpr := do
  let outer ← r.binder
  if outer.isSome then
    let starts : Ahead := .any
      [.identifier, .anyWord ["fn", "unsafe", "extern", "super", "self", "Self", "crate"]]
    if !(← ask starts) then
      failExpected ["identifier", "`fn`", "`unsafe`", "`extern`", "`super`", "`self`", "`Self`",
        "`crate`"]
  if ← ask (.group .parenthesis) then r.parenthesisedType allowPlus
  else if ← ask (.anyWord ["fn", "unsafe", "extern"]) then r.functionType outer
  else if ← ask (.and (.word "builtin") (.second (.punct ['#']))) then builtInType
  else if ← ask (.any
      [.identifier, .anyWord pathWords, .punct [':', ':'], .punct ['<']]) then
    r.pathType outer allowPlus
  else if ← ask (.word "dyn") then r.dynType allowPlus
  else if ← ask (.group .bracket) then r.bracketType
  else if ← ask (.punct ['*']) then r.pointerType
  else if ← ask (.punct ['&']) then r.referenceType
  else if ← ask (.butNot (.punct ['!']) (.punct ['='])) then
    punct ['!']
    return .plain (.word "!")
  else if ← ask (.word "impl") then r.implType allowPlus
  else if ← word? "_" then return .plain (.word "_")
  else if ← ask .lifetime then
    return .plain (objectLayout ((← r.objectBounds (← here) true).map Bound.layout))
  else failExpected typeStarts

/-! ## Where clauses -/

/-- What ends a where clause and its bounds. -/
def whereEnds : Ahead :=
  .any [.finished, .group .brace, .punct [','], .punct [';'], colonAhead, .punct ['=']]

/-- Reads one condition of a where clause. -/
def whereCondition (r : Rules) : Parser Doc := do
  if ← ask (.and .lifetime (.second (.punct [':']))) then
    let subject := lifetimeText (← lifetime)
    punct [':']
    let bounds ← separatedWhile (.or whereEnds (.punct [':'])) ['+'] lifetime
    return lifetimeCondition (.word subject) (bounds.map fun n => .word (lifetimeText n))
  else
    let outer ← r.binder
    let subject ← r.type true
    punct [':']
    let bounds ← separatedWhile whereEnds ['+'] (r.bound false true)
    return typeCondition (outer.getD .empty ++ subject.layout) (bounds.map Bound.layout)

/-- Reads a where clause, if there is one, and gives its conditions. -/
def whereClause? (r : Rules) : Parser (Option (List Doc)) := do
  if !(← word? "where") then return none
  if ← ask parametersAhead then
    failHere (.rule "generic parameters on `where` clauses are reserved for future use")
  return some (← separatedWhile whereEnds [','] r.whereCondition)

/-- Reads the conditions of a where clause; there are none without one. -/
def whereClause (r : Rules) : Parser (List Doc) := do
  return (← r.whereClause?).getD []

end Rules

end Fieldwise.Grammar
