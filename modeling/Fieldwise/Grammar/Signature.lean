import Fieldwise.Grammar.Statement

set_option autoImplicit false

/-! # Reading what items have in common

The visibility before an item, the head of a function, and type aliases and constants, which also
stand inside of traits and implementations. -/

namespace Fieldwise.Grammar

open Fieldwise.Token Fieldwise.Layout Fieldwise.Grammar.Parser

/-! ## Visibility -/

/-- Whether a scope in parentheses comes next that begins with `in`. -/
def inScopeAhead : Ahead
  | .group .parenthesis content _ _ :: _ => Ahead.word "in" content
  | _ => false

/-- The words that are a scope by themselves. -/
def scopeWords : List String := ["crate", "self", "super"]

/-- Whether a scope of one word in parentheses comes next. -/
def wordScopeAhead : Ahead
  | .group .parenthesis [.name n place] _ _ :: _ => Ahead.anyWord scopeWords [.name n place]
  | _ => false

/-- The path of a scope as text. -/
def scopeText (path : PlainPath) : String :=
  let names := " :: ".intercalate (path.names.map Name.written)
  "in " ++ (if path.leading then ":: " ++ names else names)

/-- The path of a scope as it is printed. A word that is a scope by itself needs no `in`. -/
def scopeLayout (path : PlainPath) : Doc :=
  if scopeWords.any path.isWord then path.layout else .word "in " ++ path.layout

/-- Reads `pub` and the scope that may follow it, or nothing. Also gives how they are printed. A
group that is no scope is left: it may be the type of a tuple field. -/
def visibility : Parser (Visibility × Doc) := do
  if !(← word? "pub") then return (.inherited, .empty)
  if ← ask inScopeAhead then
    let path ← group .parenthesis do
      word "in"
      plainPath
    let v : Visibility := .restricted (scopeText path)
    return (v, visibilityLayout v (scopeLayout path))
  if ← ask wordScopeAhead then
    let name ← group .parenthesis anyName
    let v : Visibility := .restricted name.text
    return (v, visibilityLayout v (.word name.text))
  return (.unrestricted, visibilityLayout .unrestricted .empty)

/-- The visibility that comes next, and what follows it. -/
def visibilityAhead : Parser (Visibility × List Tree) :=
  ahead do
    let (v, _) ← visibility
    return (v, (← get).rest)

/-! ## Names and invocations -/

/-- Reads a name or an underscore. -/
def nameOrUnderscore : Parser Name := do
  if ← ask (.or .identifier (.word "_")) then anyName
  else failExpected ["identifier", "`_`"]

/-- What may begin an invocation of a rule set, in words. -/
def invocationStarts : List String := ["identifier", "`self`", "`super`", "`crate`", "`::`"]

/-- Whether an invocation of a rule set may come next. -/
def invocationStart : Ahead :=
  .any [.identifier, .anyWord ["self", "super", "crate"], .punct [':', ':']]

/-- Reads an invocation of a rule set as an item; only braces end it by themselves. -/
def invocationItem : Parser Doc := do
  let path ← plainPath
  let (layout, braced) ← Rules.invocation path.layout
  if braced then return layout ++ .lineEnd
  punct [';']
  return layout ++ .word ";" ++ .lineEnd

/-! ## Functions -/

/-- What follows a word that may come next. -/
def pastWord (text : String) (trees : List Tree) : List Tree :=
  if Ahead.word text trees then trees.tail else trees

/-- Whether a function comes next. -/
def signatureAhead (allowSafe : Bool) : Ahead := fun trees =>
  let trees := pastWord "async" (pastWord "const" trees)
  let trees :=
    if allowSafe && Ahead.word "safe" trees then trees.tail else pastWord "unsafe" trees
  let trees :=
    if Ahead.word "extern" trees then
      if Ahead.string trees.tail then trees.tail.tail else trees.tail
    else trees
  Ahead.word "fn" trees

/-- The head of a function: its name, how it is printed, and the conditions that follow. -/
structure Signature where
  name : Name
  layout : Doc
  conditions : List Doc

/-- A function with a body as it is printed. -/
def Signature.bodied (s : Signature) (head : Doc) (b : Block) : Doc :=
  Grammar.bodied (head ++ s.layout ++ whereLines false s.conditions)
    (b.attributes ++ Statement.layoutAll b.statements)

/-- A function without a body as it is printed. -/
def Signature.bodiless (s : Signature) (head : Doc) : Doc :=
  lineItem indentStep (head ++ s.layout ++ whereLines true s.conditions)

/-- Whether `self` comes next as an argument, rather than a path that begins with it. -/
def receiverAhead : Ahead := fun trees =>
  let trees :=
    if Ahead.punct ['&'] trees then
      if Ahead.lifetime trees.tail then trees.tail.tail else trees.tail
    else trees
  Ahead.butNot (.word "self") (.second (.punct [':', ':'])) (pastWord "mut" trees)

namespace Rules

/-- Reads `self` as the first argument of a method. Also gives where it stands. -/
def receiver (r : Rules) : Parser (Position × Doc) := do
  let reference ← punct? ['&']
  let region ←
    if reference && (← ask .lifetime) then pure (lifetimeText (← lifetime) ++ " ") else pure ""
  let mutable ← spacedWord "mut"
  let place ← match (← get).rest with
    | t :: _ => pure t.place
    | [] => failExpected ["`self`"]
  word "self"
  let head := (if reference then "&" else "") ++ region ++ mutable ++ "self"
  if reference then return (place, .word head)
  else if ← punct? [':'] then
    return (place, .word (head ++ ": ") ++ (← r.type true).layout)
  else return (place, .word head)

/-- An argument of a function, or the dots that stand for more of them. -/
inductive Argument
  | receiver (place : Position) (layout : Doc)
  | typed (layout : Doc)
  | dots (layout : Doc)

/-- Reads an argument of a function after its attributes. A type may stand for an argument
without a name. -/
def argumentOf (r : Rules) : Parser Argument := do
  if ← punct? ['.', '.', '.'] then return .dots (.word "...")
  if ← ask receiverAhead then
    let (place, layout) ← r.receiver
    return .receiver place layout
  if ← ask (.and .identifier (.second (.punct ['<']))) then
    return .typed (.word "_: " ++ (← r.type true).layout)
  let pattern ← r.pattern
  punct [':']
  let head := pattern.layout ++ .word ": "
  if ← punct? ['.', '.', '.'] then return .dots (head ++ .word "...")
  return .typed (head ++ (← r.type true).layout)

/-- The arguments of a function that have been read, the last one first, and the dots that ended
them. -/
structure ArgumentList where
  items : List Doc := []
  dots : Option Doc := none
  received : Bool := false
  more : Bool := true

/-- Reads the arguments of a function. Dots may stand for more of them, and `self` may only be
the first. -/
def functionArguments (r : Rules) : Parser ArgumentList :=
  iterate (fun (found : ArgumentList) => do
    if !found.more || (← finished) then return none
    let attributes ← r.outerLayout
    let next (layout : Doc) (received : Bool) : Parser (Option ArgumentList) := do
      let items := (attributes ++ layout) :: found.items
      let ended ← finished
      if !ended then punct [',']
      return some { found with items, received, more := !ended }
    match ← r.argumentOf with
    | .dots layout =>
      if !(← finished) then punct [',']
      return some { found with dots := some (attributes ++ layout), more := false }
    | .receiver place layout =>
      if found.received then failAt place (.rule "unexpected second method receiver")
      if !found.items.isEmpty then failAt place (.rule "unexpected method receiver")
      next layout true
    | .typed layout => next layout found.received) {}

/-- Reads the head of a function. One that is marked as safe cannot be printed. -/
def signature (r : Rules) (allowSafe : Bool) : Parser Signature := do
  let const ← spacedWord "const"
  let async ← spacedWord "async"
  let safety ← spacedWord "unsafe"
  let safe ← if allowSafe && safety = "" then word? "safe" else pure false
  let convention ← convention
  word "fn"
  let name ← identifier
  let generics ← r.parameters
  let found ← group .parenthesis r.functionArguments
  let result ← r.resultType true
  let conditions ← r.whereClause
  let layout := signatureLayout (const ++ async ++ safety ++ convention) name
    (genericsLayout generics) found.items.reverse found.dots (resultLayout result)
  return ⟨name, if safe then .hole else layout, conditions⟩

/-! ## Type aliases -/

/-- Reads bounds after a colon up to one of several ends, if there is a colon. -/
def boundsAfterColon (r : Rules) (stop : Ahead) : Parser (Option (List Doc)) := do
  if ← punct? [':'] then
    let bounds ← separatedBefore stop ['+'] (r.bound false true)
    return some (bounds.map Bound.layout)
  else return none

/-- Where the where clause of a type alias may stand. -/
inductive AliasWhere
  | beforeDefinition
  | afterDefinition
  | either
  deriving DecidableEq

/-- A type alias or an associated type: how what stands before its name is printed, and its
parts. -/
structure TypeAlias where
  name : Name
  head : Doc
  generics : Doc
  bounds : Option (List Doc)
  definition : Option TypeExpr
  conditions : List Doc

/-- Reads a type alias or an associated type from its visibility on. -/
def typeAlias (r : Rules) (allowDefault : Bool) (position : AliasWhere) : Parser TypeAlias := do
  let (_, vis) ← visibility
  let default ← if allowDefault then spacedWord "default" else pure ""
  word "type"
  let name ← identifier
  let generics ← r.parameters
  let bounds ← r.boundsAfterColon (.any [.word "where", .punct ['='], .punct [';']])
  let early ← if position ≠ .afterDefinition then r.whereClause? else pure none
  let definition ← if ← punct? ['='] then pure (some (← r.type true)) else pure none
  let late ←
    if position ≠ .beforeDefinition ∧ early.isNone then r.whereClause? else pure none
  punct [';']
  return {
    name
    head := vis ++ .word (default ++ "type " ++ name.written)
    generics := genericsLayout generics
    bounds
    definition
    conditions := (early <|> late).getD [] }

/-- A type alias as an item. One with bounds or without a definition cannot be printed. -/
def TypeAlias.itemLayout (a : TypeAlias) : Doc :=
  match a.bounds, a.definition with
  | none, some t =>
    lineItem indentStep (a.head ++ a.generics ++ whereLine false a.conditions ++ .word "= "
      ++ .noGap ++ .fill (-indentStep) t.layout ++ .word ";")
  | _, _ => .hole

/-- An associated type in an implementation. -/
def TypeAlias.implLayout (a : TypeAlias) : Doc :=
  if a.bounds.isSome || a.definition.isNone then .hole
  else
    lineItem indentStep
      (a.head ++ a.generics ++ definitionLayout a.definition ++ whereLine true a.conditions)

/-- An associated type in a trait. -/
def TypeAlias.traitLayout (a : TypeAlias) : Doc :=
  lineItem indentStep (a.head ++ a.generics ++ boundsAfterName (a.bounds.getD [])
    ++ definitionLayout a.definition ++ whereLine true a.conditions)

/-- A foreign type. -/
def TypeAlias.foreignLayout (a : TypeAlias) : Doc :=
  if a.bounds.isSome || a.definition.isSome then .hole
  else lineItem 0 (a.head ++ a.generics ++ .word ";")

/-! ## Constants -/

/-- A constant: its name, its type and value as they are printed, and whether it is neither
generic nor bounded. -/
structure Constant where
  name : Name
  type : Doc
  value : Option Expr
  simple : Bool

/-- Reads a constant from its name on. -/
def constant (r : Rules) : Parser Constant := do
  let name ← nameOrUnderscore
  let generic ← ask (.punct ['<'])
  let _ ← r.parameters
  punct [':']
  let type ← r.type true
  let value ← if ← punct? ['='] then pure (some (← r.expr true)) else pure none
  let conditions ← r.whereClause?
  punct [';']
  return ⟨name, type.layout, value, !generic && conditions.isNone⟩

/-- A constant as it is printed after a head. -/
def Constant.layout (c : Constant) (head : Doc) : Doc :=
  if c.simple then
    lineItem 0 (head ++ .word ("const " ++ c.name.written ++ ": ") ++ c.type
      ++ valueLayout c.value ++ .word ";")
  else .hole

/-- A constant that has to have a value as it is printed after a head. -/
def Constant.layoutWithValue (c : Constant) (head : Doc) : Doc :=
  if c.value.isSome then c.layout head else .hole

end Rules

end Fieldwise.Grammar
