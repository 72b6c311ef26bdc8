import Fieldwise.Grammar.Attribute

set_option autoImplicit false

/-! # Reading paths, arguments and bounds

A path is names with `::` between them, each perhaps with arguments in angle brackets; in an
expression those need a `::` before them. A bound is a lifetime or a trait, and `+` adds
bounds. -/

namespace Fieldwise.Grammar

open Fieldwise.Token Fieldwise.Layout Fieldwise.Grammar.Parser

/-- Whether generic parameters, rather than a type in angle brackets, come next. -/
def parametersAhead : Ahead := fun trees =>
  let afterName : Ahead := .any [.punct ['>'], .punct [','],
    .butNot (.punct [':']) (.punct [':', ':']), .punct ['=']]
  Ahead.punct ['<'] trees && Ahead.second (.any
    [.punct ['>'], .punct ['#'], .and (.or .lifetime .identifier) (.second afterName),
     .word "const"]) trees

namespace Rules

/-! ## Arguments -/

/-- Reads a constant argument: a literal, a name or a block. -/
def constantArgument (r : Rules) : Parser Doc := do
  if ← ask .literal then return (← literal).layout
  else if ← ask .identifier then return .word (← identifier).written
  else if ← ask (.group .brace) then return (Expr.block none (← r.block)).layout
  else failExpected []

/-- Reads a result type if `->` comes next. -/
def resultType (r : Rules) (allowPlus : Bool) : Parser (Option TypeExpr) := do
  if ← punct? ['-', '>'] then return some (← r.type allowPlus) else return none

/-- Reads argument types in parentheses and a result. -/
def callArguments (r : Rules) : Parser Arguments := do
  let inputs ← group .parenthesis (commaTerminated (r.type true))
  let result ← r.resultType false
  return .call (callLayout (inputs.map TypeExpr.layout) (resultLayout result))

/-- Whether argument types in parentheses come next. -/
def callAhead : Ahead :=
  .or (.group .parenthesis) (.and (.punct [':', ':']) (.third (.group .parenthesis)))

/-- Reads generic arguments between angle brackets. -/
def angleArguments (r : Rules) : Parser Arguments := do
  punct ['<']
  let items ← separatedBefore (.punct ['>']) [','] r.argument
  punct ['>']
  return GenericArgument.collect items

/-- Whether arguments in angle brackets come next. -/
def angleAhead (inExpr : Bool) : Ahead := fun trees =>
  (!inExpr && Ahead.punct ['<'] trees && !Ahead.punct ['<', '='] trees
    && !Ahead.punct ['<', '<', '='] trees)
  || (Ahead.punct [':', ':'] trees && Ahead.third (.punct ['<']) trees)

/-! ## Paths -/

/-- Reads one name of a path with its arguments. -/
def segment (r : Rules) (inExpr : Bool) : Parser Segment := do
  if ← ask (.anyWord ["super", "self", "crate", "try"]) then return ⟨← anyName, .none⟩
  let name ← if ← ask (.word "Self") then anyName else identifier
  if ← ask (angleAhead inExpr) then
    let _ ← punct? [':', ':']
    return ⟨name, ← r.angleArguments⟩
  else return ⟨name, .none⟩

/-- Reads the names of a path that follow those read. -/
def moreSegments (r : Rules) (inExpr : Bool) : Parser (List Segment) :=
  collect do
    if ← ask (.butNot (.punct [':', ':']) (.third (.group .parenthesis))) then
      punct [':', ':']
      return some (← r.segment inExpr)
    else return none

/-- Reads a path. -/
def path (r : Rules) (inExpr : Bool) : Parser Path := do
  let leading ← punct? [':', ':']
  let first ← r.segment inExpr
  let more ← r.moreSegments inExpr
  return ⟨leading, first :: more⟩

/-- Reads a path that may begin with a type in angle brackets. -/
def qualifiedPath (r : Rules) (inExpr : Bool) : Parser QualifiedPath := do
  if ← punct? ['<'] then
    let self ← r.type true
    let trait ←
      if ← word? "as" then pure (.word " as " ++ (← r.path false).layout false)
      else pure Doc.empty
    punct ['>']
    punct [':', ':']
    let segments ← collectSegments
    return ⟨some (.word "<" ++ self.layout ++ trait ++ .word ">::"), ⟨false, segments⟩⟩
  else return ⟨none, ← r.path inExpr⟩
where
  /-- Names up to one that no `::` follows. -/
  collectSegments : Parser (List Segment) := do
    let (segments, _) ← iterate (fun (segments, more) => do
      if !more then return none
      let s ← r.segment inExpr
      let more ← punct? [':', ':']
      return some (s :: segments, more)) (([] : List Segment), true)
    return segments.reverse

/-- Reads an invocation of a rule set from after its path, and says whether it is in braces. -/
def invocation (path : Doc) : Parser (Doc × Bool) := do
  punct ['!']
  let (d, content) ← anyGroup
  return (invocationLayout path none d content, d == .brace)

/-- Whether an exclamation mark makes an invocation of the path before it. -/
def bangAhead : Ahead := .butNot (.punct ['!']) (.punct ['!', '='])

/-! ## Bounds -/

/-- Reads `use<..>`, the parameters that a result type may mention. -/
def capturedParameters : Parser Doc := do
  word "use"
  punct ['<']
  let names ← collect do
    if ← ask (.punct ['>']) then return none
    let name ←
      if ← ask .lifetime then pure (lifetimeText (← lifetime))
      else if ← ask (.or .identifier (.word "Self")) then pure (← anyName).written
      else failExpected ["lifetime", "identifier", "`>`"]
    if !(← ask (.punct ['>'])) then
      if !(← punct? [',']) then failExpected ["`,`", "`>`"]
    return some name
  punct ['>']
  return .word ("use<" ++ ", ".intercalate names ++ ">")

/-- Reads the word `const` before a trait, alone or in brackets, and says whether it was there. -/
def constness (allowConst : Bool) : Parser Bool := do
  let start ← here
  let refuse (text : String) : Parser Unit :=
    if allowConst then pure () else failFrom start (.rule text)
  if ← ask (.group .bracket) then
    group .bracket (word "const")
    refuse "`[const]` is not allowed here"
    return true
  else if ← word? "const" then
    refuse "`const` is not allowed here"
    return true
  else return false

/-- Reads a trait bound. -/
def traitBound (r : Rules) (allowConst : Bool) : Parser Doc := do
  let outer ← r.binder
  let const ← constness allowConst
  let mark ← here
  let maybe ← punct? ['?']
  let bound ← if maybe && outer.isNone then r.binder else pure outer
  let path ← r.path false
  let path ←
    if path.lastArguments.isEmpty && (← ask callAhead) then
      let _ ← punct? [':', ':']
      pure (path.setLastArguments (← r.callArguments))
    else pure path
  if maybe && bound.isSome then
    failFrom mark (.rule "`for<...>` binder not allowed with `?` trait polarity modifier")
  if const then return .hole
  return (if maybe then .word "?" else .empty) ++ bound.getD .empty ++ path.layout false

/-- Reads a bound. -/
def bound (r : Rules) (allowCapture allowConst : Bool) : Parser Bound := do
  if ← ask .lifetime then return ⟨false, .word (lifetimeText (← lifetime))⟩
  if ← ask (.word "use") then
    let start ← here
    let layout ← capturedParameters
    if !allowCapture then
      failFrom start (.rule "`use<...>` precise capturing syntax is not allowed here")
    return ⟨false, layout⟩
  if ← ask (.group .parenthesis) then
    return ⟨true, parenthesised (← group .parenthesis (r.traitBound allowConst))⟩
  return ⟨true, ← r.traitBound allowConst⟩

/-! ## Generic parameters -/

/-- Reads what follows the name of a lifetime parameter: lifetimes after a colon. -/
def lifetimeBounds : Parser (List Doc) := do
  if ← punct? [':'] then
    let bounds ← separatedWhile (.any [.finished, .punct [','], .punct ['>']]) ['+'] lifetime
    return bounds.map fun n => .word (lifetimeText n)
  else return []

/-- Reads a lifetime parameter after its attributes. -/
def lifetimeParameter (attributes : List Attribute) : Parser Parameter := do
  let name := lifetimeText (← lifetime)
  let bounds ← lifetimeBounds
  let layout := Attribute.layoutAll false attributes ++ .word name
    ++ .introduced (.word ": ") (.word " + ") bounds
  return ⟨attributes, true, name, layout⟩

/-- Reads a constant parameter after its attributes. -/
def constantParameter (r : Rules) (attributes : List Attribute) : Parser Parameter := do
  word "const"
  let name := (← identifier).written
  punct [':']
  let type ← r.type true
  let default ←
    if ← punct? ['='] then pure (Doc.word " = " ++ (← r.constantArgument)) else pure Doc.empty
  return ⟨attributes, false, name,
    Attribute.layoutAll false attributes ++ .word ("const " ++ name ++ ": ") ++ type.layout
      ++ default⟩

/-- Reads a type parameter after its attributes. -/
def typeParameter (r : Rules) (attributes : List Attribute) : Parser Parameter := do
  let name := (← identifier).written
  let bounds ←
    if ← punct? [':'] then
      separatedWhile (.any [.finished, .punct [','], .punct ['>'], .punct ['=']]) ['+']
        (r.bound false true)
    else pure []
  let default ←
    if ← punct? ['='] then
      pure (.spaceGap ++ .word "= " ++ (← r.type true).layout)
    else pure Doc.empty
  return ⟨attributes, false, name,
    Attribute.layoutAll false attributes ++ .word name
      ++ .fill indentStep (boundsAfterName (bounds.map Bound.layout) ++ default)⟩

/-- Reads one parameter after the word `for`. -/
def boundParameter (r : Rules) : Parser Parameter := do
  let attributes ← r.outerAttributes
  if ← ask .identifier then r.typeParameter attributes
  else if ← ask .lifetime then lifetimeParameter attributes
  else if ← ask (.word "const") then r.constantParameter attributes
  else failExpected ["identifier", "lifetime", "`const`"]

/-- Reads the word `for` and the parameters that it binds, if it comes next, given the rules for
what is inside them. -/
def binderRule (r : Rules) : Parser (Option Doc) := do
  if !(← word? "for") then return none
  punct ['<']
  let parameters ← separatedBefore (.punct ['>']) [','] r.boundParameter
  punct ['>']
  return some (forLayout (parameters.map Parameter.layout))

/-- Reads a parameter of an item. -/
def parameter (r : Rules) : Parser Parameter := do
  let attributes ← r.outerAttributes
  if ← ask .lifetime then lifetimeParameter attributes
  else if ← ask .identifier then r.typeParameter attributes
  else if ← ask (.word "const") then r.constantParameter attributes
  else if ← ask (.word "_") then
    let name := (← anyName).written
    return ⟨attributes, false, name, Attribute.layoutAll false attributes ++ .word name⟩
  else failExpected ["lifetime", "identifier", "`const`"]

/-- Reads the generic parameters of an item, if there are any. -/
def parameters (r : Rules) : Parser (List Parameter) := do
  if ← punct? ['<'] then
    let found ← separatedBefore (.punct ['>']) [','] r.parameter
    punct ['>']
    return found
  else return []

/-! ## Generic arguments -/

/-- The name with its arguments that a type is, if it is nothing else. A value or bounds may follow
one. -/
def lone? (t : TypeExpr) : Option Segment :=
  match t.form with
  | .path ⟨false, [s]⟩ => some s
  | _ => none

/-- Reads a generic argument that begins with a type, given the rules for what is inside it: the
type alone, or a name with its value or its bounds. -/
def typeArgument (r : Rules) : Parser Doc := do
  let t ← r.type true
  match lone? t with
  | none => return t.layout
  | some s =>
    if ← punct? ['='] then
      let value ←
        if ← ask (.or .literal (.group .brace)) then r.constantArgument
        else pure (← r.type true).layout
      return s.layout false ++ .word " = " ++ value
    else if ← punct? [':'] then
      let bounds ← separatedWhile (.or (.punct [',']) (.punct ['>'])) ['+'] (r.bound false true)
      return s.layout false ++ .fill indentStep (boundsAfterName (bounds.map Bound.layout))
    else return t.layout

/-- Reads a generic argument, given the rules for what is inside it. -/
def argumentRule (r : Rules) : Parser GenericArgument := do
  if ← ask (.butNot .lifetime (.second (.punct ['+']))) then
    return .lifetime (.word (lifetimeText (← lifetime)))
  else if ← ask (.or .literal (.group .brace)) then return .other (← r.constantArgument)
  else return .other (← r.typeArgument)

end Rules

end Fieldwise.Grammar
