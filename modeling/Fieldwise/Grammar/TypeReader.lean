import Fieldwise.Grammar.Signature

set_option autoImplicit false

/-! # Reading types that items declare

Structs, enums, unions and traits. What discovery needs of them is kept (`TypeItem`); beside it
stands how the whole item is printed. -/

namespace Fieldwise.Grammar

open Fieldwise.Token Fieldwise.Layout Fieldwise.Grammar.Parser

namespace Rules

/-! ## Fields and variants -/

/-- Reads the fields of a struct in braces, given the rules for what is inside them. A struct that
is itself a field cannot be printed. -/
def namedFieldsRule (r : Rules) : Parser (List (NamedPart × Doc)) :=
  group .brace (commaTerminated do
    let attributes ← r.outerAttributes
    let (_, vis) ← visibility
    let unnamed ← ask (.word "_")
    let name ← if unnamed then anyName else identifier
    punct [':']
    let nested : Ahead := .or (.word "struct") (.and (.word "union") (.second (.group .brace)))
    let type ←
      if unnamed && (← ask nested) then
        skip 1
        let _ ← r.namedFields
        pure Doc.hole
      else pure (← r.type true).layout
    return (⟨attributes, name⟩,
      Attribute.layoutAll false attributes ++ vis ++ .word (name.written ++ ": ") ++ type))

/-- Reads the fields of a tuple. -/
def tupleFields (r : Rules) : Parser (List (List Attribute × Doc)) :=
  group .parenthesis (commaTerminated do
    let attributes ← r.outerAttributes
    let (_, vis) ← visibility
    let type ← r.type true
    return (attributes, Attribute.layoutAll false attributes ++ vis ++ type.layout))

/-- The fields of a tuple as they are printed. -/
def tupleLayout (fields : List (List Attribute × Doc)) : Doc :=
  .bracketed "(" ")" (fields.map Prod.snd)

/-- Reads a variant. -/
def variant (r : Rules) : Parser (NamedPart × Doc) := do
  let attributes ← r.outerAttributes
  let _ ← visibility
  let name ← identifier
  let fields ←
    if ← ask (.group .brace) then pure (variantFields ((← r.namedFieldsRule).map Prod.snd))
    else if ← ask (.group .parenthesis) then pure (tupleLayout (← r.tupleFields))
    else pure Doc.empty
  let value ← if ← punct? ['='] then pure (.word " = " ++ (← r.expr true).layout) else pure .empty
  return (⟨attributes, name⟩,
    Attribute.layoutAll false attributes ++ .word name.written ++ fields ++ value)

/-! ## Structs, enums and unions -/

/-- The head of a type, up to its generic parameters. -/
structure TypeHead where
  visibility : Visibility
  name : Name
  place : Position
  generics : List Parameter
  layout : Doc

/-- The type that a head and a body make. -/
def TypeHead.item (h : TypeHead) (attributes : List Attribute) (body : TypeBody) : Item :=
  .type
    { attributes, visibility := h.visibility, name := h.name, place := h.place,
      generics := h.generics, body }

/-- Reads the head of a type after its visibility; the words before its name are given as they are
printed. -/
def typeHead (r : Rules) (vis : Visibility × Doc) (words : String) : Parser TypeHead := do
  let (name, place) ← placedIdentifier
  let generics ← r.parameters
  return ⟨vis.1, name, place, generics,
    vis.2 ++ .word (words ++ name.written) ++ genericsLayout generics⟩

/-- Reads the rest of a tuple struct from its fields on. -/
def tupleStruct (r : Rules) (h : TypeHead) : Parser (Fields × Doc) := do
  let fields ← r.tupleFields
  let conditions ← r.whereClause?
  if !(← punct? [';']) then
    failExpected (if conditions.isSome then ["`;`"] else ["`where`", "`;`"])
  return (.tuple (fields.map Prod.fst),
    lineItem indentStep
      (h.layout ++ tupleLayout fields ++ whereLines true (conditions.getD [])))

/-- Reads a struct from after its head. -/
def structBody (r : Rules) (h : TypeHead) : Parser (Fields × Doc) := do
  let conditions ← r.whereClause?
  if conditions.isNone && (← ask (.group .parenthesis)) then r.tupleStruct h
  else if ← ask (.group .brace) then
    let fields ← r.namedFieldsRule
    return (.named (fields.map Prod.fst),
      bodied (h.layout ++ whereLines false (conditions.getD []))
        (partLines (fields.map Prod.snd)))
  else if ← punct? [';'] then
    return (.unit, lineItem indentStep (h.layout ++ whereLines true (conditions.getD [])))
  else
    failExpected (if conditions.isSome then ["curly braces", "`;`"]
      else ["`where`", "parentheses", "curly braces", "`;`"])

/-- Reads a struct. -/
def structItem (r : Rules) (attributes : List Attribute) : Parser (Item × Doc) := do
  let vis ← visibility
  word "struct"
  let h ← r.typeHead vis "struct "
  let (fields, layout) ← r.structBody h
  return (h.item attributes (.struct fields), layout)

/-- Reads an enum. -/
def enumItem (r : Rules) (attributes : List Attribute) : Parser (Item × Doc) := do
  let vis ← visibility
  word "enum"
  let h ← r.typeHead vis "enum "
  let conditions ← r.whereClause
  let variants ← group .brace (commaTerminated r.variant)
  return (h.item attributes (.enum (variants.map Prod.fst)),
    bodied (h.layout ++ whereLines false conditions) (partLines (variants.map Prod.snd)))

/-- Reads a union. -/
def unionItem (r : Rules) (attributes : List Attribute) : Parser (Item × Doc) := do
  let vis ← visibility
  word "union"
  let h ← r.typeHead vis "union "
  let conditions ← r.whereClause
  let fields ← r.namedFieldsRule
  return (h.item attributes (.union (fields.map Prod.fst)),
    bodied (h.layout ++ whereLines false conditions) (partLines (fields.map Prod.snd)))

/-! ## Traits -/

/-- A member of a trait, if it is one that counts, and how it is printed. -/
abbrev TraitMember := Option (Name × MemberKind) × Doc

/-- Reads a method of a trait. -/
def traitMethod (r : Rules) : Parser TraitMember := do
  let s ← r.signature false
  if ← ask (.group .brace) then return (some (s.name, .method), s.bodied .empty (← r.block))
  else if ← punct? [';'] then return (some (s.name, .method), s.bodiless .empty)
  else failExpected ["curly braces", "`;`"]

/-- Reads a member of a trait after its attributes and what may stand before it. Generic constants
and invocations are no members that count. -/
def traitMemberRest (r : Rules) (plain : Bool) : Parser TraitMember := do
  let constantMethod : Ahead :=
    .and (.word "const") (.second (.anyWord ["async", "unsafe", "extern", "fn"]))
  if ← ask (.or (signatureAhead false) constantMethod) then r.traitMethod
  else if ← word? "const" then
    if !(← ask (.or .identifier (.word "_"))) then
      failExpected ["identifier", "`_`", "`async`", "`unsafe`", "`extern`", "`fn`"]
    let c ← r.constant
    return (if c.simple then some (c.name, .constant) else none, c.layout .empty)
  else if ← ask (.word "type") then
    let a ← r.typeAlias false .afterDefinition
    return (some (a.name, .type), a.traitLayout)
  else if plain && (← ask invocationStart) then return (none, ← invocationItem)
  else failExpected (["`fn`", "`const`", "`type`"] ++ if plain then invocationStarts else [])

/-- Reads a member of a trait. Members with a visibility of their own do not count. -/
def traitMember (r : Rules) : Parser TraitMember := do
  let attributes ← r.outerLayout
  let (vis, _) ← visibility
  let default ← word? "default"
  let plain := vis = .inherited && !default
  let (member, layout) ← r.traitMemberRest plain
  return if plain then (member, attributes ++ layout) else (none, .hole)

/-- Reads a trait from its supertraits on. -/
def traitBody (r : Rules) (attributes : List Attribute) (h : TypeHead) : Parser (Item × Doc) := do
  let bounds ← r.boundsAfterColon (.or (.word "where") (.group .brace))
  let conditions ← r.whereClause
  group .brace do
    let inner ← r.innerAttributes
    let members ← untilFinished r.traitMember
    return (h.item (attributes ++ inner) (.trait (members.filterMap Prod.fst)),
      bodied
        (h.layout ++ .introduced (.word ": ") (.word " + ") (bounds.getD [])
          ++ whereLines false conditions)
        (Attribute.layoutAll true inner ++ .concat (members.map Prod.snd)))

/-- Reads a trait alias from its equals sign on. It declares no type. -/
def traitAlias (r : Rules) (h : TypeHead) : Parser (Item × Doc) := do
  punct ['=']
  let bounds ← separatedBefore (.or (.word "where") (.punct [';'])) ['+'] (r.bound false false)
  let conditions ← r.whereClause
  punct [';']
  return (.other, lineItem indentStep (h.layout ++ .word " = " ++ .noGap
    ++ .separated (.spaceGap ++ .word "+ ") (bounds.map Bound.layout)
    ++ whereLines true conditions))

/-- Reads a trait or a trait alias. -/
def traitItem (r : Rules) (attributes : List Attribute) : Parser (Item × Doc) := do
  let vis ← visibility
  let safety ← spacedWord "unsafe"
  let automatic ← spacedWord "auto"
  word "trait"
  let h ← r.typeHead vis (safety ++ automatic ++ "trait ")
  if safety ++ automatic ≠ "" then r.traitBody attributes h
  else if ← ask (.punct ['=']) then r.traitAlias h
  else if ← ask (.any [.group .brace, .punct [':'], .word "where"]) then r.traitBody attributes h
  else failExpected ["curly braces", "`:`", "`where`", "`=`"]

end Rules

end Fieldwise.Grammar
