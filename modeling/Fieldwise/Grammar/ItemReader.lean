import Fieldwise.Grammar.TypeReader

set_option autoImplicit false

/-! # Reading items

`Rules.itemRule` reads an item after its attributes, given the rules for what is inside it. Types
and modules are kept (`Item.type`, `Item.submodule`); everything else is only checked to be well
formed. Beside an item stands how it is printed. -/

namespace Fieldwise.Grammar

open Fieldwise.Token Fieldwise.Layout Fieldwise.Grammar.Parser

namespace Rules

/-! ## Implementations -/

/-- Reads a member of an implementation. -/
def implMember (r : Rules) : Parser Doc := do
  let attributes ← r.outerLayout
  let (vis, rest) ← visibilityAhead
  let default := Ahead.butNot (.word "default") (.second (.punct ['!'])) rest
  let rest := if default then rest.tail else rest
  let plain := vis = .inherited && !default
  let head : Parser Doc := do
    let (_, vis) ← visibility
    return vis ++ .word (← if default then spacedWord "default" else pure "")
  if signatureAhead false rest then
    let head ← head
    let s ← r.signature false
    if ← punct? [';'] then return .hole
    return attributes ++ s.bodied head (← r.block)
  else if Ahead.word "const" rest then
    let head ← head
    word "const"
    let c ← r.constant
    return attributes ++ c.layoutWithValue head
  else if Ahead.word "type" rest then
    let a ← r.typeAlias true .afterDefinition
    return attributes ++ a.implLayout
  else if plain && invocationStart rest then return attributes ++ (← invocationItem)
  else
    let _ ← head
    failExpected ((if default then [] else ["`default`"]) ++ ["`fn`", "`const`", "`type`"]
      ++ if plain then invocationStarts else [])

/-- The head of an implementation as it is printed. A trait has to be a path. -/
def implHead (words : String) (generics : Doc) (negative : Bool) (trait : Option TypeExpr)
    (subject : TypeExpr) : Doc :=
  let front : Doc := match trait with
    | none => .empty
    | some t =>
      match t.form with
      | .path p =>
        .word (if negative then "!" else "") ++ p.layout false ++ .spaceGap ++ .word "for "
      | _ => .hole
  .fill (-indentStep)
    (.stack indentStep (.word (words ++ "impl") ++ generics) ++ .word " " ++ front
      ++ subject.layout)

/-- Reads the trait and the type of an implementation, or its type alone. -/
def implSubject (r : Rules) : Parser (Bool × Option TypeExpr × TypeExpr) := do
  let mark ← here
  let negative ←
    if ← ask (.butNot (.punct ['!']) (.second (.group .brace))) then punct? ['!'] else pure false
  let first ← r.type true
  if ← word? "for" then return (negative, some first, ← r.type true)
  if negative then failFrom mark (.rule "inherent impls cannot be negative")
  return (false, none, first)

/-- Reads an implementation. One with a visibility or after `const` cannot be printed. -/
def implItem (r : Rules) : Parser (Item × Doc) := do
  let (vis, _) ← visibility
  let default ← spacedWord "default"
  let safety ← spacedWord "unsafe"
  word "impl"
  let generics ← if ← ask parametersAhead then r.parameters else pure []
  let constant ← ask (.or (.word "const") (.and (.punct ['?']) (.second (.word "const"))))
  if constant then
    let _ ← punct? ['?']
    word "const"
  let (negative, trait, subject) ← r.implSubject
  let conditions ← r.whereClause
  let content ← group .brace do
    let inner ← r.innerLayout
    return inner ++ .concat (← untilFinished r.implMember)
  let head := implHead (default ++ safety) (genericsLayout generics) negative trait subject
  let printed : Bool := vis = .inherited && !constant
  return (.other,
    if printed then bodied (head ++ whereLines false conditions) content else .hole)

/-! ## Modules and foreign items -/

/-- Reads a module. -/
def moduleItem (r : Rules) (attributes : List Attribute) : Parser (Item × Doc) := do
  let (_, vis) ← visibility
  let safety ← spacedWord "unsafe"
  word "mod"
  let name ← if ← ask (.word "try") then anyName else identifier
  let head := vis ++ .word (safety ++ "mod " ++ name.written)
  if ← punct? [';'] then
    return (.submodule attributes name none, lineItem indentStep (head ++ .word ";"))
  else if ← ask (.group .brace) then
    group .brace do
      let inner ← r.innerAttributes
      let items ← untilFinished do r.item (← r.outerAttributes)
      return (.submodule (attributes ++ inner) name (some (items.map Prod.fst)),
        bodied (head ++ .word " ")
          (Attribute.layoutAll true inner ++ .concat (items.map Prod.snd)))
  else failExpected ["`;`", "curly braces"]

/-- Reads a foreign static variable from its visibility on. One with a value or a word about its
safety cannot be printed. -/
def foreignStatic (r : Rules) : Parser Doc := do
  let (_, vis) ← visibility
  let marked ← if ← word? "unsafe" then pure true else word? "safe"
  word "static"
  let mutable ← spacedWord "mut"
  let name ← identifier
  punct [':']
  let type ← r.type true
  let valued ← punct? ['=']
  if valued then
    let _ ← r.expr true
  punct [';']
  if marked || valued then return .hole
  return lineItem 0 (vis ++ .word ("static " ++ mutable ++ name.written ++ ": ") ++ type.layout
    ++ .word ";")

/-- Reads an item of a foreign block. -/
def foreignMember (r : Rules) : Parser Doc := do
  let attributes ← r.outerLayout
  let (vis, rest) ← visibilityAhead
  let guarded : Ahead := .and (.anyWord ["unsafe", "safe"]) (.second (.word "static"))
  if signatureAhead true rest then
    let (_, vis) ← visibility
    let s ← r.signature true
    if ← ask (.group .brace) then
      let _ ← r.block
      return .hole
    punct [';']
    return attributes ++ s.bodiless vis
  else if Ahead.or (.word "static") guarded rest then return attributes ++ (← r.foreignStatic)
  else if Ahead.word "type" rest then
    return attributes ++ (← r.typeAlias false .either).foreignLayout
  else if vis = .inherited ∧ invocationStart rest = true then
    return attributes ++ (← invocationItem)
  else
    let _ ← visibility
    failExpected (["`fn`", "`static`", "`type`"]
      ++ if vis = .inherited then invocationStarts else [])

/-- Reads a foreign block. -/
def foreignItem (r : Rules) : Parser (Item × Doc) := do
  let safety ← spacedWord "unsafe"
  word "extern"
  let convention := conventionText (← string?)
  let content ← group .brace do
    let inner ← r.innerLayout
    return inner ++ .concat (← untilFinished r.foreignMember)
  return (.other, bodied (.word (safety ++ convention)) content)

/-- Reads an external crate. -/
def externCrate : Parser (Item × Doc) := do
  let (_, vis) ← visibility
  word "extern"
  word "crate"
  let name ← if ← ask (.word "self") then anyName else identifier
  let rename ←
    if ← word? "as" then
      let other ← if ← ask (.word "_") then anyName else identifier
      pure (" as " ++ other.written)
    else pure ""
  punct [';']
  return (.other,
    vis ++ .word ("extern crate " ++ name.written ++ rename ++ ";") ++ .lineEnd)

/-! ## Use items -/

/-- Several things that a `use` item names, in braces. -/
def useGroupLayout (trees : List UseTree) : Doc :=
  .word "\x7b"
    ++ .stack indentStep
      (.zeroGap ++ .fill 0 (listed trees) ++ Doc.lastComma.outdentLast)
    ++ .word "\x7d"
where
  /-- The things with commas between them. One that ends in braces ends the line. -/
  listed : List UseTree → Doc
    | [] => .empty
    | [t] => t.layout
    | t :: rest =>
      t.layout ++ .word "," ++ (if t.grouped then .lineEnd else .spaceGap) ++ listed rest

/-- Reads what a `use` item names, given the rules for what is inside it. A group with a path from
the root in it cannot be printed. -/
def useTreeRule (r : Rules) (allowRoot : Bool) : Parser UseTree := do
  if ← ask (.or .identifier (.anyWord ["self", "super", "crate", "try"])) then
    let name ← anyName
    if ← punct? [':', ':'] then
      let inner ← r.useTree false
      return ⟨.word (name.written ++ "::") ++ inner.layout, inner.grouped⟩
    else if ← word? "as" then
      if ← ask (.or .identifier (.word "_")) then
        return ⟨.word (name.written ++ " as " ++ (← anyName).written), false⟩
      else failHere (.rule "expected identifier or underscore")
    else return ⟨.word name.written, false⟩
  else if ← punct? ['*'] then return ⟨.word "*", false⟩
  else if ← ask (.group .brace) then
    let trees ← group .brace (commaTerminated do
      let rooted ← if allowRoot then punct? [':', ':'] else pure false
      let t ← r.useTree (allowRoot && !rooted)
      return if rooted then ⟨.hole, t.grouped⟩ else t)
    return ⟨useGroupLayout trees, true⟩
  else failExpected ["identifier", "`self`", "`super`", "`crate`", "`try`", "`*`", "curly braces"]

/-- Reads a `use` item. -/
def useItem (r : Rules) : Parser (Item × Doc) := do
  let (_, vis) ← visibility
  word "use"
  let rooted ← punct? [':', ':']
  let tree ← r.useTree !rooted
  punct [';']
  return (.other,
    vis ++ .word (if rooted then "use ::" else "use ") ++ tree.layout ++ .word ";" ++ .lineEnd)

/-! ## Other items -/

/-- Reads a function. One without a body cannot be printed. -/
def functionItem (r : Rules) : Parser (Item × Doc) := do
  let (_, vis) ← visibility
  let s ← r.signature false
  if ← punct? [';'] then return (.other, .hole)
  return (.other, s.bodied vis (← r.block))

/-- Reads a static variable. Its type or its value may be missing, but then it cannot be
printed. -/
def staticItem (r : Rules) : Parser (Item × Doc) := do
  let (_, vis) ← visibility
  word "static"
  let mutable ← spacedWord "mut"
  let name ← identifier
  if ← punct? ['='] then
    let _ ← r.expr true
    punct [';']
    return (.other, .hole)
  punct [':']
  let type ← r.type true
  if ← punct? [';'] then return (.other, .hole)
  punct ['=']
  let value ← r.expr true
  punct [';']
  return (.other,
    lineItem 0 (vis ++ .word ("static " ++ mutable ++ name.written ++ ": ") ++ type.layout
      ++ valueLayout (some value) ++ .word ";"))

/-- Reads a constant. -/
def constantItem (r : Rules) : Parser (Item × Doc) := do
  let (_, vis) ← visibility
  word "const"
  return (.other, (← r.constant).layoutWithValue vis)

/-- Reads the definition of a rule set by the word `macro`, which cannot be printed. -/
def ruleSetItem : Parser (Item × Doc) := do
  let _ ← visibility
  word "macro"
  let _ ← identifier
  let arguments ← ask (.group .parenthesis)
  if arguments then group .parenthesis skipAll
  if ← ask (.group .brace) then group .brace skipAll
  else failExpected (if arguments then ["curly braces"] else ["parentheses", "curly braces"])
  return (.other, .hole)

/-- Reads an invocation of a rule set, which may name what it defines. -/
def invocationNamedItem : Parser (Item × Doc) := do
  let path ← plainPath
  punct ['!']
  let defined ←
    if ← ask (.or .identifier (.word "try")) then pure (some (← anyName)) else pure none
  let (d, content) ← anyGroup
  if d ≠ .brace then punct [';']
  let layout : Doc := match path.isWord "macro_rules", defined with
    | true, some name => ruleSetLayout name content
    | _, _ =>
      invocationLayout path.layout defined d content
        ++ (if d = .brace then .empty else .word ";")
  return (.other, layout ++ .lineEnd)

/-! ## Items -/

/-- What may begin an item, in words. -/
def itemStarts : List String :=
  ["`fn`", "`extern`", "`use`", "`static`", "`const`", "`unsafe`", "`mod`", "`type`", "`struct`",
   "`enum`", "`union`", "`trait`", "`auto`", "`impl`", "`default`", "`macro`"]

/-- Reads an item without its attributes. What comes after the visibility says which item it
is. -/
def bareItem (r : Rules) (attributes : List Attribute) : Parser (Item × Doc) := do
  let (vis, rest) ← visibilityAhead
  let failAfter (n : Nat) (wanted : List String) : Parser (Item × Doc) := do
    let _ ← visibility
    skip n
    failExpected wanted
  let after := rest.tail
  let autoTrait : Ahead := .and (.word "auto") (.second (.word "trait"))
  if signatureAhead false rest then r.functionItem
  else if Ahead.word "extern" rest then
    if Ahead.word "crate" after then externCrate
    else if Ahead.group .brace after then r.foreignItem
    else if Ahead.string after then
      if Ahead.group .brace after.tail then r.foreignItem
      else failAfter 2 ["curly braces"]
    else failAfter 1 ["`crate`", "curly braces", "string literal"]
  else if Ahead.word "use" rest then r.useItem
  else if Ahead.word "static" rest then r.staticItem
  else if Ahead.word "const" rest then r.constantItem
  else if Ahead.word "unsafe" rest then
    if Ahead.or (.word "trait") autoTrait after then r.traitItem attributes
    else if Ahead.word "impl" after then r.implItem
    else if Ahead.word "extern" after then r.foreignItem
    else if Ahead.word "mod" after then r.moduleItem attributes
    else failAfter 1 ["`trait`", "`auto`", "`impl`", "`extern`", "`mod`"]
  else if Ahead.word "mod" rest then r.moduleItem attributes
  else if Ahead.word "type" rest then
    return (.other, (← r.typeAlias false .beforeDefinition).itemLayout)
  else if Ahead.word "struct" rest then r.structItem attributes
  else if Ahead.word "enum" rest then r.enumItem attributes
  else if Ahead.and (.word "union") (.second .identifier) rest then r.unionItem attributes
  else if Ahead.or (.word "trait") autoTrait rest then r.traitItem attributes
  else if Ahead.or (.word "impl") (.butNot (.word "default") (.second (.punct ['!']))) rest then
    r.implItem
  else if Ahead.word "macro" rest then ruleSetItem
  else if vis = .inherited ∧ invocationStart rest = true then invocationNamedItem
  else failAfter 0 (itemStarts ++ if vis = .inherited then invocationStarts else [])

/-- Reads an item after its attributes, given the rules for what is inside it. -/
def itemRule (r : Rules) (attributes : List Attribute) : Parser (Item × Doc) := do
  let (item, layout) ← r.bareItem attributes
  return (item, Attribute.layoutAll false attributes ++ layout)

end Rules

end Fieldwise.Grammar
