import Fieldwise.Proofs.Token.Lexemes
import Mathlib.Data.List.Forall2

set_option autoImplicit false

/-! # How a path is printed that is given in tokens

Names come through as they are given, and so does what is around them, with these exceptions
(`Part.Printed`):

* a comma after the last of several items, and a `+` after the last bound, are left out;
* so are `::` before `<`, brackets `<>` around nothing, and a colon that no bound follows;
* in angle brackets, lifetimes are printed before the other arguments;
* bounds that are a type by themselves get the word `dyn` before them;
* what a `for<..>` binds is left out before the invocation of a rule set.

The values in a type, such as the length of an array, its attributes and invocations come through
as they are given, commas before closing marks aside (`Trimmed`). There is one constructor for each
production of the grammar, and for each the tokens it is given as stand beside those it is printed
as.
-/

namespace Fieldwise.Grammar

open Fieldwise.Token

/-! ## Lists of tokens -/

/-- Two colons, as they stand between the names of a path. -/
def colons : List Lexeme := [.mark ':', .mark ':']

/-- Two colons, or nothing. -/
def maybeColons (present : Bool) : List Lexeme := if present then colons else []

/-- A word, or nothing. -/
def maybeWord (present : Bool) (text : String) : List Lexeme :=
  if present then [.word text] else []

/-- Items with a mark between them, and perhaps one after the last. -/
def listed (mark : Char) (last : Bool) : List (List Lexeme) → List Lexeme
  | [] => []
  | [item] => item ++ if last then [.mark mark] else []
  | item :: more => item ++ .mark mark :: listed mark last more

/-- Brackets around no arguments, perhaps with two colons before them, or nothing. -/
def emptyBrackets : Option Bool → List Lexeme
  | none => []
  | some before => maybeColons before ++ [.mark '<', .mark '>']

/-- Items with commas between them. -/
abbrev commas (items : List (List Lexeme)) : List Lexeme := [.mark ','].intercalate items

/-- Bounds with `+` between them. -/
abbrev pluses (items : List (List Lexeme)) : List Lexeme := [.mark '+'].intercalate items

/-- An argument in angle brackets: whether it is a lifetime, and what is printed for it. -/
structure PrintedArgument where
  isLifetime : Bool
  said : List Lexeme

/-- Arguments in angle brackets as they are printed: lifetimes first, and nothing for none. -/
def angled (items : List PrintedArgument) : List Lexeme :=
  if items.isEmpty then []
  else .mark '<' :: (commas ((items.filter PrintedArgument.isLifetime).map PrintedArgument.said
    ++ (items.filter fun i => !i.isLifetime).map PrintedArgument.said) ++ [.mark '>'])

/-- Whether the bounds of a type without the word `dyn` are more than a path: a `+` follows the
first, or they begin with `for` or with a parenthesis. -/
def IsBare (last : Bool) (bounds : List (List Lexeme)) : Prop :=
  last = true ∨ 1 < bounds.length ∨ (listed '+' last bounds).head? = some (.word "for")
    ∨ (listed '+' last bounds).head? = some (.opening .parenthesis)

/-- Tokens that bind something, or none. -/
def MaybeBinder (binder : List Lexeme) : Prop :=
  binder = [] ∨ ∃ bound, binder = .word "for" :: .mark '<' :: (bound ++ [.mark '>'])

/-! ## The parts of a path -/

/-- What a path is made of. -/
inductive Part
  | path
  /-- A name with its arguments. -/
  | segment
  /-- The trait after `as`, if there is one. -/
  | cast
  | argument (isLifetime : Bool)
  /-- A type or a value. -/
  | term
  | value
  | type
  /-- The type after `->`, if there is one. -/
  | result
  /-- An argument of a function type. -/
  | input
  | bound
  | trait
  /-- The bounds after a colon, if there is one. -/
  | bounds
  /-- What `for<..>` binds, if it is there. -/
  | binder
  | parameter
  /-- The term after an equals sign, if there is one. -/
  | default

/-- **The tokens a part of a path is given as, and those it is printed as.** -/
inductive Part.Printed : Part → List Lexeme → List Lexeme → Prop
  /- Values, attributes and invocations -/
  | value {given said : List Lexeme} (h : Trimmed given said) : Printed .value given said
  | typeTerm {given said : List Lexeme} (h : Printed .type given said) : Printed .term given said
  | valueTerm {given said : List Lexeme} (h : Printed .value given said) :
      Printed .term given said
  /- Paths -/
  | name (n : Name) : Printed .segment [.name n] [.name n]
  | angle (n : Name) (before last : Bool) {given : List (List Lexeme)}
      {items : List PrintedArgument}
      (hitems : List.Forall₂ (fun g i => Printed (.argument i.isLifetime) g i.said) given items) :
      Printed .segment
        (.name n :: (maybeColons before ++ .mark '<' :: (listed ',' last given ++ [.mark '>'])))
        (.name n :: angled items)
  | call (n : Name) (brackets : Option Bool) (before last : Bool) {given said : List (List Lexeme)}
      (hinputs : List.Forall₂ (Printed .type) given said) {result result' : List Lexeme}
      (hresult : Printed .result result result') :
      Printed .segment
        (.name n :: (emptyBrackets brackets ++ (maybeColons before ++ .opening .parenthesis
          :: (listed ',' last given ++ .closing .parenthesis :: result))))
        (.name n :: .opening .parenthesis :: (commas said ++ .closing .parenthesis :: result'))
  | path (leading : Bool) {given said : List (List Lexeme)}
      (hsegments : List.Forall₂ (Printed .segment) given said) :
      Printed .path (maybeColons leading ++ colons.intercalate given)
        (maybeColons leading ++ colons.intercalate said)
  | qualified {self self' trait trait' : List Lexeme} (hself : Printed .type self self')
      (htrait : Printed .cast trait trait') {given said : List (List Lexeme)}
      (hsegments : List.Forall₂ (Printed .segment) given said) :
      Printed .path (.mark '<' :: (self ++ (trait ++ .mark '>' :: (colons
          ++ colons.intercalate given))))
        (.mark '<' :: (self' ++ (trait' ++ .mark '>' :: (colons ++ colons.intercalate said))))
  | noCast : Printed .cast [] []
  | cast {given said : List Lexeme} (h : Printed .path given said) :
      Printed .cast (.word "as" :: given) (.word "as" :: said)
  /- Generic arguments -/
  | lifetime (n : Name) : Printed (.argument true) [.lifetime n] [.lifetime n]
  | argument {given said : List Lexeme} (h : Printed .term given said) :
      Printed (.argument false) given said
  | binding {name name' given said : List Lexeme} (hname : Printed .segment name name')
      (h : Printed .term given said) :
      Printed (.argument false) (name ++ .mark '=' :: given) (name' ++ .mark '=' :: said)
  | constraint {name name' given said : List Lexeme} (hname : Printed .segment name name')
      (h : Printed .bounds given said) : Printed (.argument false) (name ++ given) (name' ++ said)
  /- Bounds -/
  | outlives (n : Name) : Printed .bound [.lifetime n] [.lifetime n]
  | captures (names : List Lexeme) (last : Bool) :
      Printed .bound
        (.word "use" :: .mark '<' :: (listed ',' last (names.map ([·])) ++ [.mark '>']))
        (.word "use" :: .mark '<' :: (commas (names.map ([·])) ++ [.mark '>']))
  | traitBound {given said : List Lexeme} (h : Printed .trait given said) :
      Printed .bound given said
  | parenthesisedBound {given said : List Lexeme} (h : Printed .trait given said) :
      Printed .bound (.opening .parenthesis :: (given ++ [.closing .parenthesis]))
        (.opening .parenthesis :: (said ++ [.closing .parenthesis]))
  /- The first bound of a type by itself may have a second pair of parentheses -/
  | doubledBound {given said : List Lexeme} (h : Printed .trait given said) :
      Printed .bound
        (.opening .parenthesis :: .opening .parenthesis
          :: (given ++ [.closing .parenthesis, .closing .parenthesis]))
        (.opening .parenthesis :: (said ++ [.closing .parenthesis]))
  | trait {binder binder' : List Lexeme} (hbinder : Printed .binder binder binder') (maybe : Bool)
      {given said : List Lexeme} (h : Printed .path given said) :
      Printed .trait (binder ++ ((if maybe then [.mark '?'] else []) ++ given))
        (binder' ++ ((if maybe then [.mark '?'] else []) ++ said))
  | noBounds : Printed .bounds [] []
  | noneBound : Printed .bounds [.mark ':'] []
  | bounds (last : Bool) {given said : List (List Lexeme)} (hne : given ≠ [])
      (h : List.Forall₂ (Printed .bound) given said) :
      Printed .bounds (.mark ':' :: listed '+' last given) (.mark ':' :: pluses said)
  /- Parameters -/
  | noBinder : Printed .binder [] []
  | binder (last : Bool) {given said : List (List Lexeme)}
      (h : List.Forall₂ (Printed .parameter) given said) :
      Printed .binder (.word "for" :: .mark '<' :: (listed ',' last given ++ [.mark '>']))
        (.word "for" :: .mark '<' :: (commas said ++ [.mark '>']))
  | lifetimeParameter {attributes attributes' given said : List Lexeme}
      (hattributes : Printed .value attributes attributes') (n : Name)
      (h : Printed .bounds given said) :
      Printed .parameter (attributes ++ .lifetime n :: given) (attributes' ++ .lifetime n :: said)
  | typeParameter {attributes attributes' given said value value' : List Lexeme}
      (hattributes : Printed .value attributes attributes') (n : Name)
      (h : Printed .bounds given said) (hvalue : Printed .default value value') :
      Printed .parameter (attributes ++ .name n :: (given ++ value))
        (attributes' ++ .name n :: (said ++ value'))
  | constantParameter {attributes attributes' given said value value' : List Lexeme}
      (hattributes : Printed .value attributes attributes') (n : Name)
      (h : Printed .type given said) (hvalue : Printed .default value value') :
      Printed .parameter (attributes ++ .word "const" :: .name n :: .mark ':' :: (given ++ value))
        (attributes' ++ .word "const" :: .name n :: .mark ':' :: (said ++ value'))
  | noDefault : Printed .default [] []
  | default {given said : List Lexeme} (h : Printed .term given said) :
      Printed .default (.mark '=' :: given) (.mark '=' :: said)
  /- Types -/
  | pathType {given said : List Lexeme} (h : Printed .path given said) : Printed .type given said
  | invocation {binder given said : List Lexeme} (hbinder : MaybeBinder binder)
      (h : Printed .value given said) : Printed .type (binder ++ given) said
  | never : Printed .type [.mark '!'] [.mark '!']
  | inferred : Printed .type [.word "_"] [.word "_"]
  | object (last : Bool) {given said : List (List Lexeme)}
      (h : List.Forall₂ (Printed .bound) given said) :
      Printed .type (.word "dyn" :: listed '+' last given) (.word "dyn" :: pluses said)
  | bareObject (last : Bool) {given said : List (List Lexeme)} (hbare : IsBare last given)
      (h : List.Forall₂ (Printed .bound) given said) :
      Printed .type (listed '+' last given) (.word "dyn" :: pluses said)
  | implementation (last : Bool) {given said : List (List Lexeme)}
      (h : List.Forall₂ (Printed .bound) given said) :
      Printed .type (.word "impl" :: listed '+' last given) (.word "impl" :: pluses said)
  | slice {given said : List Lexeme} (h : Printed .type given said) :
      Printed .type (.opening .bracket :: (given ++ [.closing .bracket]))
        (.opening .bracket :: (said ++ [.closing .bracket]))
  | array {given said length length' : List Lexeme} (h : Printed .type given said)
      (hlength : Printed .value length length') :
      Printed .type (.opening .bracket :: (given ++ .mark ';' :: (length ++ [.closing .bracket])))
        (.opening .bracket :: (said ++ .mark ';' :: (length' ++ [.closing .bracket])))
  | pointer (mutable : Bool) {given said : List Lexeme} (h : Printed .type given said) :
      Printed .type (.mark '*' :: .word (if mutable then "mut" else "const") :: given)
        (.mark '*' :: .word (if mutable then "mut" else "const") :: said)
  | reference (region : Option Name) (mutable : Bool) {given said : List Lexeme}
      (h : Printed .type given said) :
      Printed .type
        (.mark '&' :: (region.toList.map .lifetime ++ (maybeWord mutable "mut" ++ given)))
        (.mark '&' :: (region.toList.map .lifetime ++ (maybeWord mutable "mut" ++ said)))
  | function {binder binder' : List Lexeme} (hbinder : Printed .binder binder binder')
      (isUnsafe : Bool) (convention : List Lexeme) (last : Bool) {given said : List (List Lexeme)}
      (hinputs : List.Forall₂ (Printed .input) given said) {result result' : List Lexeme}
      (hresult : Printed .result result result') :
      Printed .type
        (binder ++ (maybeWord isUnsafe "unsafe" ++ (convention ++ .word "fn"
          :: .opening .parenthesis :: (listed ',' last given ++ .closing .parenthesis :: result))))
        (binder' ++ (maybeWord isUnsafe "unsafe" ++ (convention ++ .word "fn"
          :: .opening .parenthesis :: (commas said ++ .closing .parenthesis :: result'))))
  | parenthesised {given said : List Lexeme} (h : Printed .type given said) :
      Printed .type (.opening .parenthesis :: (given ++ [.closing .parenthesis]))
        (.opening .parenthesis :: (said ++ [.closing .parenthesis]))
  | tuple (last : Bool) {given said : List (List Lexeme)}
      (h : List.Forall₂ (Printed .type) given said) (hlast : given.length = 1 → last = true) :
      Printed .type
        (.opening .parenthesis :: (listed ',' last given ++ [.closing .parenthesis]))
        (.opening .parenthesis :: (commas said
          ++ ((if given.length = 1 then [.mark ','] else []) ++ [.closing .parenthesis])))
  | noResult : Printed .result [] []
  | result {given said : List Lexeme} (h : Printed .type given said) :
      Printed .result (.mark '-' :: .mark '>' :: given) (.mark '-' :: .mark '>' :: said)
  /- Arguments of function types -/
  | input {attributes attributes' : List Lexeme}
      (hattributes : Printed .value attributes attributes')
      (label : Option Name) {given said : List Lexeme} (h : Printed .type given said) :
      Printed .input
        (attributes ++ (label.toList.flatMap (fun n => [.name n, .mark ':']) ++ given))
        (attributes' ++ (label.toList.flatMap (fun n => [.name n, .mark ':']) ++ said))
  | dots {attributes attributes' : List Lexeme}
      (hattributes : Printed .value attributes attributes')
      (label : Option Name) :
      Printed .input
        (attributes ++ (label.toList.flatMap (fun n => [.name n, .mark ':'])
          ++ [.mark '.', .mark '.', .mark '.']))
        (attributes' ++ (label.toList.flatMap (fun n => [.name n, .mark ':'])
          ++ [.mark '.', .mark '.', .mark '.']))

end Fieldwise.Grammar
