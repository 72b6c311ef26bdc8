import Fieldwise.Layout.Tokens

set_option autoImplicit false

/-! # Paths and types

A path keeps its names and arguments, because rules ask about them. A type is never looked into;
it is kept as the document it will be printed as (`TypeExpr`), with the little that the rules
around it need to know. -/

namespace Fieldwise.Grammar

open Fieldwise.Token Fieldwise.Layout

/-! ## Paths -/

/-- Names with `::` between them, and perhaps before the first. -/
structure PlainPath where
  leading : Bool
  names : List Name
  deriving DecidableEq, Repr

/-- The only name of a path that has just one. -/
def PlainPath.single? (p : PlainPath) : Option Name :=
  match p.leading, p.names with
  | false, [n] => some n
  | _, _ => none

/-- Whether a path is one given word. -/
def PlainPath.isWord (p : PlainPath) (word : String) : Bool := p.single? == some (.plain word)

/-- A plain path as it is printed. -/
def PlainPath.layout (p : PlainPath) : Doc :=
  .word ((if p.leading then "::" else "") ++ "::".intercalate (p.names.map Name.written))

/-- What may follow a name in a path. -/
inductive Arguments
  | none
  /-- Arguments in angle brackets, of which lifetimes are written first. -/
  | angle (lifetimes others : List Doc)
  /-- Argument types in parentheses, and a result. -/
  | call (layout : Doc)
  deriving Repr

namespace Arguments

/-- Whether nothing is given by the arguments. -/
def isEmpty : Arguments → Bool
  | .none => true
  | .angle lifetimes others => lifetimes.isEmpty && others.isEmpty
  | .call _ => false

/-- Whether no arguments were written. -/
def isAbsent : Arguments → Bool
  | .none => true
  | _ => false

/-- Arguments as they are printed; in an expression `::` stands before angle brackets. -/
def layout (inExpr : Bool) : Arguments → Doc
  | .none => .empty
  | .angle lifetimes others =>
    if lifetimes.isEmpty && others.isEmpty then .empty
    else .bracketed (if inExpr then "::<" else "<") ">" (lifetimes ++ others)
  | .call layout => layout

end Arguments

/-- A name of a path with its arguments. -/
structure Segment where
  name : Name
  arguments : Arguments
  deriving Repr

/-- A name of a path as it is printed. -/
def Segment.layout (s : Segment) (inExpr : Bool) : Doc :=
  .word s.name.written ++ s.arguments.layout inExpr

/-- A path. -/
structure Path where
  leading : Bool
  segments : List Segment
  deriving Repr

namespace Path

/-- Whether no name of a path has arguments. -/
def isPlain (p : Path) : Bool := p.segments.all fun s => s.arguments.isAbsent

/-- The only name of a path that has just one and no arguments. -/
def single? (p : Path) : Option Name :=
  match p.leading, p.segments with
  | false, [s] => if s.arguments.isAbsent then some s.name else none
  | _, _ => none

/-- The arguments of a path's last name. -/
def lastArguments (p : Path) : Arguments :=
  match p.segments.getLast? with
  | some s => s.arguments
  | none => .none

/-- A path with other arguments after its last name. -/
def setLastArguments (p : Path) (arguments : Arguments) : Path :=
  match p.segments.getLast? with
  | some s => { p with segments := p.segments.dropLast ++ [{ s with arguments }] }
  | none => p

/-- A path as it is printed. -/
def layout (p : Path) (inExpr : Bool) : Doc :=
  (if p.leading then .word "::" else .empty)
    ++ .separated (.word "::") (p.segments.map fun s => s.layout inExpr)

end Path

/-- A path that may begin with a type in angle brackets, which is kept as it is printed. -/
structure QualifiedPath where
  qualifier : Option Doc
  path : Path

namespace QualifiedPath

/-- Whether a path is plain and without a type before it. -/
def isPlain (p : QualifiedPath) : Bool := p.qualifier.isNone && p.path.isPlain

/-- A qualified path as it is printed. -/
def layout (p : QualifiedPath) (inExpr : Bool) : Doc :=
  match p.qualifier with
  | some qualifier => qualifier ++ p.path.layout inExpr
  | none => p.path.layout inExpr

end QualifiedPath

/-! ## Arguments and bounds -/

/-- A generic argument as it is printed; lifetimes are kept apart. -/
inductive GenericArgument
  | lifetime (layout : Doc)
  | other (layout : Doc)
  deriving Repr

/-- The arguments in angle brackets. -/
def GenericArgument.collect (items : List GenericArgument) : Arguments :=
  .angle (items.filterMap fun | .lifetime d => some d | .other _ => none)
    (items.filterMap fun | .lifetime _ => none | .other d => some d)

/-- A bound of a type: whether it is a trait, and how it is printed. -/
structure Bound where
  isTrait : Bool
  layout : Doc

/-- A lifetime as it is printed. -/
def lifetimeText (n : Name) : String := "'" ++ n.written

/-- Bounds with `+` between them, on one line. -/
def plusSeparated (bounds : List Doc) : Doc := .separated (.word " + ") bounds

/-- Bounds after a colon, on lines that they fill. -/
def boundsAfterName (bounds : List Doc) : Doc :=
  .introduced (.word ": ") (.spaceGap ++ .word "+ ") bounds

/-- Parameters after the word `for`. -/
def forLayout (parameters : List Doc) : Doc :=
  .word "for<" ++ .separated (.word ", ") parameters ++ .word "> "

/-- Argument types in parentheses and a result, as they follow a name in a path. -/
def callLayout (inputs : List Doc) (result : Doc) : Doc :=
  .stack indentStep
    (.word "(" ++ (Doc.zeroGap ++ .commaItems .lastComma inputs).outdentLast ++ .word ")" ++ result)

/-! ## Types -/

/-- What kind of type was read, as far as the rules around it need to know. -/
inductive TypeForm
  | path (p : Path)
  /-- A single bound without the word `dyn`, as it is printed without parentheses. -/
  | bound (layout : Doc)
  | other
  deriving Repr

/-- A type. -/
structure TypeExpr where
  form : TypeForm
  layout : Doc
  deriving Repr

/-- A type that the rules around it need not know. -/
def TypeExpr.plain (layout : Doc) : TypeExpr := ⟨.other, layout⟩

/-- A result type as it is printed. -/
def resultLayout : Option TypeExpr → Doc
  | none => .empty
  | some t => .word " -> " ++ t.layout

/-- A trait object as it is printed. -/
def objectLayout (bounds : List Doc) : Doc := .word "dyn " ++ plusSeparated bounds

/-- A document in parentheses. -/
def parenthesised (d : Doc) : Doc := .word "(" ++ d ++ .word ")"

end Fieldwise.Grammar
