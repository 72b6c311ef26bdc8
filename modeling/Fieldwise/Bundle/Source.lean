import Fieldwise.Bundle.Basic
import Fieldwise.Template
import Fieldwise.Text.Quoted

set_option autoImplicit false

/-! # The source text of a bundle

`Bundle.render` gives the text of the generated file: a header line, the type with a comment, and
one implementation of the trait for every function. All names are read first, so that what does
not read is an error and what is printed is what was read. -/

namespace Fieldwise

open Token Layout

/-- The first line of every generated file. -/
def headerLine : String := "// @generated by static_string_util. Do not edit."

/-- The trait that generated code implements. -/
def traitName : String := "CreateString"

/-- The function of that trait. -/
def functionName : String := "create_string"

/-- Why a bundle has no source text. -/
inductive RenderError
  | typeName (text : String) (fault : Grammar.Fault)
  | runtime (text : String) (fault : Grammar.Fault)
  | typePath (text : String) (fault : Grammar.Fault)
  | fieldName (text : String)
  /-- A path that stands where a type is wanted does not read as one. -/
  | notType (fault : Grammar.Fault)
  deriving DecidableEq, Repr

/-- The reason in words. -/
def RenderError.message : RenderError → String
  | .typeName text fault => "type name '" ++ text ++ "': " ++ fault.message
  | .runtime text fault => "runtime crate '" ++ text ++ "': " ++ fault.message
  | .typePath text fault => "type '" ++ text ++ "': " ++ fault.message
  | .fieldName text => "field '" ++ text ++ "' is not a name"
  | .notType fault => fault.message

/-! ## What is printed -/

/-- The body of a printed function: a fixed text, or a template with the fields it shows. -/
inductive PrintedBody
  | fixed (text : String)
  | formatted (template : String) (accessors : List Accessor)
  deriving DecidableEq, Repr

/-- A function with its names read. -/
structure PrintedFunction where
  typePath : Grammar.Path
  body : PrintedBody

/-- A bundle with its names read. -/
structure PrintedBundle where
  typeName : Name
  runtime : Grammar.Path
  functions : List PrintedFunction

/-- Reads the names of a function. -/
def TextFunction.printed (f : TextFunction) (rendering : Rendering) :
    Except Halt (Except RenderError PrintedFunction) :=
  match Grammar.readPath f.typePath with
  | .error fault => .ok (.error (.typePath f.typePath fault))
  | .ok typePath =>
    if f.fields.isEmpty then .ok (.ok ⟨typePath, .fixed (emptySummary f.simpleName)⟩)
    else
      match Accessor.ofLabels f.fields with
      | .error halt => .error halt
      | .ok (.error field) => .ok (.error (.fieldName field))
      | .ok (.ok accessors) =>
        .ok (.ok ⟨typePath, .formatted (template f.simpleName f.fields rendering) accessors⟩)

/-- Reads the names of several functions. -/
def printedFunctions (rendering : Rendering) :
    List TextFunction → Except Halt (Except RenderError (List PrintedFunction))
  | [] => .ok (.ok [])
  | f :: rest =>
    match f.printed rendering with
    | .error halt => .error halt
    | .ok (.error reason) => .ok (.error reason)
    | .ok (.ok p) =>
      match printedFunctions rendering rest with
      | .error halt => .error halt
      | .ok (.error reason) => .ok (.error reason)
      | .ok (.ok ps) => .ok (.ok (p :: ps))

/-- The first fault among texts that have to read as types. -/
def firstTypeFault? (texts : List String) : Option Grammar.Fault :=
  texts.findSome? fun text =>
    match Grammar.readType text with
    | .ok _ => none
    | .error fault => some fault

/-- Reads the names of a bundle: the type name, the runtime crate, then the functions. All paths
that are printed as types are then read as types. -/
def Bundle.printed (b : Bundle) : Except Halt (Except RenderError PrintedBundle) :=
  match Grammar.readIdentifier b.typeName with
  | .error fault => .ok (.error (.typeName b.typeName fault))
  | .ok typeName =>
    match Grammar.readPath b.runtime with
    | .error fault => .ok (.error (.runtime b.runtime fault))
    | .ok runtime =>
      match printedFunctions b.rendering b.functions with
      | .error halt => .error halt
      | .ok (.error reason) => .ok (.error reason)
      | .ok (.ok functions) =>
        let used := b.functions.flatMap fun f => [b.runtime, f.typePath]
        match firstTypeFault? used with
        | some fault => .ok (.error (.notType fault))
        | none => .ok (.ok ⟨typeName, runtime, functions⟩)

/-! ## Layout -/

namespace PrintedBody

/-- The name of the parameter; it begins with an underscore where it is not used. -/
def parameter : PrintedBody → String
  | .fixed _ => "_instance"
  | .formatted _ _ => "instance"

/-- The fields that fill a template, as arguments after it. -/
def argumentsLayout : List Accessor → Doc
  | [] => .empty
  | [a] => .spaceGap ++ .word "instance" ++ .zeroGap ++ .word ("." ++ a.written)
  | a :: rest =>
    .spaceGap ++ .word "instance" ++ .zeroGap ++ .word ("." ++ a.written ++ ",")
      ++ argumentsLayout rest

/-- The expression that is the body of a function. -/
def layout : PrintedBody → Doc
  | .fixed text =>
    .fill 0 (.word "::std::string::String::from" ++ .bracketed "(" ")" [.word (Text.quote text)])
  | .formatted template accessors =>
    .fill 0
      (.word "::std::format!("
        ++ .stack indentStep
          (.zeroGap
            ++ .fill 0 (.word (Text.quote template ++ ",") ++ argumentsLayout accessors)
            ++ Doc.zeroGap.outdentLast)
        ++ .word ")")

end PrintedBody

namespace PrintedFunction

/-- The function itself. -/
def functionLayout (f : PrintedFunction) : Doc :=
  .stack indentStep
    (.word ("fn " ++ functionName ++ "(")
      ++ .stack 0
        (.zeroGap ++ .word (f.body.parameter ++ ": &") ++ f.typePath.layout false
          ++ Doc.lastComma.outdentLast)
      ++ .word ")"
      ++ .stack (-indentStep) (.word " -> ::std::string::String")
      ++ .word " \x7b" ++ .lineEnd
      ++ f.body.layout ++ Doc.lineEnd.outdentLast)
    ++ .word "\x7d"

/-- The implementation of the trait. -/
def layout (typeName : Name) (runtime : Grammar.Path) (f : PrintedFunction) : Doc :=
  .stack indentStep
    (.fill (-indentStep)
      (.word "impl " ++ runtime.layout false ++ .word ("::" ++ traitName)
        ++ .bracketed "<" ">" [f.typePath.layout false]
        ++ .spaceGap ++ .word ("for " ++ typeName.written))
      ++ .word " \x7b" ++ .lineEnd
      ++ f.functionLayout ++ Doc.lineEnd.outdentLast)
    ++ .word "\x7d" ++ .lineEnd

end PrintedFunction

/-- The generated file after its header line. -/
def PrintedBundle.layout (b : PrintedBundle) : Doc :=
  .word ("/// `" ++ traitName ++ "` implementations for the " ++ toString b.functions.length
      ++ " marked type(s) of this crate.") ++ .lineEnd
    ++ .word ("pub struct " ++ b.typeName.written ++ ";") ++ .lineEnd
    ++ .concat (b.functions.map (PrintedFunction.layout b.typeName b.runtime))

/-- The text of the generated file. -/
def PrintedBundle.text (b : PrintedBundle) : String :=
  headerLine ++ "\n" ++ Layout.render b.layout

/-- The source text of a bundle. -/
def Bundle.render (b : Bundle) : Except Halt (Except RenderError String) :=
  match b.printed with
  | .error halt => .error halt
  | .ok (.error reason) => .ok (.error reason)
  | .ok (.ok printed) =>
    if printed.layout.printable then .ok (.ok printed.text) else .error .unprintable

end Fieldwise
