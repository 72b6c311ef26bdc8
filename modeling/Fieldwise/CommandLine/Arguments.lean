import Fieldwise.Location
import Fieldwise.Settings.Basic

set_option autoImplicit false

/-! # Command line arguments

The words of a command line are read from left to right. An option that takes a value is
*pending* from the moment its name is read: its value is checked when the next option is read, or
at the end. A word that is no option at all ends the reading at once, whatever is pending. -/

namespace Fieldwise.CommandLine

/-- Settings that are given on the command line. -/
structure Overrides where
  marker : Option String := none
  typeName : Option String := none
  rendering : Option Rendering := none
  runtime : Option String := none
  deriving DecidableEq, Repr

/-- Settings in which what is given on the command line comes first. -/
def Overrides.apply (o : Overrides) (base : Settings) : Settings where
  marker := o.marker.getD base.marker
  typeName := o.typeName.getD base.typeName
  rendering := o.rendering.getD base.rendering
  runtime := o.runtime.getD base.runtime

/-- What a command line asks for. -/
structure Arguments where
  package : Option String := none
  outDir : Option Location := none
  features : List String := []
  overrides : Overrides := {}
  check : Bool := false
  verbose : Bool := false
  deriving DecidableEq, Repr

/-- Why a command line is not carried out. -/
inductive ArgumentsError
  | unknownArgument
  | invalidValue
  | argumentConflict
  | tooManyValues
  | displayHelp
  | displayVersion
  deriving DecidableEq, Repr

/-- The status that the program ends with. Help is no failure. -/
def ArgumentsError.exitCode : ArgumentsError → Nat
  | .displayHelp | .displayVersion => 0
  | _ => 2

/-! ## Options -/

/-- An option with a value. -/
inductive Valued
  | package
  | outDir
  | features
  | marker
  | typeName
  | rendering
  | runtime
  deriving DecidableEq, Repr

/-- An option without a value. -/
inductive Flag
  | check
  | verbose
  | help
  | version
  deriving DecidableEq, Repr

/-- An option. -/
inductive Switch
  | valued (v : Valued)
  | flag (f : Flag)
  deriving DecidableEq, Repr

/-- The option with a long name. -/
def Switch.ofName? : String → Option Switch
  | "package" => some (.valued .package)
  | "out-dir" => some (.valued .outDir)
  | "features" => some (.valued .features)
  | "marker" => some (.valued .marker)
  | "type-name" => some (.valued .typeName)
  | "field-rendering" => some (.valued .rendering)
  | "runtime-crate" => some (.valued .runtime)
  | "check" => some (.flag .check)
  | "verbose" => some (.flag .verbose)
  | "help" => some (.flag .help)
  | "version" => some (.flag .version)
  | _ => none

/-- The option with a name of one letter. -/
def Flag.ofLetter? : Char → Option Flag
  | 'v' => some .verbose
  | 'h' => some .help
  | 'V' => some .version
  | _ => none

namespace Arguments

/-- The value of an option that may be given once. -/
def once {α : Type} (old : Option α) (new : α) : Except ArgumentsError (Option α) :=
  match old with
  | some _ => .error .argumentConflict
  | none => .ok (some new)

/-- The rendering that is asked for; it may be given once. -/
def onceRendering (old : Option Rendering) (word : String) :
    Except ArgumentsError (Option Rendering) :=
  match old, Rendering.ofWord? word with
  | some _, _ => .error .argumentConflict
  | none, none => .error .invalidValue
  | none, some rendering => .ok (some rendering)

/-- The arguments with the value of an option. The features are separated by commas and may be
given several times. -/
def give (a : Arguments) (option : Valued) (value : String) : Except ArgumentsError Arguments :=
  match option with
  | .package => return { a with package := ← once a.package value }
  | .outDir => return { a with outDir := ← once a.outDir ⟨value⟩ }
  | .features => return { a with features := a.features ++ Text.splitText ',' value }
  | .marker => return { a with overrides.marker := ← once a.overrides.marker value }
  | .typeName => return { a with overrides.typeName := ← once a.overrides.typeName value }
  | .rendering =>
    return { a with overrides.rendering := ← onceRendering a.overrides.rendering value }
  | .runtime => return { a with overrides.runtime := ← once a.overrides.runtime value }

/-- The arguments with a flag. Help and version end the reading. -/
def raise (a : Arguments) : Flag → Except ArgumentsError Arguments
  | .check => if a.check then .error .argumentConflict else .ok { a with check := true }
  | .verbose => if a.verbose then .error .argumentConflict else .ok { a with verbose := true }
  | .help => .error .displayHelp
  | .version => .error .displayVersion

end Arguments

/-! ## Reading words -/

/-- The arguments so far, and the option that is pending with its value once that is read. -/
structure Reading where
  arguments : Arguments := {}
  pending : Option (Valued × Option String) := none
  deriving DecidableEq, Repr

/-- A word of a command line. -/
inductive Word
  /-- Two hyphens alone, after which there are no options. -/
  | separator
  /-- Two hyphens, a name and perhaps `=` and a value. -/
  | long (name : String) (value : Option String)
  /-- A hyphen and letters. -/
  | short (letters : List Char)
  | plain (text : String)
  deriving DecidableEq, Repr

/-- A text up to the first `=` and from after it. -/
def splitEquals : List Char → List Char × Option (List Char)
  | [] => ([], none)
  | '=' :: rest => ([], some rest)
  | c :: rest =>
    let (name, value) := splitEquals rest
    (c :: name, value)

/-- What kind of word a text is. -/
def Word.ofText (text : String) : Word :=
  match text.toList with
  | ['-', '-'] => .separator
  | '-' :: '-' :: rest =>
    let (name, value) := splitEquals rest
    .long (String.ofList name) (value.map String.ofList)
  | ['-'] => .plain text
  | '-' :: letters => .short letters
  | _ => .plain text

namespace Reading

/-- Checks what is pending: it needs a value. -/
def settle (r : Reading) : Except ArgumentsError Reading :=
  match r.pending with
  | none => .ok r
  | some (_, none) => .error .invalidValue
  | some (option, some value) => return ⟨← r.arguments.give option value, none⟩

/-- Reads a flag. -/
def raise (r : Reading) (f : Flag) : Except ArgumentsError Reading := do
  let r ← r.settle
  return { r with arguments := ← r.arguments.raise f }

/-- Reads flags of one letter each. -/
def raiseAll (r : Reading) : List Char → Except ArgumentsError Reading
  | [] => .ok r
  | c :: rest =>
    match Flag.ofLetter? c with
    | some f => do raiseAll (← r.raise f) rest
    | none => .error .unknownArgument

/-- Reads a word other than the separator. -/
def read (r : Reading) : Word → Except ArgumentsError Reading
  | .separator => .error .unknownArgument
  | .long name value =>
    match Switch.ofName? name, value with
    | none, _ => .error .unknownArgument
    | some (.flag _), some _ => .error .tooManyValues
    | some (.flag f), none => r.raise f
    | some (.valued option), some value => do
      let r ← r.settle
      return { r with arguments := ← r.arguments.give option value }
    | some (.valued option), none => do
      let r ← r.settle
      return { r with pending := some (option, none) }
  | .short letters => r.raiseAll letters
  | .plain text =>
    match r.pending with
    | some (option, none) => .ok { r with pending := some (option, some text) }
    | _ => .error .unknownArgument

/-- Reads all words. After the separator no word is taken. -/
def readAll (r : Reading) : List String → Except ArgumentsError Reading
  | [] => r.settle
  | text :: rest =>
    match Word.ofText text with
    | .separator => if rest.isEmpty then r.settle else .error .unknownArgument
    | word => do readAll (← r.read word) rest

end Reading

/-- The name under which the program is called by another. -/
def subcommand : String := "stringutil"

/-- A command line, program name included, without the name of the subcommand. -/
def stripSubcommand : List String → List String
  | program :: word :: rest =>
    if word = subcommand then program :: rest else program :: word :: rest
  | few => few

/-- Reads a command line, program name included. -/
def Arguments.read (words : List String) : Except ArgumentsError Arguments := do
  let reading ← Reading.readAll {} (words.drop 1)
  return reading.arguments

end Fieldwise.CommandLine
