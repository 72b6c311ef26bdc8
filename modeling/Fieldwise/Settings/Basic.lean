import Fieldwise.Grammar.File
import Fieldwise.Text.SnakeCase

set_option autoImplicit false

/-! # Settings

What a user can choose: the attribute that marks a type, the name of the generated type, how the
value of a field is written, and the crate through which generated code reaches the trait it
implements. `Settings.check` says whether the names can stand in source text. -/

namespace Fieldwise

/-- How the value of a field is written: for readers, or for programmers. -/
inductive Rendering
  | display
  | debug
  deriving DecidableEq, Repr

namespace Rendering

/-- The mark in a template that stands for a value. -/
def placeholder : Rendering → String
  | .display => "\x7b\x7d"
  | .debug => "\x7b:?\x7d"

/-- The word for a rendering. -/
def word : Rendering → String
  | .display => "display"
  | .debug => "debug"

/-- The rendering that a word names. -/
def ofWord? : String → Option Rendering
  | "display" => some .display
  | "debug" => some .debug
  | _ => none

end Rendering

/-- The choices of a user. -/
structure Settings where
  /-- The name of the attribute that marks a type. -/
  marker : String := "static_string_util"
  /-- The name of the generated type. -/
  typeName : String := "StringUtil"
  rendering : Rendering := .display
  /-- The path of the crate that has the trait. -/
  runtime : String := "static_string_util"
  deriving DecidableEq, Repr

/-- A name among the settings that cannot stand in source text. -/
inductive SettingsError
  | marker (text : String)
  | typeName (text : String)
  | runtime (text : String)
  deriving DecidableEq, Repr

/-- An unusable setting in words. -/
def SettingsError.message : SettingsError → String
  | .marker text => "marker '" ++ text ++ "' is not a valid attribute name"
  | .typeName text => "type name '" ++ text ++ "' is not a valid Rust identifier"
  | .runtime text => "runtime crate '" ++ text ++ "' is not a valid Rust path"

/-- A marker as it is written before a type. -/
def markerText (marker : String) : String := "#[" ++ marker ++ "]"

namespace Settings

/-- Says which of the names is unusable first: the marker and the type name are identifiers, the
runtime crate is a path. -/
def check (s : Settings) : Except SettingsError Unit :=
  if !(Grammar.readIdentifier s.marker).isOk then .error (.marker s.marker)
  else if !(Grammar.readIdentifier s.typeName).isOk then .error (.typeName s.typeName)
  else if !(Grammar.readPath s.runtime).isOk then .error (.runtime s.runtime)
  else .ok ()

/-- The name of the generated file. -/
def fileName (s : Settings) : String := Text.snakeCase s.typeName ++ ".rs"

end Settings

end Fieldwise
