import Fieldwise.Json.Basic
import Fieldwise.Settings.Basic
import Fieldwise.Text.Quoted

set_option autoImplicit false

/-! # Settings as a table

A package keeps its settings in a table. `Settings.ofTable` reads it: an object with a member for
each setting that is chosen, or an array with the settings in order. What is not given keeps its
default. The first problem is reported, where members are looked at in the order of their
names. -/

namespace Fieldwise

/-- A problem in a table. -/
inductive TableError
  /-- A value is not of the wanted kind. -/
  | wrongType (found : Json) (wanted : String)
  | unknownSetting (name : String)
  | unknownRendering (word : String)
  /-- An object that should have one member has none or several. -/
  | notSingle
  /-- An array has too many items. -/
  | tooLong (length : Nat)

/-- A value in words. -/
def Json.described : Json → String
  | .null => "null"
  | .bool value => "boolean `" ++ (if value then "true" else "false") ++ "`"
  | .integer value => "integer `" ++ toString value ++ "`"
  | .float negative magnitude => "floating point `" ++ floatText negative magnitude ++ "`"
  | .string value => "string " ++ Text.quoteShown value
  | .array _ => "sequence"
  | .object _ => "map"

/-- A problem in words. -/
def TableError.message : TableError → String
  | .wrongType found wanted => "invalid type: " ++ found.described ++ ", expected " ++ wanted
  | .unknownSetting name =>
    "unknown field `" ++ name
      ++ "`, expected one of `marker`, `type-name`, `field-rendering`, `runtime-crate`"
  | .unknownRendering word => "unknown variant `" ++ word ++ "`, expected `display` or `debug`"
  | .notSingle => "invalid value: map, expected map with a single key"
  | .tooLong length =>
    "invalid length " ++ toString length ++ ", expected fewer elements in array"

namespace Settings

/-- A text in a table. -/
def textOf : Json → Except TableError String
  | .string value => .ok value
  | other => .error (.wrongType other "a string")

/-- The rendering that a word names. -/
def renderingOf (word : String) : Except TableError Rendering :=
  match Rendering.ofWord? word with
  | some rendering => .ok rendering
  | none => .error (.unknownRendering word)

/-- A rendering in a table: a word, or an object with that word as its only member, which has no
value. -/
def renderingIn : Json → Except TableError Rendering
  | .string word => renderingOf word
  | .object [(word, value)] => do
    let rendering ← renderingOf word
    match value with
    | .null => .ok rendering
    | other => .error (.wrongType other "unit")
  | .object _ => .error .notSingle
  | other => .error (.wrongType other "string or map")

/-- A setting. -/
inductive Key
  | marker
  | typeName
  | rendering
  | runtime
  deriving DecidableEq, Repr

/-- The setting of a name. -/
def Key.ofName? : String → Option Key
  | "marker" => some .marker
  | "type-name" => some .typeName
  | "field-rendering" => some .rendering
  | "runtime-crate" => some .runtime
  | _ => none

/-- The settings with a choice from a table. -/
def choose (s : Settings) (key : Key) (value : Json) : Except TableError Settings :=
  match key with
  | .marker => return { s with marker := ← textOf value }
  | .typeName => return { s with typeName := ← textOf value }
  | .rendering => return { s with rendering := ← renderingIn value }
  | .runtime => return { s with runtime := ← textOf value }

/-- The settings with the choices in the members of an object. -/
def chooseMembers (s : Settings) : List (String × Json) → Except TableError Settings
  | [] => .ok s
  | (name, value) :: rest =>
    match Key.ofName? name with
    | none => .error (.unknownSetting name)
    | some key => do chooseMembers (← s.choose key value) rest

/-- The settings with the choices in the items of an array; says how many are left. -/
def chooseItems (s : Settings) : List Key → List Json → Except TableError (Settings × Nat)
  | key :: keys, value :: rest => do chooseItems (← s.choose key value) keys rest
  | _, rest => .ok (s, rest.length)

/-- The settings in a table. -/
def ofTable : Json → Except TableError Settings
  | .object members => chooseMembers {} members
  | .array items => do
    let (s, left) ← chooseItems {} [.marker, .typeName, .rendering, .runtime] items
    if left = 0 then .ok s else .error (.tooLong items.length)
  | other => .error (.wrongType other "struct GeneratorConfig")

end Settings

end Fieldwise
