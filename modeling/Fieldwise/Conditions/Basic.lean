import Fieldwise.Text.Split

set_option autoImplicit false

/-! # Conditions

The options and features under which a crate is compiled. An option is a name alone or a name
with a value; features are kept apart, in one spelling. The option `test` is never set, because
what is generated belongs to the regular build. -/

namespace Fieldwise

/-- The environment of a process: names with their values. Of several values for one name the
last counts. -/
structure Environment where
  bindings : List (String × String) := []
  deriving DecidableEq, Repr

/-- The value of a variable. -/
def Environment.get? (e : Environment) (name : String) : Option String :=
  e.bindings.reverse.lookup name

/-- The variables that count, each with its value. -/
def Environment.effective (e : Environment) : List (String × String) :=
  e.bindings.filter fun (name, value) => e.get? name == some value

/-- The options and features that are set. -/
structure Conditions where
  options : List (String × Option String) := []
  features : List String := []
  deriving DecidableEq, Repr

namespace Conditions

/-- The one spelling of a feature: small letters, and underscores for hyphens. -/
def featureSpelling (feature : String) : String :=
  String.ofList ((Text.lowerLatin feature).toList.map fun c => if c = '-' then '_' else c)

/-- The conditions with one more feature. -/
def withFeature (s : Conditions) (feature : String) : Conditions :=
  { s with features := s.features.insert (featureSpelling feature) }

/-- The conditions with one more option. A value of `feature` is a feature. -/
def withOption (s : Conditions) (name : String) (value : Option String) : Conditions :=
  if name = "test" then s
  else
    match name, value with
    | "feature", some feature => s.withFeature feature
    | name, value => { s with options := s.options.insert (name, value) }

/-- The conditions with one more name. -/
def withFlag (s : Conditions) (name : String) : Conditions := s.withOption name none

/-- The conditions with one more name and value. -/
def withValue (s : Conditions) (name value : String) : Conditions := s.withOption name (some value)

/-- Whether an option is set. -/
def has (s : Conditions) (name : String) (value : Option String) : Bool :=
  if name = "test" then false
  else
    match name, value with
    | "feature", some feature => s.features.contains (featureSpelling feature)
    | name, value => s.options.contains (name, value)

/-- Whether two conditions set the same options and features. -/
def sameAs (a b : Conditions) : Bool :=
  a.options.all b.options.contains && b.options.all a.options.contains
    && a.features.all b.features.contains && b.features.all a.features.contains

/-! ## Where conditions come from -/

/-- The conditions with what a variable of a build says. A variable for an option holds its
values with commas between them; without any text it is the name alone. -/
def withVariable (s : Conditions) (binding : String × String) : Conditions :=
  match Text.afterStart? "CARGO_FEATURE_" binding.1 with
  | some feature => s.withFeature feature
  | none =>
    match Text.afterStart? "CARGO_CFG_" binding.1 with
    | some name =>
      let name := Text.lowerLatin name
      if binding.2 = "" then s.withFlag name
      else (Text.splitText ',' binding.2).foldl (fun s value => s.withValue name value) s
    | none => s

/-- The conditions that the variables of a build describe. -/
def ofVariables (bindings : List (String × String)) : Conditions :=
  bindings.foldl withVariable {}

/-- The conditions of the machine that the program runs on. -/
def host : Conditions :=
  (((((({} : Conditions).withValue "target_os" "linux").withValue "target_family" "unix").withValue
    "target_arch" "x86_64").withValue "target_pointer_width" "64").withFlag "unix").withFlag
    "debug_assertions"

/-- The conditions of the build that the process is part of, else those of the machine. -/
def current (e : Environment) : Conditions :=
  if (e.get? "CARGO_CFG_TARGET_OS").isSome then ofVariables e.effective else host

end Conditions

end Fieldwise
