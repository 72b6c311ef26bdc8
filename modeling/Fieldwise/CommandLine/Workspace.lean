import Fieldwise.CommandLine.Version
import Fieldwise.Json.Reader
import Fieldwise.Json.Record
import Fieldwise.Location
import Fieldwise.Settings.Table
import Fieldwise.Text.Split

set_option autoImplicit false

/-! # Workspaces

A workspace has packages, of which one is picked by name or because it stands at the root. The
entry file of a package is that of its library, or else that of its first program. -/

namespace Fieldwise.CommandLine

/-- A thing that is built from a package: its kinds and its entry file. -/
structure Target where
  kinds : List String
  source : Location
  deriving DecidableEq, Repr

/-- A package of a workspace. -/
structure Member where
  name : String
  id : String
  manifest : Location
  targets : List Target
  /-- The tables that a package keeps for other programs. -/
  metadata : Json

/-- A workspace. -/
structure Workspace where
  root : Location
  targetDirectory : Location
  members : List Member
  /-- Which package is the root, where that is said: perhaps none. -/
  resolvedRoot : Option (Option String)

/-! ## Reading the description of a workspace -/

/-- Why a workspace is not known. -/
inductive WorkspaceError
  /-- The program that describes workspaces failed and said why. -/
  | commandFailed (output : String)
  | noDocument
  | unusable
  deriving DecidableEq, Repr

/-- The reason in words. -/
def WorkspaceError.message : WorkspaceError → String
  | .commandFailed output => "`cargo metadata` exited with an error: " ++ output
  | .noDocument => "could not find any json in the output of `cargo metadata`"
  | .unusable => "failed to interpret `cargo metadata`'s json"

/-! The description is read whole: what is of no use here has to be of the right kind too. -/

open Json (Written Record)

/-- A path. -/
def location? (w : Written) : Option Location := w.text?.map Location.mk

/-- The words for editions of the language. -/
def editions : List String := ["2015", "2018", "2021", "2024", "2027", "2030"]

/-- An edition of the language. -/
def edition? : Written → Option String := Written.word? editions.contains

/-- A text of a certain form. -/
def textOf? (admits : String → Bool) (w : Written) : Option String :=
  w.text?.bind fun text => if admits text then some text else none

/-- The kind of a dependency: any word, or nothing for the common kind. -/
def dependencyKind? : Written → Option (Option String) :=
  Written.nullable? (Written.word? fun _ => true)

/-- Checks the description of a dependency. -/
def dependency? (w : Written) : Option Unit := do
  let r ← Record.read? ["name", "source", "req", "kind", "optional", "uses_default_features",
    "features", "target", "rename", "registry", "path"] w
  let _ ← r.required "name" Written.text?
  let _ ← r.optional "source" Written.text?
  let _ ← r.required "req" (textOf? Version.isRequirement)
  let _ ← r.required "kind" dependencyKind?
  let _ ← r.required "optional" Written.bool?
  let _ ← r.required "uses_default_features" Written.bool?
  let _ ← r.required "features" Written.texts?
  let _ ← r.optional "target" Written.text?
  let _ ← r.optional "rename" Written.text?
  let _ ← r.optional "registry" Written.text?
  let _ ← r.optional "path" Written.text?
  return ()

/-- Reads a target. -/
def Target.ofDocument (w : Written) : Option Target := do
  let r ← Record.read? ["name", "kind", "crate_types", "required-features", "src_path", "edition",
    "doctest", "test", "doc"] w
  let _ ← r.required "name" Written.text?
  let kinds ← r.required "kind" Written.texts?
  let _ ← r.defaulted "crate_types" Written.texts? []
  let _ ← r.defaulted "required-features" Written.texts? []
  let source ← r.required "src_path" location?
  let _ ← r.defaulted "edition" edition? ""
  let _ ← r.defaulted "doctest" Written.bool? true
  let _ ← r.defaulted "test" Written.bool? true
  let _ ← r.defaulted "doc" Written.bool? true
  return ⟨kinds, source⟩

/-- How many arrays and objects are around the tables of a package. -/
def packageDepth : Nat := 3

/-- Reads a package. -/
def Member.ofDocument (w : Written) : Option Member := do
  let r ← Record.read? ["name", "version", "authors", "id", "source", "description",
    "dependencies", "license", "license_file", "targets", "features", "manifest_path",
    "categories", "keywords", "readme", "repository", "homepage", "documentation", "edition",
    "metadata", "links", "publish", "default_run", "rust_version"] w
  let name ← r.required "name" Written.text?
  let _ ← r.required "version" (textOf? Version.isVersion)
  let _ ← r.defaulted "authors" Written.texts? []
  let id ← r.required "id" Written.text?
  let _ ← r.optional "source" Written.text?
  let _ ← r.optional "description" Written.text?
  let _ ← r.required "dependencies" (Written.list? dependency?)
  let _ ← r.optional "license" Written.text?
  let _ ← r.optional "license_file" Written.text?
  let targets ← r.required "targets" (Written.list? Target.ofDocument)
  let _ ← r.required "features" (Written.table? Written.texts?)
  let manifest ← r.required "manifest_path" location?
  let _ ← r.defaulted "categories" Written.texts? []
  let _ ← r.defaulted "keywords" Written.texts? []
  let _ ← r.optional "readme" Written.text?
  let _ ← r.optional "repository" Written.text?
  let _ ← r.optional "homepage" Written.text?
  let _ ← r.optional "documentation" Written.text?
  let _ ← r.defaulted "edition" edition? ""
  let metadata ← r.defaulted "metadata" (Written.value? (Json.depthLimit - packageDepth)) .null
  let _ ← r.optional "links" Written.text?
  let _ ← r.optional "publish" Written.texts?
  let _ ← r.optional "default_run" Written.text?
  let _ ← r.defaulted "rust_version"
    (Written.nullable? (textOf? Version.isCompilerVersion)) none
  return { name, id, manifest, targets, metadata }

/-- Checks how a package depends on others. -/
def dependencyUse? (w : Written) : Option Unit := do
  let r ← Record.read? ["kind", "target"] w
  let _ ← r.required "kind" dependencyKind?
  let _ ← r.optional "target" Written.text?
  return ()

/-- Checks one dependency in the graph of packages. -/
def edge? (w : Written) : Option Unit := do
  let r ← Record.read? ["name", "pkg", "dep_kinds"] w
  let _ ← r.required "name" Written.text?
  let _ ← r.required "pkg" Written.text?
  let _ ← r.defaulted "dep_kinds" (Written.list? dependencyUse?) []
  return ()

/-- Checks one package in the graph of packages. -/
def node? (w : Written) : Option Unit := do
  let r ← Record.read? ["id", "deps", "dependencies", "features"] w
  let _ ← r.required "id" Written.text?
  let _ ← r.defaulted "deps" (Written.list? edge?) []
  let _ ← r.required "dependencies" Written.texts?
  let _ ← r.defaulted "features" Written.texts? []
  return ()

/-- Reads the graph of packages, of which only the root counts. -/
def root? (w : Written) : Option (Option String) := do
  let r ← Record.read? ["nodes", "root"] w
  let _ ← r.required "nodes" (Written.list? node?)
  r.optional "root" Written.text?

/-- Reads a workspace. -/
def Workspace.ofDocument (w : Written) : Option Workspace := do
  let r ← Record.read? ["packages", "workspace_members", "workspace_default_members", "resolve",
    "workspace_root", "target_directory", "metadata", "version"] w
  let members ← r.required "packages" (Written.list? Member.ofDocument)
  let _ ← r.required "workspace_members" Written.texts?
  let _ ← r.defaulted "workspace_default_members" (Written.nullable? Written.texts?) none
  let resolvedRoot ← r.optional "resolve" root?
  let root ← r.required "workspace_root" location?
  let targetDirectory ← r.required "target_directory" location?
  let _ ← r.defaulted "metadata" (Written.value? (Json.depthLimit - 1)) .null
  let _ ← r.required "version" Written.natural?
  return { root, targetDirectory, members, resolvedRoot }

/-- What the program that describes workspaces has said. -/
inductive ToolOutput
  | failed (message : String)
  | printed (text : String)
  deriving DecidableEq, Repr

/-- A line without a carriage return at its end. -/
def dropReturn (line : List Char) : List Char :=
  if line.getLast? = some '\r' then line.dropLast else line

/-- The workspace that a program has described: the document is the first line that begins with
a brace. -/
def Workspace.ofOutput : ToolOutput → Except WorkspaceError Workspace
  | .failed message => .error (.commandFailed message)
  | .printed text =>
    match (Text.pieces '\n' text.toList).find? fun line => line.head? = some '{' with
    | none => .error .noDocument
    | some line =>
      match (Written.read? (String.ofList (dropReturn line))).bind Workspace.ofDocument with
      | some workspace => .ok workspace
      | none => .error .unusable

/-! ## Picking a package -/

/-- Why no package is picked. -/
inductive SelectionError
  | packageNotFound (name : String)
  | rootMissing
  | noEntry (package : String)
  | settings (package : String) (reason : TableError)

/-- The reason in words. -/
def SelectionError.message : SelectionError → String
  | .packageNotFound name => "package '" ++ name ++ "' not found in workspace"
  | .rootMissing => "workspace root package was not available; pass --package"
  | .noEntry package => "package '" ++ package ++ "' has no lib or bin target to scan"
  | .settings package reason =>
    "invalid package.metadata.static_string_util in '" ++ package ++ "': " ++ reason.message

/-- A package with what its manifest says. -/
structure Selection where
  package : String
  targetDirectory : Location
  entry : Location
  defaults : Settings
  deriving DecidableEq, Repr

/-- The kinds of libraries. -/
def libraryKinds : List String := ["lib", "rlib", "dylib", "cdylib", "staticlib", "proc-macro"]

/-- Whether a target is a library. -/
def Target.isLibrary (t : Target) : Bool := t.kinds.any libraryKinds.contains

/-- Whether a target is a program. -/
def Target.isProgram (t : Target) : Bool := t.kinds.contains "bin"

/-- The entry file among targets that are looked at one after another: a library ends the search,
and the first program is remembered for the case that there is none. -/
def entryAfter? (remembered : Option Location) : List Target → Option Location
  | [] => remembered
  | t :: rest =>
    if t.isLibrary then some t.source
    else if remembered.isNone && t.isProgram then entryAfter? (some t.source) rest
    else entryAfter? remembered rest

/-- The entry file among targets: that of the first library, else of the first program. -/
def entryOf? (targets : List Target) : Option Location := entryAfter? none targets

/-- The name of the table with a package's settings. -/
def settingsKey : String := "static_string_util"

/-- The settings of a package. -/
def Member.settings (m : Member) : Except TableError Settings :=
  match m.metadata.get? settingsKey with
  | some table => Settings.ofTable table
  | none => .ok {}

namespace Workspace

/-- The package at the root of a workspace: the one that is said to be, or else the one whose
manifest is in the directory of the workspace. -/
def rootMember? (w : Workspace) : Option Member :=
  match w.resolvedRoot with
  | some root => root.bind fun id => w.members.find? fun m => m.id == id
  | none => w.members.find? fun m => m.manifest.sameAs (w.root.child "Cargo.toml")

/-- The package of a name, or the one at the root. -/
def member (w : Workspace) : Option String → Except SelectionError Member
  | some name =>
    match w.members.find? fun m => m.name == name with
    | some m => .ok m
    | none => .error (.packageNotFound name)
  | none =>
    match w.rootMember? with
    | some m => .ok m
    | none => .error .rootMissing

/-- Picks a package. -/
def select (w : Workspace) (name : Option String) : Except SelectionError Selection :=
  match w.member name with
  | .error reason => .error reason
  | .ok m =>
    match entryOf? m.targets with
    | none => .error (.noEntry m.name)
    | some entry =>
      match m.settings with
      | .error reason => .error (.settings m.name reason)
      | .ok defaults => .ok ⟨m.name, w.targetDirectory, entry, defaults⟩

end Workspace

end Fieldwise.CommandLine
