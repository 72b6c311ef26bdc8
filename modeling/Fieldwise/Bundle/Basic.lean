import Fieldwise.Bundle.Accessor
import Fieldwise.Event
import Fieldwise.Location
import Fieldwise.Marked
import Fieldwise.Settings.Basic

set_option autoImplicit false

/-! # Bundles

A bundle is what one run generates: a type in the package of the first marked type, with one
function for every marked type, in order. It is plain data; `Bundle/Source.lean` gives its
source text. -/

namespace Fieldwise

/-- A function that gives the text of a value. -/
structure TextFunction where
  /-- The qualified name of the type. -/
  declaration : String
  /-- The path by which generated code names the type. -/
  typePath : String
  /-- The name that the text begins with. -/
  simpleName : String
  /-- The labels of the fields. -/
  fields : List String
  deriving DecidableEq, Repr

/-- What one run generates. -/
structure Bundle where
  typeName : String
  /-- The package that the bundle belongs in. -/
  package : Package
  functions : List TextFunction
  rendering : Rendering
  runtime : String
  /-- The name of the file inside the directory of the package. -/
  fileName : String
  deriving DecidableEq, Repr

/-- Where a bundle belongs: every package on the way is a directory. -/
def Bundle.relativePath (b : Bundle) : Location :=
  let directory := b.package.segments.foldl (fun l s => l.child (dropRawMark s)) Location.empty
  directory.child b.fileName

/-! ## Generating -/

/-- Why a batch gives no bundle. -/
inductive GenerateError
  | emptyBatch
  /-- The first type is in the unnamed package. -/
  | missingPackage (declaration : String)
  /-- The path of a type is no path. -/
  | notTypePath (declaration path : String)
  /-- The label of a field is neither index nor name. -/
  | notFieldName (declaration field : String)
  deriving DecidableEq, Repr

namespace GenerateError

/-- The reason in words. -/
def message : GenerateError → String
  | .emptyBatch => "nothing to generate"
  | .missingPackage declaration => "the package of " ++ declaration ++ " has no name"
  | .notTypePath declaration path =>
    "invalid generated code for " ++ declaration ++ ": `" ++ path ++ "` is not a type path"
  | .notFieldName declaration field =>
    "invalid generated code for " ++ declaration ++ ": `" ++ field ++ "` is not a field name"

/-- The qualified name of the type that is to blame. -/
def culprit? : GenerateError → Option String
  | .emptyBatch => none
  | .missingPackage declaration | .notTypePath declaration _ | .notFieldName declaration _ =>
    some declaration

end GenerateError

/-- The path of a type from the root of its crate. -/
def typePathOf (qualifiedName : String) : String := "crate::" ++ qualifiedName

/-- The function for a type, whose path and fields can be written in source text. -/
def Marked.function (m : Marked) : Except Halt (Except GenerateError TextFunction) :=
  let typePath := typePathOf m.qualifiedName
  if !(Grammar.readPath typePath).isOk then .ok (.error (.notTypePath m.qualifiedName typePath))
  else
    match Accessor.ofLabels m.fields with
    | .error halt => .error halt
    | .ok (.error field) => .ok (.error (.notFieldName m.qualifiedName field))
    | .ok (.ok _) =>
      .ok (.ok {
        declaration := m.qualifiedName
        typePath
        simpleName := m.simpleName
        fields := m.fields })

/-- The functions for the types of a batch, or what is wrong with the first that has none. -/
def Batch.functions : List Marked → Except Halt (Except GenerateError (List TextFunction))
  | [] => .ok (.ok [])
  | m :: rest =>
    match m.function with
    | .error halt => .error halt
    | .ok (.error reason) => .ok (.error reason)
    | .ok (.ok f) =>
      match functions rest with
      | .error halt => .error halt
      | .ok (.error reason) => .ok (.error reason)
      | .ok (.ok fs) => .ok (.ok (f :: fs))

/-- A bundle, or why there is none, and what was said on the way. -/
structure Generation where
  result : Except GenerateError Bundle
  events : List Event

/-- Generates the bundle of a batch. The package of the first type decides where it belongs. -/
def Batch.generate (batch : Batch) (settings : Settings) : Except Halt Generation :=
  match batch.leader? with
  | none => .ok ⟨.error .emptyBatch, []⟩
  | some leader =>
    if leader.package.isUnnamed then .ok ⟨.error (.missingPackage leader.qualifiedName), []⟩
    else
      let events := if batch.any fun m => m.package ≠ leader.package then
          [Event.severalPackages leader.package.text] else []
      match functions batch with
      | .error halt => .error halt
      | .ok (.error reason) => .ok ⟨.error reason, events⟩
      | .ok (.ok functions) =>
        .ok ⟨.ok {
          typeName := settings.typeName
          package := leader.package
          functions
          rendering := settings.rendering
          runtime := settings.runtime
          fileName := settings.fileName }, events⟩

end Fieldwise
