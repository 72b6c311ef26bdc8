import Fieldwise.Bundle.Source
import Fieldwise.FileTree.Change

set_option autoImplicit false

/-! # Emission

Where generated bundles go: a `Shelf` keeps their text in memory, an output directory keeps them
in files. A file is first written under another name and then renamed, so that a reader never
meets half of it. If writing breaks off, what was written is removed. -/

namespace Fieldwise

/-- Why a bundle is not stored. -/
inductive EmitError
  | render (reason : RenderError)
  | io (location : Location) (reason : FileError)
  deriving DecidableEq, Repr

/-- The reason in words. -/
def EmitError.message : EmitError → String
  | .render reason => "failed to render generated source: " ++ reason.message
  | .io location reason => "I/O error at " ++ location.text ++ ": " ++ reason.message

/-- A bundle that was stored: where, and how many functions it has. -/
structure Emitted where
  location : Location
  functions : Nat
  deriving DecidableEq, Repr

/-- What came of storing a bundle in a store. -/
structure Emission (σ : Type) where
  result : Except EmitError Emitted
  events : List Event
  store : σ

/-- A way to store bundles. -/
abbrev Emitter (σ : Type) := Bundle → σ → Except Halt (Emission σ)

/-! ## In memory -/

/-- The texts of bundles by their location. -/
structure Shelf where
  entries : List (Location × String) := []
  deriving DecidableEq, Repr

namespace Shelf

/-- The text at a location. -/
def get? (s : Shelf) (l : Location) : Option String :=
  (s.entries.find? fun e => e.1.sameAs l).map Prod.snd

/-- The number of texts. -/
def size (s : Shelf) : Nat := s.entries.length

/-- The shelf with a text at a location, in place of one that is there. -/
def insert (s : Shelf) (l : Location) (text : String) : Shelf :=
  ⟨(s.entries.filter fun e => !e.1.sameAs l) ++ [(l, text)]⟩

/-- Stores a bundle on a shelf. -/
def emitter : Emitter Shelf := fun bundle shelf =>
  match bundle.render with
  | .error halt => .error halt
  | .ok (.error reason) => .ok ⟨.error (.render reason), [], shelf⟩
  | .ok (.ok text) =>
    let location := bundle.relativePath
    .ok ⟨.ok ⟨location, bundle.functions.length⟩, [], shelf.insert location text⟩

end Shelf

/-! ## In files -/

/-- The directory that bundles are written to. -/
structure OutputDirectory where
  location : Location
  deriving DecidableEq, Repr

/-- The name under which a file is written before it is renamed. -/
def temporaryName (fileName : String) : String := "." ++ fileName ++ ".tmp"

namespace OutputDirectory

open FileTree

/-- Opens the output directory, which is made if it is not there. -/
def ready (o : OutputDirectory) : Change FileError Place := fun t =>
  match t.openDirectory t.ambient o.location with
  | .ok place => .ok place t
  | .error .notFound =>
    match Change.makeDirectories t.ambient o.location t with
    | .ok _ after => Change.ask (fun t => t.openDirectory t.ambient o.location) after
    | .error reason after => .error reason after
  | .error reason => .error reason t

/-- Opens the directory of a package, which is made if it is not there. -/
def openPackage (root : Place) (directory : Location) : Change FileError Place := do
  Change.makeDirectories ⟨root, true⟩ directory
  Change.ask fun t => t.openDirectory ⟨root, true⟩ directory

/-- The directory of a package inside the output directory, if it is another. -/
def packageDirectory? (relative : Location) : Option Location :=
  match relative.parent? with
  | some directory => if directory.text = "" then none else some directory
  | none => none

/-- Writes a text under a temporary name in a directory and renames it. -/
def replaceFile (trouble : Trouble) (place : Place) (fileName : String) (shown : Location)
    (text : String) : Change EmitError Unit := do
  let start : Start := ⟨place, true⟩
  let temporary := temporaryName fileName
  let written ← fun t =>
    match Change.writeFile trouble start ⟨temporary⟩ text.toUTF8 t with
    | .ok _ after => .ok none after
    | .error reason after => .ok (some reason) after
  match written with
  | some reason =>
    Change.regardless
      (Change.unlessRefused trouble.removing (Change.removeFile start ⟨temporary⟩))
    Change.fail (.io (shown.withFileName temporary) reason)
  | none =>
    Change.explain (.io shown)
      (Change.unlessRefused trouble.moving (Change.renameFile start ⟨temporary⟩ ⟨fileName⟩))

/-- Writes the text of a bundle to its file. -/
def store (o : OutputDirectory) (trouble : Trouble) (bundle : Bundle) (text : String) :
    Change EmitError Emitted := do
  let relative := bundle.relativePath
  let shown := o.location.join relative
  let root ← Change.explain (.io o.location) o.ready
  let place ← match packageDirectory? relative with
    | some directory =>
      Change.explain (.io (o.location.join directory)) (openPackage root directory)
    | none => pure root
  replaceFile trouble place bundle.fileName shown text
  return ⟨shown, bundle.functions.length⟩

/-- Stores a bundle in a file, on a device that may have trouble with it. -/
def emitterOn (o : OutputDirectory) (trouble : Trouble) : Emitter FileTree := fun bundle t =>
  match bundle.render with
  | .error halt => .error halt
  | .ok (.error reason) => .ok ⟨.error (.render reason), [], t⟩
  | .ok (.ok text) =>
    match o.store trouble bundle text t with
    | .ok emitted after =>
      .ok ⟨.ok emitted, [.bundleWritten emitted.location.text emitted.functions], after⟩
    | .error reason after => .ok ⟨.error reason, [], after⟩

/-- Stores a bundle in a file. -/
def emitter (o : OutputDirectory) : Emitter FileTree := o.emitterOn {}

end OutputDirectory

/-- Stores nothing and fails with a reason. -/
def refusingEmitter (reason : String) : Emitter Unit := fun bundle _ =>
  .ok ⟨.error (.io bundle.relativePath (.other reason)), [], ()⟩

end Fieldwise
