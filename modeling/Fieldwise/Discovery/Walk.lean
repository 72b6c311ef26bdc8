import Fieldwise.Discovery.Conversion
import Fieldwise.Event
import Fieldwise.FileTree.Basic
import Fieldwise.Halt

set_option autoImplicit false

/-! # Walking the modules of a crate

The declarations of a crate are found by reading its entry file and following its modules. A
module without content is looked for in a file of its name beside its parent, or in a directory
of its name; the attribute `path` names another file. Files are loaded from a `SourceRoot`,
which is all that a walk knows of the file system. -/

namespace Fieldwise

open Token Grammar

/-! ## What a walk reads and what it gives -/

/-- Why a crate cannot be read. -/
inductive SourceError
  | missingEntry (location : Location)
  | io (location : Location) (reason : FileError)
  | parse (location : Location) (fault : Fault)
  deriving DecidableEq, Repr

/-- The reason in words. -/
def SourceError.message : SourceError → String
  | .missingEntry location => "no crate entry point found under " ++ location.text
  | .io location reason => "I/O error at " ++ location.text ++ ": " ++ reason.message
  | .parse location fault =>
    "failed to parse " ++ location.text ++ ":" ++ toString fault.line ++ ": " ++ fault.message

/-- Why a location gives no source file: it cannot be read, or what it holds is no source text. -/
inductive Obstacle
  | unreadable (reason : FileError)
  | unparsable (fault : Fault)
  deriving DecidableEq, Repr

/-- What an obstacle means for a crate, whose location is shown like that. -/
def Obstacle.error (shown : Location) : Obstacle → SourceError
  | .unreadable reason => .io shown reason
  | .unparsable fault => .parse shown fault

/-- The source files of a crate, by their location in the directory of its entry file. -/
structure SourceRoot where
  isFile : Location → Bool
  load : Location → Except Obstacle SourceFile

/-- The source root at a directory of a file tree. Locations that lead out of it name nothing. -/
def FileTree.sourceRoot (t : FileTree) (place : Place) : SourceRoot where
  isFile l := t.isFile ⟨place, true⟩ l
  load l :=
    match t.readText ⟨place, true⟩ l with
    | .error reason => .error (.unreadable reason)
    | .ok text =>
      match readFile text with
      | .error fault => .error (.unparsable fault)
      | .ok file => .ok file

/-- What a walk has come to. -/
inductive Walk
  | found (declarations : List Declaration) (events : List Event)
  | failed (reason : SourceError) (events : List Event)
  /-- The modules have no end. -/
  | endless
  deriving DecidableEq

namespace Walk

/-- A walk that found nothing. -/
def nothing : Walk := .found [] []

/-- A walk, followed by another if it did not fail. -/
def andThen (first : Walk) (next : Unit → Walk) : Walk :=
  match first with
  | .found declarations events =>
    match next () with
    | .found more after => .found (declarations ++ more) (events ++ after)
    | .failed reason after => .failed reason (events ++ after)
    | .endless => .endless
  | .failed reason events => .failed reason events
  | .endless => .endless

end Walk

/-! ## Finding the file of a module -/

/-- A module during a walk: its package, the directory of the modules inside it, and the
directory that the attribute `path` of those starts from. -/
structure Scope where
  package : Package
  directory : Location
  pathBase : Location
  deriving DecidableEq, Repr

/-- How a file is entered: its location, and the directories where the modules inside it are looked
for. -/
structure Entrance where
  location : Location
  directory : Location
  pathBase : Location
  deriving DecidableEq, Repr

/-- The entrance to a file that makes up a module. -/
def Scope.entrance (scope : Scope) (location : Location) : Entrance :=
  ⟨location, scope.directory, scope.pathBase⟩

/-- The file that the attribute `path` names. -/
def pathAttribute? (attributes : List Attribute) : Option String :=
  (attributes.filter fun a => a.path.isWord "path").findSome? Attribute.text?

/-- The file of a module, and the directory of the modules inside it. -/
def SourceRoot.locate? (root : SourceRoot) (scope : Scope) (name : String)
    (path : Option String) : Option (Location × Location) :=
  match path with
  | some path =>
    let target := scope.pathBase.child path
    if root.isFile target then some (target, target.parent?.getD .empty) else none
  | none =>
    let inner := scope.directory.child name
    let beside := scope.directory.child (name ++ ".rs")
    let inside := inner.child "mod.rs"
    if root.isFile beside then some (beside, inner)
    else if root.isFile inside then some (inside, inner)
    else none

/-! ## The walk -/

/-- What a walk goes by: the files, how their directory is shown, and the conditions. -/
structure Walker where
  root : SourceRoot
  base : Location
  conditions : Conditions

namespace Walker

/-- The scope of a module that is written in place. -/
def inlineScope (scope : Scope) (package : Package) (name : Name) (path : Option String) : Scope :=
  let directory := match path with
    | some path => scope.pathBase.child path
    | none => scope.directory.child name.text
  ⟨package, directory, directory⟩

/-- The walk through a module in another file. `enter` walks that file. -/
def walkOutside (w : Walker) (enter : Location → Scope → Walk) (file : Location) (scope : Scope)
    (package : Package) (name : Name) (path : Option String) : Walk :=
  match w.root.locate? scope name.text path with
  | some (target, directory) => enter target ⟨package, directory, target.parent?.getD .empty⟩
  | none => .found [] [.moduleMissing package.text file.text]

mutual

/-- The walk through an item. -/
def walkItem (w : Walker) (enter : Location → Scope → Walk) (file : Location) (scope : Scope) :
    Item → Walk
  | .type t =>
    match t.declaration? w.conditions scope.package file with
    | some d => .found [d] []
    | none => .nothing
  | .submodule attributes name content =>
    if !w.conditions.enables attributes then .nothing
    else
      let package := scope.package.child name.written
      let path := pathAttribute? attributes
      match content with
      | some items => walkItems w enter file (inlineScope scope package name path) items
      | none => w.walkOutside enter file scope package name path
  | .other => .nothing

/-- The walk through the items of a file or module. -/
def walkItems (w : Walker) (enter : Location → Scope → Walk) (file : Location) (scope : Scope) :
    List Item → Walk
  | [] => .nothing
  | item :: rest =>
    (walkItem w enter file scope item).andThen fun _ => walkItems w enter file scope rest

end

/-- The walk through a file. `enter` walks the files inside it. -/
def walkSource (w : Walker) (enter : Location → Scope → Walk) (location : Location)
    (scope : Scope) : Walk :=
  let shown := w.base.join location
  match w.root.load location with
  | .error obstacle => .failed (obstacle.error shown) []
  | .ok file =>
    if w.conditions.enables file.attributes then w.walkItems enter shown scope file.items
    else .found [] [.fileDisabled shown.text]

/-- The walk through a file, with at most so many files inside each other. -/
def walkFile (w : Walker) : Nat → Location → Scope → Walk
  | 0, _, _ => .endless
  | depth + 1, location, scope => w.walkSource (w.walkFile depth) location scope

/-- The same walk, which stops at a file that is entered once more while it is open. `trail` holds
the entrances of the open files. -/
def guardedWalk (w : Walker) : Nat → List Entrance → Location → Scope → Walk
  | 0, _, _, _ => .endless
  | depth + 1, trail, location, scope =>
    if scope.entrance location ∈ trail then .endless
    else w.walkSource (w.guardedWalk depth (scope.entrance location :: trail)) location scope

end Walker

end Fieldwise
