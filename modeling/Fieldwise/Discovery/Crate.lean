import Fieldwise.Discovery.Walk

set_option autoImplicit false

/-! # Crates

A crate is given by its entry file and the conditions it is compiled under. `Crate.declarations`
finds everything it declares. -/

namespace Fieldwise

/-- A crate: the directory and the name of its entry file, and its conditions. -/
structure Crate where
  directory : Location
  entry : String
  conditions : Conditions
  deriving DecidableEq, Repr

/-- What came of reading a crate. -/
structure Findings where
  result : Except SourceError (List Declaration)
  events : List Event

namespace Crate

/-- The crate with an entry file. -/
def ofEntry (entry : Location) (conditions : Conditions) : Except SourceError Crate :=
  match entry.fileName? with
  | some name => .ok ⟨entry.parent?.getD ⟨"."⟩, name, conditions⟩
  | none => .error (.missingEntry entry)

/-- The crate in the directory of a package: a library, else a program. -/
def ofPackage (t : FileTree) (package : Location) (conditions : Conditions) :
    Except SourceError Crate :=
  let directory := package.child "src"
  match ["lib.rs", "main.rs"].map directory.child |>.find? (t.isFile t.ambient) with
  | some entry => ofEntry entry conditions
  | none => .error (.missingEntry directory)

/-- More than there are locations of files, of which each has fewer than `locationLimit` bytes. -/
def locationCount : Nat := Nat.pow 257 FileTree.locationLimit

/-- How deep files can lie inside each other unless they do so without end: among so many open
files one was entered twice in the same way. -/
def depthBound : Nat := locationCount * locationCount

/-- What a walk through the crate goes by. -/
def walker (c : Crate) (root : SourceRoot) : Walker := ⟨root, c.directory, c.conditions⟩

/-- The module that the entry file makes up. -/
def rootScope : Scope := ⟨.root, .empty, .empty⟩

/-- What a walk through a crate comes to. -/
def conclude (c : Crate) : Walk → Except Halt Findings
  | .found found events =>
    let scanned := Event.crateScanned (c.directory.child c.entry).text found.length
    .ok ⟨.ok found, events ++ [scanned]⟩
  | .failed reason events => .ok ⟨.error reason, events⟩
  | .endless => .error .endlessModules

/-- Everything that a crate declares. -/
def declarations (c : Crate) (t : FileTree) : Except Halt Findings :=
  match t.openDirectory t.ambient c.directory with
  | .error reason => .ok ⟨.error (.io c.directory reason), []⟩
  | .ok place =>
    c.conclude ((c.walker (t.sourceRoot place)).guardedWalk depthBound [] ⟨c.entry⟩ rootScope)

end Crate

end Fieldwise
