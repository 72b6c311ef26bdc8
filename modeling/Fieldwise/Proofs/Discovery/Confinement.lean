import Fieldwise.Proofs.Discovery.Walks
import Fieldwise.Proofs.FileTree.Confinement

set_option autoImplicit false

/-! # Discovery stays inside the source root

A walk knows of the file system what its source root tells, and a source root asks from its
directory on, confined to it. So two trees that hold the same below that directory have the same
source root there (`FileTree.SameBelow.sourceRoot_eq`), and a crate declares the same in both
(`Crate.declarations_confined`), whatever its modules say in the attribute `path`. A module that
this attribute sends out of the directory is passed over with the event of a missing one.
-/

namespace Fieldwise

open Token Grammar

variable {t t' : FileTree} {place place' : Place}

/-- **A source root is made of what stands at and below its directory.** -/
theorem FileTree.SameBelow.sourceRoot_eq (h : t.SameBelow t' place place') :
    t.sourceRoot place = t'.sourceRoot place' := by
  unfold FileTree.sourceRoot
  simp only [FileTree.isFile, FileTree.readText, h.find]

namespace Walker

/-- The file of a module is not found where the attribute `path` leaves the source root. -/
theorem locate?_of_leaves {scope : Scope} {name path : String}
    (h : (scope.pathBase.child path).leaves = true) :
    (t.sourceRoot place).locate? scope name (some path) = none := by
  have hfile : (t.sourceRoot place).isFile (scope.pathBase.child path) = false :=
    FileTree.not_isFile_of_leaves h
  simp [SourceRoot.locate?, hfile]

/-- **A module that is sent out of the source root is passed over** like one whose file is missing:
nothing is found, and the event says so. -/
theorem walkItem_of_leaves {w : Walker} (hroot : w.root = t.sourceRoot place)
    (enter : Location → Scope → Walk) (file : Location) {scope : Scope}
    {attributes : List Attribute} (henabled : w.conditions.enables attributes = true) (name : Name)
    {path : String} (hpath : pathAttribute? attributes = some path)
    (hleaves : (scope.pathBase.child path).leaves = true) :
    w.walkItem enter file scope (.submodule attributes name none)
      = .found [] [.moduleMissing (scope.package.child name.written).text file.text] := by
  rw [walkItem_named w _ _ _ _ henabled, walkNamed, walkOutside, hpath, hroot,
    locate?_of_leaves hleaves]

end Walker

namespace Crate

variable {c : Crate}

/-- **Discovery reads nothing outside of the source root.** Let the directory of a crate's entry be
opened in two trees that hold the same at and below it. Then the crate declares the same in both,
with the same events, or fails for the same reason. A module that the attribute `path` sends out of
that directory, for good or on the way, is passed over with the event of a missing one. -/
theorem declarations_confined (hopen : t.openDirectory t.ambient c.directory = .ok place)
    (hopen' : t'.openDirectory t'.ambient c.directory = .ok place')
    (hsame : t.SameBelow t' place place') :
    c.declarations t = c.declarations t'
      ∧ ∀ (enter : Location → Scope → Walk) file (scope : Scope) attributes (name : Name) path,
        c.conditions.enables attributes = true → pathAttribute? attributes = some path →
          (scope.pathBase.child path).leaves = true →
            (c.walker (t.sourceRoot place)).walkItem enter file scope
                (.submodule attributes name none)
              = .found [] [.moduleMissing (scope.package.child name.written).text file.text] := by
  constructor
  · simp only [declarations, hopen, hopen', hsame.sourceRoot_eq]
  · intro enter file scope attributes name path henabled hpath hleaves
    exact Walker.walkItem_of_leaves (w := c.walker (t.sourceRoot place)) rfl enter file henabled
      name hpath hleaves

/-- The files of a crate whose modules lead out of its directory, one of them back into it. -/
def strayingEntries : List (Place × Node) :=
  [(["src"], .directory),
   (["src", "lib.rs"], .file ("#[path = \"../out.rs\"] mod a; "
     ++ "#[path = \"../src/in.rs\"] mod b; #[path = \"./in.rs\"] mod c;").toUTF8),
   (["src", "in.rs"], .file "pub struct Kept;".toUTF8)]

/-- These files alone. -/
def strayingTree : FileTree := { entries := strayingEntries }

/-- The same with the file that the first module asks for. -/
def temptingTree : FileTree :=
  { entries := strayingEntries ++ [(["out.rs"], .file "pub struct Stray;".toUTF8)] }

/-- The crate of these files. -/
def strayingCrate : Crate := ⟨⟨"src"⟩, "lib.rs", {}⟩

/-- A file outside of the source root is not read, nor is one inside by a way that leads out. -/
theorem strayingModules_confined :
    strayingTree.openDirectory strayingTree.ambient strayingCrate.directory = .ok ["src"]
      ∧ temptingTree.openDirectory temptingTree.ambient strayingCrate.directory = .ok ["src"]
      ∧ strayingTree.SameBelow temptingTree ["src"] ["src"]
      ∧ strayingCrate.declarations strayingTree = strayingCrate.declarations temptingTree
      ∧ declaredNames (strayingCrate.declarations temptingTree) = some ["c::Kept"] := by
  have hopen : strayingTree.openDirectory strayingTree.ambient strayingCrate.directory
      = .ok ["src"] := by rfl
  have hopen' : temptingTree.openDirectory temptingTree.ambient strayingCrate.directory
      = .ok ["src"] := by rfl
  have hsame : strayingTree.SameBelow temptingTree ["src"] ["src"] := by
    intro names
    have hout : ("src" :: names == ["out.rs"]) = false := by simp
    simp [FileTree.get?, strayingTree, temptingTree, strayingEntries, List.lookup_cons, hout]
  exact ⟨hopen, hopen', hsame, (declarations_confined hopen hopen' hsame).1, by decide +kernel⟩

end Crate

end Fieldwise
