import Fieldwise.Proofs.Discovery.Termination
import Fieldwise.Proofs.FileTree.Spelling

set_option autoImplicit false

/-! # The entry file of a crate

A crate takes the location of its entry file apart, and a walk puts the halves together again: it
opens the directory and looks for the name in it. If the location names a file that can be read,
both succeed and lead to this very file, however the location is written (`Crate.ReadsFrom`). What
can fail then is another file only, because a walk fails at a file that it enters, and the entry is
entered first (`Walker.exists_obstacle_of_failed`).

There is one exception, a location without a slash: its parent is the location without text, which
no file system opens. Such an entry file is never read though it is there (`Crate.ofEntry_reads`).
-/

namespace Fieldwise

open Token Grammar Relation

namespace Walker

variable {w : Walker}

/-- **A walk that fails** fails at a file that it enters, which gives no source. -/
theorem exists_obstacle_of_failed {depth : Nat} {trail : List Entrance} {a : Visit}
    {reason : SourceError}
    (h : (w.guardedWalk depth trail a.location a.scope).break? = some (some reason)) :
    ∃ v obstacle, ReflTransGen w.Enters a v ∧ w.root.load v.location = .error obstacle
      ∧ reason = obstacle.error (w.base.join v.location) := by
  induction depth generalizing trail a with
  | zero => cases h
  | succ depth ih =>
      rcases enters_of_guardedWalk_break h with
        ⟨-, hwhy⟩ | ⟨obstacle, hload, hwhy⟩ | ⟨b, hab, hinner⟩
      · cases hwhy
      · exact ⟨a, obstacle, .refl, hload, Option.some.inj hwhy⟩
      · obtain ⟨v, obstacle, hbv, hload, hreason⟩ := ih hinner
        exact ⟨v, obstacle, hbv.head hab, hload, hreason⟩

end Walker

namespace FileTree

variable {t : FileTree} {place : Place} {l m : Location} {text : String}

/-- What a source root loads is told by the place that the location leads to. -/
theorem load_eq_of_resolve_eq (h : t.resolve ⟨place, true⟩ l = t.resolve ⟨place, true⟩ m) :
    (t.sourceRoot place).load l = (t.sourceRoot place).load m := by
  simp only [sourceRoot, readText, find, h]

/-- It loads what has the name that a location spells in its directory. -/
theorem load_of_spells {name : String} {content : ByteArray} {source : SourceFile}
    (hname : FitsAsName name) (hplace : t.get? place = some .directory)
    (hnode : t.get? (place ++ [name]) = some (.file content))
    (htext : String.fromUTF8? content = some text) (hread : readFile text = .ok source) :
    (t.sourceRoot place).load ⟨name⟩ = .ok source := by
  have hfind : t.find ⟨place, true⟩ ⟨name⟩ = .ok (.file content) :=
    find_eq_ok_iff.mpr ⟨_, resolve_name hname hplace hnode, hnode⟩
  have hwhole : t.readText ⟨place, true⟩ ⟨name⟩ = .ok text :=
    readText_eq_ok_iff.mpr ⟨content, hfind, htext⟩
  simp only [sourceRoot, hwhole, hread]

end FileTree

namespace Crate

variable {c : Crate} {t : FileTree} {e : Location} {source : SourceFile} {root : Place}

/-- An error that is about the file of another module: the walk through the crate enters this file,
which is there, is not the entry file, and gives no source. -/
def BlamesModule (c : Crate) (t : FileTree) (root : Place) (reason : SourceError) : Prop :=
  ∃ v obstacle, TransGen (c.walker (t.sourceRoot root)).Enters c.entryVisit v
    ∧ t.isFile ⟨root, true⟩ v.location = true
    ∧ t.resolve ⟨root, true⟩ v.location ≠ .ok (root ++ [c.entry])
    ∧ (t.sourceRoot root).load v.location = .error obstacle
    ∧ reason = obstacle.error (c.directory.join v.location)

/-- The walk through a crate whose entry file holds a source goes through the items of this source,
unless the file is no part of the crate. -/
def walkThrough (c : Crate) (files : SourceRoot) (source : SourceFile) : Walk :=
  let w := c.walker files
  let shown := c.directory.join ⟨c.entry⟩
  if c.conditions.enables source.attributes then
    w.walkItems (w.guardedWalk (depthBound - 1) [c.entryVisit.entrance]) shown rootScope
      source.items
  else .found [] [.fileDisabled shown.text]

/-- A crate is read from the file that a location names: its directory can be opened, and in it the
name of its entry leads to this very file, which gives the source that is walked through. Any error
is about the file of another module. -/
structure ReadsFrom (c : Crate) (t : FileTree) (e : Location) (source : SourceFile)
    (root : Place) : Prop where
  opened : t.openDirectory t.ambient c.directory = .ok root
  named : t.resolve t.ambient e = .ok (root ++ [c.entry])
  same : t.resolve ⟨root, true⟩ ⟨c.entry⟩ = .ok (root ++ [c.entry])
  loaded : (t.sourceRoot root).load ⟨c.entry⟩ = .ok source
  walked : c.declarations t = c.conclude (c.walkThrough (t.sourceRoot root) source)
  elsewhere : ∀ reason events, c.declarations t = .ok ⟨.error reason, events⟩ →
    c.BlamesModule t root reason

theorem depthBound_pos : 0 < depthBound :=
  Nat.zero_lt_of_lt (FileTree.card_entranceKey_lt (m := 4095) rfl)

/-- **What a crate declares** is found in the source that its entry file gives. -/
theorem declarations_of_loaded (hopen : t.openDirectory t.ambient c.directory = .ok root)
    (hloaded : (t.sourceRoot root).load ⟨c.entry⟩ = .ok source) :
    c.declarations t = c.conclude (c.walkThrough (t.sourceRoot root) source) := by
  obtain ⟨depth, hdepth⟩ := Nat.exists_eq_add_one.mpr depthBound_pos
  simp only [declarations, hopen, hdepth, walker, Walker.guardedWalk, List.not_mem_nil, if_false,
    Walker.walkSource, hloaded]
  simp only [walkThrough, hdepth, Nat.add_sub_cancel, walker, entryVisit, Walker.Visit.entrance]

/-- What a crate fails for once its directory is open is what the walk through it fails for. -/
theorem break?_of_declarations (hopen : t.openDirectory t.ambient c.directory = .ok root)
    {reason : SourceError} {events : List Event}
    (h : c.declarations t = .ok ⟨.error reason, events⟩) :
    ((c.walker (t.sourceRoot root)).guardedWalk depthBound [] c.entryVisit.location
      c.entryVisit.scope).break? = some (some reason) := by
  simp only [declarations, hopen] at h
  show ((c.walker (t.sourceRoot root)).guardedWalk depthBound [] ⟨c.entry⟩ rootScope).break? = _
  generalize (c.walker (t.sourceRoot root)).guardedWalk depthBound [] ⟨c.entry⟩ rootScope = walk
    at h ⊢
  cases walk with
  | found declarations events => cases h
  | failed reason events =>
      cases h
      rfl
  | endless => cases h

/-- **A crate whose entry file was loaded** fails for the file of another module only. -/
theorem blamesModule_of_loaded (hopen : t.openDirectory t.ambient c.directory = .ok root)
    (hentry : t.resolve ⟨root, true⟩ ⟨c.entry⟩ = .ok (root ++ [c.entry]))
    (hloaded : (t.sourceRoot root).load ⟨c.entry⟩ = .ok source) {reason : SourceError}
    {events : List Event} (h : c.declarations t = .ok ⟨.error reason, events⟩) :
    c.BlamesModule t root reason := by
  obtain ⟨v, obstacle, hreaches, hload, hreason⟩ :=
    Walker.exists_obstacle_of_failed (break?_of_declarations hopen h)
  have hother : t.resolve ⟨root, true⟩ v.location ≠ .ok (root ++ [c.entry]) := by
    intro hsame
    have hloads := FileTree.load_eq_of_resolve_eq (hsame.trans hentry.symm)
    rw [hloaded] at hloads
    cases hloads.symm.trans hload
  rcases reflTransGen_iff_eq_or_transGen.mp hreaches with rfl | hreaches
  · exact absurd hentry hother
  · obtain ⟨a, -, hlast⟩ := TransGen.tail'_iff.mp hreaches
    obtain ⟨_, -, -, hmeets⟩ := hlast
    exact ⟨v, obstacle, hreaches, hmeets.spec.1, hother, hload, hreason⟩

/-- No file system opens the location without text, so a crate in that directory is not read. -/
theorem declarations_of_empty (h : c.directory = .empty) :
    c.declarations t = .ok ⟨.error (.io .empty .notFound), []⟩ := by
  have hopen : t.openDirectory t.ambient .empty = .error .notFound := rfl
  simp only [declarations, h, hopen]

/-- **Which entry files are read.** Let a location name a file of a tree that holds source text.
Then it makes a crate, and if there is a slash in the location, this crate is read from that file:
its directory can be opened, the entry is loaded and walked through, and an error is about the file
of another module. If the location is a bare name, the directory has no text and cannot be opened,
so nothing is ever read. -/
theorem ofEntry_reads (conditions : Conditions) {text : String} (hrooted : t.Rooted)
    (htext : t.readText t.ambient e = .ok text) (hread : readFile text = .ok source) :
    ∃ c, ofEntry e conditions = .ok c
      ∧ ('/' ∈ e.text.toList ∧ (∃ root, c.ReadsFrom t e source root)
        ∨ '/' ∉ e.text.toList ∧ c.directory = .empty
          ∧ c.declarations t = .ok ⟨.error (.io .empty .notFound), []⟩) := by
  obtain ⟨content, hfind, hcontent⟩ := FileTree.readText_eq_ok_iff.mp htext
  obtain ⟨init, name, helements, hname⟩ := FileTree.exists_name_of_find hrooted hfind
  obtain ⟨root, hspells, hnode, hrefusal, hshort⟩ := FileTree.spells_of_find hname helements hfind
  obtain ⟨p, hparent, -⟩ := Location.parent?_of_name helements hname.idle
  have hfits := hspells.fitsAsName hname hshort hrefusal
  have hplace := hspells.directory
  have hcrate : ofEntry e conditions = .ok ⟨p, name, conditions⟩ := by
    simp only [ofEntry, Location.fileName?_of_name helements hname, hparent, Option.getD_some]
  refine ⟨_, hcrate, ?_⟩
  have hslash : '/' ∈ e.text.toList ↔ p.text ≠ "" := by
    rw [Location.slash_mem_iff helements, Ne,
      ← Location.text_parent?_iff helements hname.idle hparent]
  rw [hslash]
  by_cases hempty : p.text = ""
  · have hdirectory : p = .empty := by
      cases p
      exact congrArg Location.mk hempty
    exact .inr ⟨by simpa using hempty, hdirectory, declarations_of_empty hdirectory⟩
  · have hopen := hspells.openParent hname hrefusal hparent hempty
    have hentry : t.resolve ⟨root, true⟩ ⟨name⟩ = .ok (root ++ [name]) :=
      FileTree.resolve_name hfits hplace hnode
    have hloaded := FileTree.load_of_spells hfits hplace hnode hcontent hread
    have hreads : ReadsFrom ⟨p, name, conditions⟩ t e source root :=
      { opened := hopen
        named := hspells.resolve_eq hname hshort hrefusal hnode
        same := hentry
        loaded := hloaded
        walked := declarations_of_loaded (c := ⟨p, name, conditions⟩) hopen hloaded
        elsewhere := fun _ _ h =>
          blamesModule_of_loaded (c := ⟨p, name, conditions⟩) hopen hentry hloaded h }
    exact .inl ⟨hempty, root, hreads⟩

/-- What a crate fails for. -/
def failure? : Except Halt Findings → Option SourceError
  | .ok ⟨.error reason, _⟩ => some reason
  | _ => none

/-- A crate with a module whose file is no text. -/
def brokenTree : FileTree where
  entries := [(["src"], .directory), (["src", "lib.rs"], .file "mod broken;".toUTF8),
    (["src", "broken.rs"], .file ⟨#[255]⟩)]

/-- The entry file of that crate, with some detours. -/
def windingEntry : Location := ⟨"./src/../src//lib.rs"⟩

/-- The entry file is read in spite of the detours, and the error is about the module. -/
theorem windingEntry_read :
    brokenTree.Rooted ∧ brokenTree.readText brokenTree.ambient windingEntry = .ok "mod broken;"
      ∧ ∃ source, readFile "mod broken;" = .ok source
        ∧ ∃ c root, ofEntry windingEntry {} = .ok c
          ∧ c.ReadsFrom brokenTree windingEntry source root
          ∧ failure? (c.declarations brokenTree)
            = some (.io ⟨"./src/../src/broken.rs"⟩ .notText) := by
  have hrooted : brokenTree.Rooted := FileTree.rooted_of_entries rfl
  have htext : brokenTree.readText brokenTree.ambient windingEntry = .ok "mod broken;" := by
    decide +kernel
  have hparses : (readFile "mod broken;").isOk = true := by decide +kernel
  obtain ⟨source, hread⟩ : ∃ source, readFile "mod broken;" = .ok source := by
    cases hread : readFile "mod broken;" with
    | error fault =>
        rw [hread] at hparses
        cases hparses
    | ok source => exact ⟨source, rfl⟩
  have hfails : (ofEntry windingEntry {}).toOption.map
        (fun c => failure? (c.declarations brokenTree))
      = some (some (.io ⟨"./src/../src/broken.rs"⟩ .notText)) := by decide +kernel
  refine ⟨hrooted, htext, source, hread, ?_⟩
  obtain ⟨c, hcrate, ⟨-, root, hreads⟩ | ⟨hbare, -⟩⟩ := ofEntry_reads {} hrooted htext hread
  · rw [hcrate] at hfails
    exact ⟨c, root, hcrate, hreads, Option.some.inj hfails⟩
  · exact absurd (by decide) hbare

/-- A directory with the entry file of a crate. -/
def bareTree : FileTree where
  entries := [(["lib.rs"], .file "pub struct User;\n".toUTF8)]

/-- **A bare name is not read:** the file is there and holds source text, and the crate fails for
its own directory. -/
theorem bareEntry_unread :
    bareTree.Rooted ∧ bareTree.readText bareTree.ambient ⟨"lib.rs"⟩ = .ok "pub struct User;\n"
      ∧ (readFile "pub struct User;\n").isOk = true
      ∧ ∃ c, ofEntry ⟨"lib.rs"⟩ {} = .ok c
        ∧ c.declarations bareTree = .ok ⟨.error (.io .empty .notFound), []⟩ := by
  have hcrate : ofEntry ⟨"lib.rs"⟩ {} = .ok ⟨.empty, "lib.rs", {}⟩ := by decide
  exact ⟨FileTree.rooted_of_entries rfl, by decide +kernel, by decide +kernel, _, hcrate,
    declarations_of_empty rfl⟩

end Crate

end Fieldwise
