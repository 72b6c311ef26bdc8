import Fieldwise.CommandLine.Workspace
import Fieldwise.Proofs.Lists.First
import Fieldwise.Proofs.Location.Names

set_option autoImplicit false

/-! # The package that is picked, and its entry file

The entry file is found in one search through the targets of a package, which remembers the first
program and ends at a library. So it is that of the first library, wherever that stands, or else
that of the first program (`entryOf?_eq_some_iff`), and other targets do not count
(`entryOf?_relevant`). Before that the package is looked for, and after it the settings are read;
`Workspace.select_iff` says which of the three decides. -/

namespace Fieldwise.CommandLine

/-! ## The entry file -/

/-- Among the kinds of a target is one of the kinds of libraries. -/
def Target.HasLibraryKind (t : Target) : Prop := ∃ kind ∈ t.kinds, kind ∈ libraryKinds

/-- Among the kinds of a target is that of programs. -/
def Target.HasProgramKind (t : Target) : Prop := "bin" ∈ t.kinds

/-- The entry file of some targets. -/
inductive EntryOf (targets : List Target) : Location → Prop
  /-- It is that of the first library, wherever programs stand. -/
  | library {t : Target} (hfirst : IsFirst Target.HasLibraryKind targets t) :
      EntryOf targets t.source
  /-- If there is no library, it is that of the first program. -/
  | program {t : Target} (hnone : ∀ t ∈ targets, ¬ t.HasLibraryKind)
      (hfirst : IsFirst Target.HasProgramKind targets t) : EntryOf targets t.source

theorem Target.isLibrary_iff (t : Target) : t.isLibrary = true ↔ t.HasLibraryKind := by
  simp [isLibrary, HasLibraryKind]

theorem Target.isProgram_iff (t : Target) : t.isProgram = true ↔ t.HasProgramKind := by
  simp [isProgram, HasProgramKind]

section Entry

variable {targets : List Target} {entry : Location}

/-- **What the search gives** when a program may be remembered: a library comes before it, and it
comes before the programs further on. -/
theorem entryAfter?_eq (remembered : Option Location) (targets : List Target) :
    entryAfter? remembered targets
      = ((targets.find? Target.isLibrary).map Target.source).or
          (remembered.or ((targets.find? Target.isProgram).map Target.source)) := by
  induction targets generalizing remembered with
  | nil => cases remembered <;> rfl
  | cons t rest ih =>
      rw [entryAfter?, List.find?_cons, List.find?_cons]
      cases hlibrary : t.isLibrary with
      | true => rfl
      | false =>
          cases remembered with
          | some found => simp [ih]
          | none =>
              cases hprogram : t.isProgram with
              | true => simp [ih]
              | false => simp [ih]

theorem entryOf?_eq (targets : List Target) :
    entryOf? targets = ((targets.find? Target.isLibrary).map Target.source).or
      ((targets.find? Target.isProgram).map Target.source) := by
  rw [entryOf?, entryAfter?_eq, Option.none_or]

/-- **The search finds the entry file.** -/
theorem entryOf?_eq_some_iff : entryOf? targets = some entry ↔ EntryOf targets entry := by
  have hlibrary (t : Target) : targets.find? Target.isLibrary = some t
      ↔ IsFirst Target.HasLibraryKind targets t := find?_eq_some_iff_isFirst Target.isLibrary_iff
  have hprogram (t : Target) : targets.find? Target.isProgram = some t
      ↔ IsFirst Target.HasProgramKind targets t := find?_eq_some_iff_isFirst Target.isProgram_iff
  rw [entryOf?_eq, Option.or_eq_some_iff]
  simp only [Option.map_eq_some_iff, Option.map_eq_none_iff]
  rw [eq_none_iff_of_isFirst hlibrary]
  constructor
  · rintro (⟨t, ht, rfl⟩ | ⟨hnone, t, ht, rfl⟩)
    · exact .library ((hlibrary t).mp ht)
    · exact .program hnone ((hprogram t).mp ht)
  · rintro (⟨hfirst⟩ | ⟨hnone, hfirst⟩)
    · exact .inl ⟨_, (hlibrary _).mpr hfirst, rfl⟩
    · exact .inr ⟨hnone, _, (hprogram _).mpr hfirst, rfl⟩

/-- It finds none just if there is neither a library nor a program. -/
theorem entryOf?_eq_none_iff : entryOf? targets = none
    ↔ ∀ t ∈ targets, ¬ t.HasLibraryKind ∧ ¬ t.HasProgramKind := by
  rw [entryOf?_eq, Option.or_eq_none_iff, Option.map_eq_none_iff, Option.map_eq_none_iff,
    List.find?_eq_none, List.find?_eq_none, ← forall₂_and]
  simp only [Target.isLibrary_iff, Target.isProgram_iff]

/-- Whether a target counts: it is a library or a program. -/
def Target.counts (t : Target) : Bool := t.isLibrary || t.isProgram

/-- **Other targets do not count**, wherever they stand. -/
theorem entryOf?_relevant (targets : List Target) :
    entryOf? (targets.filter Target.counts) = entryOf? targets := by
  have hlibrary : (fun t : Target => t.counts && t.isLibrary) = Target.isLibrary := by
    funext t
    cases hkind : t.isLibrary <;> simp [Target.counts, hkind]
  have hprogram : (fun t : Target => t.counts && t.isProgram) = Target.isProgram := by
    funext t
    cases hkind : t.isProgram <;> simp [Target.counts, hkind]
  rw [entryOf?_eq, entryOf?_eq, List.find?_filter, List.find?_filter]
  simp only [Bool.decide_and, Bool.decide_eq_true, hlibrary, hprogram]

end Entry

/-! ## The package -/

/-- The table of settings of a package reads, or it is there and does not. -/
theorem Member.settings_cases (m : Member) : (∃ defaults, m.settings = .ok defaults)
    ∨ ∃ table reason, m.metadata.get? settingsKey = some table
      ∧ Settings.ofTable table = .error reason := by
  unfold settings
  cases m.metadata.get? settingsKey with
  | none => exact .inl ⟨_, rfl⟩
  | some table =>
      dsimp only
      cases hread : Settings.ofTable table with
      | ok defaults => exact .inl ⟨defaults, rfl⟩
      | error reason => exact .inr ⟨table, reason, rfl, hread⟩

namespace Workspace

variable {w : Workspace} {name : Option String} {m : Member} {reason : SelectionError}

/-- A package is the root: it is said to be, or, where nothing is said, its manifest is in the
directory of the workspace. -/
def IsRoot (w : Workspace) (m : Member) : Prop :=
  w.resolvedRoot = some (some m.id)
    ∨ w.resolvedRoot = none
      ∧ m.manifest.components = (w.root.child "Cargo.toml").components

/-- A package is what was asked for: the one of a name, or else the root. -/
def Answers (w : Workspace) : Option String → Member → Prop
  | some asked, m => m.name = asked
  | none, m => w.IsRoot m

/-- The package that is picked is the first that was asked for. -/
def Picks (w : Workspace) (name : Option String) (m : Member) : Prop :=
  IsFirst (w.Answers name) w.members m

/-- The complaint that what was asked for is not there. -/
def absence : Option String → SelectionError
  | some asked => .packageNotFound asked
  | none => .rootMissing

/-- What is found of what was asked for. -/
def sought? (w : Workspace) : Option String → Option Member
  | some asked => w.members.find? fun m => m.name == asked
  | none => w.rootMember?

theorem rootMember?_eq_some_iff : w.rootMember? = some m ↔ IsFirst w.IsRoot w.members m := by
  unfold rootMember?
  cases hroot : w.resolvedRoot with
  | none =>
      refine find?_eq_some_iff_isFirst fun other => ?_
      simp [IsRoot, hroot, Location.sameAs_iff]
  | some root =>
      cases root with
      | none =>
          -- it is said that there is none
          have hnone : ¬ IsFirst w.IsRoot w.members m := by
            intro hfirst
            have hroot' := hfirst.holds
            simp [IsRoot, hroot] at hroot'
          simp [hnone]
      | some id =>
          refine find?_eq_some_iff_isFirst fun other => ?_
          rw [beq_iff_eq, IsRoot, hroot]
          simp [eq_comm]

/-- The search finds the package that is picked. -/
theorem sought?_eq_some_iff : w.sought? name = some m ↔ w.Picks name m := by
  cases name with
  | some asked => exact find?_eq_some_iff_isFirst fun other => beq_iff_eq
  | none => exact rootMember?_eq_some_iff

/-- It finds nothing just if no package is what was asked for. -/
theorem sought?_eq_none_iff : w.sought? name = none ↔ ∀ m ∈ w.members, ¬ w.Answers name m :=
  eq_none_iff_of_isFirst fun _ => sought?_eq_some_iff

theorem member_of_sought (h : w.sought? name = some m) : w.member name = .ok m := by
  cases name with
  | some asked =>
      rw [sought?] at h
      rw [member, h]
  | none =>
      rw [sought?] at h
      rw [member, h]

theorem member_of_absent (h : w.sought? name = none) : w.member name = .error (absence name) := by
  cases name with
  | some asked =>
      rw [sought?] at h
      rw [member, h, absence]
  | none =>
      rw [sought?] at h
      rw [member, h, absence]

/-! ## The whole selection -/

/-- What is picked: the package that was asked for, with its entry file and its settings. -/
inductive Selects (w : Workspace) (name : Option String) : Selection → Prop
  | picked {m : Member} {entry : Location} {defaults : Settings} (hpicks : w.Picks name m)
      (hentry : EntryOf m.targets entry) (hsettings : m.settings = .ok defaults) :
      Selects w name ⟨m.name, w.targetDirectory, entry, defaults⟩

/-- Why nothing is picked. Each reason is given only where those before it do not hold. -/
inductive Refuses (w : Workspace) (name : Option String) : SelectionError → Prop
  /-- No package is what was asked for. -/
  | absent (hnone : ∀ m ∈ w.members, ¬ w.Answers name m) : Refuses w name (absence name)
  /-- The package that is has neither a library nor a program. -/
  | noEntry {m : Member} (hpicks : w.Picks name m)
      (hnone : ∀ t ∈ m.targets, ¬ t.HasLibraryKind ∧ ¬ t.HasProgramKind) :
      Refuses w name (.noEntry m.name)
  /-- It has, but its table of settings is there and does not read. -/
  | settings {m : Member} {entry : Location} {table : Json} {reason : TableError}
      (hpicks : w.Picks name m) (hentry : EntryOf m.targets entry)
      (htable : m.metadata.get? settingsKey = some table)
      (hreason : Settings.ofTable table = .error reason) :
      Refuses w name (.settings m.name reason)

theorem select_of_selects {s : Selection} (h : w.Selects name s) : w.select name = .ok s := by
  cases h with
  | picked hpicks hentry hsettings =>
      rw [select, member_of_sought (sought?_eq_some_iff.mpr hpicks)]
      dsimp only
      rw [entryOf?_eq_some_iff.mpr hentry]
      dsimp only
      rw [hsettings]

theorem select_of_refuses (h : w.Refuses name reason) : w.select name = .error reason := by
  cases h with
  | absent hnone => rw [select, member_of_absent (sought?_eq_none_iff.mpr hnone)]
  | noEntry hpicks hnone =>
      rw [select, member_of_sought (sought?_eq_some_iff.mpr hpicks)]
      dsimp only
      rw [entryOf?_eq_none_iff.mpr hnone]
  | settings hpicks hentry htable hreason =>
      rw [select, member_of_sought (sought?_eq_some_iff.mpr hpicks)]
      dsimp only
      rw [entryOf?_eq_some_iff.mpr hentry]
      dsimp only
      rw [Member.settings, htable]
      dsimp only
      rw [hreason]

/-- Something is picked, or there is a reason why nothing is. -/
theorem selects_or_refuses (w : Workspace) (name : Option String) :
    (∃ s, w.Selects name s) ∨ ∃ reason, w.Refuses name reason := by
  cases hsought : w.sought? name with
  | none => exact .inr ⟨_, .absent (sought?_eq_none_iff.mp hsought)⟩
  | some m =>
      have hpicks := sought?_eq_some_iff.mp hsought
      cases hentry : entryOf? m.targets with
      | none => exact .inr ⟨_, .noEntry hpicks (entryOf?_eq_none_iff.mp hentry)⟩
      | some entry =>
          have hentry := entryOf?_eq_some_iff.mp hentry
          rcases m.settings_cases with ⟨defaults, hsettings⟩ | ⟨table, reason, htable, hreason⟩
          · exact .inl ⟨_, .picked hpicks hentry hsettings⟩
          · exact .inr ⟨_, .settings hpicks hentry htable hreason⟩

/-! ## Targets that do not count -/

end Workspace

/-- A package with the targets that count, and no others. -/
def Member.relevant (m : Member) : Member := { m with targets := m.targets.filter Target.counts }

namespace Workspace

/-- A workspace in which the packages have the targets that count, and no others. -/
def relevant (w : Workspace) : Workspace := { w with members := w.members.map Member.relevant }

theorem sought?_relevant (w : Workspace) (name : Option String) :
    w.relevant.sought? name = (w.sought? name).map Member.relevant := by
  cases name with
  | some asked => exact List.find?_map
  | none =>
      show w.relevant.rootMember? = w.rootMember?.map Member.relevant
      unfold rootMember? relevant
      dsimp only
      cases w.resolvedRoot with
      | none => exact List.find?_map
      | some root =>
          cases root with
          | none => rfl
          | some id => exact List.find?_map

/-- **Only the targets that count decide** what is picked. -/
theorem select_relevant (w : Workspace) (name : Option String) :
    w.relevant.select name = w.select name := by
  have hsought := sought?_relevant w name
  cases hfound : w.sought? name with
  | none =>
      rw [hfound] at hsought
      rw [select, select, member_of_absent hfound, member_of_absent hsought]
  | some m =>
      rw [hfound] at hsought
      rw [select, select, member_of_sought hfound, member_of_sought hsought]
      dsimp only
      rw [show m.relevant.targets = m.targets.filter Target.counts from rfl, entryOf?_relevant]
      rfl

/-- **What is picked, and why nothing is.** Whatever a workspace holds and whatever is asked for: a
selection is given just if it is that of the first package that was asked for, of its entry file and
of its settings; a reason is given just if it is the first that holds of the three; and workspaces
that differ in other targets than libraries and programs alone, be it in their number or in their
order, give the same. -/
theorem select_iff (w : Workspace) (name : Option String) :
    (∀ s, w.select name = .ok s ↔ w.Selects name s)
      ∧ (∀ reason, w.select name = .error reason ↔ w.Refuses name reason)
      ∧ ∀ w' : Workspace, w'.relevant = w.relevant → w'.select name = w.select name := by
  refine ⟨fun s => ⟨fun h => ?_, select_of_selects⟩,
    fun reason => ⟨fun h => ?_, select_of_refuses⟩, fun w' hsame => ?_⟩
  · rcases w.selects_or_refuses name with ⟨found, hselects⟩ | ⟨reason, hrefuses⟩
    · rw [select_of_selects hselects] at h
      cases h
      exact hselects
    · rw [select_of_refuses hrefuses] at h
      cases h
  · rcases w.selects_or_refuses name with ⟨found, hselects⟩ | ⟨found, hrefuses⟩
    · rw [select_of_selects hselects] at h
      cases h
    · rw [select_of_refuses hrefuses] at h
      cases h
      exact hrefuses
  · rw [← select_relevant w', hsame, select_relevant w]

/-- A workspace whose first package has a program before its library, and these other targets before
both. There is another package of the same name. -/
def toolWorkspace (others : List Target) : Workspace where
  root := ⟨"tools"⟩
  targetDirectory := ⟨"tools/target"⟩
  members :=
    [{ name := "tool", id := "tool 1.0.0", manifest := ⟨"tools/./Cargo.toml"⟩, metadata := .null,
       targets := others ++ [⟨["bin"], ⟨"tools/src/main.rs"⟩⟩,
        ⟨["cdylib", "rlib"], ⟨"tools/src/lib.rs"⟩⟩] },
     { name := "tool", id := "tool 2.0.0", manifest := ⟨"tools/new/Cargo.toml"⟩, metadata := .null,
       targets := [] }]
  resolvedRoot := none

/-- A build script before them changes nothing: the library is picked. -/
theorem toolWorkspace_selected :
    (toolWorkspace [⟨["custom-build"], ⟨"tools/build.rs"⟩⟩]).relevant = (toolWorkspace []).relevant
      ∧ (toolWorkspace [⟨["custom-build"], ⟨"tools/build.rs"⟩⟩]).select none
        = .ok ⟨"tool", ⟨"tools/target"⟩, ⟨"tools/src/lib.rs"⟩, {}⟩ := by
  have hsame : (toolWorkspace [⟨["custom-build"], ⟨"tools/build.rs"⟩⟩]).relevant
      = (toolWorkspace []).relevant := by rfl
  refine ⟨hsame, ?_⟩
  rw [((toolWorkspace []).select_iff none).2.2 _ hsame]
  rfl

end Workspace

end Fieldwise.CommandLine
