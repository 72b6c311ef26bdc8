import Fieldwise.Proofs.Bundle.Rendering
import Fieldwise.Proofs.Emission.Shelves
import Fieldwise.Proofs.Emission.Storing
import Fieldwise.Proofs.FileTree.Opening

set_option autoImplicit false

/-! # The output directory mirrors the shelf

Bundles that are stored one after the other, on a shelf and in an output directory that is empty at
first, are stored alike: each is refused by both for the same reason, or stored by both, and always
the files below the directory are the texts on the shelf (`OutputDirectory.mirrors_shelf`).

What carries the proof is an account of all that stands below the output directory (`Kept`): a file
there is a text on the shelf, and a directory has a bare name. So what a bundle needs is never in
the way of what another has left.
-/

namespace Fieldwise

open FileTree Text

theorem Shelf.mem_insert {s : Shelf} {l : Location} {text : String} {e : Location × String} :
    e ∈ (s.insert l text).entries
      ↔ (e ∈ s.entries ∧ e.1.components ≠ l.components) ∨ e = (l, text) := by
  simp only [insert, List.mem_append, List.mem_filter, List.mem_singleton, Bool.not_eq_true',
    ← Bool.not_eq_true, Location.sameAs_iff, ne_eq]

/-- A text is put on a shelf beside those at other locations. -/
theorem Shelf.exists_mem_insert_of_ne {s : Shelf} {l : Location} {text : String}
    {steps : List Component} (h : l.components ≠ steps) {content : ByteArray} :
    (∃ e ∈ (s.insert l text).entries, e.1.components = steps ∧ e.2.toUTF8 = content)
      ↔ ∃ e ∈ s.entries, e.1.components = steps ∧ e.2.toUTF8 = content := by
  constructor
  · rintro ⟨e, he, rfl, hcontent⟩
    rcases mem_insert.mp he with ⟨hold, -⟩ | rfl
    · exact ⟨e, hold, rfl, hcontent⟩
    · exact absurd rfl h
  · rintro ⟨e, he, rfl, hcontent⟩
    exact ⟨e, mem_insert.mpr (.inl ⟨he, Ne.symm h⟩), rfl, hcontent⟩

/-- The steps that names stand for tell the names. -/
theorem names_injective {names more : List String}
    (h : names.map Component.name = more.map Component.name) : names = more :=
  List.map_injective_iff.mpr (fun _ _ heq => Component.name.inj heq) h

/-- The directories of a bundle have bare names. -/
theorem Bundle.Storable.bare_of_mem_stairs {b : Bundle} (h : b.Storable) {root q : Place}
    (hq : q ∈ stairs root b.directories) :
    ∃ names, names ≠ [] ∧ q = root ++ names ∧ ∀ name ∈ names, IsBare name.toList := by
  obtain ⟨names, hnil, hfirst, rfl⟩ := exists_of_mem_stairs hq
  exact ⟨names, hnil, rfl, fun name hname => h.named.isBare_directory (hfirst.subset hname)⟩

namespace OutputDirectory

/-- The output directory can be used from the start: it is there and empty, or it is not there and
can be made. What is made has to be empty: a location that goes back, such as `new/../old`, leads to
what was there once `new` is made. -/
inductive Available (o : OutputDirectory) (t : FileTree) : Prop
  | empty {place : Place} (hopen : t.openDirectory t.ambient o.location = .ok place)
    (hempty : t.NothingBelow place)
  | absent {made : FileTree} (htext : o.location.text ≠ "")
    (hopen : t.openDirectory t.ambient o.location = .error .notFound)
    (hmake : Change.makeDirectories t.ambient o.location t = .ok () made)
    (hempty : ∀ place, made.openDirectory t.ambient o.location = .ok place →
      made.NothingBelow place)

/-- **An output directory that is not there and can be made** can be used, if its location never
goes back. -/
theorem available_of_absent {o : OutputDirectory} {t made : FileTree} (hrooted : t.Rooted)
    (htext : o.location.text ≠ "") (hback : ".." ∉ o.location.steps)
    (hopen : t.openDirectory t.ambient o.location = .error .notFound)
    (hmake : Change.makeDirectories t.ambient o.location t = .ok () made) : o.Available t := by
  obtain ⟨hmade, -⟩ := makeDirectories_made htext hmake
  have habsent : ∀ found, t.openDirectory t.ambient o.location ≠ .ok found := by
    intro found hfound
    rw [hopen] at hfound
    cases hfound
  exact .absent htext hopen hmake fun place hplace =>
    nothingBelow_made hrooted hback habsent hmade hplace

-- a location that ends in a dot leads to nothing until it is there, so it cannot be made
example : ready ⟨⟨"new/."⟩⟩ {} = .error .notFound {} := by rfl

/-- A file stands below the output directory, where names lead to. -/
def HasFile (o : OutputDirectory) (t : FileTree) (names : List String) (content : ByteArray) :
    Prop :=
  ∃ place, t.openDirectory t.ambient o.location = .ok place
    ∧ t.get? (place ++ names) = some (.file content)

/-- The files below the output directory are the texts on a shelf. -/
structure Mirrors (o : OutputDirectory) (t : FileTree) (shelf : Shelf) : Prop where
  /-- Names lead to a file just where the shelf has its content under them. -/
  files : ∀ names content, o.HasFile t names content
    ↔ ∃ e ∈ shelf.entries, e.1.components = names.map .name ∧ e.2.toUTF8 = content
  /-- All that is on the shelf is there under names. -/
  named : ∀ e ∈ shelf.entries, ∃ names : List String, e.1.components = names.map .name
  /-- No file is left under a name that is used only while writing. -/
  finished : ∀ names fileName content, ¬ o.HasFile t (names ++ [temporaryName fileName]) content

/-! ## What stands below the output directory -/

/-- An account of what stands below an output directory that was opened at `root`, when the tree was
`base` and nothing stood there. -/
structure Kept (o : OutputDirectory) (root : Place) (base t : FileTree) (shelf : Shelf) : Prop where
  opens : base.openDirectory base.ambient o.location = .ok root
  empty : base.NothingBelow root
  keeps : Keeps base t
  files : ∀ names content, t.get? (root ++ names) = some (.file content)
    ↔ ∃ e ∈ shelf.entries, e.1.components = names.map .name ∧ e.2.toUTF8 = content
  directories : ∀ names, names ≠ [] → t.get? (root ++ names) = some .directory →
    ∀ name ∈ names, IsBare name.toList
  named : ∀ e ∈ shelf.entries, ∃ names : List String, e.1.components = names.map .name
    ∧ ∃ settings : Settings, names.getLast? = some settings.fileName

namespace Kept

variable {o : OutputDirectory} {root : Place} {base t : FileTree} {shelf : Shelf}

theorem start (hopen : base.openDirectory base.ambient o.location = .ok root)
    (hempty : base.NothingBelow root) : o.Kept root base base {} where
  opens := hopen
  empty := hempty
  keeps := .refl base
  files names content := by
    have hroot := (openDirectory_eq_ok_iff.mp hopen).2
    constructor
    · intro hfile
      by_cases hnil : names = []
      · subst hnil
        rw [List.append_nil, hroot] at hfile
        cases hfile
      · rw [hempty names hnil] at hfile
        cases hfile
    · rintro ⟨e, he, -⟩
      cases he
  directories names hnil hdirectory := by
    rw [hempty names hnil] at hdirectory
    cases hdirectory
  named e he := by cases he

theorem openDirectory (h : o.Kept root base t shelf) :
    t.openDirectory t.ambient o.location = .ok root := by
  have hambient : t.ambient = base.ambient := by
    rw [ambient, ambient, h.keeps.current]
  rw [hambient]
  exact h.keeps.openDirectory h.opens

theorem get?_root (h : o.Kept root base t shelf) : t.get? root = some .directory :=
  (openDirectory_eq_ok_iff.mp h.openDirectory).2

/-- The last of the names that lead to a file comes from settings. -/
theorem getLast?_of_file (h : o.Kept root base t shelf) {names : List String} {content : ByteArray}
    (hfile : t.get? (root ++ names) = some (.file content)) :
    ∃ settings : Settings, names.getLast? = some settings.fileName := by
  obtain ⟨e, he, hnames, -⟩ := (h.files names content).mp hfile
  obtain ⟨found, hfound, settings, hlast⟩ := h.named e he
  have heq : found = names := names_injective (hfound.symm.trans hnames)
  exact ⟨settings, heq ▸ hlast⟩

/-- Nothing stands where a file is first written. -/
theorem free_temporary (h : o.Kept root base t shelf) (names : List String) (fileName : String) :
    t.get? (root ++ (names ++ [temporaryName fileName])) = none := by
  cases hnode : t.get? (root ++ (names ++ [temporaryName fileName])) with
  | none => rfl
  | some node =>
      cases node with
      | directory =>
          have hbare := h.directories _ (by simp) hnode (temporaryName fileName) (by simp)
          exact absurd hbare (not_isBare_temporaryName fileName)
      | file content =>
          obtain ⟨settings, hlast⟩ := h.getLast?_of_file hnode
          rw [List.getLast?_concat] at hlast
          exact absurd (Option.some.inj hlast) (temporaryName_ne_fileName fileName settings)

theorem mirrors (h : o.Kept root base t shelf) : o.Mirrors t shelf where
  files names content := by
    rw [← h.files]
    constructor
    · rintro ⟨place, hopen, hfile⟩
      rw [h.openDirectory] at hopen
      cases hopen
      exact hfile
    · exact fun hfile => ⟨root, h.openDirectory, hfile⟩
  named e he := by
    obtain ⟨names, hnames, -⟩ := h.named e he
    exact ⟨names, hnames⟩
  finished names fileName content := by
    rintro ⟨place, hopen, hfile⟩
    rw [h.openDirectory] at hopen
    cases hopen
    rw [h.free_temporary] at hfile
    cases hfile

variable {b : Bundle}

/-- No file stands where bare names lead to. -/
theorem not_file_of_bare (h : o.Kept root base t shelf) {names : List String}
    (hbare : ∀ name ∈ names, IsBare name.toList) (content : ByteArray) :
    t.get? (root ++ names) ≠ some (.file content) := by
  intro hfile
  obtain ⟨settings, hlast⟩ := h.getLast?_of_file hfile
  exact not_isBare_fileName settings (hbare _ (List.mem_of_getLast? hlast))

/-- No file is in the way of the directories of a bundle. -/
theorem clear_directories (h : o.Kept root base t shelf) (hb : b.Storable) :
    t.Clear (stairs root b.directories) := by
  intro q hq
  obtain ⟨names, -, rfl, hbare⟩ := hb.bare_of_mem_stairs hq
  cases hnode : t.get? (root ++ names) with
  | none => exact .inl rfl
  | some node =>
      cases node with
      | directory => exact .inr rfl
      | file content => exact absurd hnode (h.not_file_of_bare hbare content)

/-- No directory is in the way of the file of a bundle. -/
theorem plain_file (h : o.Kept root base t shelf) (hb : b.Storable) :
    t.get? (root ++ b.names) ≠ some .directory := by
  intro hdirectory
  obtain ⟨settings, hsettings⟩ := hb.fileName
  have hbare := h.directories b.names (by simp [Bundle.names]) hdirectory b.fileName
    (by simp [Bundle.names])
  rw [hsettings] at hbare
  exact not_isBare_fileName settings hbare

variable {text : String} {after : FileTree}

/-- Nothing of what stood at first is touched. -/
theorem keeps_of_leaves (h : o.Kept root base t shelf) (hb : b.Storable)
    (hleaves : Leaves b root text t after) : Keeps base after := by
  refine ⟨hleaves.current.trans h.keeps.current, fun q node hnode => ?_⟩
  have hbelow {names : List String} (hnil : names ≠ []) : q ≠ root ++ names := by
    rintro rfl
    rw [h.empty names hnil] at hnode
    cases hnode
  have hfile : q ≠ root ++ b.names := hbelow (by simp [Bundle.names])
  have hstairs : q ∉ stairs root b.directories := by
    intro hq
    obtain ⟨names, hnil, heq, -⟩ := hb.bare_of_mem_stairs hq
    exact hbelow hnil heq
  rw [hleaves.nodes, if_neg hfile, if_neg hstairs]
  exact h.keeps.nodes q node hnode

/-- Under other names than those of the bundle the files are what they were. -/
theorem file_of_leaves (h : o.Kept root base t shelf) (hb : b.Storable)
    (hleaves : Leaves b root text t after) {names : List String} (hnames : names ≠ b.names)
    (content : ByteArray) :
    after.get? (root ++ names) = some (.file content)
      ↔ t.get? (root ++ names) = some (.file content) := by
  rw [hleaves.nodes, if_neg fun heq => hnames (List.append_cancel_left heq)]
  split
  · -- a directory of the bundle took no file's place
    rename_i hstairs
    obtain ⟨more, -, heq, hbare⟩ := hb.bare_of_mem_stairs hstairs
    rw [List.append_cancel_left heq]
    constructor
    · intro hfile
      cases hfile
    · exact fun hfile => absurd hfile (h.not_file_of_bare hbare content)
  · rfl

/-- **What a bundle leaves** below the output directory is what it leaves on the shelf. -/
theorem extend (h : o.Kept root base t shelf) (hb : b.Storable)
    (hleaves : Leaves b root text t after) :
    o.Kept root base after (shelf.insert b.relativePath text) where
  opens := h.opens
  empty := h.empty
  keeps := h.keeps_of_leaves hb hleaves
  files names content := by
    have hcomponents := Bundle.components_relativePath hb.named
    by_cases hnames : names = b.names
    · -- under the names of the bundle there is its text and no other
      subst hnames
      rw [hleaves.nodes, if_pos rfl]
      constructor
      · intro hfile
        cases hfile
        exact ⟨_, Shelf.mem_insert.mpr (.inr rfl), hcomponents, rfl⟩
      · rintro ⟨e, he, hfound, rfl⟩
        rcases Shelf.mem_insert.mp he with ⟨-, hother⟩ | rfl
        · exact absurd (hfound.trans hcomponents.symm) hother
        · rfl
    · have hother : b.relativePath.components ≠ names.map .name := by
        rw [hcomponents]
        exact fun heq => hnames (names_injective heq.symm)
      rw [h.file_of_leaves hb hleaves hnames, Shelf.exists_mem_insert_of_ne hother, h.files]
  directories names hnil hdirectory := by
    rw [hleaves.nodes] at hdirectory
    split at hdirectory
    · cases hdirectory
    · split at hdirectory
      · rename_i hstairs
        obtain ⟨more, -, heq, hbare⟩ := hb.bare_of_mem_stairs hstairs
        rw [List.append_cancel_left heq]
        exact hbare
      · exact h.directories names hnil hdirectory
  named e he := by
    rcases Shelf.mem_insert.mp he with ⟨hold, -⟩ | rfl
    · exact h.named e hold
    · obtain ⟨settings, hsettings⟩ := hb.fileName
      refine ⟨b.names, Bundle.components_relativePath hb.named, settings, ?_⟩
      rw [Bundle.names, List.getLast?_concat, hsettings]

/-- Storing a bundle in an output directory that is open. -/
theorem store {opened : FileTree} (h : o.Kept root base opened shelf)
    (hready : o.ready t = .ok root opened) (hb : b.Storable) (text : String) :
    ∃ after, o.store {} b text t = .ok ⟨o.location.join b.relativePath, b.functions.length⟩ after
      ∧ o.Kept root base after (shelf.insert b.relativePath text) := by
  obtain ⟨after, hstore, hleaves⟩ := store_of_ready hb hready h.get?_root
    (h.clear_directories hb) (h.plain_file hb) (h.free_temporary _ _) text
  exact ⟨after, hstore, h.extend hb hleaves⟩

end Kept

/-! ## One bundle after the other -/

/-- What is known while bundles are stored: nothing was stored and the output directory is still not
there, or the account of it holds. -/
inductive Tracks (o : OutputDirectory) (first : FileTree) : FileTree → Shelf → Prop
  | absent {place : Place} {made : FileTree}
    (hopen : first.openDirectory first.ambient o.location = .error .notFound)
    (hmake : Change.makeDirectories first.ambient o.location first = .ok () made)
    (hmade : made.openDirectory made.ambient o.location = .ok place)
    (hempty : made.NothingBelow place) : Tracks o first first {}
  | kept {root : Place} {base t : FileTree} {shelf : Shelf} (h : o.Kept root base t shelf) :
    Tracks o first t shelf

theorem Available.tracks {o : OutputDirectory} {t : FileTree} (h : o.Available t) :
    o.Tracks t t {} := by
  cases h with
  | empty hopen hempty => exact .kept (.start hopen hempty)
  | absent htext hopen hmake hempty =>
      obtain ⟨hmade, place, hplace⟩ := makeDirectories_made htext hmake
      refine .absent hopen hmake ?_ (hempty place hplace)
      rw [ambient, hmade.keeps.current]
      exact hplace

/-- Both stores take a bundle alike: they refuse one that has no text, for the same reason, and keep
what they have, or they store its text, in the output directory where it is on the shelf. -/
inductive StoresAlike (o : OutputDirectory) (b : Bundle) (t : FileTree) (shelf : Shelf) :
    FileTree → Shelf → Prop
  | refused {reason : RenderError} (hrender : b.render = .ok (.error reason))
    (hshelf : Shelf.emitter b shelf = .ok ⟨.error (.render reason), [], shelf⟩)
    (hfiles : o.emitter b t = .ok ⟨.error (.render reason), [], t⟩) :
    StoresAlike o b t shelf t shelf
  | stored {text : String} {events : List Event} {after : FileTree}
    (hrender : b.render = .ok (.ok text))
    (hshelf : Shelf.emitter b shelf
      = .ok ⟨.ok ⟨b.relativePath, b.functions.length⟩, [], shelf.insert b.relativePath text⟩)
    (hfiles : o.emitter b t
      = .ok ⟨.ok ⟨o.location.join b.relativePath, b.functions.length⟩, events, after⟩) :
    StoresAlike o b t shelf after (shelf.insert b.relativePath text)

namespace Tracks

variable {o : OutputDirectory} {first t : FileTree} {shelf : Shelf} {b : Bundle}

theorem mirrors (h : o.Tracks first t shelf) : o.Mirrors t shelf := by
  cases h with
  | kept hkept => exact hkept.mirrors
  | absent hopen hmake hmade hempty =>
      -- a directory that is not there has no files, and the shelf is empty
      have hnone (names : List String) (content : ByteArray) : ¬ o.HasFile first names content := by
        rintro ⟨place, hplace, -⟩
        rw [hopen] at hplace
        cases hplace
      refine ⟨fun names content => ?_, fun e he => ?_, fun _ _ _ => hnone _ _⟩
      · constructor
        · exact fun hfile => absurd hfile (hnone names content)
        · rintro ⟨e, he, -⟩
          cases he
      · cases he

/-- The output directory can be opened, now or after it is made. -/
theorem exists_ready (h : o.Tracks first t shelf) :
    ∃ root base opened, o.ready t = .ok root opened ∧ o.Kept root base opened shelf := by
  cases h with
  | kept hkept =>
      rename_i root base
      refine ⟨root, base, t, ?_, hkept⟩
      unfold ready
      rw [hkept.openDirectory]
  | absent hopen hmake hmade hempty =>
      rename_i place made
      refine ⟨place, made, made, ?_, .start hmade hempty⟩
      unfold ready
      rw [hopen]
      dsimp only
      rw [hmake]
      exact ask_of_ok hmade

/-- **One bundle is stored alike**, and what is known stays true. -/
theorem step (h : o.Tracks first t shelf) (hb : b.Storable) :
    (∃ halt, b.render = .error halt) ∨ ∃ after later, o.StoresAlike b t shelf after later
      ∧ o.Tracks first after later := by
  cases hrender : b.render with
  | error halt => exact .inl ⟨halt, rfl⟩
  | ok rendered =>
      refine .inr ?_
      cases rendered with
      | error reason =>
          exact ⟨t, shelf,
            .refused hrender (Shelf.emitter_of_refused hrender) (emitter_of_refused hrender), h⟩
      | ok text =>
          obtain ⟨root, base, opened, hready, hkept⟩ := h.exists_ready
          obtain ⟨after, hstore, hnext⟩ := hkept.store hready hb text
          exact ⟨after, shelf.insert b.relativePath text,
            .stored hrender (Shelf.emitter_of_text hrender) (emitter_of_stored hrender hstore),
            .kept hnext⟩

end Tracks

end OutputDirectory

/-! ## All bundles -/

/-- Stores bundles one after the other, whether or not they are refused, up to one for which there
is no answer. -/
def Emitter.storeAll {σ : Type} (e : Emitter σ) : List Bundle → σ → Except Halt σ
  | [], store => .ok store
  | b :: rest, store =>
    match e b store with
    | .error halt => .error halt
    | .ok emission => storeAll e rest emission.store

namespace OutputDirectory

variable {o : OutputDirectory} {first t : FileTree} {shelf : Shelf}

theorem StoresAlike.render_ne {b : Bundle} {after : FileTree} {later : Shelf}
    (h : o.StoresAlike b t shelf after later) (halt : Halt) : b.render ≠ .error halt := by
  cases h with
  | refused hrender hshelf hfiles => simp [hrender]
  | stored hrender hshelf hfiles => simp [hrender]

theorem StoresAlike.storeAll_cons {b : Bundle} {after : FileTree} {later : Shelf}
    (h : o.StoresAlike b t shelf after later) (rest : List Bundle) :
    Emitter.storeAll Shelf.emitter (b :: rest) shelf = Emitter.storeAll Shelf.emitter rest later
      ∧ Emitter.storeAll o.emitter (b :: rest) t = Emitter.storeAll o.emitter rest after := by
  cases h with
  | refused hrender hshelf hfiles => simp only [Emitter.storeAll, hshelf, hfiles, and_self]
  | stored hrender hshelf hfiles => simp only [Emitter.storeAll, hshelf, hfiles, and_self]

/-- **All bundles are stored alike**: what is known stays true, unless one has no answer. -/
theorem Tracks.run {bundles : List Bundle} (h : o.Tracks first t shelf)
    (hbundles : ∀ b ∈ bundles, b.Storable) :
    (∃ halt, (∃ b ∈ bundles, b.render = .error halt)
        ∧ Emitter.storeAll Shelf.emitter bundles shelf = .error halt
        ∧ Emitter.storeAll o.emitter bundles t = .error halt)
      ∨ (∀ b ∈ bundles, ∀ halt, b.render ≠ .error halt) ∧ ∃ after later,
        Emitter.storeAll Shelf.emitter bundles shelf = .ok later
        ∧ Emitter.storeAll o.emitter bundles t = .ok after ∧ o.Tracks first after later := by
  induction bundles generalizing t shelf with
  | nil => exact .inr ⟨fun b hb => (by cases hb), t, shelf, rfl, rfl, h⟩
  | cons b rest ih =>
      rcases h.step (hbundles b (by simp)) with ⟨halt, hrender⟩ | ⟨after, later, halike, hnext⟩
      · refine .inl ⟨halt, ⟨b, by simp, hrender⟩, ?_, ?_⟩
        · simp only [Emitter.storeAll, Shelf.emitter_eq_error_iff.mpr hrender]
        · have hfiles : o.emitter b t = .error halt := emitter_eq_error_iff.mpr hrender
          simp only [Emitter.storeAll, hfiles]
      · obtain ⟨hshelf, hfiles⟩ := halike.storeAll_cons rest
        rw [hshelf, hfiles]
        rcases ih hnext fun c hc => hbundles c (by simp [hc]) with
          ⟨halt, ⟨c, hc, hrender⟩, hrun⟩ | ⟨hnone, hrun⟩
        · exact .inl ⟨halt, ⟨c, by simp [hc], hrender⟩, hrun⟩
        · refine .inr ⟨fun c hc halt hrender => ?_, hrun⟩
          rcases List.mem_cons.mp hc with rfl | hc
          · exact halike.render_ne halt hrender
          · exact hnone c hc halt hrender

/-- **The output directory mirrors the shelf.** Bundles are stored one after the other, on an empty
shelf and in an output directory that can be used from the start. Either all of them have an answer:
then the files below the directory are the texts on the shelf, and one bundle more is taken alike by
both, or has no answer in both. Or the first bundle without an answer stops both: it cannot be
printed, or one of its fields is called by a number that is no index. -/
theorem mirrors_shelf {o : OutputDirectory} {t : FileTree} (h : o.Available t)
    {bundles : List Bundle} (hbundles : ∀ b ∈ bundles, b.Storable) :
    ((∀ b ∈ bundles, ∀ halt, b.render ≠ .error halt) ∧ ∃ files shelf,
        Emitter.storeAll Shelf.emitter bundles {} = .ok shelf
        ∧ Emitter.storeAll o.emitter bundles t = .ok files
        ∧ o.Mirrors files shelf
        ∧ ∀ b, b.Storable → (∃ halt, b.render = .error halt ∧ Shelf.emitter b shelf = .error halt
            ∧ o.emitter b files = .error halt)
          ∨ ∃ after later, o.StoresAlike b files shelf after later ∧ o.Mirrors after later)
      ∨ ∃ halt, (∃ b ∈ bundles, b.render = .error halt
          ∧ (halt = .unprintable
            ∨ ∃ f ∈ b.functions, ∃ n, f.IndexTooLarge n ∧ halt = .indexTooLarge n))
        ∧ Emitter.storeAll Shelf.emitter bundles {} = .error halt
        ∧ Emitter.storeAll o.emitter bundles t = .error halt := by
  rcases h.tracks.run hbundles with
    ⟨halt, ⟨b, hb, hrender⟩, hrun⟩ | ⟨hnone, files, shelf, hshelf, hfiles, htracks⟩
  · exact .inr ⟨halt, ⟨b, hb, hrender, Bundle.halt_of_render hrender⟩, hrun⟩
  · refine .inl ⟨hnone, files, shelf, hshelf, hfiles, htracks.mirrors, fun b hb => ?_⟩
    rcases htracks.step hb with ⟨halt, hrender⟩ | ⟨after, later, halike, hnext⟩
    · exact .inl ⟨halt, hrender, Shelf.emitter_eq_error_iff.mpr hrender,
        emitter_eq_error_iff.mpr hrender⟩
    · exact .inr ⟨after, later, halike, hnext.mirrors⟩

/-! ## Two packages, one inside the other -/

/-- The directory `out`. -/
def outDirectory : OutputDirectory := ⟨⟨"out"⟩⟩

/-- A bundle of one function in a package. -/
def singleBundle (package : List Token.Name) (fields : List String) : Bundle where
  typeName := "StringUtil"
  package := ⟨package.map Token.Name.written⟩
  functions := [⟨"model::User", "crate::model::User", "User", fields⟩]
  rendering := .display
  runtime := "static_string_util"
  fileName := "string_util.rs"

theorem outDirectory_available : outDirectory.Available {} := by
  have hrooted : Rooted {} := rooted_of_entries rfl
  have hmake : Change.makeDirectories (ambient {}) ⟨"out"⟩ {}
      = .ok () ⟨[(["out"], .directory)], []⟩ := by rfl
  exact available_of_absent hrooted (by decide) (by decide) rfl hmake

/-- A bundle whose packages have short names can be stored. -/
theorem singleBundle_storable {package : List Token.Name} {fields : List String}
    (hpackage : ∀ n ∈ package, n.Lexical)
    (hshort : ∀ name ∈ (singleBundle package fields).directories,
      name.utf8ByteSize ≤ longestName)
    (hpath : (Location.ofNames (singleBundle package fields).directories).text.utf8ByteSize
      < locationLimit) : (singleBundle package fields).Storable where
  package segment hsegment := by
    obtain ⟨n, hn, rfl⟩ := List.mem_map.mp hsegment
    exact ⟨n, hpackage n hn, rfl⟩
  fileName := by
    refine ⟨{}, ?_⟩
    show "string_util.rs" = Settings.fileName {}
    decide +kernel
  shortDirectories := hshort
  shortFile := by
    show (temporaryName "string_util.rs").utf8ByteSize ≤ longestName
    decide +kernel
  shortPath := hpath

/-- Bundles in the package `model` and in the package `type` inside of it, which has a raw name. -/
def nestedBundles : List Bundle :=
  [singleBundle [.plain "model"] ["name"], singleBundle [.plain "model", ⟨true, "type"⟩] []]

theorem nestedBundles_storable : ∀ b ∈ nestedBundles, b.Storable := by
  intro b hb
  rcases List.mem_pair.mp hb with rfl | rfl
  · exact singleBundle_storable (by decide +kernel) (by decide +kernel) (by decide +kernel)
  · exact singleBundle_storable (by decide +kernel) (by decide +kernel) (by decide +kernel)

/-- Both are stored, and the files below `out` are the texts on the shelf. -/
theorem nestedBundles_mirrored :
    outDirectory.Available {} ∧ (∀ b ∈ nestedBundles, b.Storable) ∧ ∃ files shelf,
      Emitter.storeAll Shelf.emitter nestedBundles {} = .ok shelf
        ∧ Emitter.storeAll outDirectory.emitter nestedBundles {} = .ok files
        ∧ outDirectory.Mirrors files shelf := by
  refine ⟨outDirectory_available, nestedBundles_storable, ?_⟩
  rcases mirrors_shelf outDirectory_available nestedBundles_storable with
    ⟨-, files, shelf, hshelf, hfiles, hmirrors, -⟩ | ⟨halt, ⟨b, hb, hrender, -⟩, -⟩
  · exact ⟨files, shelf, hshelf, hfiles, hmirrors⟩
  · have hanswers : ∀ b ∈ nestedBundles, b.halt? = none := by decide +kernel
    have hanswer := hanswers b hb
    rw [Bundle.halt?_eq_some_iff.mpr hrender] at hanswer
    cases hanswer

/-- A bundle with a field that is called by the first number that is no index. -/
def hugeIndexBundle : Bundle := singleBundle [.plain "model"] ["4294967295"]

/-- Neither store takes that bundle or refuses it: there is no answer. -/
theorem hugeIndexBundle_halts :
    outDirectory.Available {} ∧ hugeIndexBundle.Storable
      ∧ Shelf.emitter hugeIndexBundle {} = .error (.indexTooLarge 4294967295)
      ∧ outDirectory.emitter hugeIndexBundle {} = .error (.indexTooLarge 4294967295) := by
  have hstorable : hugeIndexBundle.Storable :=
    singleBundle_storable (by decide +kernel) (by decide +kernel) (by decide +kernel)
  have hrender : hugeIndexBundle.render = .error (.indexTooLarge 4294967295) :=
    Bundle.halt?_eq_some_iff.mp (by decide +kernel)
  exact ⟨outDirectory_available, hstorable, Shelf.emitter_eq_error_iff.mpr hrender,
    emitter_eq_error_iff.mpr hrender⟩

end OutputDirectory

end Fieldwise
