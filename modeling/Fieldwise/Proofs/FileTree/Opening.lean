import Fieldwise.Proofs.FileTree.Directories
import Fieldwise.Proofs.Location.Ancestors

set_option autoImplicit false

/-! # Opening directories

What could be opened can still be opened as long as the directories stay, whatever files come and go
(`KeepsDirectories.openDirectory`). A directory that was made with all that it lies in can be
opened, and what is new are these directories and nothing else (`makeDirectories_made`); to make one
that can be opened changes nothing (`makeDirectories_of_open`). If its location never goes back,
what was made is empty (`nothingBelow_made`). -/

namespace Fieldwise.FileTree

variable {t mid after : FileTree} {start : Start} {place place' : Place} {l : Location}

/-! ## What stays open -/

/-- A tree in which all stays that stood in another. -/
structure Keeps (base t : FileTree) : Prop where
  current : t.current = base.current
  nodes : ∀ q node, base.get? q = some node → t.get? q = some node

theorem Keeps.refl (t : FileTree) : Keeps t t := ⟨rfl, fun _ _ h => h⟩

theorem Keeps.trans {base mid t : FileTree} (h : Keeps base mid) (hmore : Keeps mid t) :
    Keeps base t :=
  ⟨hmore.current.trans h.current, fun q node hnode => hmore.nodes q node (h.nodes q node hnode)⟩

/-- All that one step can do. -/
theorem step_eq_ok_iff {next : Place} {element : String} :
    t.step start place element = .ok next ↔ t.get? place = some .directory
      ∧ (Location.isIdle element = true ∧ next = place
        ∨ Location.isIdle element = false ∧ element = ".."
          ∧ (start.confined && place == start.place) = false ∧ next = place.dropLast
        ∨ Location.isIdle element = false ∧ element ≠ ".." ∧ element.utf8ByteSize ≤ longestName
          ∧ t.get? (place ++ [element]) ≠ none ∧ next = place ++ [element]) := by
  rw [← isDirectoryAt_iff]
  constructor
  · intro h
    unfold step at h
    split at h
    · cases h
    · rename_i hplace
      refine ⟨by simpa using hplace, ?_⟩
      split at h
      · rename_i hidle
        cases h
        exact .inl ⟨hidle, rfl⟩
      · rename_i hidle
        rw [Bool.not_eq_true] at hidle
        split at h
        · rename_i hback
          split at h
          · cases h
          · rename_i hstay
            cases h
            exact .inr (.inl ⟨hidle, hback, by simpa using hstay, rfl⟩)
        · rename_i hback
          split at h
          · cases h
          · rename_i hshort
            split at h
            · rename_i node hnode
              cases h
              exact .inr (.inr ⟨hidle, hback, Nat.not_lt.mp hshort, by simp [hnode], rfl⟩)
            · cases h
  · rintro ⟨hplace, hnext⟩
    unfold step
    rw [hplace, if_neg (by simp)]
    rcases hnext with ⟨hidle, rfl⟩ | ⟨hidle, rfl, hstay, rfl⟩ | ⟨hidle, hback, hshort, hthere, rfl⟩
    · rw [if_pos hidle]
    · rw [hidle, if_neg (by simp), if_pos rfl, hstay, if_neg (by simp)]
    · obtain ⟨node, hnode⟩ := Option.ne_none_iff_exists'.mp hthere
      rw [hidle, if_neg (by simp), if_neg hback, if_neg (Nat.not_lt.mpr hshort), hnode]

/-- A tree in which all directories stay that stood in another, though files may be gone. -/
structure KeepsDirectories (base t : FileTree) : Prop where
  current : t.current = base.current
  directories : ∀ q, base.get? q = some .directory → t.get? q = some .directory

theorem Keeps.keepsDirectories (h : Keeps t after) : KeepsDirectories t after :=
  ⟨h.current, fun q => h.nodes q .directory⟩

theorem KeepsDirectories.trans (h : KeepsDirectories t mid) (hmore : KeepsDirectories mid after) :
    KeepsDirectories t after :=
  ⟨hmore.current.trans h.current, fun q hq => hmore.directories q (h.directories q hq)⟩

/-- Elements that lead to a directory begin in one. -/
theorem directory_of_follow {elements : List String} {last : Place}
    (hfollow : t.follow start place elements = .ok last) (hlast : t.get? last = some .directory) :
    t.get? place = some .directory := by
  cases elements with
  | nil =>
      cases hfollow
      exact hlast
  | cons element rest =>
      obtain ⟨next, hstep, -⟩ := bind_eq_ok_iff.mp hfollow
      obtain ⟨hplace, -⟩ := step_eq_ok_iff.mp hstep
      exact hplace

/-- On the way to a directory there are only directories, so the way stays open. -/
theorem KeepsDirectories.follow (h : KeepsDirectories t after) {elements : List String}
    {last : Place} (hfollow : t.follow start place elements = .ok last)
    (hlast : t.get? last = some .directory) :
    after.follow start place elements = .ok last := by
  induction elements generalizing place with
  | nil => exact hfollow
  | cons element rest ih =>
      obtain ⟨next, hstep, hrest⟩ := bind_eq_ok_iff.mp hfollow
      have hnext : after.get? next = some .directory :=
        h.directories next (directory_of_follow hrest hlast)
      obtain ⟨hplace, hcases⟩ := step_eq_ok_iff.mp hstep
      have hstep : after.step start place element = .ok next := by
        refine step_eq_ok_iff.mpr ⟨h.directories place hplace, ?_⟩
        rcases hcases with hidle | hback | ⟨hidle, hname, hshort, -, rfl⟩
        · exact .inl hidle
        · exact .inr (.inl hback)
        · exact .inr (.inr ⟨hidle, hname, hshort, by simp [hnext], rfl⟩)
      exact bind_eq_ok_iff.mpr ⟨next, hstep, ih hrest⟩

/-- **What could be opened stays open** while the directories stay. -/
theorem KeepsDirectories.openDirectory (h : KeepsDirectories t after)
    (hopen : t.openDirectory start l = .ok place) : after.openDirectory start l = .ok place := by
  obtain ⟨hresolve, hplace⟩ := openDirectory_eq_ok_iff.mp hopen
  obtain ⟨hrefusal, first, horigin, hfollow⟩ := resolve_eq_ok_iff.mp hresolve
  have hresolve : after.resolve start l = .ok place :=
    resolve_eq_ok_iff.mpr ⟨hrefusal, first, horigin, h.follow hfollow hplace⟩
  exact openDirectory_eq_ok_iff.mpr ⟨hresolve, h.directories place hplace⟩

/-- Relative locations start at the same place. -/
theorem KeepsDirectories.openAmbient (h : KeepsDirectories t after)
    (hopen : t.openDirectory t.ambient l = .ok place) :
    after.openDirectory after.ambient l = .ok place := by
  have hambient : after.ambient = t.ambient := by
    rw [ambient, ambient, h.current]
  rw [hambient]
  exact h.openDirectory hopen

theorem Keeps.openDirectory (h : Keeps t after)
    (hopen : t.openDirectory start l = .ok place) : after.openDirectory start l = .ok place :=
  h.keepsDirectories.openDirectory hopen

/-! ## Opening what was made -/

/-- A tree with something at a place that was free. -/
theorem keeps_set (hfree : t.get? place = none) (node : Node) : Keeps t (t.set place node) := by
  have hplace : place ≠ [] := by
    rintro rfl
    cases hfree
  refine ⟨rfl, fun q found hfound => ?_⟩
  have hq : q ≠ place := by
    rintro rfl
    rw [hfree] at hfound
    cases hfound
  rw [get?_set t hplace, if_neg hq, hfound]

/-- A list of elements ends in the last that is not empty, and some that are. -/
theorem eq_of_getLast?_used {elements : List String} {name : String}
    (h : (elements.rdropWhile (· == "")).getLast? = some name) :
    name ≠ "" ∧ elements = (elements.rdropWhile (· == "")).dropLast
      ++ name :: elements.rtakeWhile (· == "") := by
  have hused : elements.rdropWhile (· == "") ≠ [] := by
    intro hnil
    rw [hnil] at h
    cases h
  have hkept := List.rdropWhile_last_not _ _ hused
  rw [List.getLast_eq_iff_getLast?_eq_some hused |>.mpr h] at hkept
  refine ⟨by simpa using hkept, ?_⟩
  rw [List.append_cons, List.dropLast_append_getLast? _ h, List.rdropWhile_append_rtakeWhile]

/-- The last name of a location is looked for in the directory that the elements before it lead
to. -/
theorem parentAndName_eq_some {name : String}
    (h : t.parentAndName start l = .ok (place, some name)) :
    ∃ first init blanks, refusal? start l = none ∧ origin start l = .ok first
      ∧ l.elements = init ++ name :: blanks ∧ (∀ e ∈ blanks, e = "")
      ∧ t.follow start first init = .ok place ∧ t.get? place = some .directory
      ∧ Location.isIdle name = false ∧ name ≠ ".." ∧ name.utf8ByteSize ≤ longestName := by
  have hblanks : ∀ e ∈ l.elements.rtakeWhile (· == ""), e = "" :=
    fun e he => by simpa using List.mem_rtakeWhile_imp he
  unfold parentAndName at h
  split at h
  · cases h
  · rename_i hrefusal
    dsimp only at h
    split at h
    · -- nothing but slashes
      obtain ⟨found, -, heq⟩ := bind_eq_ok_iff.mp h
      cases heq
    · rename_i last hlast
      split at h
      · obtain ⟨found, -, heq⟩ := bind_eq_ok_iff.mp h
        cases heq
      · rename_i hdots
        obtain ⟨first, horigin, h⟩ := bind_eq_ok_iff.mp h
        obtain ⟨found, hfollow, h⟩ := bind_eq_ok_iff.mp h
        split at h
        · cases h
        · rename_i hdirectory
          split at h
          · cases h
          · rename_i hshort
            cases h
            obtain ⟨hname, helements⟩ := eq_of_getLast?_used hlast
            have hidle : Location.isIdle name = false := by
              simpa [Location.isIdle, hname] using fun hdot => hdots (.inl hdot)
            exact ⟨first, _, _, hrefusal, horigin, helements, hblanks, hfollow,
              isDirectoryAt_iff.mp (by simpa using hdirectory), hidle,
              fun hparent => hdots (.inr hparent), Nat.not_lt.mp hshort⟩

theorem follow_append {first : List String} (hfirst : t.follow start place first = .ok place')
    (rest : List String) : t.follow start place (first ++ rest) = t.follow start place' rest := by
  unfold follow at hfirst ⊢
  rw [List.foldlM_append, hfirst]
  rfl

/-- Idle elements lead nowhere else. -/
theorem follow_idle {elements : List String} (hidle : ∀ e ∈ elements, Location.isIdle e = true)
    (hplace : t.get? place = some .directory) : t.follow start place elements = .ok place := by
  induction elements with
  | nil => rfl
  | cons element rest ih =>
      have hstep : t.step start place element = .ok place :=
        step_eq_ok_iff.mpr ⟨hplace, .inl ⟨hidle element (by simp), rfl⟩⟩
      exact bind_eq_ok_iff.mpr ⟨place, hstep, ih fun e he => hidle e (by simp [he])⟩

/-- **A directory that was made** can be opened where it was made. -/
theorem makeDirectory_eq_ok (h : t.makeDirectory start l = .ok after) :
    ∃ place, t.get? place = none ∧ after = t.set place .directory
      ∧ after.openDirectory start l = .ok place := by
  unfold makeDirectory at h
  obtain ⟨⟨outer, name?⟩, hparent, h⟩ := bind_eq_ok_iff.mp h
  cases name? with
  | none => cases h
  | some name =>
      dsimp only at h
      split at h
      · cases h
      · rename_i hfree
        cases h
        obtain ⟨first, init, blanks, hrefusal, horigin, helements, hblanks, hfollow, houter, hidle,
          hback, hshort⟩ := parentAndName_eq_some hparent
        have hkeeps := keeps_set hfree .directory
        have hmade : (t.set (outer ++ [name]) .directory).get? (outer ++ [name])
            = some .directory := by
          rw [get?_set t (by simp), if_pos rfl]
        have hstep : (t.set (outer ++ [name]) .directory).step start outer name
            = .ok (outer ++ [name]) :=
          step_eq_ok_iff.mpr ⟨hkeeps.nodes _ _ houter,
            .inr (.inr ⟨hidle, hback, hshort, by simp [hmade], rfl⟩)⟩
        refine ⟨outer ++ [name], hfree, rfl, openDirectory_eq_ok_iff.mpr ⟨?_, hmade⟩⟩
        refine resolve_eq_ok_iff.mpr ⟨hrefusal, first, horigin, ?_⟩
        rw [helements, follow_append (hkeeps.keepsDirectories.follow hfollow houter)]
        have hidle : ∀ e ∈ blanks, Location.isIdle e = true := by
          intro e he
          rw [hblanks e he]
          rfl
        exact bind_eq_ok_iff.mpr ⟨_, hstep, follow_idle hidle hmade⟩

/-- What making the directories of some locations comes to: all stays that was there, and what is
new is one of these directories. -/
structure Made (start : Start) (chain : List Location) (t after : FileTree) : Prop where
  keeps : Keeps t after
  new : ∀ q, after.get? q = t.get? q ∨ ∃ l ∈ chain, after.openDirectory start l = .ok q

theorem Made.refl (start : Start) (chain : List Location) (t : FileTree) : Made start chain t t :=
  ⟨.refl t, fun _ => .inl rfl⟩

/-- More is made after the locations around it. -/
theorem Made.cons {mid : FileTree} {outer : List Location} (houter : Made start outer t mid)
    (h : Made start [l] mid after) : Made start (l :: outer) t after where
  keeps := houter.keeps.trans h.keeps
  new q := by
    rcases h.new q with hsame | ⟨m, hm, hopen⟩
    · rcases houter.new q with hold | ⟨m, hm, hopen⟩
      · exact .inl (hsame.trans hold)
      · exact .inr ⟨m, by simp [hm], h.keeps.openDirectory hopen⟩
    · rw [List.mem_singleton.mp hm] at hopen
      exact .inr ⟨l, by simp, hopen⟩

theorem makeUnlessThere_made (h : Change.makeUnlessThere start l t = .ok () after) :
    Made start [l] t after ∧ ∃ place, after.openDirectory start l = .ok place := by
  unfold Change.makeUnlessThere at h
  split at h
  · rename_i made hmake
    cases h
    obtain ⟨place, hfree, rfl, hopen⟩ := makeDirectory_eq_ok hmake
    have hplace : place ≠ [] := by
      rintro rfl
      cases hfree
    refine ⟨⟨keeps_set hfree _, fun q => ?_⟩, place, hopen⟩
    by_cases hq : q = place
    · exact .inr ⟨l, by simp, hq ▸ hopen⟩
    · rw [get?_set t hplace, if_neg hq]
      exact .inl rfl
  · split at h
    · rename_i hthere
      cases h
      exact ⟨.refl start [l] t, isDirectory_iff.mp hthere⟩
    · cases h

theorem makeChain_made {chain : List Location} (h : Change.makeChain start chain t = .ok () after) :
    Made start chain t after
      ∧ ∀ l, chain.head? = some l → ∃ place, after.openDirectory start l = .ok place := by
  induction chain generalizing after with
  | nil =>
      cases h
      exact ⟨.refl start [] t, by simp⟩
  | cons l outer ih =>
      by_cases hmissing : t.makeDirectory start l = .error .notFound
      · cases houter : Change.makeChain start outer t with
        | ok _ mid =>
            rw [makeChain_of_missing hmissing houter] at h
            obtain ⟨hmade, hopen⟩ := makeUnlessThere_made h
            exact ⟨(ih houter).1.cons hmade, by simpa using hopen⟩
        | error reason mid =>
            simp only [Change.makeChain, hmissing, houter] at h
            cases h
      · rw [makeChain_of_found hmissing] at h
        obtain ⟨hmade, hopen⟩ := makeUnlessThere_made h
        exact ⟨(Made.refl start outer t).cons hmade, by simpa using hopen⟩

/-- **A directory that was made** with all that it lies in can be opened, and what is new are these
directories and nothing else. -/
theorem makeDirectories_made (htext : l.text ≠ "")
    (h : Change.makeDirectories start l t = .ok () after) :
    Made start l.ancestors t after ∧ ∃ place, after.openDirectory start l = .ok place := by
  obtain ⟨hmade, hopen⟩ := makeChain_made h
  exact ⟨hmade, hopen l (Location.head?_ancestors htext)⟩

/-! ## Making what is there -/

/-- A location that leads to a directory has no last name, or something has that name. -/
theorem parentAndName_of_open (hopen : t.openDirectory start l = .ok place) :
    (∃ found, t.parentAndName start l = .ok (found, none))
      ∨ ∃ outer name, t.parentAndName start l = .ok (outer, some name)
        ∧ t.get? (outer ++ [name]) ≠ none := by
  obtain ⟨hresolve, -⟩ := openDirectory_eq_ok_iff.mp hopen
  obtain ⟨hrefusal, first, horigin, hfollow⟩ := resolve_eq_ok_iff.mp hresolve
  unfold parentAndName
  rw [hrefusal]
  dsimp only
  split
  · exact .inl ⟨place, bind_eq_ok_iff.mpr ⟨place, hresolve, rfl⟩⟩
  · rename_i last hlast
    split
    · exact .inl ⟨place, bind_eq_ok_iff.mpr ⟨place, hresolve, rfl⟩⟩
    · rename_i hdots
      obtain ⟨hname, helements⟩ := eq_of_getLast?_used hlast
      -- the last name is looked for where the elements before it lead to
      rw [helements, follow, List.foldlM_append] at hfollow
      obtain ⟨outer, houter, hrest⟩ := bind_eq_ok_iff.mp hfollow
      obtain ⟨next, hstep, -⟩ := bind_eq_ok_iff.mp hrest
      obtain ⟨hdirectory, ⟨hidle, -⟩ | ⟨-, hback, -⟩ | ⟨-, -, hshort, hthere, -⟩⟩ :=
        step_eq_ok_iff.mp hstep
      · have hdot : last = "." := by simpa [Location.isIdle, hname] using hidle
        exact absurd (.inl hdot) hdots
      · exact absurd (.inr hback) hdots
      · refine .inr ⟨outer, last, bind_eq_ok_iff.mpr ⟨first, horigin, ?_⟩, hthere⟩
        refine bind_eq_ok_iff.mpr ⟨outer, houter, ?_⟩
        rw [isDirectoryAt_iff.mpr hdirectory, if_neg (by simp), if_neg (Nat.not_lt.mpr hshort)]

theorem makeDirectory_of_open (hopen : t.openDirectory start l = .ok place) :
    t.makeDirectory start l = .error .alreadyThere := by
  unfold makeDirectory
  rcases parentAndName_of_open hopen with ⟨found, hparent⟩ | ⟨outer, name, hparent, hthere⟩
  · rw [hparent]
    rfl
  · obtain ⟨node, hnode⟩ := Option.ne_none_iff_exists'.mp hthere
    rw [hparent]
    dsimp only [bind, Except.bind]
    rw [hnode]

/-- **To make a directory that is there changes nothing.** -/
theorem makeDirectories_of_open (hopen : t.openDirectory start l = .ok place) :
    Change.makeDirectories start l t = .ok () t := by
  have hmake := makeDirectory_of_open hopen
  have htext : l.text ≠ "" := by
    obtain ⟨hresolve, -⟩ := openDirectory_eq_ok_iff.mp hopen
    obtain ⟨hrefusal, -⟩ := resolve_eq_ok_iff.mp hresolve
    intro hempty
    simp [refusal?, hempty] at hrefusal
  obtain ⟨outer, hchain⟩ := List.head?_eq_some_iff.mp (Location.head?_ancestors htext)
  unfold Change.makeDirectories
  rw [hchain, makeChain_of_found (by simp [hmake])]
  unfold Change.makeUnlessThere
  rw [hmake]
  dsimp only
  rw [if_pos (isDirectory_iff.mpr ⟨place, hopen⟩)]

/-! ## What was made is empty -/

/-- Nothing stands below a place. -/
def NothingBelow (t : FileTree) (place : Place) : Prop :=
  ∀ names, names ≠ [] → t.get? (place ++ names) = none

/-- A tree in which everything stands in a directory. -/
def Rooted (t : FileTree) : Prop :=
  ∀ place name, t.get? (place ++ [name]) ≠ none → t.get? place = some .directory

/-- It is enough to look at the entries. -/
theorem rooted_of_entries (h : t.entries.all (fun e => t.isDirectoryAt e.1.dropLast) = true) :
    t.Rooted := by
  intro place name hthere
  obtain ⟨node, hnode⟩ := Option.ne_none_iff_exists'.mp hthere
  have hentry := List.all_eq_true.mp h _ (mem_entries_of_get? (by simp) hnode)
  rw [List.dropLast_concat] at hentry
  exact isDirectoryAt_iff.mp hentry

/-- Something stands below directories only. -/
theorem Rooted.get?_of_below (h : t.Rooted) {names : List String} (hnames : names ≠ [])
    (hthere : t.get? (place ++ names) ≠ none) : t.get? place = some .directory := by
  induction names using List.reverseRecOn with
  | nil => exact absurd rfl hnames
  | append_singleton names name ih =>
      rw [← List.append_assoc] at hthere
      have houter := h _ _ hthere
      by_cases hnil : names = []
      · rwa [hnil, List.append_nil] at houter
      · exact ih hnil (by simp [houter])

/-- A location that never goes back leads down its steps. -/
theorem eq_of_follow {elements : List String} {last : Place} (hback : ".." ∉ elements)
    (h : t.follow start place elements = .ok last) :
    last = place ++ elements.filter fun e => !Location.isIdle e := by
  induction elements generalizing place with
  | nil =>
      cases h
      simp
  | cons element rest ih =>
      obtain ⟨next, hstep, hrest⟩ := bind_eq_ok_iff.mp h
      have hlast := ih (fun hmem => hback (by simp [hmem])) hrest
      obtain ⟨-, ⟨hidle, rfl⟩ | ⟨-, rfl, -⟩ | ⟨hidle, -, -, -, rfl⟩⟩ := step_eq_ok_iff.mp hstep
      · simp [hlast, hidle]
      · simp at hback
      · simp [hlast, hidle]

/-- It leads there in every tree that has a directory at its end. -/
theorem Rooted.follow (h : t.Rooted) {elements : List String} {last : Place}
    (hback : ".." ∉ elements) (hfollow : after.follow start place elements = .ok last)
    (hlast : t.get? last = some .directory) : t.follow start place elements = .ok last := by
  -- all that it passes is above its end
  have hpassed {q : Place} {names : List String} (hq : last = q ++ names) :
      t.get? q = some .directory := by
    by_cases hnil : names = []
    · rwa [hq, hnil, List.append_nil] at hlast
    · exact h.get?_of_below hnil (by simp [← hq, hlast])
  induction elements generalizing place with
  | nil => exact hfollow
  | cons element rest ih =>
      have hplace : t.get? place = some .directory := hpassed (eq_of_follow hback hfollow)
      obtain ⟨next, hstep, hrest⟩ := bind_eq_ok_iff.mp hfollow
      have hback' : ".." ∉ rest := fun hmem => hback (by simp [hmem])
      have hnext : t.get? next = some .directory := hpassed (eq_of_follow hback' hrest)
      refine bind_eq_ok_iff.mpr ⟨next, ?_, ih hback' hrest⟩
      obtain ⟨-, hidle | ⟨-, rfl, -⟩ | ⟨hidle, hname, hshort, -, rfl⟩⟩ := step_eq_ok_iff.mp hstep
      · exact step_eq_ok_iff.mpr ⟨hplace, .inl hidle⟩
      · simp at hback
      · exact step_eq_ok_iff.mpr
          ⟨hplace, .inr (.inr ⟨hidle, hname, hshort, by simp [hnext], rfl⟩)⟩

theorem not_mem_elements (h : ".." ∉ l.steps) : ".." ∉ l.elements := by
  intro hmem
  exact h (List.mem_filter.mpr ⟨hmem, rfl⟩)

/-- Where a location that never goes back leads. -/
theorem eq_of_openDirectory (hback : ".." ∉ l.steps) {first : Place}
    (horigin : origin start l = .ok first) (h : t.openDirectory start l = .ok place) :
    place = first ++ l.steps := by
  obtain ⟨hresolve, -⟩ := openDirectory_eq_ok_iff.mp h
  obtain ⟨-, found, hfound, hfollow⟩ := resolve_eq_ok_iff.mp hresolve
  rw [horigin] at hfound
  cases hfound
  exact eq_of_follow (not_mem_elements hback) hfollow

/-- **A directory that was not there and was made is empty**, if its location never goes back. -/
theorem nothingBelow_made (hrooted : t.Rooted) (hback : ".." ∉ l.steps)
    (habsent : ∀ found, t.openDirectory start l ≠ .ok found)
    (hmade : Made start l.ancestors t after) (hopen : after.openDirectory start l = .ok place) :
    after.NothingBelow place := by
  obtain ⟨hresolve, hplace⟩ := openDirectory_eq_ok_iff.mp hopen
  obtain ⟨hrefusal, first, horigin, hfollow⟩ := resolve_eq_ok_iff.mp hresolve
  have hend : place = first ++ l.steps := eq_of_openDirectory hback horigin hopen
  -- the place was free, or the location would have led there before
  have hfree : t.get? place = none := by
    by_contra hthere
    obtain ⟨node, hnode⟩ := Option.ne_none_iff_exists'.mp hthere
    have hdirectory : t.get? place = some .directory := by
      have hsame := hmade.keeps.nodes _ _ hnode
      rw [hplace] at hsame
      rw [hnode, hsame]
    have hbefore := hrooted.follow (not_mem_elements hback) hfollow hdirectory
    refine habsent place (openDirectory_eq_ok_iff.mpr ⟨?_, hdirectory⟩)
    exact resolve_eq_ok_iff.mpr ⟨hrefusal, first, horigin, hbefore⟩
  intro names hnames
  rcases hmade.new (place ++ names) with hsame | ⟨m, hm, hnew⟩
  · rw [hsame]
    by_contra hthere
    have hdirectory := hrooted.get?_of_below hnames hthere
    rw [hfree] at hdirectory
    cases hdirectory
  · -- what is new has no more steps than the location
    obtain ⟨habsolute, hsteps⟩ := Location.mem_ancestors hm
    have hstart : origin start m = .ok first := by
      rw [← horigin, origin, origin, habsolute]
    have hnew := eq_of_openDirectory (fun hmem => hback (hsteps.subset hmem)) hstart hnew
    have hlength := hsteps.length_le
    rw [hend, List.append_assoc] at hnew
    rw [← List.append_cancel_left hnew, List.length_append] at hlength
    have hpositive := List.length_pos_iff.mpr hnames
    omega

end Fieldwise.FileTree
