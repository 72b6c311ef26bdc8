import Fieldwise.Proofs.FileTree.Confinement
import Fieldwise.Proofs.Location.Halves

set_option autoImplicit false

/-! # What the text of a location spells

A location that ends in a name spells that name in the directory that the text before it leads to
(`FileTree.Spells`). What it names is what has this name in that directory (`Spells.find_eq`), and
it spells the same while the directories stay (`Spells.keeps`).

A location that was joined spells what is spelled inside: if the first part opens a directory, and
the second leads on from there without leaving it, then the text of both leads to the same place,
though it is not confined to anything (`spells_join`).

A location of a file always ends in a name (`exists_name_of_find`). Its parent opens the directory
where it spells this name (`Spells.openParent`), and from there the name alone leads to the file,
also without leave to go anywhere else (`resolve_name`). Only a bare name has nothing to be opened.
-/

namespace Fieldwise.FileTree

variable {t after : FileTree} {start : Start} {place last root : Place} {l inner : Location}
  {name : String} {init elements : List String} {node : Node}

/-! ## Following elements -/

/-- Idle elements count for nothing on the way to a directory. -/
theorem follow_steps_iff (hlast : t.get? last = some .directory) :
    t.follow start place (elements.filter fun e => !Location.isIdle e) = .ok last
      ↔ t.follow start place elements = .ok last := by
  induction elements generalizing place with
  | nil => rfl
  | cons element rest ih =>
      by_cases hidle : Location.isIdle element = true
      · rw [List.filter_cons_of_neg (by simp [hidle])]
        constructor
        · intro h
          have hplace : t.get? place = some .directory := directory_of_follow h hlast
          have hstep : t.step start place element = .ok place :=
            step_eq_ok_iff.mpr ⟨hplace, .inl ⟨hidle, rfl⟩⟩
          exact bind_eq_ok_iff.mpr ⟨place, hstep, ih.mp h⟩
        · intro h
          obtain ⟨next, hstep, hrest⟩ := bind_eq_ok_iff.mp h
          obtain ⟨-, ⟨-, rfl⟩ | ⟨hnot, -⟩ | ⟨hnot, -⟩⟩ := step_eq_ok_iff.mp hstep
          · exact ih.mpr hrest
          · rw [hidle] at hnot
            cases hnot
          · rw [hidle] at hnot
            cases hnot
      · rw [List.filter_cons_of_pos (by simp [hidle])]
        constructor
        · intro h
          obtain ⟨next, hstep, hrest⟩ := bind_eq_ok_iff.mp h
          exact bind_eq_ok_iff.mpr ⟨next, hstep, ih.mp hrest⟩
        · intro h
          obtain ⟨next, hstep, hrest⟩ := bind_eq_ok_iff.mp h
          exact bind_eq_ok_iff.mpr ⟨next, hstep, ih.mpr hrest⟩

/-- What can be followed without leaving a directory can be followed from anywhere. -/
theorem follow_of_confined {first : Place} (h : t.follow ⟨root, true⟩ place elements = .ok last) :
    t.follow ⟨first, false⟩ place elements = .ok last := by
  induction elements generalizing place with
  | nil => exact h
  | cons element rest ih =>
      obtain ⟨next, hstep, hrest⟩ := bind_eq_ok_iff.mp h
      obtain ⟨hplace, hcases⟩ := step_eq_ok_iff.mp hstep
      have hfree : t.step ⟨first, false⟩ place element = .ok next := by
        refine step_eq_ok_iff.mpr ⟨hplace, ?_⟩
        rcases hcases with hidle | ⟨hidle, hback, -, hnext⟩ | hname
        · exact .inl hidle
        · exact .inr (.inl ⟨hidle, hback, rfl, hnext⟩)
        · exact .inr (.inr hname)
      exact bind_eq_ok_iff.mpr ⟨next, hfree, ih hrest⟩

/-! ## Spelling -/

/-- A location spells a name in a directory: its text ends in the name, and what stands before leads
to the directory from where the location begins. -/
def Spells (t : FileTree) (l : Location) (place : Place) (name : String) : Prop :=
  ∃ first init, origin t.ambient l = .ok first ∧ l.elements = init ++ [name]
    ∧ t.follow t.ambient first init = .ok place ∧ t.get? place = some .directory

/-- **A location spells the same** while the directories stay. -/
theorem Spells.keeps (h : t.Spells l place name) (hkeeps : KeepsDirectories t after) :
    after.Spells l place name := by
  obtain ⟨first, init, horigin, helements, hfollow, hplace⟩ := h
  have hambient : after.ambient = t.ambient := by
    rw [ambient, ambient, hkeeps.current]
  refine ⟨first, init, ?_, helements, ?_, hkeeps.directories place hplace⟩
  · rw [hambient, horigin]
  · rw [hambient]
    exact hkeeps.follow hfollow hplace

/-- It spells its name in one directory only. -/
theorem Spells.unique {other : Place} (h : t.Spells l place name) (hother : t.Spells l other name) :
    place = other := by
  obtain ⟨first, init, horigin, helements, hfollow, -⟩ := h
  obtain ⟨found, more, hfound, hmore, hlast, -⟩ := hother
  obtain rfl : first = found := Except.ok.inj (horigin.symm.trans hfound)
  obtain rfl : init = more := List.append_cancel_right (helements.symm.trans hmore)
  exact Except.ok.inj (hfollow.symm.trans hlast)

theorem Spells.directory (h : t.Spells l place name) : t.get? place = some .directory := by
  obtain ⟨-, -, -, -, -, hplace⟩ := h
  exact hplace

/-- **Where a location leads** if something has the name that it spells. -/
theorem Spells.resolve_eq (h : t.Spells l place name) (hname : IsName name)
    (hshort : name.utf8ByteSize ≤ longestName) (hrefusal : refusal? t.ambient l = none)
    (hnode : t.get? (place ++ [name]) = some node) :
    t.resolve t.ambient l = .ok (place ++ [name]) := by
  obtain ⟨first, init, horigin, helements, hfollow, hplace⟩ := h
  have hstep : t.step t.ambient place name = .ok (place ++ [name]) :=
    step_eq_ok_iff.mpr ⟨hplace,
      .inr (.inr ⟨hname.idle, hname.parent, hshort, by simp [hnode], rfl⟩)⟩
  refine resolve_eq_ok_iff.mpr ⟨hrefusal, first, horigin, ?_⟩
  rw [helements, follow_append hfollow]
  exact bind_eq_ok_iff.mpr ⟨_, hstep, rfl⟩

/-- **What a location names** is what has the name that it spells. -/
theorem Spells.find_eq (h : t.Spells l place name) (hname : IsName name)
    (hshort : name.utf8ByteSize ≤ longestName) (hrefusal : refusal? t.ambient l = none)
    (hnode : t.get? (place ++ [name]) = some node) : t.find t.ambient l = .ok node :=
  find_eq_ok_iff.mpr ⟨_, h.resolve_eq hname hshort hrefusal hnode, hnode⟩

/-- A location that ends in a name and names something spells that name. -/
theorem spells_of_find (hname : IsName name) (helements : l.elements = init ++ [name])
    (h : t.find t.ambient l = .ok node) :
    ∃ place, t.Spells l place name ∧ t.get? (place ++ [name]) = some node
      ∧ refusal? t.ambient l = none ∧ name.utf8ByteSize ≤ longestName := by
  obtain ⟨target, hresolve, hnode⟩ := find_eq_ok_iff.mp h
  obtain ⟨hrefusal, first, horigin, hfollow⟩ := resolve_eq_ok_iff.mp hresolve
  rw [helements, follow, List.foldlM_append] at hfollow
  obtain ⟨place, hinit, hrest⟩ := bind_eq_ok_iff.mp hfollow
  obtain ⟨next, hstep, hdone⟩ := bind_eq_ok_iff.mp hrest
  cases hdone
  obtain ⟨hplace, ⟨hidle, -⟩ | ⟨-, hback, -⟩ | ⟨-, -, hshort, -, rfl⟩⟩ := step_eq_ok_iff.mp hstep
  · rw [hname.idle] at hidle
    cases hidle
  · exact absurd hback hname.parent
  · exact ⟨place, ⟨first, init, horigin, helements, hinit, hplace⟩, hnode, hrefusal, hshort⟩

/-- **A joined location spells what is spelled inside.** The first part opens a directory, and the
elements of the second that come before its name lead on from there. -/
theorem spells_join (hroot : t.openDirectory t.ambient l = .ok root)
    (hrelative : inner.isAbsolute = false) (helements : inner.elements = init ++ [name])
    (hfollow : t.follow ⟨root, true⟩ root init = .ok place)
    (hplace : t.get? place = some .directory) : t.Spells (l.join inner) place name := by
  obtain ⟨hresolve, hdirectory⟩ := openDirectory_eq_ok_iff.mp hroot
  obtain ⟨-, first, horigin, houter⟩ := resolve_eq_ok_iff.mp hresolve
  obtain ⟨habsolute, outer, hjoined, hsteps⟩ := Location.join_spec (l := l) hrelative
  refine ⟨first, outer ++ init, ?_, ?_, ?_, hplace⟩
  · rw [← horigin, origin, origin, habsolute]
  · rw [hjoined, helements, List.append_assoc]
  · have hfirst : t.follow t.ambient first outer = .ok root := by
      rw [← follow_steps_iff hdirectory, hsteps]
      exact (follow_steps_iff hdirectory).mpr houter
    rw [follow_append hfirst]
    exact follow_of_confined hfollow

/-! ## The directory where a name is spelled -/

/-- **A location of a file ends in a name**, since dots and slashes at its end, and the way back,
lead to directories only. -/
theorem exists_name_of_find (hrooted : t.Rooted) {content : ByteArray}
    (h : t.find start l = .ok (.file content)) :
    ∃ init name, l.elements = init ++ [name] ∧ IsName name := by
  obtain ⟨last, hresolve, hnode⟩ := find_eq_ok_iff.mp h
  have hfile : t.get? last ≠ some .directory := by simp [hnode]
  obtain ⟨-, first, -, hfollow⟩ := resolve_eq_ok_iff.mp hresolve
  have hnil : l.elements ≠ [] := fun hnil => Text.pieces_ne_nil _ (List.map_eq_nil_iff.mp hnil)
  obtain ⟨init, name, helements⟩ : ∃ init name, l.elements = init ++ [name] :=
    ⟨_, _, (List.dropLast_append_getLast hnil).symm⟩
  rw [helements, follow, List.foldlM_append] at hfollow
  obtain ⟨place, -, hrest⟩ := bind_eq_ok_iff.mp hfollow
  obtain ⟨next, hstep, hdone⟩ := bind_eq_ok_iff.mp hrest
  cases hdone
  obtain ⟨hplace, ⟨-, rfl⟩ | ⟨-, -, -, rfl⟩ | ⟨hidle, hback, -⟩⟩ := step_eq_ok_iff.mp hstep
  · exact absurd hplace hfile
  · refine absurd ?_ hfile
    cases place using List.reverseRecOn with
    | nil => rfl
    | append_singleton outer inner =>
        rw [List.dropLast_concat]
        exact hrooted outer inner (by simp [hplace])
  · exact ⟨init, name, helements,
      Location.slash_of_mem_elements (by rw [helements]; simp), hidle, hback⟩

/-- A name that a location spells and that something has is one that a file system takes. -/
theorem Spells.fitsAsName (h : t.Spells l place name) (hname : IsName name)
    (hshort : name.utf8ByteSize ≤ longestName) (hrefusal : refusal? t.ambient l = none) :
    FitsAsName name := by
  obtain ⟨-, init, -, helements, -, -⟩ := h
  obtain ⟨front, htext⟩ := Location.exists_text_of_name helements
  obtain ⟨hzero, -, -⟩ := refusal?_eq_none_iff.mp hrefusal
  rw [htext] at hzero
  exact ⟨hname, fun hmem => hzero (by simp [hmem]), hshort⟩

/-- **The parent of a location opens the directory** where the location spells its name, unless the
parent has no text. -/
theorem Spells.openParent {p : Location} (h : t.Spells l place name) (hname : IsName name)
    (hrefusal : refusal? t.ambient l = none) (hparent : l.parent? = some p) (htext : p.text ≠ "") :
    t.openDirectory t.ambient p = .ok place := by
  obtain ⟨first, init, horigin, helements, hfollow, hplace⟩ := h
  obtain ⟨q, hq, hsteps, habsolute, -⟩ := Location.parent?_of_name helements hname.idle
  obtain rfl := Option.some.inj (hparent.symm.trans hq)
  obtain ⟨back, hback⟩ := Location.text_of_parent? helements hname.idle hparent
  have hlooks : refusal? t.ambient p = none :=
    refusal?_of_part "" back hrefusal (by rw [hback, String.empty_append]) htext
  have hstart : origin t.ambient p = .ok first := by
    rw [← horigin, origin, origin, habsolute htext]
  have hleads : t.follow t.ambient first p.elements = .ok place := by
    rw [← follow_steps_iff hplace, ← Location.steps, hsteps]
    exact (follow_steps_iff hplace).mpr hfollow
  exact openDirectory_eq_ok_iff.mpr
    ⟨resolve_eq_ok_iff.mpr ⟨hlooks, first, hstart, hleads⟩, hplace⟩

/-- From a directory a name leads to what has it there. -/
theorem resolve_name {confined : Bool} (hname : FitsAsName name)
    (hplace : t.get? place = some .directory) (hnode : t.get? (place ++ [name]) = some node) :
    t.resolve ⟨place, confined⟩ ⟨name⟩ = .ok (place ++ [name]) := by
  rw [← Location.ofNames_singleton, resolve_ofNames (.singleton hname) (by simp)]
  exact bind_eq_ok_iff.mpr ⟨_, step_there hname hplace hnode, rfl⟩

end Fieldwise.FileTree
