import Fieldwise.Proofs.FileTree.Opening

set_option autoImplicit false

/-! # Staying inside a directory

A start that is confined to a directory looks at nothing but what is at and below that directory.
So trees that hold the same there (`FileTree.SameBelow`) give the same answers: every step leads to
the same place below the directory or fails for the same reason (`SameBelow.step`), hence so does
every location (`SameBelow.resolve`), and every question has the same answer (`SameBelow.find`).
What is opened or made from such a start is inside of the directory (`isPrefix_of_confined_open`,
`Made.get?_of_outside`).

A location leaves a directory if it is absolute or if it goes back more often than it went forward
at some point, even if it comes in again (`Location.leaves`). Such a location names nothing
(`not_isFile_of_leaves`).
-/

namespace Fieldwise

/-! ## Locations that leave -/

/-- How deep below its start one is after some elements, from a depth on. There is no such depth if
they lead above the start on the way. -/
def Location.depthAfter : Nat → List String → Option Nat
  | depth, [] => some depth
  | depth, element :: rest =>
    if isIdle element then depthAfter depth rest
    else if element = ".." then
      if depth = 0 then none else depthAfter (depth - 1) rest
    else depthAfter (depth + 1) rest

/-- Whether a location leads out of the directory where it starts, at its end or on the way. -/
def Location.leaves (l : Location) : Bool :=
  l.isAbsolute || (Location.depthAfter 0 l.elements).isNone

namespace FileTree

variable {t t' after : FileTree} {place place' root : Place} {names : List String} {l : Location}

/-- A confined location begins where it starts. -/
theorem of_confined_origin {first : Place} (h : origin ⟨root, true⟩ l = .ok first) :
    l.isAbsolute = false ∧ first = root := by
  unfold origin at h
  split at h
  · cases h
  · rename_i hrelative
    cases h
    exact ⟨by simpa using hrelative, rfl⟩

/-- All that one confined step can do: it leads to another place below the directory. -/
theorem exists_of_confined_step {next : Place} {element : String}
    (h : t.step ⟨place, true⟩ (place ++ names) element = .ok next) :
    ∃ more, next = place ++ more
      ∧ (Location.isIdle element = true ∧ more = names
        ∨ Location.isIdle element = false ∧ element = ".." ∧ names.length = more.length + 1
        ∨ Location.isIdle element = false ∧ element ≠ ".." ∧ more = names ++ [element]) := by
  obtain ⟨-, ⟨hidle, rfl⟩ | ⟨hidle, hback, hstay, rfl⟩ | ⟨hidle, hback, -, -, rfl⟩⟩ :=
    step_eq_ok_iff.mp h
  · exact ⟨names, rfl, .inl ⟨hidle, rfl⟩⟩
  · have hnames : names ≠ [] := by
      rintro rfl
      simp at hstay
    have hlength := List.length_pos_iff.mpr hnames
    refine ⟨names.dropLast, List.dropLast_append_of_ne_nil hnames, .inr (.inl ⟨hidle, hback, ?_⟩)⟩
    rw [List.length_dropLast]
    omega
  · exact ⟨names ++ [element], List.append_assoc _ _ _, .inr (.inr ⟨hidle, hback, rfl⟩)⟩

/-- Elements that lead somewhere never lead above the start. -/
theorem depthAfter_of_confined_follow {elements : List String} {last : Place}
    (h : t.follow ⟨place, true⟩ (place ++ names) elements = .ok last) :
    (Location.depthAfter names.length elements).isSome = true := by
  induction elements generalizing names with
  | nil => rfl
  | cons element rest ih =>
      obtain ⟨next, hstep, hrest⟩ := bind_eq_ok_iff.mp h
      obtain ⟨more, rfl, ⟨hidle, rfl⟩ | ⟨hidle, hback, hlength⟩ | ⟨hidle, hback, rfl⟩⟩ :=
        exists_of_confined_step hstep
      · rw [Location.depthAfter, if_pos hidle]
        exact ih hrest
      · rw [Location.depthAfter, if_neg (by simp [hidle]), if_pos hback, hlength,
          if_neg (Nat.succ_ne_zero _)]
        exact ih hrest
      · rw [Location.depthAfter, if_neg (by simp [hidle]), if_neg hback]
        simpa using ih hrest

/-- **A location that leaves a directory names nothing in it**, even if it comes in again. -/
theorem not_resolve_of_leaves (h : l.leaves = true) (last : Place) :
    t.resolve ⟨place, true⟩ l ≠ .ok last := by
  intro hresolve
  obtain ⟨-, first, horigin, hfollow⟩ := resolve_eq_ok_iff.mp hresolve
  obtain ⟨hrelative, rfl⟩ := of_confined_origin horigin
  have hstart : t.follow ⟨first, true⟩ (first ++ []) l.elements = .ok last := by
    simpa using hfollow
  have hdepth := depthAfter_of_confined_follow hstart
  rw [List.length_nil] at hdepth
  simp [Location.leaves, hrelative, Option.isNone_iff_eq_none] at h
  rw [h] at hdepth
  cases hdepth

theorem not_isFile_of_leaves (h : l.leaves = true) :
    t.isFile ⟨place, true⟩ l = false := by
  rw [← Bool.not_eq_true, isFile_iff]
  rintro ⟨content, hfind⟩
  obtain ⟨last, hresolve, -⟩ := find_eq_ok_iff.mp hfind
  exact not_resolve_of_leaves h last hresolve

/-! ## What is opened inside a directory -/

theorem isPrefix_of_confined_follow {elements : List String} {last : Place}
    (hplace : root <+: place) (hfollow : t.follow ⟨root, true⟩ place elements = .ok last) :
    root <+: last := by
  induction elements generalizing place with
  | nil =>
      cases hfollow
      exact hplace
  | cons element rest ih =>
      obtain ⟨names, rfl⟩ := hplace
      obtain ⟨next, hstep, hrest⟩ := bind_eq_ok_iff.mp hfollow
      obtain ⟨more, rfl, -⟩ := exists_of_confined_step hstep
      exact ih (List.prefix_append root more) hrest

/-- What is opened from a confined start is inside of it. -/
theorem isPrefix_of_confined_open (hopen : t.openDirectory ⟨root, true⟩ l = .ok place) :
    root <+: place := by
  obtain ⟨hresolve, -⟩ := openDirectory_eq_ok_iff.mp hopen
  obtain ⟨-, first, horigin, hfollow⟩ := resolve_eq_ok_iff.mp hresolve
  obtain ⟨-, rfl⟩ := of_confined_origin horigin
  exact isPrefix_of_confined_follow (List.prefix_refl first) hfollow

/-- **Making directories from a confined start** changes nothing outside of it. -/
theorem Made.get?_of_outside {q : Place} {chain : List Location}
    (h : Made ⟨root, true⟩ chain t after) (hq : ¬ root <+: q) : after.get? q = t.get? q := by
  rcases h.new q with hsame | ⟨m, -, hopen⟩
  · exact hsame
  · exact absurd (isPrefix_of_confined_open hopen) hq

/-! ## Trees that hold the same below a directory -/

/-- Two trees hold the same at and below a place of each. -/
def SameBelow (t t' : FileTree) (place place' : Place) : Prop :=
  ∀ names, t.get? (place ++ names) = t'.get? (place' ++ names)

/-- Two answers are the same place, below a place each, or the same reason for there being none. -/
inductive SameAnswer (place place' : Place) : Except FileError Place → Except FileError Place → Prop
  | failed (reason : FileError) : SameAnswer place place' (.error reason) (.error reason)
  | found (names : List String) :
      SameAnswer place place' (.ok (place ++ names)) (.ok (place' ++ names))

namespace SameBelow

/-- **One confined step** leads to the same place in both trees. -/
theorem step (h : t.SameBelow t' place place') (names : List String) (element : String) :
    SameAnswer place place' (t.step ⟨place, true⟩ (place ++ names) element)
      (t'.step ⟨place', true⟩ (place' ++ names) element) := by
  have hdirectory : t.isDirectoryAt (place ++ names) = t'.isDirectoryAt (place' ++ names) := by
    rw [isDirectoryAt, isDirectoryAt, h names]
  have hthere : t.get? (place ++ names ++ [element]) = t'.get? (place' ++ names ++ [element]) := by
    simpa using h (names ++ [element])
  have hstart (q : Place) : (q ++ names == q) = names.isEmpty := by
    cases names <;> simp
  unfold FileTree.step
  rw [hdirectory, hthere, hstart, hstart]
  split
  · exact .failed _
  · split
    · exact .found names
    · split
      · split
        · exact .failed _
        · rename_i hstay
          have hnames : names ≠ [] := by
            rintro rfl
            simp at hstay
          rw [List.dropLast_append_of_ne_nil hnames, List.dropLast_append_of_ne_nil hnames]
          exact .found _
      · split
        · exact .failed _
        · split
          · rw [List.append_assoc, List.append_assoc]
            exact .found _
          · exact .failed _

theorem follow (h : t.SameBelow t' place place') (names elements : List String) :
    SameAnswer place place' (t.follow ⟨place, true⟩ (place ++ names) elements)
      (t'.follow ⟨place', true⟩ (place' ++ names) elements) := by
  induction elements generalizing names with
  | nil => exact .found names
  | cons element rest ih =>
      rw [follow_cons, follow_cons]
      generalize hstep : t.step ⟨place, true⟩ (place ++ names) element = answer
      generalize hstep' : t'.step ⟨place', true⟩ (place' ++ names) element = answer'
      have hsame := h.step names element
      rw [hstep, hstep'] at hsame
      cases hsame with
      | failed reason => exact .failed reason
      | found more => exact ih more

/-- **A confined location** leads to the same place in both trees. -/
theorem resolve (h : t.SameBelow t' place place') (l : Location) :
    SameAnswer place place' (t.resolve ⟨place, true⟩ l) (t'.resolve ⟨place', true⟩ l) := by
  have hrefusal : refusal? ⟨place, true⟩ l = refusal? ⟨place', true⟩ l := rfl
  unfold FileTree.resolve
  rw [hrefusal]
  split
  · exact .failed _
  · unfold origin
    cases l.isAbsolute with
    | true => exact .failed _
    | false =>
        show SameAnswer place place' (t.follow ⟨place, true⟩ place _)
          (t'.follow ⟨place', true⟩ place' _)
        simpa using h.follow [] l.elements

theorem find (h : t.SameBelow t' place place') (l : Location) :
    t.find ⟨place, true⟩ l = t'.find ⟨place', true⟩ l := by
  unfold FileTree.find
  generalize hanswer : t.resolve ⟨place, true⟩ l = answer
  generalize hanswer' : t'.resolve ⟨place', true⟩ l = answer'
  have hsame := h.resolve l
  rw [hanswer, hanswer'] at hsame
  cases hsame with
  | failed reason => rfl
  | found names =>
      dsimp only [bind, Except.bind]
      rw [h names]

end SameBelow

end FileTree

end Fieldwise
