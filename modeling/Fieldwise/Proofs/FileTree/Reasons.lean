import Fieldwise.Proofs.FileTree.Directories

set_option autoImplicit false

/-! # Why directories are not opened or made

What is done to directories fails because something is missing, is a file, is there already, or
cannot be named (`FileError.Ordinary`). It never fails because a directory is in the way, nor for a
reason that the tree does not show. That is what happens to files alone, so that these reasons
tell the one kind of failure from the other (`openDirectory_ordinary`, `ordinary_of_makeChain`).
-/

namespace Fieldwise

/-- A reason that is found in a tree, other than that a directory is in the way. -/
def FileError.Ordinary : FileError → Prop
  | .isDirectory | .other _ => False
  | _ => True

namespace FileTree

/-- A result fails for reasons of a kind alone. -/
def FailsFor {α : Type} (kind : FileError → Prop) (x : Except FileError α) : Prop :=
  ∀ reason, x = .error reason → kind reason

section

variable {α β : Type} {kind other : FileError → Prop}

theorem FailsFor.bind {x : Except FileError α} {f : α → Except FileError β}
    (hx : FailsFor kind x) (hf : ∀ a, FailsFor kind (f a)) : FailsFor kind (x >>= f) := by
  cases x with
  | error reason => exact fun found h => hx found (congrArg Except.error (Except.error.inj h))
  | ok a => exact hf a

theorem FailsFor.imp {x : Except FileError α} (hx : FailsFor kind x)
    (himp : ∀ reason, kind reason → other reason) : FailsFor other x :=
  fun reason h => himp reason (hx reason h)

theorem failsFor_ok (a : α) : FailsFor kind (.ok a : Except FileError α) := by
  intro reason h
  cases h

theorem failsFor_error {reason : FileError} (h : kind reason) :
    FailsFor kind (.error reason : Except FileError α) := by
  intro found hfound
  cases hfound
  exact h

end

variable (t : FileTree) (start : Start) (l : Location)

theorem step_ordinary (place : Place) (element : String) :
    FailsFor FileError.Ordinary (t.step start place element) := by
  fun_cases step t start place element <;> simp [FailsFor, FileError.Ordinary]

theorem follow_ordinary (place : Place) (elements : List String) :
    FailsFor FileError.Ordinary (t.follow start place elements) := by
  induction elements generalizing place with
  | nil => exact failsFor_ok place
  | cons element rest ih => exact (step_ordinary t start place element).bind ih

theorem ordinary_of_refusal {reason : FileError} (h : refusal? start l = some reason) :
    reason.Ordinary := by
  unfold refusal? at h
  split_ifs at h <;> cases h <;> trivial

theorem origin_ordinary : FailsFor FileError.Ordinary (origin start l) := by
  fun_cases origin start l <;> simp [FailsFor, FileError.Ordinary]

theorem resolve_ordinary : FailsFor FileError.Ordinary (t.resolve start l) := by
  unfold resolve
  split
  · rename_i reason hrefusal
    exact failsFor_error (ordinary_of_refusal start l hrefusal)
  · exact (origin_ordinary start l).bind fun first => follow_ordinary t start first _

/-- A directory is not opened for ordinary reasons. -/
theorem openDirectory_ordinary : FailsFor FileError.Ordinary (t.openDirectory start l) := by
  refine (resolve_ordinary t start l).bind fun place => ?_
  split_ifs
  · exact failsFor_ok place
  · exact failsFor_error trivial

theorem parentAndName_ordinary : FailsFor FileError.Ordinary (t.parentAndName start l) := by
  have hwhole : FailsFor FileError.Ordinary
      (do return (← t.resolve start l, (none : Option String))) :=
    (resolve_ordinary t start l).bind fun place => failsFor_ok _
  unfold parentAndName
  split
  · rename_i reason hrefusal
    exact failsFor_error (ordinary_of_refusal start l hrefusal)
  · dsimp only
    split
    · exact hwhole
    · split
      · exact hwhole
      · refine (origin_ordinary start l).bind fun first =>
          (follow_ordinary t start first _).bind fun place => ?_
        split_ifs
        · exact failsFor_error trivial
        · exact failsFor_error trivial
        · exact failsFor_ok _

theorem makeDirectory_ordinary : FailsFor FileError.Ordinary (t.makeDirectory start l) := by
  refine (parentAndName_ordinary t start l).bind fun found => ?_
  split
  · exact failsFor_error trivial
  · split
    · exact failsFor_error trivial
    · exact failsFor_ok _

/-- A file is not opened for ordinary reasons, or because a directory is in its place. -/
theorem writablePlace_reasons :
    FailsFor (fun reason => reason = .isDirectory ∨ reason.Ordinary)
      (t.writablePlace start l) := by
  refine ((parentAndName_ordinary t start l).imp fun _ => .inr).bind fun found => ?_
  split
  · exact failsFor_error (.inl rfl)
  · split
    · exact failsFor_error (.inl rfl)
    · split
      · exact failsFor_error (.inl rfl)
      · exact failsFor_ok _

/-! ## Several directories -/

variable {t start l} {after : FileTree} {reason : FileError}

theorem ordinary_of_makeUnlessThere (h : Change.makeUnlessThere start l t = .error reason after) :
    reason.Ordinary := by
  unfold Change.makeUnlessThere at h
  split at h
  · cases h
  · rename_i found hmake
    split at h
    · cases h
    · cases h
      exact makeDirectory_ordinary t start l _ hmake

/-- **Directories are not made** for ordinary reasons. -/
theorem ordinary_of_makeChain {chain : List Location}
    (h : Change.makeChain start chain t = .error reason after) : reason.Ordinary := by
  induction chain generalizing reason after with
  | nil => cases h
  | cons l outer ih =>
      by_cases hmissing : t.makeDirectory start l = .error .notFound
      · cases houter : Change.makeChain start outer t with
        | ok _ mid =>
            rw [makeChain_of_missing hmissing houter] at h
            exact ordinary_of_makeUnlessThere h
        | error found mid =>
            simp only [Change.makeChain, hmissing, houter] at h
            cases h
            exact ih houter
      · rw [makeChain_of_found hmissing] at h
        exact ordinary_of_makeUnlessThere h

end FileTree

end Fieldwise
