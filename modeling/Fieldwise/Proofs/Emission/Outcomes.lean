import Fieldwise.Emission

set_option autoImplicit false

/-! # What storing a bundle in files can come to

A bundle that has no text is not stored, and the files stay as they are. One that has a text is
stored inside the output directory, or the file system refuses something on the way: that is all,
whatever trouble there is with the device (`OutputDirectory.emitter_cases`). -/

namespace Fieldwise

namespace Change

variable {ε α β : Type} {t after : FileTree}

theorem bind_of_ok {x : Change ε α} {a : α} (h : x t = .ok a after) (f : α → Change ε β) :
    (x >>= f) t = f a after := by
  simp only [bind, EStateM.bind, h]

theorem bind_of_error {x : Change ε α} {e : ε} (h : x t = .error e after) (f : α → Change ε β) :
    (x >>= f) t = .error e after := by
  simp only [bind, EStateM.bind, h]

theorem bind_eq_ok {x : Change ε α} {f : α → Change ε β} {b : β} (h : (x >>= f) t = .ok b after) :
    ∃ a mid, x t = .ok a mid ∧ f a mid = .ok b after := by
  cases hx : x t with
  | ok a mid => exact ⟨a, mid, rfl, by rw [← bind_of_ok hx f, h]⟩
  | error e mid =>
      rw [bind_of_error hx f] at h
      cases h

theorem bind_eq_error {x : Change ε α} {f : α → Change ε β} {e : ε}
    (h : (x >>= f) t = .error e after) :
    x t = .error e after ∨ ∃ a mid, x t = .ok a mid ∧ f a mid = .error e after := by
  cases hx : x t with
  | ok a mid => exact .inr ⟨a, mid, rfl, by rw [← bind_of_ok hx f, h]⟩
  | error found mid =>
      rw [bind_of_error hx f] at h
      cases h
      exact .inl rfl

/-- The file system is the reason of every failure. -/
def FailsByFiles (c : Change EmitError α) : Prop :=
  ∀ t reason after, c t = .error reason after → ∃ location cause, reason = .io location cause

theorem FailsByFiles.pure (a : α) : FailsByFiles (Pure.pure a : Change EmitError α) := by
  intro t reason after h
  cases h

theorem FailsByFiles.explain (location : Location) (c : Change FileError α) :
    FailsByFiles (Change.explain (.io location) c) := by
  intro t reason after h
  unfold Change.explain at h
  split at h
  · cases h
  · rename_i cause mid _
    cases h
    exact ⟨location, cause, rfl⟩

theorem FailsByFiles.bind {x : Change EmitError α} {f : α → Change EmitError β}
    (hx : FailsByFiles x) (hf : ∀ a, FailsByFiles (f a)) : FailsByFiles (x >>= f) := by
  intro t reason after h
  rcases bind_eq_error h with hfirst | ⟨a, mid, -, hnext⟩
  · exact hx t reason after hfirst
  · exact hf a mid reason after hnext

end Change

namespace OutputDirectory

open Change

variable {o : OutputDirectory} {trouble : Trouble} {b : Bundle} {t after : FileTree}

theorem replaceFile_failsByFiles (trouble : Trouble) (place : Place) (fileName : String)
    (shown : Location) (text : String) :
    FailsByFiles (replaceFile trouble place fileName shown text) := by
  unfold replaceFile
  apply FailsByFiles.bind
  · -- writing under the temporary name puts its failure into its result
    intro t reason after h
    dsimp only at h
    split at h <;> cases h
  · intro written
    cases written with
    | none => exact FailsByFiles.explain _ _
    | some cause =>
        apply FailsByFiles.bind
        · intro t reason after h
          unfold Change.regardless at h
          split at h <;> cases h
        · intro _ t reason after h
          cases h
          exact ⟨_, cause, rfl⟩

section Storing

-- what the steps do to the files is not for unification to try
attribute [local irreducible] Bundle.relativePath ready openPackage replaceFile packageDirectory?
  Location.join

/-- Opens the directory of a bundle inside the output directory. -/
def openPlace (o : OutputDirectory) (root : Place) (relative : Location) :
    Change EmitError Place :=
  match packageDirectory? relative with
  | some directory => explain (.io (o.location.join directory)) (openPackage root directory)
  | none => pure root

/-- The steps of storing a text: opening two directories, and replacing the file. -/
theorem store_eq (o : OutputDirectory) (trouble : Trouble) (b : Bundle) (text : String) :
    o.store trouble b text = (do
      let root ← explain (.io o.location) o.ready
      let place ← o.openPlace root b.relativePath
      replaceFile trouble place b.fileName (o.location.join b.relativePath) text
      pure ⟨o.location.join b.relativePath, b.functions.length⟩) := by
  unfold store openPlace
  dsimp only
  cases packageDirectory? b.relativePath with
  | none => rfl
  | some directory => rfl

/-- The file system is the only reason why a text is not stored. -/
theorem store_failsByFiles (o : OutputDirectory) (trouble : Trouble) (b : Bundle)
    (text : String) : FailsByFiles (o.store trouble b text) := by
  rw [store_eq]
  apply FailsByFiles.bind (FailsByFiles.explain _ _)
  intro root
  apply FailsByFiles.bind
  · unfold openPlace
    cases packageDirectory? b.relativePath with
    | none => exact FailsByFiles.pure root
    | some directory => exact FailsByFiles.explain _ _
  · intro place
    apply FailsByFiles.bind (replaceFile_failsByFiles _ _ _ _ _)
    intro _
    exact FailsByFiles.pure _

/-- A stored bundle is inside the output directory. -/
theorem eq_of_store {text : String} {emitted : Emitted}
    (h : o.store trouble b text t = .ok emitted after) :
    emitted = ⟨o.location.join b.relativePath, b.functions.length⟩ := by
  rw [store_eq] at h
  obtain ⟨root, t₁, -, h⟩ := bind_eq_ok h
  obtain ⟨place, t₂, -, h⟩ := bind_eq_ok h
  obtain ⟨_, t₃, -, h⟩ := bind_eq_ok h
  cases h
  rfl

end Storing

/-- **All that storing a bundle in files can come to.** -/
theorem emitter_cases {emission : Emission FileTree}
    (h : o.emitterOn trouble b t = .ok emission) :
    (∃ reason, b.render = .ok (.error reason) ∧ emission = ⟨.error (.render reason), [], t⟩)
      ∨ (∃ text emitted after, b.render = .ok (.ok text)
        ∧ o.store trouble b text t = .ok emitted after
        ∧ emitted = ⟨o.location.join b.relativePath, b.functions.length⟩
        ∧ emission = ⟨.ok emitted, [.bundleWritten emitted.location.text emitted.functions],
          after⟩)
      ∨ ∃ text location cause after, b.render = .ok (.ok text)
        ∧ o.store trouble b text t = .error (.io location cause) after
        ∧ emission = ⟨.error (.io location cause), [], after⟩ := by
  unfold emitterOn at h
  split at h
  · cases h
  · rename_i reason hrender
    cases h
    exact .inl ⟨reason, hrender, rfl⟩
  · rename_i text hrender
    split at h
    · rename_i emitted after hstore
      cases h
      exact .inr (.inl ⟨text, emitted, after, hrender, hstore, eq_of_store hstore, rfl⟩)
    · rename_i reason after hstore
      cases h
      obtain ⟨location, cause, rfl⟩ := o.store_failsByFiles trouble b text t reason after hstore
      exact .inr (.inr ⟨text, location, cause, after, hrender, hstore, rfl⟩)

theorem emitter_of_refused {reason : RenderError} (h : b.render = .ok (.error reason)) :
    o.emitterOn trouble b t = .ok ⟨.error (.render reason), [], t⟩ := by
  unfold emitterOn
  rw [h]

theorem emitter_of_stored {text : String} {emitted : Emitted} (h : b.render = .ok (.ok text))
    (hstore : o.store trouble b text t = .ok emitted after) :
    o.emitterOn trouble b t
      = .ok ⟨.ok emitted, [.bundleWritten emitted.location.text emitted.functions], after⟩ := by
  unfold emitterOn
  rw [h]
  dsimp only
  rw [hstore]

theorem emitter_eq_error_iff {halt : Halt} :
    o.emitterOn trouble b t = .error halt ↔ b.render = .error halt := by
  unfold emitterOn
  split
  · rename_i found hrender
    simp [hrender]
  · rename_i reason hrender
    simp [hrender]
  · rename_i text hrender
    split <;> simp [hrender]

end OutputDirectory

theorem Shelf.emitter_of_refused {b : Bundle} {s : Shelf} {reason : RenderError}
    (h : b.render = .ok (.error reason)) :
    Shelf.emitter b s = .ok ⟨.error (.render reason), [], s⟩ := by
  unfold Shelf.emitter
  rw [h]

theorem Shelf.emitter_of_text {b : Bundle} {s : Shelf} {text : String}
    (h : b.render = .ok (.ok text)) :
    Shelf.emitter b s = .ok ⟨.ok ⟨b.relativePath, b.functions.length⟩, [],
      s.insert b.relativePath text⟩ := by
  unfold Shelf.emitter
  rw [h]

theorem Shelf.emitter_eq_error_iff {b : Bundle} {s : Shelf} {halt : Halt} :
    Shelf.emitter b s = .error halt ↔ b.render = .error halt := by
  unfold Shelf.emitter
  split <;> simp [*]

end Fieldwise
