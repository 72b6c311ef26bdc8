import Fieldwise.Proofs.Emission.Repetition

set_option autoImplicit false

/-! # What a failed emission leaves behind

Storing a bundle can fail while the output directory is opened, while the directory of its package
is opened, and while its file is replaced (`OutputDirectory.steps_of_failed_store`). The directories
that were made until then stay (`makeChain_eq_error`). Of files only the one under the temporary
name is touched (`OutputDirectory.replaceFile_eq_error`): it is left behind where renaming fails,
and where writing breaks off it is removed, unless that is refused as well
(`OutputDirectory.FailedReplacement`).
-/

namespace Fieldwise

namespace FileTree

variable {t after : FileTree} {start : Start} {l : Location} {reason : FileError}

theorem update_eq_error {f : FileTree → Except FileError FileTree}
    (h : Change.update f t = .error reason after) : after = t := by
  unfold Change.update at h
  split at h
  · cases h
  · cases h
    rfl

theorem unlessRefused_eq_error {α : Type} {refusal : Option String} {c : Change FileError α}
    (h : Change.unlessRefused refusal c t = .error reason after) :
    (∃ words, refusal = some words ∧ reason = .other words ∧ after = t)
      ∨ refusal = none ∧ c t = .error reason after := by
  cases refusal with
  | some words =>
      cases h
      exact .inl ⟨words, rfl, rfl, rfl⟩
  | none => exact .inr ⟨rfl, h⟩

/-- A file that cannot be opened is left alone. -/
theorem openFile_eq_error (h : Change.openFile start l t = .error reason after) :
    t.writablePlace start l = .error reason ∧ after = t := by
  rcases Change.bind_eq_error h with hask | ⟨place, mid, -, hset⟩
  · unfold Change.ask at hask
    split at hask
    · cases hask
    · rename_i found hfound
      cases hask
      exact ⟨hfound, rfl⟩
  · cases hset

/-- Writing that breaks off leaves what was written until then. -/
theorem writeAll_eq_error {breakOff : Option (Nat × String)} {place : Place}
    {content : ByteArray} (h : Change.writeAll breakOff place content t = .error reason after) :
    ∃ count words, breakOff = some (count, words) ∧ reason = .other words
      ∧ after = t.set place (.file (content.extract 0 count)) := by
  unfold Change.writeAll at h
  split at h
  · rename_i count words
    cases h
    exact ⟨count, words, rfl, rfl, rfl⟩
  · cases h

/-- A directory that cannot be made is not made. -/
theorem makeUnlessThere_eq_error (h : Change.makeUnlessThere start l t = .error reason after) :
    after = t := by
  unfold Change.makeUnlessThere at h
  split at h
  · cases h
  · split at h
    · cases h
    · cases h
      rfl

/-- **Directories that were made before one could not be made** stay, and nothing else is new. -/
theorem makeChain_eq_error {chain : List Location}
    (h : Change.makeChain start chain t = .error reason after) : Made start chain t after := by
  induction chain generalizing reason after with
  | nil => cases h
  | cons l outer ih =>
      by_cases hmissing : t.makeDirectory start l = .error .notFound
      · -- what is new are the outer directories, as many as could be made
        have hmade : Made start outer t after := by
          cases houter : Change.makeChain start outer t with
          | ok _ mid =>
              rw [makeChain_of_missing hmissing houter] at h
              rw [makeUnlessThere_eq_error h]
              exact (makeChain_made houter).1
          | error found mid =>
              simp only [Change.makeChain, hmissing, houter] at h
              cases h
              exact ih houter
        exact hmade.cons (.refl start [l] after)
      · rw [makeChain_of_found hmissing] at h
        rw [makeUnlessThere_eq_error h]
        exact .refl start (l :: outer) t

/-- All that removing a file can do, where it succeeds. -/
theorem removeFile_eq_ok (h : Change.removeFile start l t = .ok () after) :
    ∃ place name content, t.parentAndName start l = .ok (place, some name)
      ∧ t.get? (place ++ [name]) = some (.file content) ∧ after = t.erase (place ++ [name]) := by
  have hremove := update_eq_ok h
  obtain ⟨⟨place, name?⟩, hparent, hremove⟩ := bind_eq_ok_iff.mp hremove
  cases name? with
  | none => cases hremove
  | some name =>
      dsimp only at hremove
      split at hremove
      · cases hremove
      · cases hremove
      · rename_i content hfile
        cases hremove
        exact ⟨place, name, content, hparent, hfile, rfl⟩

end FileTree

namespace OutputDirectory

open FileTree

variable {o : OutputDirectory} {trouble : Trouble} {b : Bundle} {t made mid after : FileTree}
  {root place : Place} {relative shown : Location} {text : String} {content : ByteArray}
  {settings : Settings} {reason : FileError} {failure : EmitError}

/-! ## The directories -/

theorem explain_eq_error {α : Type} {c : Change FileError α} {words : FileError → EmitError}
    (h : Change.explain words c t = .error failure after) :
    ∃ reason, c t = .error reason after ∧ failure = words reason := by
  unfold Change.explain at h
  split at h
  · cases h
  · rename_i reason later hreason
    cases h
    exact ⟨reason, hreason, rfl⟩

theorem ask_eq_error {α : Type} {f : FileTree → Except FileError α}
    (h : Change.ask f t = .error reason after) : f t = .error reason ∧ after = t := by
  unfold Change.ask at h
  split at h
  · cases h
  · rename_i found hfound
    cases h
    exact ⟨hfound, rfl⟩

/-- An output directory that cannot be opened may leave directories that its location leads
through. -/
theorem ready_eq_error (h : o.ready t = .error reason after) :
    Made t.ambient o.location.ancestors t after := by
  unfold ready at h
  split at h
  · cases h
  · split at h
    · rename_i _ mid hmake
      rw [(ask_eq_error h).2]
      exact (makeChain_made hmake).1
    · rename_i found mid hmake
      cases h
      exact makeChain_eq_error hmake
  · cases h
    exact .refl _ _ t

theorem openPackage_eq_error {directory : Location}
    (h : openPackage root directory t = .error reason after) :
    Made ⟨root, true⟩ directory.ancestors t after := by
  rcases Change.bind_eq_error h with hmake | ⟨_, mid, hmake, hask⟩
  · exact makeChain_eq_error hmake
  · rw [(ask_eq_error hask).2]
    exact (makeChain_made hmake).1

/-- So may the directory of a package. -/
theorem openPlace_eq_error (h : o.openPlace root relative t = .error failure after) :
    ∃ directory, packageDirectory? relative = some directory
      ∧ Made ⟨root, true⟩ directory.ancestors t after := by
  unfold openPlace at h
  cases hpackage : packageDirectory? relative with
  | some directory =>
      rw [hpackage] at h
      obtain ⟨reason, hopen, -⟩ := explain_eq_error h
      exact ⟨directory, rfl, openPackage_eq_error hopen⟩
  | none =>
      rw [hpackage] at h
      cases h

/-! ## The file -/

/-- Nothing is changed but a file under one name. -/
structure TouchesFile (place : Place) (name : String) (t after : FileTree) : Prop where
  keeps : KeepsDirectories t after
  same : ∀ q, q ≠ place ++ [name] → after.get? q = t.get? q

theorem TouchesFile.refl (place : Place) (name : String) (t : FileTree) :
    TouchesFile place name t t :=
  ⟨⟨rfl, fun _ h => h⟩, fun _ _ => rfl⟩

/-- No directory is gone where none had that name. -/
theorem touchesFile_of_same {name : String}
    (hplain : t.get? (place ++ [name]) ≠ some .directory) (hcurrent : after.current = t.current)
    (hsame : ∀ q, q ≠ place ++ [name] → after.get? q = t.get? q) :
    TouchesFile place name t after := by
  refine ⟨⟨hcurrent, fun q hq => ?_⟩, hsame⟩
  have hne : q ≠ place ++ [name] := by
    rintro rfl
    exact hplain hq
  rw [hsame q hne, hq]

/-- Writing under the temporary name touches no other file. -/
theorem touchesFile_write (h : Written place settings.fileName content t after) :
    TouchesFile place (temporaryName settings.fileName) t after :=
  touchesFile_of_same h.plain h.current fun q hq => by rw [h.nodes, if_neg hq]

/-- Nor does removing what is under that name. -/
theorem touchesFile_remove
    (h : Change.removeFile ⟨place, true⟩ ⟨temporaryName settings.fileName⟩ t = .ok () after) :
    TouchesFile place (temporaryName settings.fileName) t after := by
  obtain ⟨outer, name, found, hparent, hfile, rfl⟩ := removeFile_eq_ok h
  obtain ⟨rfl, rfl, -, -⟩ := parentAndName_of_slashless
    (settings.not_mem_temporaryName (by decide) (by decide)) hparent
  have hplain : t.get? (outer ++ [temporaryName settings.fileName]) ≠ some .directory := by
    simp [hfile]
  exact touchesFile_of_same hplain rfl fun q hq => by rw [get?_erase t (by simp), if_neg hq]

/-- Nor do both, one after the other. -/
theorem touchesFile_erase (h : Written place settings.fileName content t mid) :
    TouchesFile place (temporaryName settings.fileName) t
      (mid.erase (place ++ [temporaryName settings.fileName])) :=
  touchesFile_of_same h.plain h.current fun q hq => by
    rw [get?_erase mid (by simp), if_neg hq, h.nodes, if_neg hq]

/-- Why the file under the temporary name is not opened. -/
def NotOpened (trouble : Trouble) (place : Place) (name : String) (t : FileTree)
    (reason : FileError) : Prop :=
  (∃ words, trouble.opening = some words ∧ reason = .other words)
    ∨ trouble.opening = none ∧ t.writablePlace ⟨place, true⟩ ⟨name⟩ = .error reason

/-- **The ways in which replacing a file fails**, with what is told and what the tree is then. -/
inductive FailedReplacement (trouble : Trouble) (settings : Settings) (place : Place)
    (shown : Location) (text : String) (t : FileTree) : EmitError → FileTree → Prop
  /-- The file under the temporary name is not opened. One that was there before is removed, if that
  is possible. -/
  | unopened {reason : FileError} {after : FileTree}
      (hreason : NotOpened trouble place (temporaryName settings.fileName) t reason)
      (hafter : after = t ∨ Change.removeFile ⟨place, true⟩ ⟨temporaryName settings.fileName⟩ t
        = .ok () after) :
      FailedReplacement trouble settings place shown text t
        (.io (shown.withFileName (temporaryName settings.fileName)) reason) after
  /-- Writing breaks off, and what was written is removed. -/
  | removed {count : Nat} {words : String} {mid : FileTree} (hopening : trouble.opening = none)
      (hwriting : trouble.writing = some (count, words)) (hremoval : trouble.removing = none)
      (hwritten : Written place settings.fileName (text.toUTF8.extract 0 count) t mid) :
      FailedReplacement trouble settings place shown text t
        (.io (shown.withFileName (temporaryName settings.fileName)) (.other words))
        (mid.erase (place ++ [temporaryName settings.fileName]))
  /-- Writing breaks off, and what was written is not removed. -/
  | unremoved {count : Nat} {words refusal : String} {after : FileTree}
      (hopening : trouble.opening = none) (hwriting : trouble.writing = some (count, words))
      (hremoval : trouble.removing = some refusal)
      (hwritten : Written place settings.fileName (text.toUTF8.extract 0 count) t after) :
      FailedReplacement trouble settings place shown text t
        (.io (shown.withFileName (temporaryName settings.fileName)) (.other words)) after
  /-- The text is written, and a directory has the name of the file. -/
  | blocked {after : FileTree} (hwritten : Written place settings.fileName text.toUTF8 t after)
      (hdirectory : t.get? (place ++ [settings.fileName]) = some .directory) :
      FailedReplacement trouble settings place shown text t (.io shown .isDirectory) after
  /-- The text is written, and renaming is refused. -/
  | unmoved {words : String} {after : FileTree} (hmoving : trouble.moving = some words)
      (hwritten : Written place settings.fileName text.toUTF8 t after) :
      FailedReplacement trouble settings place shown text t (.io shown (.other words)) after

/-- Writing under the temporary name fails before anything is done, or breaks off. -/
theorem steps_of_failed_write
    (h : Change.writeFile trouble ⟨place, true⟩ ⟨temporaryName settings.fileName⟩ content t
      = .error reason after) :
    NotOpened trouble place (temporaryName settings.fileName) t reason ∧ after = t
      ∨ ∃ count words, trouble.opening = none ∧ trouble.writing = some (count, words)
        ∧ reason = .other words
        ∧ Written place settings.fileName (content.extract 0 count) t after := by
  rcases Change.bind_eq_error h with hopen | ⟨q, opened, hopen, hwrite⟩
  · rcases unlessRefused_eq_error hopen with ⟨words, hopening, hreason, rfl⟩ | ⟨hopening, hopen⟩
    · exact .inl ⟨.inl ⟨words, hopening, hreason⟩, rfl⟩
    · obtain ⟨hplace, rfl⟩ := openFile_eq_error hopen
      exact .inl ⟨.inr ⟨hopening, hplace⟩, rfl⟩
  · obtain ⟨hopening, hopen⟩ := unlessRefused_eq_ok hopen
    obtain ⟨hplace, rfl⟩ := openFile_eq_ok hopen
    obtain ⟨count, words, hwriting, rfl, rfl⟩ := writeAll_eq_error hwrite
    exact .inr ⟨count, words, hopening, hwriting, rfl, (of_writableTemporary hplace).2 _⟩

/-- What is left of the file under the temporary name is removed, if that is possible. -/
theorem removal_cases (trouble : Trouble) (place : Place) (name : String) (mid : FileTree) :
    ∃ after, (Change.regardless (Change.unlessRefused trouble.removing
        (Change.removeFile ⟨place, true⟩ ⟨name⟩)) : Change EmitError Unit) mid = .ok () after
      ∧ ((trouble.removing = none ∧ Change.removeFile ⟨place, true⟩ ⟨name⟩ mid = .ok () after)
        ∨ after = mid ∧ ∀ found, Change.removeFile ⟨place, true⟩ ⟨name⟩ mid = .ok () found →
          ∃ words, trouble.removing = some words) := by
  cases hremove : Change.unlessRefused trouble.removing
      (Change.removeFile ⟨place, true⟩ ⟨name⟩) mid with
  | ok _ after =>
      refine ⟨after, by simp only [Change.regardless, hremove], .inl ?_⟩
      exact unlessRefused_eq_ok hremove
  | error reason after =>
      refine ⟨after, by simp only [Change.regardless, hremove], .inr ?_⟩
      rcases unlessRefused_eq_error hremove with ⟨words, hremoving, -, rfl⟩ | ⟨-, hfailed⟩
      · exact ⟨rfl, fun _ _ => ⟨words, hremoving⟩⟩
      · refine ⟨update_eq_error hfailed, fun found hfound => ?_⟩
        rw [hfailed] at hfound
        cases hfound

/-- Replacing a file fails in one of these ways. -/
theorem steps_of_failed_replaceFile
    (h : replaceFile trouble place settings.fileName shown text t = .error failure after) :
    FailedReplacement trouble settings place shown text t failure after := by
  cases hwrite : Change.writeFile trouble ⟨place, true⟩ ⟨temporaryName settings.fileName⟩
      text.toUTF8 t with
  | ok _ mid =>
      simp only [replaceFile, bind, EStateM.bind, hwrite] at h
      obtain ⟨-, -, hwritten⟩ := written_of_writeFile hwrite
      obtain ⟨reason, hrename, rfl⟩ := explain_eq_error h
      rcases unlessRefused_eq_error hrename with ⟨words, hmoving, rfl, rfl⟩ | ⟨-, hrename⟩
      · exact .unmoved hmoving hwritten
      · have hblocked : t.get? (place ++ [settings.fileName]) = some .directory := by
          by_contra hfree
          rw [hwritten.rename hfree] at hrename
          cases hrename
        rw [hwritten.rename_blocked hblocked] at hrename
        cases hrename
        exact .blocked hwritten hblocked
  | error reason mid =>
      obtain ⟨last, hremoval, hlast⟩ :=
        removal_cases trouble place (temporaryName settings.fileName) mid
      simp only [replaceFile, bind, EStateM.bind, hwrite, hremoval, Change.fail] at h
      cases h
      rcases steps_of_failed_write hwrite with ⟨hreason, rfl⟩
        | ⟨count, words, hopening, hwriting, rfl, hwritten⟩
      · exact .unopened hreason (hlast.symm.imp And.left And.right)
      · rcases hlast with ⟨hremoving, hremove⟩ | ⟨rfl, hrefused⟩
        · rw [hwritten.remove] at hremove
          cases hremove
          exact .removed hopening hwriting hremoving hwritten
        · obtain ⟨refusal, hremoving⟩ := hrefused _ hwritten.remove
          exact .unremoved hopening hwriting hremoving hwritten

/-- **A file that could not be replaced** is as it was: no file is touched but the temporary one. -/
theorem replaceFile_eq_error
    (h : replaceFile trouble place settings.fileName shown text t = .error failure after) :
    TouchesFile place (temporaryName settings.fileName) t after := by
  cases steps_of_failed_replaceFile h with
  | unopened _ hafter =>
      rcases hafter with rfl | hremove
      · exact .refl _ _ _
      · exact touchesFile_remove hremove
  | removed _ _ _ hwritten => exact touchesFile_erase hwritten
  | unremoved _ _ _ hwritten => exact touchesFile_write hwritten
  | blocked hwritten _ => exact touchesFile_write hwritten
  | unmoved _ hwritten => exact touchesFile_write hwritten

/-! ## The bundle -/

/-- The three ways in which storing a bundle fails. -/
theorem steps_of_failed_store (h : o.store trouble b text t = .error failure after) :
    (∃ reason, o.ready t = .error reason after ∧ failure = .io o.location reason)
      ∨ ∃ root made, o.ready t = .ok root made
        ∧ (o.openPlace root b.relativePath made = .error failure after
          ∨ ∃ place mid, o.openPlace root b.relativePath made = .ok place mid
            ∧ replaceFile trouble place b.fileName (o.location.join b.relativePath) text mid
              = .error failure after) := by
  rw [store_eq] at h
  rcases Change.bind_eq_error h with hready | ⟨root, made, hready, h⟩
  · exact .inl (explain_eq_error hready)
  · refine .inr ⟨root, made, explain_eq_ok hready, ?_⟩
    rcases Change.bind_eq_error h with hopen | ⟨place, mid, hopen, h⟩
    · exact .inl hopen
    · rcases Change.bind_eq_error h with hreplace | ⟨_, last, -, hdone⟩
      · exact .inr ⟨place, mid, hopen, hreplace⟩
      · cases hdone

theorem emitter_of_failed_store (hrender : b.render = .ok (.ok text))
    (h : o.store trouble b text t = .error failure after) :
    o.emitterOn trouble b t = .ok ⟨.error failure, [], after⟩ := by
  unfold emitterOn
  rw [hrender]
  dsimp only
  rw [h]

end OutputDirectory

end Fieldwise
