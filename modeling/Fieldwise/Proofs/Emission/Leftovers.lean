import Fieldwise.Proofs.Emission.Atomicity
import Fieldwise.Proofs.FileTree.Reasons

set_option autoImplicit false

/-! # What is left under the temporary name

The text of a bundle is first written under a temporary name. If writing breaks off, what was
written is removed; it stays only if that is refused as well. If the text is written but cannot be
given the name of the file, nothing is removed, and it stays where it is: so where a directory has
that name (`blockedTree_leftover`). These are the only ways in which a file is left there, and what
is told says which of them it is (`OutputDirectory.emitter_leftover`).
-/

namespace Fieldwise.OutputDirectory

open FileTree

variable {o : OutputDirectory} {trouble : Trouble} {b : Bundle} {t mid after : FileTree}
  {root place q : Place} {relative : Location} {settings : Settings} {text : String}
  {reason : FileError} {failure : EmitError} {way : Place → Prop}

/-- The location that is told where a bundle cannot be written under the temporary name. -/
def temporaryLocation (o : OutputDirectory) (b : Bundle) : Location :=
  (o.fileLocation b).withFileName (temporaryName b.fileName)

/-! ## Opening directories -/

theorem ordinary_of_ready (h : o.ready t = .error reason after) : reason.Ordinary := by
  unfold ready at h
  split at h
  · cases h
  · split at h
    · exact openDirectory_ordinary _ _ _ _ (ask_eq_error h).1
    · rename_i found mid hmake
      cases h
      exact ordinary_of_makeChain hmake
  · rename_i found _ hopen
    cases h
    exact openDirectory_ordinary t t.ambient o.location _ hopen

theorem ordinary_of_openPackage {directory : Location}
    (h : openPackage root directory t = .error reason after) : reason.Ordinary := by
  rcases Change.bind_eq_error h with hmake | ⟨_, mid, -, hask⟩
  · exact ordinary_of_makeChain hmake
  · exact openDirectory_ordinary _ _ _ _ (ask_eq_error hask).1

theorem ordinary_of_openPlace (h : o.openPlace root relative t = .error failure after) :
    ∃ location reason, failure = .io location reason ∧ reason.Ordinary := by
  unfold openPlace at h
  cases hpackage : packageDirectory? relative with
  | some directory =>
      rw [hpackage] at h
      obtain ⟨reason, hopen, rfl⟩ := explain_eq_error h
      exact ⟨_, reason, rfl, ordinary_of_openPackage hopen⟩
  | none =>
      rw [hpackage] at h
      cases h

/-! ## The place under the temporary name -/

/-- No file is at a place where directories alone were made. -/
theorem not_file_of_made (h : SameOrMade t after way q) (hfree : t.get? q = none)
    (content : ByteArray) : after.get? q ≠ some (.file content) := by
  rcases h with hsame | ⟨-, hmade, -⟩
  · simp [hsame, hfree]
  · simp [hmade]

/-- The file is told apart from what is first written by the last step of its location. -/
theorem temporaryLocation_ne (hname : b.fileName = settings.fileName) :
    o.temporaryLocation b ≠ o.fileLocation b := by
  intro heq
  obtain ⟨init, helements⟩ := elements_fileLocation (o := o) hname
  obtain ⟨outer, hother⟩ :=
    Location.elements_withFileName (o.fileLocation b) settings.isName_temporaryName
  rw [temporaryLocation, hname] at heq
  rw [heq, helements, hname] at hother
  have hlast := congrArg List.getLast? hother
  rw [List.getLast?_concat, List.getLast?_concat] at hlast
  exact temporaryName_ne settings.fileName (Option.some.inj hlast).symm

/-- It is told that the text of a bundle was written, but not under the name of its file. -/
def Unmoved (o : OutputDirectory) (b : Bundle) (result : Except EmitError Emitted) : Prop :=
  ∃ reason : FileError, ¬ reason.Ordinary ∧ result = .error (.io (o.fileLocation b) reason)

/-- It is told that writing broke off. -/
def BrokenOff (o : OutputDirectory) (trouble : Trouble) (b : Bundle)
    (result : Except EmitError Emitted) : Prop :=
  trouble.opening = none
    ∧ ∃ words, result = .error (.io (o.temporaryLocation b) (.other words))

/-- What an emission leaves under the temporary name, read off what it tells. -/
structure Leftover (o : OutputDirectory) (trouble : Trouble) (b : Bundle) (place : Place)
    (emission : Emission FileTree) : Prop where
  /-- The text that was not moved stays. -/
  unmoved : o.Unmoved b emission.result → ∃ text, b.render = .ok (.ok text)
    ∧ emission.store.get? (place ++ [temporaryName b.fileName]) = some (.file text.toUTF8)
  /-- That is so because a directory has the name of the file. -/
  blocked : emission.result = .error (.io (o.fileLocation b) .isDirectory) →
    emission.store.get? (place ++ [b.fileName]) = some .directory
  /-- Or because the device refuses to move it. -/
  refused : ∀ words, emission.result = .error (.io (o.fileLocation b) (.other words)) →
    trouble.moving = some words
  /-- What was written until writing broke off is removed, unless the device refuses that. -/
  brokenOff : o.BrokenOff trouble b emission.result → ∃ text count words,
    b.render = .ok (.ok text) ∧ trouble.writing = some (count, words)
    ∧ emission.store.get? (place ++ [temporaryName b.fileName])
      = if trouble.removing = none then none else some (.file (text.toUTF8.extract 0 count))
  /-- Otherwise no file is left. -/
  otherwise : ¬ o.Unmoved b emission.result → ¬ o.BrokenOff trouble b emission.result →
    ∀ content, emission.store.get? (place ++ [temporaryName b.fileName]) ≠ some (.file content)

theorem leftover_of_other {result : Except EmitError Emitted} {events : List Event}
    (hmoved : ¬ o.Unmoved b result) (hwhole : ¬ o.BrokenOff trouble b result)
    (hfree : ∀ content, after.get? (place ++ [temporaryName b.fileName]) ≠ some (.file content)) :
    o.Leftover trouble b place ⟨result, events, after⟩ where
  unmoved h := absurd h hmoved
  blocked h := absurd ⟨.isDirectory, id, h⟩ hmoved
  refused words h := absurd ⟨.other words, id, h⟩ hmoved
  brokenOff h := absurd h hwhole
  otherwise _ _ := hfree

/-- So it is where the reason is an ordinary one. -/
theorem leftover_of_ordinary {location : Location} {events : List Event} (h : reason.Ordinary)
    (hfree : ∀ content, after.get? (place ++ [temporaryName b.fileName]) ≠ some (.file content)) :
    o.Leftover trouble b place ⟨.error (.io location reason), events, after⟩ := by
  refine leftover_of_other ?_ ?_ hfree
  · rintro ⟨found, hfound, heq⟩
    exact hfound ((EmitError.io.inj (Except.error.inj heq)).2 ▸ h)
  · rintro ⟨-, words, heq⟩
    rw [(EmitError.io.inj (Except.error.inj heq)).2] at h
    exact h

/-- What is told about the place under the temporary name is not that the text was not moved. -/
theorem not_unmoved (hname : b.fileName = settings.fileName) (reason : FileError) :
    ¬ o.Unmoved b (.error (.io (o.temporaryLocation b) reason)) := by
  rintro ⟨found, -, heq⟩
  exact temporaryLocation_ne hname (EmitError.io.inj (Except.error.inj heq)).1

theorem not_brokenOff (hname : b.fileName = settings.fileName) (reason : FileError) :
    ¬ o.BrokenOff trouble b (.error (.io (o.fileLocation b) reason)) := by
  rintro ⟨-, words, heq⟩
  exact temporaryLocation_ne hname (EmitError.io.inj (Except.error.inj heq)).1.symm

/-- Nor that writing broke off, where it did not begin. -/
theorem not_brokenOff_of_notOpened
    (h : NotOpened trouble place (temporaryName settings.fileName) t reason) :
    ¬ o.BrokenOff trouble b (.error (.io (o.temporaryLocation b) reason)) := by
  rintro ⟨hopening, words, heq⟩
  have hreason : reason = .other words := (EmitError.io.inj (Except.error.inj heq)).2
  rcases h with ⟨refusal, hrefused, -⟩ | ⟨-, hplace⟩
  · rw [hopening] at hrefused
    cases hrefused
  · rcases writablePlace_reasons _ _ _ _ hplace with hdirectory | hordinary
    · rw [hreason] at hdirectory
      cases hdirectory
    · rw [hreason] at hordinary
      exact hordinary

/-- What is left when the text was written and not moved. -/
theorem leftover_of_unmoved {events : List Event} (hname : b.fileName = settings.fileName)
    (hrender : b.render = .ok (.ok text)) (hreason : ¬ reason.Ordinary)
    (hwritten : Written place settings.fileName text.toUTF8 mid after)
    (hblocked : reason = .isDirectory → after.get? (place ++ [b.fileName]) = some .directory)
    (hrefused : ∀ words, reason = .other words → trouble.moving = some words) :
    o.Leftover trouble b place ⟨.error (.io (o.fileLocation b) reason), events, after⟩ where
  unmoved _ := by
    refine ⟨text, hrender, ?_⟩
    rw [hname]
    exact hwritten.get?_temporary
  blocked h := hblocked (EmitError.io.inj (Except.error.inj h)).2
  refused words h := hrefused words (EmitError.io.inj (Except.error.inj h)).2
  brokenOff h := absurd h (not_brokenOff hname reason)
  otherwise h := absurd ⟨reason, hreason, rfl⟩ h

/-- What is left when writing broke off. -/
theorem leftover_of_brokenOff {events : List Event} {count : Nat} {words : String}
    (hname : b.fileName = settings.fileName) (hrender : b.render = .ok (.ok text))
    (hopening : trouble.opening = none) (hwriting : trouble.writing = some (count, words))
    (hleft : after.get? (place ++ [temporaryName b.fileName])
      = if trouble.removing = none then none else some (.file (text.toUTF8.extract 0 count))) :
    o.Leftover trouble b place
      ⟨.error (.io (o.temporaryLocation b) (.other words)), events, after⟩ where
  unmoved h := absurd h (not_unmoved hname _)
  blocked h := absurd ⟨.isDirectory, id, h⟩ (not_unmoved hname _)
  refused found h := absurd ⟨.other found, id, h⟩ (not_unmoved hname _)
  brokenOff _ := ⟨text, count, words, hrender, hwriting, hleft⟩
  otherwise _ h := absurd ⟨hopening, words, rfl⟩ h

/-- What is left when the file could not be replaced. -/
theorem leftover_of_failed_replaceFile {events : List Event}
    (hname : b.fileName = settings.fileName) (hrender : b.render = .ok (.ok text))
    (hfree : ∀ content, mid.get? (place ++ [temporaryName b.fileName]) ≠ some (.file content))
    (h : replaceFile trouble place b.fileName (o.fileLocation b) text mid
      = .error failure after) :
    o.Leftover trouble b place ⟨.error failure, events, after⟩ := by
  have hshown : (o.fileLocation b).withFileName (temporaryName settings.fileName)
      = o.temporaryLocation b := by rw [temporaryLocation, hname]
  rw [hname] at h
  cases steps_of_failed_replaceFile h with
  | unopened hreason hafter =>
      rw [hshown]
      refine leftover_of_other (not_unmoved hname _) (not_brokenOff_of_notOpened hreason) ?_
      rcases hafter with rfl | hremove
      · exact hfree
      · -- there was no file to remove
        obtain ⟨outer, name, content, hparent, hfile, -⟩ := removeFile_eq_ok hremove
        obtain ⟨rfl, rfl, -, -⟩ := parentAndName_of_slashless
          (settings.not_mem_temporaryName (by decide) (by decide)) hparent
        exact absurd hfile (hname ▸ hfree content)
  | removed hopening hwriting hremoval hwritten =>
      rw [hshown]
      refine leftover_of_brokenOff hname hrender hopening hwriting ?_
      rw [if_pos hremoval, hname, get?_erase _ (by simp), if_pos rfl]
  | unremoved hopening hwriting hremoval hwritten =>
      rw [hshown]
      refine leftover_of_brokenOff hname hrender hopening hwriting ?_
      rw [if_neg (by simp [hremoval]), hname, hwritten.get?_temporary]
  | blocked hwritten hdirectory =>
      refine leftover_of_unmoved hname hrender id hwritten (fun _ => ?_) (by simp)
      rw [hname]
      exact hwritten.get?_file.trans hdirectory
  | unmoved hmoving hwritten =>
      exact leftover_of_unmoved hname hrender id hwritten (by simp) (by simp [hmoving])

/-- What is left when storing fails at any of its steps. -/
theorem leftover_of_failed_store {events : List Event} (hname : b.fileName = settings.fileName)
    (hrender : b.render = .ok (.ok text))
    (hspells : after.Spells (o.fileLocation b) place b.fileName)
    (hfree : t.get? (place ++ [temporaryName b.fileName]) = none)
    (h : o.store trouble b text t = .error failure after) :
    o.Leftover trouble b place ⟨.error failure, events, after⟩ := by
  rcases steps_of_failed_store h with ⟨reason, hready, rfl⟩ | ⟨root, made, hready, hlater⟩
  · have hprepared : o.Prepared b t after := prepared_of_outer (ready_eq_error hready)
    exact leftover_of_ordinary (ordinary_of_ready hready)
      (not_file_of_made (hprepared.inside _) hfree)
  · rcases hlater with hopen | ⟨found, mid, hopen, hreplace⟩
    · have hprepared : o.Prepared b t after := prepared_of_failed_open hready hopen
      obtain ⟨location, reason, rfl, hreason⟩ := ordinary_of_openPlace hopen
      exact leftover_of_ordinary hreason (not_file_of_made (hprepared.inside _) hfree)
    · obtain ⟨hprepared, -, hfound⟩ := prepared_of_open hname hready hopen
      have hkeeps : KeepsDirectories mid after := by
        rw [hname] at hreplace
        exact (replaceFile_eq_error hreplace).keeps
      obtain rfl : found = place := (hfound.keeps hkeeps).unique hspells
      exact leftover_of_failed_replaceFile hname hrender
        (not_file_of_made (hprepared.inside _) hfree) hreplace

/-- **What is left under the temporary name can be read off what is told.** Whatever the files are,
as long as nothing has that name, and whatever stops an emission. If it is told that the text could
not be moved to its place, then the text is left beside it: a directory is there, or the device
refused. If it is told that writing broke off, then what was written is removed, unless the device
refuses that too. If the emission succeeds, or fails in any other way, no file is left. -/
theorem emitter_leftover {emission : Emission FileTree} (hname : b.fileName = settings.fileName)
    (hfree : t.get? (place ++ [temporaryName b.fileName]) = none)
    (h : o.emitterOn trouble b t = .ok emission)
    (hspells : emission.store.Spells (o.fileLocation b) place b.fileName) :
    o.Leftover trouble b place emission := by
  rcases emitter_cases h with ⟨reason, -, rfl⟩ | ⟨text, emitted, after, hrender, hstore, -, rfl⟩
    | ⟨text, location, cause, after, hrender, hstore, rfl⟩
  · exact leftover_of_other (by simp [Unmoved]) (by simp [BrokenOff]) (by simp [hfree])
  · have hatomic : o.AllOrNothing b t ⟨.ok emitted, [], after⟩ :=
      allOrNothing_of_store hname hrender hstore
    obtain ⟨-, found, -, hlocation, hfound, -, hnone, -⟩ := hatomic.stored emitted rfl
    rw [hlocation] at hfound
    -- the place beside the file that was stored is the one in question
    obtain rfl : found = place := hfound.unique hspells
    exact leftover_of_other (by simp [Unmoved]) (by simp [BrokenOff]) (by simp [hnone])
  · exact leftover_of_failed_store hname hrender hspells hfree hstore

/-! ## Two emissions that fail -/

/-- A tree in which a directory has the name of the file of a bundle. -/
def blockedTree : FileTree where
  entries := [(["out"], .directory), (["out", "model"], .directory),
    (["out", "model", "string_util.rs"], .directory)]

/-- **The text is left behind** beside the directory, under a name that nothing had before. -/
theorem blockedTree_leftover :
    (singleBundle [.plain "model"] ["name"]).fileName = Settings.fileName {}
      ∧ blockedTree.get? ["out", "model", ".string_util.rs.tmp"] = none
      ∧ ∃ (emission : Emission FileTree) (text : String),
        outDirectory.emitter (singleBundle [.plain "model"] ["name"]) blockedTree = .ok emission
        ∧ emission.result = .error (.io ⟨"out/model/string_util.rs"⟩ .isDirectory)
        ∧ emission.store.get? ["out", "model", ".string_util.rs.tmp"]
          = some (.file text.toUTF8) := by
  have hname : (singleBundle [.plain "model"] ["name"]).fileName = Settings.fileName {} := by
    decide +kernel
  obtain ⟨text, hrender⟩ := Bundle.render_of_isSome
    (show (singleBundle [.plain "model"] ["name"]).text?.isSome = true by decide +kernel)
  obtain ⟨after, hstore, hleft⟩ : ∃ after,
      outDirectory.store {} (singleBundle [.plain "model"] ["name"]) text blockedTree
        = .error (.io ⟨"out/model/string_util.rs"⟩ .isDirectory) after
      ∧ after.get? ["out", "model", ".string_util.rs.tmp"] = some (.file text.toUTF8) :=
    ⟨_, rfl, rfl⟩
  exact ⟨hname, rfl, _, text, emitter_of_failed_store hrender hstore, rfl, hleft⟩

/-- On a device that is full the emission fails as well, and three bytes of the text that were
written are removed. -/
theorem fullDevice_leaves_no_file :
    (singleBundle [.plain "model"] ["name"]).fileName = Settings.fileName {}
      ∧ ∃ emission,
        outDirectory.emitterOn fullDevice (singleBundle [.plain "model"] ["name"]) {} = .ok emission
        ∧ outDirectory.BrokenOff fullDevice (singleBundle [.plain "model"] ["name"]) emission.result
        ∧ emission.store.Spells
          (outDirectory.fileLocation (singleBundle [.plain "model"] ["name"])) ["out", "model"]
          "string_util.rs"
        ∧ emission.store.get? ["out", "model", ".string_util.rs.tmp"] = none := by
  have hname : (singleBundle [.plain "model"] ["name"]).fileName = Settings.fileName {} := by
    decide +kernel
  obtain ⟨text, hrender⟩ := Bundle.render_of_isSome
    (show (singleBundle [.plain "model"] ["name"]).text?.isSome = true by decide +kernel)
  have hstore : outDirectory.store fullDevice (singleBundle [.plain "model"] ["name"]) text {}
      = .error (.io ⟨"out/model/.string_util.rs.tmp"⟩
          (.other "No space left on device (os error 28)"))
        ⟨[(["out", "model"], .directory), (["out"], .directory)], []⟩ := rfl
  have hspells : FileTree.Spells ⟨[(["out", "model"], .directory), (["out"], .directory)], []⟩
      (outDirectory.fileLocation (singleBundle [.plain "model"] ["name"])) ["out", "model"]
      "string_util.rs" :=
    ⟨[], ["out", "model"], rfl, rfl, rfl, rfl⟩
  have hemitter := emitter_of_failed_store hrender hstore
  have hbroken : outDirectory.BrokenOff fullDevice (singleBundle [.plain "model"] ["name"])
      (.error (.io ⟨"out/model/.string_util.rs.tmp"⟩
        (.other "No space left on device (os error 28)"))) :=
    ⟨rfl, _, rfl⟩
  have hleftover : outDirectory.Leftover fullDevice (singleBundle [.plain "model"] ["name"])
      ["out", "model"] _ := emitter_leftover hname rfl hemitter hspells
  obtain ⟨_, _, _, -, -, hnone⟩ := hleftover.brokenOff hbroken
  exact ⟨hname, _, hemitter, hbroken, hspells, hnone⟩

end Fieldwise.OutputDirectory
