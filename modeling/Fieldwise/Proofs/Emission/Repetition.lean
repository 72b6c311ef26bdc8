import Fieldwise.Proofs.Emission.Storing
import Fieldwise.Proofs.FileTree.Confinement

set_option autoImplicit false

/-! # Storing a bundle twice

Storing a bundle leaves all directories where they are and, once the output directory is open,
changes nothing outside of it (`OutputDirectory.store_frame`). A bundle that was stored can be
stored again: every directory is opened where it was opened or made before, and the file is
replaced by one with the same text (`OutputDirectory.store_again`).
-/

namespace Fieldwise

namespace FileTree

variable {t after : FileTree} {start : Start} {l : Location}

theorem update_eq_ok {f : FileTree → Except FileError FileTree}
    (h : Change.update f t = .ok () after) : f t = .ok after := by
  unfold Change.update at h
  split at h
  · rename_i found hfound
    cases h
    exact hfound
  · cases h

/-- A text without slashes is looked for where a confined location starts. -/
theorem parentAndName_of_slashless {root place : Place} {name found : String}
    (hslash : '/' ∉ name.toList)
    (h : t.parentAndName ⟨root, true⟩ ⟨name⟩ = .ok (place, some found)) :
    place = root ∧ found = name ∧ t.get? root = some .directory
      ∧ name.utf8ByteSize ≤ longestName := by
  obtain ⟨first, init, blanks, -, horigin, helements, -, hfollow, hplace, -, -, hshort⟩ :=
    parentAndName_eq_some h
  have hsingle : Location.elements ⟨name⟩ = [name] := by
    rw [← Location.ofNames_singleton]
    exact Location.elements_of_slashless (by simp) (by simpa using hslash)
  rw [hsingle] at helements
  -- the only element is the last, so nothing leads away from the start
  have hinit : init = [] := by
    have hlength := congrArg List.length helements
    simp only [List.length_append, List.length_cons, List.length_nil] at hlength
    exact List.eq_nil_of_length_eq_zero (by omega)
  subst hinit
  obtain ⟨rfl, -⟩ := List.cons.inj helements
  cases hfollow
  obtain ⟨-, rfl⟩ := of_confined_origin horigin
  exact ⟨rfl, rfl, hplace, hshort⟩

theorem unlessRefused_eq_ok {α : Type} {refusal : Option String} {c : Change FileError α} {a : α}
    (h : Change.unlessRefused refusal c t = .ok a after) : refusal = none ∧ c t = .ok a after := by
  cases refusal with
  | some words => cases h
  | none => exact ⟨rfl, h⟩

/-- The place of a file that may be written is where its location leads. -/
theorem writablePlace_eq_ok {q : Place} (h : t.writablePlace start l = .ok q) :
    ∃ place name, t.parentAndName start l = .ok (place, some name)
      ∧ t.get? (place ++ [name]) ≠ some .directory ∧ q = place ++ [name] := by
  obtain ⟨⟨place, name?⟩, hparent, hwritable⟩ := bind_eq_ok_iff.mp h
  cases name? with
  | none => cases hwritable
  | some name =>
      dsimp only at hwritable
      split at hwritable
      · cases hwritable
      · split at hwritable
        · cases hwritable
        · rename_i hplain
          cases hwritable
          exact ⟨place, name, hparent, hplain, rfl⟩

/-- All that opening a file can do, where it succeeds. -/
theorem openFile_eq_ok {q : Place} (h : Change.openFile start l t = .ok q after) :
    t.writablePlace start l = .ok q ∧ after = t.set q (.file .empty) := by
  obtain ⟨place, mid, hask, h⟩ := Change.bind_eq_ok h
  unfold Change.ask at hask
  split at hask
  · rename_i found hfound
    cases hask
    cases h
    exact ⟨hfound, rfl⟩
  · cases hask

theorem writeAll_eq_ok {breakOff : Option (Nat × String)} {q : Place} {content : ByteArray}
    (h : Change.writeAll breakOff q content t = .ok () after) :
    breakOff = none ∧ after = t.set q (.file content) := by
  unfold Change.writeAll at h
  split at h
  · cases h
  · cases h
    exact ⟨rfl, rfl⟩

end FileTree

namespace OutputDirectory

open FileTree

variable {o : OutputDirectory} {trouble : Trouble} {b : Bundle}
  {t made mid after later : FileTree} {root place : Place} {relative shown : Location}
  {text : String} {content : ByteArray} {settings : Settings}

/-! ## The file -/

theorem explain_eq_ok {α : Type} {c : Change FileError α} {words : FileError → EmitError} {a : α}
    (h : Change.explain words c t = .ok a after) : c t = .ok a after := by
  unfold Change.explain at h
  split at h
  · rename_i found later hfound
    cases h
    exact hfound
  · cases h

/-- A file that is replaced was written and renamed. -/
theorem steps_of_replaceFile {fileName : String}
    (h : replaceFile trouble place fileName shown text t = .ok () after) :
    ∃ mid, Change.writeFile trouble ⟨place, true⟩ ⟨temporaryName fileName⟩ text.toUTF8 t
        = .ok () mid
      ∧ trouble.moving = none
      ∧ Change.renameFile ⟨place, true⟩ ⟨temporaryName fileName⟩ ⟨fileName⟩ mid
        = .ok () after := by
  cases hwrite : Change.writeFile trouble ⟨place, true⟩ ⟨temporaryName fileName⟩ text.toUTF8 t with
  | ok _ mid =>
      simp only [replaceFile, bind, EStateM.bind, hwrite] at h
      obtain ⟨hmoving, hrename⟩ := unlessRefused_eq_ok (explain_eq_ok h)
      exact ⟨mid, rfl, hmoving, hrename⟩
  | error reason mid =>
      -- the failure is told after what is left of the file is removed
      simp only [replaceFile, bind, EStateM.bind, hwrite] at h
      split at h <;> cases h

/-- What the tree was like where a file could be replaced. -/
structure Replaceable (settings : Settings) (place : Place) (t : FileTree) : Prop where
  short : (temporaryName settings.fileName).utf8ByteSize ≤ longestName
  directory : t.get? place = some .directory
  temporary : t.get? (place ++ [temporaryName settings.fileName]) ≠ some .directory
  file : t.get? (place ++ [settings.fileName]) ≠ some .directory

/-- A file that is opened under the temporary name of another is in the directory of that one, and
no directory has its name. -/
theorem of_writableTemporary {q : Place}
    (h : t.writablePlace ⟨place, true⟩ ⟨temporaryName settings.fileName⟩ = .ok q) :
    q = place ++ [temporaryName settings.fileName]
      ∧ ∀ content, Written place settings.fileName content t
        ((t.set q (.file .empty)).set q (.file content)) := by
  obtain ⟨outer, name, hparent, hplain, rfl⟩ := writablePlace_eq_ok h
  obtain ⟨rfl, rfl, hplace, hshort⟩ := parentAndName_of_slashless
    (settings.not_mem_temporaryName (by decide) (by decide)) hparent
  exact ⟨rfl, .of_set (settings.fits_fileName hshort) (settings.fits_temporaryName hshort) hplace
    hplain⟩

/-- A file that was written under the temporary name of another. -/
theorem written_of_writeFile
    (h : Change.writeFile trouble ⟨place, true⟩ ⟨temporaryName settings.fileName⟩ content t
      = .ok () mid) :
    trouble.opening = none ∧ trouble.writing = none
      ∧ Written place settings.fileName content t mid := by
  obtain ⟨q, opened, hopen, hwrite⟩ := Change.bind_eq_ok h
  obtain ⟨hopening, hopen⟩ := unlessRefused_eq_ok hopen
  obtain ⟨hplace, rfl⟩ := openFile_eq_ok hopen
  obtain ⟨hwriting, rfl⟩ := writeAll_eq_ok hwrite
  exact ⟨hopening, hwriting, (of_writableTemporary hplace).2 content⟩

theorem replaceable_of_replaceFile
    (h : replaceFile trouble place settings.fileName shown text t = .ok () after) :
    trouble.Spares ∧ Replaceable settings place t := by
  obtain ⟨mid, hwrite, hmoving, hrename⟩ := steps_of_replaceFile h
  obtain ⟨hopening, hwriting, hwritten⟩ := written_of_writeFile hwrite
  refine ⟨⟨hopening, hwriting, hmoving⟩, hwritten.temporary.short, hwritten.directory,
    hwritten.plain, fun hfile => ?_⟩
  -- a directory with the name of the file would have been in the way
  rw [hwritten.rename_blocked hfile] at hrename
  cases hrename

/-- **All that replacing a file can do**, where it succeeds. -/
theorem replaceFile_eq_ok
    (h : replaceFile trouble place settings.fileName shown text t = .ok () after) :
    Replaceable settings place t ∧ after.current = t.current
      ∧ ∀ q, after.get? q = if q = place ++ [settings.fileName] then some (.file text.toUTF8)
        else if q = place ++ [temporaryName settings.fileName] then none else t.get? q := by
  obtain ⟨htrouble, hbefore⟩ := replaceable_of_replaceFile h
  obtain ⟨found, hreplace, hcurrent, hnodes⟩ := replaceFile_of_plain htrouble
    (settings.fits_fileName hbefore.short) (settings.fits_temporaryName hbefore.short)
    hbefore.directory hbefore.temporary hbefore.file shown text
  rw [h] at hreplace
  cases hreplace
  exact ⟨hbefore, hcurrent, hnodes⟩

theorem keepsDirectories_of_replaceFile
    (h : replaceFile trouble place settings.fileName shown text t = .ok () after) :
    KeepsDirectories t after := by
  obtain ⟨hbefore, hcurrent, hnodes⟩ := replaceFile_eq_ok h
  refine ⟨hcurrent, fun q hq => ?_⟩
  have hfile : q ≠ place ++ [settings.fileName] := by
    rintro rfl
    exact hbefore.file hq
  have htemporary : q ≠ place ++ [temporaryName settings.fileName] := by
    rintro rfl
    exact hbefore.temporary hq
  rw [hnodes, if_neg hfile, if_neg htemporary, hq]

/-- A file that was replaced can be replaced by one with the same text. -/
theorem replaceFile_again
    (h : replaceFile trouble place settings.fileName shown text t = .ok () after) :
    ∃ again, replaceFile trouble place settings.fileName shown text after = .ok () again
      ∧ again.current = after.current ∧ ∀ q, again.get? q = after.get? q := by
  obtain ⟨htrouble, hbefore⟩ := replaceable_of_replaceFile h
  obtain ⟨-, -, hnodes⟩ := replaceFile_eq_ok h
  have hplace := (keepsDirectories_of_replaceFile h).directories place hbefore.directory
  have hfile : after.get? (place ++ [settings.fileName]) = some (.file text.toUTF8) := by
    rw [hnodes, if_pos rfl]
  have hfree : after.get? (place ++ [temporaryName settings.fileName]) = none := by
    rw [hnodes, if_neg (by simpa using temporaryName_ne settings.fileName), if_pos rfl]
  obtain ⟨again, hreplace, hcurrent, hagain⟩ := replaceFile_of_free htrouble
    (settings.fits_fileName hbefore.short) (settings.fits_temporaryName hbefore.short) hplace hfree
    (by simp [hfile]) shown text
  refine ⟨again, hreplace, hcurrent, fun q => ?_⟩
  rw [hagain]
  by_cases hq : q = place ++ [settings.fileName]
  · rw [if_pos hq, hq, hfile]
  · rw [if_neg hq]

/-! ## The directories -/

/-- All that opening the output directory can do, where it succeeds: what is new are directories
that its location leads through. -/
theorem made_of_ready (h : o.ready t = .ok root made) :
    Made t.ambient o.location.ancestors t made
      ∧ made.openDirectory t.ambient o.location = .ok root := by
  unfold ready at h
  split at h
  · rename_i found hopen
    cases h
    exact ⟨.refl _ _ t, hopen⟩
  · split at h
    · rename_i _ after hmake
      have hmade := (makeChain_made hmake).1
      have hambient : after.ambient = t.ambient := by
        rw [ambient, ambient, hmade.keeps.current]
      unfold Change.ask at h
      split at h
      · rename_i found hopen
        cases h
        change made.openDirectory made.ambient o.location = .ok root at hopen
        rw [hambient] at hopen
        exact ⟨hmade, hopen⟩
      · cases h
    · cases h
  · cases h

/-- The output directory stays open while the directories stay. -/
theorem ready_again (h : o.ready t = .ok root made) (hkeeps : KeepsDirectories made later) :
    o.ready later = .ok root later := by
  obtain ⟨hmade, hopen⟩ := made_of_ready h
  have hambient : t.ambient = made.ambient := by
    rw [ambient, ambient, hmade.keeps.current]
  rw [hambient] at hopen
  have hlater := hkeeps.openAmbient hopen
  unfold ready
  rw [hlater]

theorem openPackage_eq_ok {directory : Location}
    (h : openPackage root directory t = .ok place after) :
    Made ⟨root, true⟩ directory.ancestors t after
      ∧ after.openDirectory ⟨root, true⟩ directory = .ok place := by
  obtain ⟨_, mid, hmake, hask⟩ := Change.bind_eq_ok h
  have hmade := (makeChain_made hmake).1
  unfold Change.ask at hask
  split at hask
  · rename_i found hopen
    cases hask
    exact ⟨hmade, hopen⟩
  · cases hask

/-- All that opening the directory of a bundle can do, where it succeeds: that directory is the
output directory, or one inside of it. -/
theorem openPlace_eq_ok (h : o.openPlace root relative t = .ok place after) :
    root <+: place ∧ Keeps t after ∧ ∀ q, ¬ root <+: q → after.get? q = t.get? q := by
  unfold openPlace at h
  cases hpackage : packageDirectory? relative with
  | some directory =>
      rw [hpackage] at h
      obtain ⟨hmade, hopen⟩ := openPackage_eq_ok (explain_eq_ok h)
      exact ⟨isPrefix_of_confined_open hopen, hmade.keeps, fun q => hmade.get?_of_outside⟩
  | none =>
      rw [hpackage] at h
      cases h
      exact ⟨List.prefix_refl root, .refl t, fun _ _ => rfl⟩

/-- It stays open as well. -/
theorem openPlace_again (h : o.openPlace root relative t = .ok place after)
    (hkeeps : KeepsDirectories after later) :
    o.openPlace root relative later = .ok place later := by
  unfold openPlace at h ⊢
  cases hpackage : packageDirectory? relative with
  | some directory =>
      rw [hpackage] at h
      obtain ⟨-, hopen⟩ := openPackage_eq_ok (explain_eq_ok h)
      have hlater := hkeeps.openDirectory hopen
      refine explain_of_ok ?_ _
      exact (Change.bind_of_ok (makeDirectories_of_open hlater) _).trans (ask_of_ok hlater)
  | none =>
      rw [hpackage] at h
      cases h
      rfl

/-! ## The bundle -/

/-- The steps in which a bundle was stored. -/
theorem steps_of_store {emitted : Emitted} (h : o.store trouble b text t = .ok emitted after) :
    ∃ root made place mid, o.ready t = .ok root made
      ∧ o.openPlace root b.relativePath made = .ok place mid
      ∧ replaceFile trouble place b.fileName (o.location.join b.relativePath) text mid
        = .ok () after
      ∧ emitted = ⟨o.location.join b.relativePath, b.functions.length⟩ := by
  rw [store_eq] at h
  obtain ⟨root, made, hready, h⟩ := Change.bind_eq_ok h
  obtain ⟨place, mid, hopen, h⟩ := Change.bind_eq_ok h
  obtain ⟨_, found, hreplace, h⟩ := Change.bind_eq_ok h
  cases h
  exact ⟨root, made, place, mid, explain_eq_ok hready, hopen, hreplace, rfl⟩

theorem store_of_steps (hready : o.ready t = .ok root made)
    (hopen : o.openPlace root b.relativePath made = .ok place mid)
    (hreplace : replaceFile trouble place b.fileName (o.location.join b.relativePath) text mid
      = .ok () after) :
    o.store trouble b text t = .ok ⟨o.location.join b.relativePath, b.functions.length⟩ after := by
  rw [store_eq]
  exact (Change.bind_of_ok (explain_of_ok hready _) _).trans
    ((Change.bind_of_ok hopen _).trans ((Change.bind_of_ok hreplace _).trans rfl))

/-- **What storing a bundle leaves as it was**: the directories, and once the output directory is
open all that is not in it. -/
theorem store_frame {emitted : Emitted} (hname : b.fileName = settings.fileName)
    (h : o.store trouble b text t = .ok emitted after) :
    ∃ root made, o.ready t = .ok root made ∧ Keeps t made ∧ KeepsDirectories made after
      ∧ ∀ q, ¬ root <+: q → after.get? q = made.get? q := by
  obtain ⟨root, made, place, mid, hready, hopen, hreplace, -⟩ := steps_of_store h
  rw [hname] at hreplace
  obtain ⟨hopened, -⟩ := made_of_ready hready
  obtain ⟨hinside, hmid, houtside⟩ := openPlace_eq_ok hopen
  obtain ⟨-, -, hnodes⟩ := replaceFile_eq_ok hreplace
  refine ⟨root, made, hready, hopened.keeps, ?_, fun q hq => ?_⟩
  · exact hmid.keepsDirectories.trans (keepsDirectories_of_replaceFile hreplace)
  · have hne (name : String) : q ≠ place ++ [name] := by
      rintro rfl
      exact hq (hinside.trans (List.prefix_append place [name]))
    rw [hnodes, if_neg (hne _), if_neg (hne _), houtside q hq]

/-- **To store a bundle again** says the same and changes nothing. -/
theorem store_again {emitted : Emitted} (hname : b.fileName = settings.fileName)
    (h : o.store trouble b text t = .ok emitted after) :
    ∃ again, o.store trouble b text after = .ok emitted again ∧ again.current = after.current
      ∧ ∀ q, again.get? q = after.get? q := by
  obtain ⟨root, made, place, mid, hready, hopen, hreplace, rfl⟩ := steps_of_store h
  rw [hname] at hreplace
  obtain ⟨-, hmid, -⟩ := openPlace_eq_ok hopen
  have hafter : KeepsDirectories mid after := keepsDirectories_of_replaceFile hreplace
  obtain ⟨again, hagain, hcurrent, hnodes⟩ := replaceFile_again hreplace
  rw [← hname] at hagain
  have hready' : o.ready after = .ok root after :=
    ready_again hready (hmid.keepsDirectories.trans hafter)
  have hopen' : o.openPlace root b.relativePath after = .ok place after :=
    openPlace_again hopen hafter
  exact ⟨again, store_of_steps hready' hopen' hagain, hcurrent, hnodes⟩

end OutputDirectory

end Fieldwise
