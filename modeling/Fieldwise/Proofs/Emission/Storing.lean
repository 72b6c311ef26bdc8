import Fieldwise.Proofs.Bundle.FileNames
import Fieldwise.Proofs.Emission.Outcomes

set_option autoImplicit false

/-! # What storing a bundle changes

Storing a bundle opens the output directory, makes the directories of its packages inside, and
replaces one file. `OutputDirectory.store_of_ready` says that nothing else changes, as long as no
file stands where a directory of the bundle belongs, no directory where its file belongs, and
nothing where that file is first written.
-/

namespace Fieldwise

/-- A file can be written and renamed without trouble. -/
structure Trouble.Spares (trouble : Trouble) : Prop where
  opening : trouble.opening = none
  writing : trouble.writing = none
  moving : trouble.moving = none

theorem spares_default : Trouble.Spares {} := ⟨rfl, rfl, rfl⟩

namespace OutputDirectory

open FileTree

theorem temporaryName_ne (fileName : String) : temporaryName fileName ≠ fileName := by
  intro heq
  have hlength := congrArg String.length heq
  have hdot : ".".length = 1 := rfl
  rw [temporaryName, String.length_append, String.length_append] at hlength
  omega

theorem replaceFile_of_steps {trouble : Trouble} {t mid after : FileTree} {place : Place}
    {fileName : String} {text : String} (hmoving : trouble.moving = none)
    (hwrite : Change.writeFile trouble ⟨place, true⟩ ⟨temporaryName fileName⟩ text.toUTF8 t
      = .ok () mid)
    (hrename : Change.renameFile ⟨place, true⟩ ⟨temporaryName fileName⟩ ⟨fileName⟩ mid
      = .ok () after) (shown : Location) :
    replaceFile trouble place fileName shown text t = .ok () after := by
  simp only [replaceFile, bind, EStateM.bind, hwrite, Change.explain, hmoving,
    Change.unlessRefused, hrename]

/-- A tree in which a file was written under the temporary name of another, and nothing else. -/
structure Written (place : Place) (fileName : String) (content : ByteArray) (t mid : FileTree) :
    Prop where
  file : FitsAsName fileName
  temporary : FitsAsName (temporaryName fileName)
  directory : t.get? place = some .directory
  plain : t.get? (place ++ [temporaryName fileName]) ≠ some .directory
  current : mid.current = t.current
  nodes : ∀ q, mid.get? q
    = if q = place ++ [temporaryName fileName] then some (.file content) else t.get? q

namespace Written

variable {place : Place} {fileName : String} {content : ByteArray} {t mid : FileTree}

/-- The file is opened, which leaves nothing in it, and then it is written. -/
theorem of_set (hfile : FitsAsName fileName) (htemporary : FitsAsName (temporaryName fileName))
    (hplace : t.get? place = some .directory)
    (hplain : t.get? (place ++ [temporaryName fileName]) ≠ some .directory) (content : ByteArray) :
    Written place fileName content t
      ((t.set (place ++ [temporaryName fileName]) (.file .empty)).set
        (place ++ [temporaryName fileName]) (.file content)) where
  file := hfile
  temporary := htemporary
  directory := hplace
  plain := hplain
  current := rfl
  nodes q := by
    rw [get?_set _ (by simp), get?_set _ (by simp)]
    by_cases hq : q = place ++ [temporaryName fileName]
    · rw [if_pos hq, if_pos hq]
    · rw [if_neg hq, if_neg hq, if_neg hq]

theorem get?_place (h : Written place fileName content t mid) :
    mid.get? place = some .directory := by
  rw [h.nodes, if_neg (by simp), h.directory]

theorem get?_temporary (h : Written place fileName content t mid) :
    mid.get? (place ++ [temporaryName fileName]) = some (.file content) := by
  rw [h.nodes, if_pos rfl]

theorem get?_file (h : Written place fileName content t mid) :
    mid.get? (place ++ [fileName]) = t.get? (place ++ [fileName]) := by
  rw [h.nodes, if_neg (by simpa using (temporaryName_ne fileName).symm)]

/-- It is given the name of the other file, where no directory has it. -/
theorem rename (h : Written place fileName content t mid)
    (hfree : t.get? (place ++ [fileName]) ≠ some .directory) :
    Change.renameFile ⟨place, true⟩ ⟨temporaryName fileName⟩ ⟨fileName⟩ mid
      = .ok () ((mid.erase (place ++ [temporaryName fileName])).set (place ++ [fileName])
        (.file content)) :=
  renameFile_name h.temporary h.file h.get?_place h.get?_temporary (h.get?_file ▸ hfree)

/-- It is not where a directory has it. -/
theorem rename_blocked (h : Written place fileName content t mid)
    (hblocked : t.get? (place ++ [fileName]) = some .directory) :
    Change.renameFile ⟨place, true⟩ ⟨temporaryName fileName⟩ ⟨fileName⟩ mid
      = .error .isDirectory mid :=
  renameFile_blocked h.temporary h.file h.get?_place h.get?_temporary
    (h.get?_file.trans hblocked)

/-- It can be removed. -/
theorem remove (h : Written place fileName content t mid) :
    Change.removeFile ⟨place, true⟩ ⟨temporaryName fileName⟩ mid
      = .ok () (mid.erase (place ++ [temporaryName fileName])) :=
  removeFile_name h.temporary h.get?_place h.get?_temporary

end Written

/-- A file is written under the temporary name of another, where no directory has it. -/
theorem writeFile_of_plain {trouble : Trouble} (htrouble : trouble.Spares) {t : FileTree}
    {place : Place} {fileName : String} (hfile : FitsAsName fileName)
    (htemporary : FitsAsName (temporaryName fileName)) (hplace : t.get? place = some .directory)
    (hbefore : t.get? (place ++ [temporaryName fileName]) ≠ some .directory)
    (content : ByteArray) :
    ∃ mid, Change.writeFile trouble ⟨place, true⟩ ⟨temporaryName fileName⟩ content t = .ok () mid
      ∧ Written place fileName content t mid := by
  refine ⟨_, ?_, .of_set hfile htemporary hplace hbefore content⟩
  rw [Change.writeFile, htrouble.opening, htrouble.writing]
  exact Change.bind_of_ok (openFile_name htemporary hplace hbefore) _

/-- **A file is replaced**: it holds the text, and nothing is left of the name that it was first
written under, not even a file that had that name before. -/
theorem replaceFile_of_plain {trouble : Trouble} (htrouble : trouble.Spares) {t : FileTree}
    {place : Place} {fileName : String}
    (hfile : FitsAsName fileName) (htemporary : FitsAsName (temporaryName fileName))
    (hplace : t.get? place = some .directory)
    (hbefore : t.get? (place ++ [temporaryName fileName]) ≠ some .directory)
    (hplain : t.get? (place ++ [fileName]) ≠ some .directory) (shown : Location) (text : String) :
    ∃ after, replaceFile trouble place fileName shown text t = .ok () after
      ∧ after.current = t.current
      ∧ ∀ q, after.get? q = if q = place ++ [fileName] then some (.file text.toUTF8)
        else if q = place ++ [temporaryName fileName] then none else t.get? q := by
  obtain ⟨mid, hwrite, hwritten⟩ :=
    writeFile_of_plain htrouble hfile htemporary hplace hbefore text.toUTF8
  refine ⟨_, replaceFile_of_steps htrouble.moving hwrite (hwritten.rename hplain) shown,
    hwritten.current, fun q => ?_⟩
  rw [get?_set _ (by simp), get?_erase _ (by simp), hwritten.nodes]
  by_cases hq : q = place ++ [temporaryName fileName]
  · rw [if_pos hq, if_pos hq]
  · rw [if_neg hq, if_neg hq, if_neg hq]

/-- Nothing else changes if no file had that name. -/
theorem replaceFile_of_free {trouble : Trouble} (htrouble : trouble.Spares) {t : FileTree}
    {place : Place} {fileName : String} (hfile : FitsAsName fileName)
    (htemporary : FitsAsName (temporaryName fileName)) (hplace : t.get? place = some .directory)
    (hfree : t.get? (place ++ [temporaryName fileName]) = none)
    (hplain : t.get? (place ++ [fileName]) ≠ some .directory) (shown : Location) (text : String) :
    ∃ after, replaceFile trouble place fileName shown text t = .ok () after
      ∧ after.current = t.current
      ∧ ∀ q, after.get? q
        = if q = place ++ [fileName] then some (.file text.toUTF8) else t.get? q := by
  obtain ⟨after, hreplace, hcurrent, hnodes⟩ :=
    replaceFile_of_plain htrouble hfile htemporary hplace (by simp [hfree]) hplain shown text
  refine ⟨after, hreplace, hcurrent, fun q => ?_⟩
  rw [hnodes]
  by_cases hq : q = place ++ [temporaryName fileName]
  · rw [if_pos hq, hq, hfree]
  · rw [if_neg hq]

theorem explain_of_ok {α : Type} {c : Change FileError α} {t after : FileTree} {a : α}
    (h : c t = .ok a after) (words : FileError → EmitError) :
    Change.explain words c t = .ok a after := by
  unfold Change.explain
  rw [h]

theorem ask_of_ok {α : Type} {f : FileTree → Except FileError α} {t : FileTree} {a : α}
    (h : f t = .ok a) : Change.ask f t = .ok a t := by
  unfold Change.ask
  rw [h]

variable {o : OutputDirectory} {b : Bundle} {t : FileTree} {root : Place}

/-- The directories of a bundle are opened, and made where they are not there. -/
theorem openPlace_of_clear (hb : b.Storable) (hroot : t.get? root = some .directory)
    (hclear : t.Clear (stairs root b.directories)) :
    ∃ after, o.openPlace root b.relativePath t = .ok (root ++ b.directories) after
      ∧ Grown t after (stairs root b.directories) := by
  have hpackage := packageDirectory?_ofNames hb.named.isName_names
  unfold openPlace
  rw [Bundle.relativePath_eq hb.named, Bundle.names, hpackage]
  by_cases hnil : b.directories = []
  · rw [if_pos hnil, hnil, List.append_nil]
    exact ⟨t, rfl, grown_of_built fun q hq => by cases hq⟩
  · rw [if_neg hnil]
    obtain ⟨after, hmake, hgrown⟩ : ∃ after,
        Change.makeDirectories ⟨root, true⟩ (.ofNames b.directories) t = .ok () after
          ∧ Grown t after (stairs root b.directories) :=
      makeDirectories_ofNames hb.fits_directories hroot hclear
    have hopen : after.openDirectory ⟨root, true⟩ (.ofNames b.directories)
        = .ok (root ++ b.directories) :=
      openDirectory_ofNames hb.fits_directories hnil (hgrown.get?_start.trans hroot) hgrown.built
    refine ⟨after, explain_of_ok ?_ _, hgrown⟩
    exact (Change.bind_of_ok hmake _).trans (ask_of_ok hopen)

/-- What storing a bundle below a place leaves of a tree: the directories of its packages are there,
its file holds the text, and nothing else is changed. -/
structure Leaves (b : Bundle) (root : Place) (text : String) (t after : FileTree) : Prop where
  current : after.current = t.current
  nodes : ∀ q, after.get? q = if q = root ++ b.names then some (.file text.toUTF8)
    else if q ∈ stairs root b.directories then some .directory else t.get? q

/-- **What storing a bundle changes**, once the output directory is open: the directories of its
packages are made, and its file holds the text. -/
theorem store_of_ready {base : FileTree} (hb : b.Storable) (hready : o.ready t = .ok root base)
    (hroot : base.get? root = some .directory) (hclear : base.Clear (stairs root b.directories))
    (hplain : base.get? (root ++ b.names) ≠ some .directory)
    (hfree : base.get? (root ++ (b.directories ++ [temporaryName b.fileName])) = none)
    (text : String) :
    ∃ after, o.store {} b text t = .ok ⟨o.location.join b.relativePath, b.functions.length⟩ after
      ∧ Leaves b root text base after := by
  obtain ⟨mid, hopen, hgrown⟩ := openPlace_of_clear (o := o) hb hroot hclear
  -- neither the file nor its temporary name is among the directories
  have houtside (name : String) : mid.get? (root ++ b.directories ++ [name])
      = base.get? (root ++ (b.directories ++ [name])) := by
    rw [List.append_assoc, hgrown.nodes, if_neg (not_mem_stairs_concat _ _ _)]
  have hplace : mid.get? (root ++ b.directories) = some .directory :=
    (follow_of_built ⟨root, true⟩ hb.fits_directories.each (hgrown.get?_start.trans hroot)
      hgrown.built).2
  obtain ⟨after, hreplace, hcurrent, hnodes⟩ := replaceFile_of_free spares_default
    hb.fits_fileName hb.fits_temporaryName hplace ((houtside _).trans hfree)
    (fun hdirectory => hplain ((houtside _).symm.trans hdirectory))
    (o.location.join b.relativePath) text
  refine ⟨after, ?_, ⟨hcurrent.trans hgrown.current, fun q => ?_⟩⟩
  · rw [store_eq]
    exact (Change.bind_of_ok (explain_of_ok hready _) _).trans
      ((Change.bind_of_ok hopen _).trans ((Change.bind_of_ok hreplace _).trans rfl))
  · rw [hnodes, hgrown.nodes, List.append_assoc]
    rfl

end OutputDirectory

end Fieldwise
