import Fieldwise.Proofs.Emission.Failure
import Fieldwise.Proofs.Emission.Mirror
import Fieldwise.Proofs.FileTree.Spelling

set_option autoImplicit false

/-! # An emission is all or nothing

Until its file is replaced, storing a bundle makes directories and does nothing else
(`OutputDirectory.Prepared`). Outside of the output directory they are directories that its location
leads through, and inside of it the location of the package leads through them. Then one file is
replaced, or is left as it was (`OutputDirectory.emitter_atomic`), also where the device refuses a
step or writing breaks off in the middle.

One thing can come between: if the location of the file leads through the place of the file itself,
then a directory is made there, and no file can stand in its place any more
(`throughItself_blocked`).
-/

namespace Fieldwise

namespace FileTree

variable {t mid after : FileTree} {start : Start} {l : Location} {q : Place} {node : Node}
  {way way' : Place → Prop}

/-- A location leads through a place: it names the directory there, or one of the locations it lies
in does. -/
def LeadsThrough (t : FileTree) (start : Start) (l : Location) (q : Place) : Prop :=
  ∃ m ∈ l.ancestors, t.openDirectory start m = .ok q

theorem LeadsThrough.keeps (h : t.LeadsThrough start l q) (hkeeps : KeepsDirectories t after) :
    after.LeadsThrough start l q := by
  obtain ⟨m, hm, hopen⟩ := h
  exact ⟨m, hm, hkeeps.openDirectory hopen⟩

/-- A place is as it was in another tree, or nothing was there and a directory was made, because a
way leads through it. -/
def SameOrMade (t after : FileTree) (way : Place → Prop) (q : Place) : Prop :=
  after.get? q = t.get? q ∨ t.get? q = none ∧ after.get? q = some .directory ∧ way q

theorem SameOrMade.imp (h : SameOrMade t after way q) (hway : way q → way' q) :
    SameOrMade t after way' q :=
  h.imp_right fun ⟨hnone, hmade, hq⟩ => ⟨hnone, hmade, hway hq⟩

theorem SameOrMade.trans (h : SameOrMade t mid way q) (hmore : SameOrMade mid after way q) :
    SameOrMade t after way q := by
  rcases hmore with hsame | ⟨hnone, hmade, hq⟩
  · rcases h with hbefore | ⟨hnone, hmade, hq⟩
    · exact .inl (hsame.trans hbefore)
    · exact .inr ⟨hnone, hsame.trans hmade, hq⟩
  · rcases h with hbefore | ⟨-, hbefore, -⟩
    · exact .inr ⟨hbefore.symm.trans hnone, hmade, hq⟩
    · rw [hnone] at hbefore
      cases hbefore

/-- What was at such a place is there still. -/
theorem SameOrMade.get?_eq_some (h : SameOrMade t after way q) (hnode : t.get? q = some node) :
    after.get? q = some node := by
  rcases h with hsame | ⟨hnone, -⟩
  · rw [hsame, hnode]
  · rw [hnone] at hnode
    cases hnode

/-- Making the directories that a location leads through does that and nothing else. -/
theorem Made.sameOrMade (h : Made start l.ancestors t after) (q : Place) :
    SameOrMade t after (after.LeadsThrough start l) q := by
  rcases h.new q with hsame | ⟨m, hm, hopen⟩
  · exact .inl hsame
  · obtain ⟨-, hdirectory⟩ := openDirectory_eq_ok_iff.mp hopen
    cases hbefore : t.get? q with
    | none => exact .inr ⟨hbefore, hdirectory, m, hm, hopen⟩
    | some node => exact .inl ((h.keeps.nodes q node hbefore).trans hbefore.symm)

end FileTree

namespace OutputDirectory

open FileTree

variable {o : OutputDirectory} {trouble : Trouble} {b : Bundle} {t made mid after : FileTree}
  {root place q : Place} {directory : Location} {settings : Settings}

/-- The location that is reported for a bundle. -/
def fileLocation (o : OutputDirectory) (b : Bundle) : Location := o.location.join b.relativePath

/-- A place is the output directory, or in it. -/
def Contains (o : OutputDirectory) (t : FileTree) (q : Place) : Prop :=
  ∃ root, t.openDirectory t.ambient o.location = .ok root ∧ root <+: q

/-- A place is on the way to the file of a bundle: the location of the output directory leads
through it, or the location of the package does from there. -/
def OnTheWay (o : OutputDirectory) (b : Bundle) (t : FileTree) (q : Place) : Prop :=
  t.LeadsThrough t.ambient o.location q
    ∨ ∃ root directory, t.openDirectory t.ambient o.location = .ok root
      ∧ packageDirectory? b.relativePath = some directory
      ∧ t.LeadsThrough ⟨root, true⟩ directory q

/-- A place is where the file of a bundle is first written: beside the file, under the temporary
name. -/
def IsTemporary (o : OutputDirectory) (b : Bundle) (t : FileTree) (q : Place) : Prop :=
  ∃ place, t.Spells (o.fileLocation b) place b.fileName ∧ q = place ++ [temporaryName b.fileName]

theorem ambient_eq (h : KeepsDirectories t after) : after.ambient = t.ambient := by
  rw [ambient, ambient, h.current]

theorem Contains.keeps (h : o.Contains t q) (hkeeps : KeepsDirectories t after) :
    o.Contains after q := by
  obtain ⟨root, hopen, hinside⟩ := h
  exact ⟨root, hkeeps.openAmbient hopen, hinside⟩

theorem OnTheWay.keeps (h : o.OnTheWay b t q) (hkeeps : KeepsDirectories t after) :
    o.OnTheWay b after q := by
  rcases h with houter | ⟨root, directory, hopen, hpackage, hinner⟩
  · refine .inl ?_
    rw [ambient_eq hkeeps]
    exact houter.keeps hkeeps
  · exact .inr ⟨root, directory, hkeeps.openAmbient hopen, hpackage, hinner.keeps hkeeps⟩

/-! ## Making directories -/

/-- What has come of the files before the file of a bundle is replaced: all that was there is there,
and what is new are directories on the way; outside of the output directory, on the way to it. -/
structure Prepared (o : OutputDirectory) (b : Bundle) (t mid : FileTree) : Prop where
  keeps : Keeps t mid
  inside : ∀ q, SameOrMade t mid (o.OnTheWay b mid) q
  outside : ∀ q, ¬ o.Contains mid q → SameOrMade t mid (mid.LeadsThrough mid.ambient o.location) q

/-- The directories that the location of the output directory leads through are made first. -/
theorem prepared_of_outer (h : Made t.ambient o.location.ancestors t made) :
    o.Prepared b t made := by
  have hway (q : Place) :
      SameOrMade t made (made.LeadsThrough made.ambient o.location) q := by
    rw [ambient_eq h.keeps.keepsDirectories]
    exact h.sameOrMade q
  exact ⟨h.keeps, fun q => (hway q).imp .inl, fun q _ => hway q⟩

/-- Those that the location of the package leads through are made next. -/
theorem Prepared.inner (h : o.Prepared b t made)
    (hroot : made.openDirectory made.ambient o.location = .ok root)
    (hpackage : packageDirectory? b.relativePath = some directory)
    (hmade : Made ⟨root, true⟩ directory.ancestors made mid) : o.Prepared b t mid := by
  have hkeeps : KeepsDirectories made mid := hmade.keeps.keepsDirectories
  have hopen : mid.openDirectory mid.ambient o.location = .ok root := hkeeps.openAmbient hroot
  refine ⟨h.keeps.trans hmade.keeps, fun q => ?_, fun q hq => ?_⟩
  · have hbefore : SameOrMade t made (o.OnTheWay b mid) q :=
      (h.inside q).imp fun hway => hway.keeps hkeeps
    have hnew : SameOrMade made mid (o.OnTheWay b mid) q :=
      (hmade.sameOrMade q).imp fun hway => .inr ⟨root, directory, hopen, hpackage, hway⟩
    exact hbefore.trans hnew
  · -- all that is new is below the output directory
    have hbelow : ¬ root <+: q := fun hprefix => hq ⟨root, hopen, hprefix⟩
    have hbefore := h.outside q fun hcontains => hq (hcontains.keeps hkeeps)
    have hsame : SameOrMade made mid (mid.LeadsThrough mid.ambient o.location) q :=
      .inl (hmade.get?_of_outside hbelow)
    refine (hbefore.imp fun hway => ?_).trans hsame
    rw [ambient_eq hkeeps]
    exact hway.keeps hkeeps

/-- What is still so after files inside of the output directory were touched. -/
theorem Prepared.after_touching (h : o.Prepared b t mid) (hkeeps : KeepsDirectories mid after)
    (touched : Place → Prop) (hsame : ∀ q, ¬ touched q → after.get? q = mid.get? q)
    (hinside : ∀ q, touched q → o.Contains mid q) :
    KeepsDirectories t after ∧ (∀ q, ¬ touched q → SameOrMade t after (o.OnTheWay b after) q)
      ∧ ∀ q, ¬ o.Contains after q →
        SameOrMade t after (after.LeadsThrough after.ambient o.location) q := by
  refine ⟨h.keeps.keepsDirectories.trans hkeeps, fun q hq => ?_, fun q hq => ?_⟩
  · have hbefore : SameOrMade t mid (o.OnTheWay b after) q :=
      (h.inside q).imp fun hway => hway.keeps hkeeps
    exact hbefore.trans (.inl (hsame q hq))
  · have houtside : ¬ o.Contains mid q := fun hcontains => hq (hcontains.keeps hkeeps)
    have huntouched : ¬ touched q := fun htouched => houtside (hinside q htouched)
    refine ((h.outside q houtside).imp fun hway => ?_).trans (.inl (hsame q huntouched))
    rw [ambient_eq hkeeps]
    exact hway.keeps hkeeps

/-! ## The location of the file -/

/-- The location of a bundle ends in the name of its file. -/
theorem elements_relativePath (hname : b.fileName = settings.fileName) :
    ∃ init, b.relativePath.elements = init ++ [b.fileName] :=
  Location.elements_child _ (hname ▸ settings.isName_fileName)

/-- The directory of a package is the parent of the location of the bundle, unless that has no
text. -/
theorem packageDirectory?_eq {relative p : Location} (h : relative.parent? = some p) :
    packageDirectory? relative = if p.text = "" then none else some p := by
  unfold packageDirectory?
  rw [h]

/-- The elements of the location of a bundle before its name lead to the directory that was opened
for its package. -/
theorem spells_of_open {init : List String}
    (helements : b.relativePath.elements = init ++ [b.fileName])
    (hname : IsName b.fileName) (hroot : made.openDirectory made.ambient o.location = .ok root)
    (hopen : o.openPlace root b.relativePath made = .ok place mid) :
    mid.Spells (o.fileLocation b) place b.fileName := by
  obtain ⟨p, hparent, hsteps, habsolute, hempty⟩ :=
    Location.parent?_of_name helements hname.idle
  have hpackage := packageDirectory?_eq hparent
  unfold openPlace at hopen
  by_cases htext : p.text = ""
  · -- the bundle belongs in the output directory itself
    rw [if_pos htext] at hpackage
    rw [hpackage] at hopen
    cases hopen
    obtain ⟨-, hdirectory⟩ := openDirectory_eq_ok_iff.mp hroot
    refine spells_join hroot (hempty htext) helements ?_ hdirectory
    have hnone : init.filter (fun e => !Location.isIdle e) = [] := by
      obtain ⟨text⟩ := p
      obtain rfl : text = "" := htext
      exact hsteps.symm
    rw [← follow_steps_iff hdirectory, hnone]
    rfl
  · rw [if_neg htext] at hpackage
    rw [hpackage] at hopen
    obtain ⟨hmade, hopened⟩ := openPackage_eq_ok (explain_eq_ok hopen)
    have hroot : mid.openDirectory mid.ambient o.location = .ok root :=
      hmade.keeps.keepsDirectories.openAmbient hroot
    obtain ⟨hresolve, hdirectory⟩ := openDirectory_eq_ok_iff.mp hopened
    obtain ⟨-, first, horigin, hfollow⟩ := resolve_eq_ok_iff.mp hresolve
    obtain ⟨hrelative, rfl⟩ := of_confined_origin horigin
    refine spells_join hroot ((habsolute htext).symm.trans hrelative) helements ?_ hdirectory
    rw [← follow_steps_iff hdirectory, ← hsteps]
    exact (follow_steps_iff hdirectory).mpr hfollow

/-- **Once the directory of a package is open**, only directories were made; it is in the output
directory, and the location of the file spells its name there. -/
theorem prepared_of_open (hname : b.fileName = settings.fileName)
    (hready : o.ready t = .ok root made)
    (hopen : o.openPlace root b.relativePath made = .ok place mid) :
    o.Prepared b t mid ∧ (∀ name, o.Contains mid (place ++ [name]))
      ∧ mid.Spells (o.fileLocation b) place b.fileName := by
  obtain ⟨houter, hroot⟩ := made_of_ready hready
  rw [← ambient_eq houter.keeps.keepsDirectories] at hroot
  obtain ⟨init, helements⟩ := elements_relativePath hname
  obtain ⟨hinside, hkeeps, -⟩ := openPlace_eq_ok hopen
  have hprepared : o.Prepared b t mid := by
    unfold openPlace at hopen
    cases hpackage : packageDirectory? b.relativePath with
    | none =>
        rw [hpackage] at hopen
        cases hopen
        exact prepared_of_outer houter
    | some directory =>
        rw [hpackage] at hopen
        obtain ⟨hmade, -⟩ := openPackage_eq_ok (explain_eq_ok hopen)
        exact (prepared_of_outer houter).inner hroot hpackage hmade
  refine ⟨hprepared, fun name => ?_,
    spells_of_open helements (hname ▸ settings.isName_fileName) hroot hopen⟩
  exact ⟨root, hkeeps.keepsDirectories.openAmbient hroot,
    hinside.trans (List.prefix_append place [name])⟩

/-- If it cannot be opened, only directories were made as well. -/
theorem prepared_of_failed_open {failure : EmitError} (hready : o.ready t = .ok root made)
    (hopen : o.openPlace root b.relativePath made = .error failure after) :
    o.Prepared b t after := by
  obtain ⟨houter, hroot⟩ := made_of_ready hready
  rw [← ambient_eq houter.keeps.keepsDirectories] at hroot
  obtain ⟨directory, hpackage, hmade⟩ := openPlace_eq_error hopen
  exact (prepared_of_outer houter).inner hroot hpackage hmade

/-! ## The emission -/

/-- What comes of the files when a bundle is stored, or is not. -/
structure AllOrNothing (o : OutputDirectory) (b : Bundle) (t : FileTree)
    (emission : Emission FileTree) : Prop where
  /-- No directory is gone, and none has become a file. -/
  directories : KeepsDirectories t emission.store
  /-- Outside of the output directory nothing happens but that directories are made that its
  location leads through. -/
  outside : ∀ q, ¬ o.Contains emission.store q → SameOrMade t emission.store
    (emission.store.LeadsThrough emission.store.ambient o.location) q
  /-- If it is not stored, nothing happens, but for the place under the temporary name, than that
  directories are made that are on the way. -/
  failed : ∀ reason, emission.result = .error reason → ∀ q, ¬ o.IsTemporary b emission.store q →
    SameOrMade t emission.store (o.OnTheWay b emission.store) q
  /-- So what the location of the file named is still what it names. -/
  kept : ∀ reason, emission.result = .error reason → ∀ node,
    t.find t.ambient (o.fileLocation b) = .ok node →
      emission.store.find emission.store.ambient (o.fileLocation b) = .ok node
  /-- If it is stored, the location that is reported spells the place of the file, which holds the
  text of the bundle, and with no file under the temporary name beside it. Nothing else happens than
  that directories are made that are on the way. -/
  stored : ∀ emitted, emission.result = .ok emitted → ∃ text place,
    b.render = .ok (.ok text) ∧ emitted.location = o.fileLocation b
      ∧ emission.store.Spells emitted.location place b.fileName
      ∧ emission.store.get? (place ++ [b.fileName]) = some (.file text.toUTF8)
      ∧ emission.store.get? (place ++ [temporaryName b.fileName]) = none
      ∧ ∀ q, q ≠ place ++ [b.fileName] → q ≠ place ++ [temporaryName b.fileName] →
        SameOrMade t emission.store (o.OnTheWay b emission.store) q
  /-- Then the location that is reported names that file, if a file system looks for it at all. -/
  named : ∀ emitted text, emission.result = .ok emitted → b.render = .ok (.ok text) →
    refusal? emission.store.ambient emitted.location = none →
      emission.store.find emission.store.ambient emitted.location = .ok (.file text.toUTF8)

/-- The location that is reported for a bundle ends in the name of its file. -/
theorem elements_fileLocation (hname : b.fileName = settings.fileName) :
    ∃ init, (o.fileLocation b).elements = init ++ [b.fileName] := by
  obtain ⟨init, helements⟩ := elements_relativePath hname
  by_cases habsolute : b.relativePath.isAbsolute = true
  · -- an absolute package leads away from the output directory
    have hjoined : o.fileLocation b = b.relativePath := by
      rw [fileLocation, Location.join, if_pos habsolute]
    exact ⟨init, by rw [hjoined, helements]⟩
  · obtain ⟨-, outer, hjoined, -⟩ :=
      Location.join_spec (l := o.location) (Bool.eq_false_iff.mpr habsolute)
    exact ⟨outer ++ init, by rw [fileLocation, hjoined, helements, List.append_assoc]⟩

/-- What the location of the file names stays, if all stays but what is under the temporary name. -/
theorem find_of_same {node : Node} (hname : b.fileName = settings.fileName)
    (hkeeps : KeepsDirectories t after)
    (hsame : ∀ q, ¬ o.IsTemporary b after q → SameOrMade t after (o.OnTheWay b after) q)
    (hfind : t.find t.ambient (o.fileLocation b) = .ok node) :
    after.find after.ambient (o.fileLocation b) = .ok node := by
  have hfile : IsName b.fileName := hname ▸ settings.isName_fileName
  obtain ⟨init, helements⟩ := elements_fileLocation (o := o) hname
  obtain ⟨place, hspells, hnode, hrefusal, hshort⟩ := spells_of_find hfile helements hfind
  have hother : ¬ o.IsTemporary b after (place ++ [b.fileName]) := by
    rintro ⟨found, -, heq⟩
    have hlast := congrArg List.getLast? heq
    rw [List.getLast?_concat, List.getLast?_concat] at hlast
    exact temporaryName_ne b.fileName (Option.some.inj hlast).symm
  exact (hspells.keeps hkeeps).find_eq hfile hshort hrefusal
    ((hsame _ hother).get?_eq_some hnode)

theorem allOrNothing_of_failure {reason : EmitError} {events : List Event}
    (hname : b.fileName = settings.fileName) (hkeeps : KeepsDirectories t after)
    (hsame : ∀ q, ¬ o.IsTemporary b after q → SameOrMade t after (o.OnTheWay b after) q)
    (houtside : ∀ q, ¬ o.Contains after q →
      SameOrMade t after (after.LeadsThrough after.ambient o.location) q) :
    o.AllOrNothing b t ⟨.error reason, events, after⟩ where
  directories := hkeeps
  outside := houtside
  failed _ _ := hsame
  kept _ _ node := find_of_same hname hkeeps hsame
  stored emitted h := by cases h
  named emitted text h := by cases h

/-- A failure before the file is replaced. -/
theorem Prepared.allOrNothing {reason : EmitError} {events : List Event}
    (h : o.Prepared b t after) (hname : b.fileName = settings.fileName) :
    o.AllOrNothing b t ⟨.error reason, events, after⟩ :=
  allOrNothing_of_failure hname h.keeps.keepsDirectories (fun q _ => h.inside q) h.outside

/-- A failure at any of the three steps. -/
theorem allOrNothing_of_failed_store {text : String} {reason : EmitError} {events : List Event}
    (hname : b.fileName = settings.fileName) (h : o.store trouble b text t = .error reason after) :
    o.AllOrNothing b t ⟨.error reason, events, after⟩ := by
  rcases steps_of_failed_store h with ⟨cause, hready, -⟩ | ⟨root, made, hready, hlater⟩
  · exact (prepared_of_outer (ready_eq_error hready)).allOrNothing hname
  · rcases hlater with hopen | ⟨place, mid, hopen, hreplace⟩
    · exact (prepared_of_failed_open hready hopen).allOrNothing hname
    · obtain ⟨hprepared, hinside, hspells⟩ := prepared_of_open hname hready hopen
      have htouches : TouchesFile place (temporaryName b.fileName) mid after := by
        rw [hname] at hreplace ⊢
        exact replaceFile_eq_error hreplace
      obtain ⟨hkeeps, hsame, houtside⟩ := hprepared.after_touching htouches.keeps
        (fun q => q = place ++ [temporaryName b.fileName]) htouches.same
        (by rintro q rfl; exact hinside _)
      refine allOrNothing_of_failure hname hkeeps (fun q hq => hsame q ?_) houtside
      rintro rfl
      exact hq ⟨place, hspells.keeps htouches.keeps, rfl⟩

/-- A bundle that is stored. -/
theorem allOrNothing_of_store {text : String} {emitted : Emitted} {events : List Event}
    (hname : b.fileName = settings.fileName) (hrender : b.render = .ok (.ok text))
    (h : o.store trouble b text t = .ok emitted after) :
    o.AllOrNothing b t ⟨.ok emitted, events, after⟩ := by
  obtain ⟨root, made, place, mid, hready, hopen, hreplace, rfl⟩ := steps_of_store h
  obtain ⟨hprepared, hinside, hspells⟩ := prepared_of_open hname hready hopen
  rw [hname] at hreplace
  have hkept : KeepsDirectories mid after := keepsDirectories_of_replaceFile hreplace
  obtain ⟨hbefore, -, hnodes⟩ := replaceFile_eq_ok hreplace
  rw [← hname] at hnodes
  have hfile : after.get? (place ++ [b.fileName]) = some (.file text.toUTF8) := by
    rw [hnodes, if_pos rfl]
  have htemporary : after.get? (place ++ [temporaryName b.fileName]) = none := by
    rw [hnodes, if_neg (by simpa using temporaryName_ne b.fileName), if_pos rfl]
  obtain ⟨hkeeps, hsame, houtside⟩ := hprepared.after_touching hkept
    (fun q => q = place ++ [b.fileName] ∨ q = place ++ [temporaryName b.fileName])
    (fun q hq => by rw [hnodes, if_neg (fun h => hq (.inl h)), if_neg (fun h => hq (.inr h))])
    (by rintro q (rfl | rfl) <;> exact hinside _)
  have hspelled : after.Spells (o.fileLocation b) place b.fileName := hspells.keeps hkept
  refine ⟨hkeeps, houtside, by simp, by simp, ?_, ?_⟩
  · intro found hfound
    cases hfound
    exact ⟨text, place, hrender, rfl, hspelled, hfile, htemporary,
      fun q hq hq' => hsame q (by rintro (h | h); exacts [hq h, hq' h])⟩
  · intro found rendered hfound hrendered hrefusal
    cases hfound
    rw [hrender] at hrendered
    cases hrendered
    have hshort := (hname ▸ settings.fits_fileName hbefore.short : FitsAsName b.fileName).short
    exact hspelled.find_eq (hname ▸ settings.isName_fileName) hshort hrefusal hfile

/-- **An emission is all or nothing.** Whatever the files, the output directory and the packages of
the bundle are, and whatever trouble there is with the device: either the bundle is stored, and the
location that is reported is that of a file that holds its text; or it is not, and what that
location named is what it named before. Nothing but this file and the one under the temporary name
is changed, made or removed, but that directories are made on the way; outside of the output
directory, on the way to it. -/
theorem emitter_atomic {emission : Emission FileTree} (hname : b.fileName = settings.fileName)
    (h : o.emitterOn trouble b t = .ok emission) : o.AllOrNothing b t emission := by
  rcases emitter_cases h with ⟨reason, -, rfl⟩ | ⟨text, emitted, after, hrender, hstore, -, rfl⟩
    | ⟨text, location, cause, after, -, hstore, rfl⟩
  · exact (prepared_of_outer (.refl _ _ t)).allOrNothing hname
  · exact allOrNothing_of_store hname hrender hstore
  · exact allOrNothing_of_failed_store hname hstore

/-! ## Two emissions -/

/-- The output directory with files in it: the file of a bundle as it was, and another one. -/
def usedTree : FileTree where
  entries := [(["out"], .directory), (["out", "notes"], .file "kept".toUTF8),
    (["out", "model"], .directory), (["out", "model", "string_util.rs"], .file "old".toUTF8)]

/-- A device that takes three bytes more. -/
def fullDevice : Trouble where
  writing := some (3, "No space left on device (os error 28)")

/-- The bundle is stored in its file, and the other file is as it was. On a device that is full its
file is as it was, too. -/
theorem usedTree_updated :
    (singleBundle [.plain "model"] ["name"]).fileName = Settings.fileName {}
      ∧ (∃ emission text place,
        outDirectory.emitter (singleBundle [.plain "model"] ["name"]) usedTree = .ok emission
        ∧ emission.result = .ok ⟨⟨"out/model/string_util.rs"⟩, 1⟩
        ∧ (singleBundle [.plain "model"] ["name"]).render = .ok (.ok text)
        ∧ emission.store.get? (place ++ ["string_util.rs"]) = some (.file text.toUTF8)
        ∧ ∀ q, q ≠ place ++ ["string_util.rs"] → q ≠ place ++ [".string_util.rs.tmp"] →
          ∀ node, usedTree.get? q = some node → emission.store.get? q = some node)
      ∧ ∃ emission reason,
        outDirectory.emitterOn fullDevice (singleBundle [.plain "model"] ["name"]) usedTree
          = .ok emission
        ∧ emission.result = .error reason
        ∧ emission.store.find emission.store.ambient ⟨"out/model/string_util.rs"⟩
          = .ok (.file "old".toUTF8) := by
  have hname : (singleBundle [.plain "model"] ["name"]).fileName = Settings.fileName {} := by
    decide +kernel
  obtain ⟨text, hrender⟩ := Bundle.render_of_isSome
    (show (singleBundle [.plain "model"] ["name"]).text?.isSome = true by decide +kernel)
  refine ⟨hname, ?_, ?_⟩
  · obtain ⟨after, hstore⟩ : ∃ after, outDirectory.store {} (singleBundle [.plain "model"] ["name"])
        text usedTree = .ok ⟨⟨"out/model/string_util.rs"⟩, 1⟩ after := ⟨_, rfl⟩
    have hemitter := emitter_of_stored hrender hstore
    have hatomic := emitter_atomic hname hemitter
    obtain ⟨found, place, hfound, -, -, hfile, -, hothers⟩ := hatomic.stored _ rfl
    rw [hrender] at hfound
    cases hfound
    exact ⟨_, text, place, hemitter, rfl, hrender, hfile,
      fun q hq hq' node hnode => (hothers q hq hq').get?_eq_some hnode⟩
  · obtain ⟨reason, after, hstore⟩ : ∃ reason after,
        outDirectory.store fullDevice (singleBundle [.plain "model"] ["name"]) text usedTree
          = .error reason after := ⟨_, _, rfl⟩
    have hemitter := emitter_of_failed_store hrender hstore
    have hatomic := emitter_atomic hname hemitter
    exact ⟨_, reason, hemitter, rfl, hatomic.kept reason rfl (.file "old".toUTF8) rfl⟩

/-- A bundle whose package leads through the place of its file and back. -/
def throughItself : Bundle :=
  { singleBundle [] [] with package := ⟨["string_util.rs", ".."]⟩ }

/-- **A directory in the place of the file.** The bundle is not stored, and where nothing was at the
place that its location spells a directory is left. -/
theorem throughItself_blocked :
    throughItself.fileName = Settings.fileName {}
      ∧ ∃ emission reason, outDirectory.emitter throughItself {} = .ok emission
        ∧ emission.result = .error reason
        ∧ emission.store.Spells (outDirectory.fileLocation throughItself) ["out"] "string_util.rs"
        ∧ FileTree.get? {} ["out", "string_util.rs"] = none
        ∧ emission.store.get? ["out", "string_util.rs"] = some .directory := by
  have hname : throughItself.fileName = Settings.fileName {} := by decide +kernel
  obtain ⟨text, hrender⟩ := Bundle.render_of_isSome
    (show throughItself.text?.isSome = true by decide +kernel)
  have hstore : outDirectory.store {} throughItself text {}
      = .error (.io ⟨"out/string_util.rs/../string_util.rs"⟩ .isDirectory)
        ⟨[(["out", ".string_util.rs.tmp"], .file text.toUTF8),
          (["out", "string_util.rs"], .directory), (["out"], .directory)], []⟩ := rfl
  refine ⟨hname, _, _, emitter_of_failed_store hrender hstore, rfl, ?_, rfl, rfl⟩
  exact ⟨[], ["out", "string_util.rs", ".."], rfl, rfl, rfl, rfl⟩

end OutputDirectory

end Fieldwise
