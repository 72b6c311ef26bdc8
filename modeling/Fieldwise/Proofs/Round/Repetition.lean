import Fieldwise.Proofs.Discovery.Bodies
import Fieldwise.Proofs.Discovery.Confinement
import Fieldwise.Proofs.Emission.Repetition
import Fieldwise.Proofs.Pass.Accounting
import Fieldwise.Proofs.Round.Sessions

set_option autoImplicit false

/-! # Rounds that are run again

A round that writes its bundle to files changes the tree in which its own crate is read. The crate
is read as before if the output directory is apart from the source root
(`OutputDirectory.Apart`): neither is the other or lies inside of it, and nothing is made in the
source root on the way to the output directory. Then to run the round again says the same and
changes nothing (`round_again`).

The last condition is no consequence of the first. A location such as `src/a/../../out` leads out of
`src`, but where `src/a` is missing it is made on the way, and a module whose attribute `path` leads
through `a` is found by the second round only (`detour_unrepeatable`). Where the output directory is
there, or its location never goes back, nothing is made there (`Apart.of_there`,
`Apart.of_forward`).
-/

namespace Fieldwise

open FileTree

variable {c : Crate} {o : OutputDirectory} {b : Bundle} {settings : Settings} {text : String}
  {t made after : FileTree} {root place : Place} {emitted : Emitted}

/-! ## Output directories apart from a source root -/

/-- An output directory that opens apart from a directory: neither is the other or lies inside of
it, and nothing is made in the other. -/
structure OutputDirectory.Apart (o : OutputDirectory) (t : FileTree) (place : Place) : Prop where
  outside : ∀ root made, o.ready t = .ok root made → ¬ place <+: root ∧ ¬ root <+: place
  untouched : ∀ root made, o.ready t = .ok root made →
    ∀ q, place <+: q → t.get? q = none → made.get? q = none

/-- Where the output directory is there, nothing is made. -/
theorem OutputDirectory.Apart.of_there (hopen : t.openDirectory t.ambient o.location = .ok root)
    (houtside : ¬ place <+: root ∧ ¬ root <+: place) : o.Apart t place := by
  have hready : o.ready t = .ok root t := by
    unfold ready
    rw [hopen]
  constructor
  · intro found made h
    rw [hready] at h
    cases h
    exact houtside
  · intro found made h q _ hq
    rw [hready] at h
    cases h
    exact hq

/-- Where the location of the output directory never goes back, all that is made leads to it. -/
theorem OutputDirectory.Apart.of_forward (hback : ".." ∉ o.location.steps)
    (houtside : ∀ root made, o.ready t = .ok root made → ¬ place <+: root ∧ ¬ root <+: place) :
    o.Apart t place where
  outside := houtside
  untouched root made h q hq hfree := by
    obtain ⟨hmade, hopen⟩ := made_of_ready h
    rcases hmade.new q with hsame | ⟨m, hm, hnew⟩
    · rw [hsame, hfree]
    · -- a place that was made is on the way to the output directory
      exfalso
      obtain ⟨habsolute, hsteps⟩ := Location.mem_ancestors hm
      obtain ⟨hresolve, -⟩ := openDirectory_eq_ok_iff.mp hopen
      obtain ⟨-, first, horigin, -⟩ := resolve_eq_ok_iff.mp hresolve
      have hroot : root = first ++ o.location.steps := eq_of_openDirectory hback horigin hopen
      have hstart : origin t.ambient m = .ok first := by
        rw [← horigin, origin, origin, habsolute]
      have hplace : q = first ++ m.steps :=
        eq_of_openDirectory (fun hmem => hback (hsteps.subset hmem)) hstart hnew
      have hway : q <+: root := by
        rw [hplace, hroot]
        exact (List.prefix_append_right_inj first).mpr hsteps
      exact (houtside root made h).1 (hq.trans hway)

/-! ## The crate that is read again -/

/-- A crate is read in the same way where its source root holds the same. -/
theorem Crate.declarations_of_sameBelow (hkeeps : KeepsDirectories t after)
    (hopen : t.openDirectory t.ambient c.directory = .ok place)
    (hsame : t.SameBelow after place place) : c.declarations after = c.declarations t := by
  have hafter := hkeeps.openAmbient hopen
  simp only [declarations, hopen, hafter, hsame.sourceRoot_eq]

/-- **Once the output directory is open**, storing a bundle leaves a crate outside of it alone. -/
theorem Crate.declarations_stored (hname : b.fileName = settings.fileName)
    (hready : o.ready t = .ok root made) (hstore : o.store {} b text t = .ok emitted after)
    (hopen : made.openDirectory made.ambient c.directory = .ok place)
    (houtside : ¬ place <+: root ∧ ¬ root <+: place) :
    c.declarations after = c.declarations made := by
  obtain ⟨found, opened, hfound, -, hkeeps, hframe⟩ := OutputDirectory.store_frame hname hstore
  rw [hready] at hfound
  cases hfound
  refine declarations_of_sameBelow hkeeps hopen fun names => ?_
  -- two places above a third are one above the other
  have hq : ¬ root <+: place ++ names := by
    intro hroot
    rcases List.prefix_or_prefix_of_prefix hroot (List.prefix_append place names) with h | h
    · exact houtside.2 h
    · exact houtside.1 h
  rw [hframe _ hq]

/-- **To open an output directory apart** from the source root leaves a crate alone as well. -/
theorem Crate.declarations_ready (hready : o.ready t = .ok root made)
    (hopen : t.openDirectory t.ambient c.directory = .ok place) (hapart : o.Apart t place) :
    c.declarations made = c.declarations t := by
  obtain ⟨hmade, -⟩ := OutputDirectory.made_of_ready hready
  refine declarations_of_sameBelow hmade.keeps.keepsDirectories hopen fun names => ?_
  cases hnode : t.get? (place ++ names) with
  | none =>
      have hfree := hapart.untouched root made hready _ (List.prefix_append place names) hnode
      rw [hfree]
  | some node => rw [hmade.keeps.nodes _ _ hnode]

/-! ## The round -/

section OneRound

-- the steps of storing are not for unification to try
attribute [local irreducible] OutputDirectory.store

/-- What a round that has a report did to the files: nothing, or it stored the bundle of its
pass. -/
theorem store_of_round {source : Unit → Except Halt Findings} {first : RoundOutcome FileTree}
    {report : Report} (hround : round settings source o.emitter t = .ok first)
    (hok : first.result = .ok report) :
    report.emitted = none ∧ first.store = t
      ∨ ∃ outcome bundle text emitted, Assignment.outcome? ⟨settings, source⟩ = some outcome
        ∧ outcome.bundle = some (.ok bundle) ∧ bundle.fileName = settings.fileName
        ∧ bundle.render = .ok (.ok text) ∧ o.store {} bundle text t = .ok emitted first.store
        ∧ report = ⟨some emitted, outcome.diagnostics.length⟩
        ∧ first.trace.reports = outcome.diagnostics := by
  have hexit : Exit o.emitter ⟨settings, source⟩ ⟨[], t⟩ first.result
      ⟨first.trace.reports, first.store⟩ := exit_of_round hround
  rw [hok] at hexit
  generalize hsession : Session.mk first.trace.reports first.store = session at hexit
  cases hexit with
  | nothing houtcome hbundle =>
      obtain ⟨-, hstore⟩ := Session.mk.inj hsession
      exact .inl ⟨rfl, hstore⟩
  | @stored outcome bundle emission emitted houtcome hbundle hemission hresult =>
      obtain ⟨hreports, hstore⟩ := Session.mk.inj hsession
      obtain ⟨-, findings, declarations, -, -, hpass⟩ := Assignment.outcome?_eq_some_iff.mp houtcome
      obtain ⟨-, leader, -, hmade⟩ := pass_generated hpass hbundle
      have hname : bundle.fileName = settings.fileName := by
        rw [hmade]
        rfl
      rcases OutputDirectory.emitter_cases hemission with ⟨reason, -, rfl⟩
        | ⟨text, found, after, hrender, hstored, -, rfl⟩ | ⟨text, location, cause, after, -, -, rfl⟩
      · cases hresult
      · cases hresult
        change first.store = after at hstore
        rw [hstore]
        exact .inr ⟨outcome, bundle, text, emitted, houtcome, hbundle, hname, hrender, hstored, rfl,
          by simpa using hreports⟩
      · cases hresult

/-- **A round that is run again** gives the same report, reports the same to the user and leaves all
files and directories as the first run left them, if the output directory is apart from the source
root. -/
theorem round_again {first : RoundOutcome FileTree} {report : Report}
    (hround : round settings (fun _ => c.declarations t) o.emitter t = .ok first)
    (hok : first.result = .ok report)
    (hapart : ∀ place, t.openDirectory t.ambient c.directory = .ok place → o.Apart t place) :
    ∃ again, round settings (fun _ => c.declarations first.store) o.emitter first.store = .ok again
      ∧ again.result = .ok report ∧ again.trace.reports = first.trace.reports
      ∧ again.store.current = first.store.current
      ∧ ∀ q, again.store.get? q = first.store.get? q := by
  rcases store_of_round hround hok with ⟨-, hsame⟩ | ⟨outcome, bundle, text, emitted, houtcome,
    hbundle, hname, hrender, hstore, rfl, hreports⟩
  · -- the second run starts from the same files as the first
    refine ⟨first, ?_, hok, rfl, rfl, fun _ => rfl⟩
    rw [hsame]
    exact hround
  · have hdeclarations : c.declarations first.store = c.declarations t := by
      obtain ⟨-, ⟨result, events⟩, ds, hsource, rfl, -⟩ :=
        Assignment.outcome?_eq_some_iff.mp houtcome
      obtain ⟨place, hopen, -⟩ := Crate.walked_of_declarations hsource
      obtain ⟨root, made, hready, hkeeps, -⟩ := OutputDirectory.store_frame hname hstore
      have houtside := (hapart place hopen).outside root made hready
      have hopened := hkeeps.keepsDirectories.openAmbient hopen
      calc c.declarations first.store
          = c.declarations made := Crate.declarations_stored hname hready hstore hopened houtside
        _ = c.declarations t := Crate.declarations_ready hready hopen (hapart place hopen)
    obtain ⟨files, hagain, hcurrent, hnodes⟩ := OutputDirectory.store_again hname hstore
    have hexit : Exit o.emitter ⟨settings, fun _ => c.declarations t⟩ ⟨[], first.store⟩
        (.ok ⟨some emitted, outcome.diagnostics.length⟩) ⟨[] ++ outcome.diagnostics, files⟩ :=
      .stored houtcome hbundle (OutputDirectory.emitter_of_stored hrender hagain) rfl
    obtain ⟨again, hsecond, hresult, hsaid, hfiles⟩ := hexit.exists_round
    refine ⟨again, ?_, hresult, ?_, ?_, fun q => ?_⟩
    · rw [hdeclarations]
      exact hsecond
    · rw [hsaid, hreports, List.nil_append]
    · rw [hfiles, hcurrent]
    · rw [hfiles]
      exact hnodes q

end OneRound

/-! ## Two ways to one output directory -/

/-- A crate with a marked struct, and with a module that is behind a directory that is missing. The
file of that module is cut short. -/
def gappedTree : FileTree where
  entries :=
    [(["src"], .directory),
      (["src", "lib.rs"],
        .file "pub mod model; #[path = \"a/../later.rs\"] pub mod later;".toUTF8),
      (["src", "model.rs"],
        .file "#[static_string_util] pub struct User;".toUTF8),
      (["src", "later.rs"], .file "pub struct".toUTF8)]

def gappedCrate : Crate := ⟨⟨"src"⟩, "lib.rs", {}⟩

/-- The output directory beside the source root. -/
def besideOutput : OutputDirectory := ⟨⟨"out"⟩⟩

/-- The same, by a way that begins in the source root. -/
def detourOutput : OutputDirectory := ⟨⟨"src/a/../../out"⟩⟩

/-- The report of a round that stored the struct of that crate in some file. -/
def userReport (location : String) : Report := ⟨some ⟨⟨location⟩, 1⟩, 0⟩

/-- By the straight way the round can be run again. -/
theorem besideOutput_repeatable :
    ∃ first again,
      round {} (fun _ => gappedCrate.declarations gappedTree) besideOutput.emitter gappedTree
        = .ok first
      ∧ first.result = .ok (userReport "out/model/string_util.rs")
      ∧ (∀ place, gappedTree.openDirectory gappedTree.ambient gappedCrate.directory = .ok place →
        besideOutput.Apart gappedTree place)
      ∧ round {} (fun _ => gappedCrate.declarations first.store) besideOutput.emitter first.store
        = .ok again
      ∧ again.result = .ok (userReport "out/model/string_util.rs")
      ∧ again.trace.reports = first.trace.reports ∧ again.store.current = first.store.current
      ∧ ∀ q, again.store.get? q = first.store.get? q := by
  obtain ⟨first, hround, hview⟩ : ∃ first,
      round {} (fun _ => gappedCrate.declarations gappedTree) besideOutput.emitter gappedTree
        = .ok first
      ∧ first.result.toOption = some (userReport "out/model/string_util.rs") :=
    exists_ok_of_view (by decide +kernel)
  have hok := eq_ok_of_toOption hview
  have hready : besideOutput.ready gappedTree
      = .ok ["out"] (gappedTree.set ["out"] .directory) := by rfl
  have hopen : gappedTree.openDirectory gappedTree.ambient gappedCrate.directory
      = .ok ["src"] := by rfl
  have hapart (place : Place)
      (h : gappedTree.openDirectory gappedTree.ambient gappedCrate.directory = .ok place) :
      besideOutput.Apart gappedTree place := by
    rw [hopen] at h
    cases h
    refine .of_forward (by decide +kernel) fun root made h => ?_
    rw [hready] at h
    cases h
    exact ⟨by decide, by decide⟩
  obtain ⟨again, hagain, hresult, hreports, hcurrent, hnodes⟩ := round_again hround hok hapart
  exact ⟨first, again, hround, hok, hapart, hagain, hresult, hreports, hcurrent, hnodes⟩

/-- **By the detour the second round fails**, though both ways lead to the same directory: the first
round made the directory that was missing. -/
theorem detour_unrepeatable :
    ∃ first made again reason,
      round {} (fun _ => gappedCrate.declarations gappedTree) detourOutput.emitter gappedTree
        = .ok first
      ∧ first.result = .ok (userReport "src/a/../../out/model/string_util.rs")
      ∧ gappedTree.openDirectory gappedTree.ambient gappedCrate.directory = .ok ["src"]
      ∧ detourOutput.ready gappedTree = .ok ["out"] made
      ∧ ¬ ["src"] <+: ["out"] ∧ ¬ ["out"] <+: ["src"]
      ∧ round {} (fun _ => gappedCrate.declarations first.store) detourOutput.emitter first.store
        = .ok again
      ∧ again.result = .error (.source reason) := by
  obtain ⟨first, hround, hview⟩ : ∃ first,
      round {} (fun _ => gappedCrate.declarations gappedTree) detourOutput.emitter gappedTree
        = .ok first
      ∧ first.result.toOption = some (userReport "src/a/../../out/model/string_util.rs") :=
    exists_ok_of_view (by decide +kernel)
  have hok := eq_ok_of_toOption hview
  let made := (gappedTree.set ["src", "a"] .directory).set ["out"] .directory
  have hready : detourOutput.ready gappedTree = .ok ["out"] made := by rfl
  have hopen : made.openDirectory made.ambient gappedCrate.directory = .ok ["src"] := by rfl
  have houtside : ¬ ["src"] <+: ["out"] ∧ ¬ ["out"] <+: ["src"] := by decide
  rcases store_of_round hround hok with
    ⟨hnone, -⟩ | ⟨outcome, bundle, text, emitted, -, -, hname, -, hstore, -, -⟩
  · cases hnone
  · -- the crate is read as it is once the directories are made, and then it cannot be read
    have hsame : gappedCrate.declarations first.store = gappedCrate.declarations made :=
      Crate.declarations_stored hname hready hstore hopen houtside
    obtain ⟨⟨result, events⟩, hsource, hfailed⟩ : ∃ findings,
        gappedCrate.declarations made = .ok findings ∧ findings.result.toOption.isNone = true :=
      exists_ok_of_view (by decide +kernel)
    cases result with
    | ok declarations => cases hfailed
    | error reason =>
        have hcheck : Settings.check {} = .ok () := by decide +kernel
        have hexit : Exit detourOutput.emitter
            ⟨{}, fun _ => gappedCrate.declarations first.store⟩ ⟨[], first.store⟩
            (.error (.source reason)) ⟨[], first.store⟩ :=
          .source hcheck (hsame.trans hsource) rfl
        obtain ⟨again, hagain, hresult, -, -⟩ := hexit.exists_round
        exact ⟨first, made, again, reason, hround, hok, by rfl, hready, houtside.1, houtside.2,
          hagain, hresult⟩

end Fieldwise
