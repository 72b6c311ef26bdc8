import Fieldwise.CommandLine.Run
import Fieldwise.Proofs.Emission.Outcomes
import Fieldwise.Proofs.Emission.Shelves
import Fieldwise.Proofs.Round.Sessions
import Fieldwise.Proofs.Round.Verdicts

set_option autoImplicit false

/-! # A dry run foretells the real run

With the flag `check` a run stores its bundle on a shelf that is thrown away, without it in files.
Both rounds check the same settings, read the same crate and make the same bundle, so they part at
the file system only: `Exit.foretells` says this of every way in which a round ends, and
`dryRun_foretells` of whole runs. -/

namespace Fieldwise

/-- A report of a bundle that is inside a directory. -/
def Report.inside (o : OutputDirectory) (r : Report) : Report :=
  { r with emitted := r.emitted.map fun e => { e with location := o.location.join e.location } }

/-- What the result of a dry round and its reports tell of the result and the reports of the real
round with an output directory. -/
inductive Foretells (o : OutputDirectory) :
    Except RunError Report → List Diagnostic → Except RunError Report → List Diagnostic → Prop
  /-- What fails without files fails in the same way with them. -/
  | failed {reason : RunError} {reports : List Diagnostic} :
    Foretells o (.error reason) reports (.error reason) reports
  /-- What succeeds without files succeeds with them. -/
  | succeeded {report : Report} {reports : List Diagnostic} :
    Foretells o (.ok report) reports (.ok (report.inside o)) reports
  /-- Only the file system may refuse it. -/
  | refused {report : Report} {reports more : List Diagnostic} {location : Location}
    {cause : FileError} :
    Foretells o (.ok report) reports (.error (.emit (.io location cause))) (reports ++ more)

section Rounds

attribute [local irreducible] Settings.check pass round

variable {a : Assignment} {o : OutputDirectory}

/-- **Every way in which a dry round ends foretells how the real one does.** -/
theorem Exit.foretells {shelf : Shelf} {result : Except RunError Report} {after : Session Shelf}
    (h : Exit Shelf.emitter a ⟨[], shelf⟩ result after) (o : OutputDirectory) (files : FileTree) :
    ∃ result' after', Exit o.emitter a ⟨[], files⟩ result' after'
      ∧ Foretells o result after.reported result' after'.reported := by
  cases h with
  | settings hcheck =>
      exact ⟨_, _, .settings hcheck, .failed⟩
  | source hcheck hsource hresult =>
      exact ⟨_, _, .source hcheck hsource hresult, .failed⟩
  | nothing houtcome hbundle => exact ⟨_, _, .nothing houtcome hbundle, .succeeded⟩
  | @stored outcome bundle emission emitted houtcome hbundle hemission hresult =>
      -- the bundle has a text, and whether that can be written is up to the file system
      rcases Shelf.emitter_cases hemission with ⟨reason, -, rfl⟩ | ⟨text, hrender, rfl⟩
      · cases hresult
      cases hresult
      cases hfiles : o.emitter bundle files with
      | error halt =>
          rw [OutputDirectory.emitter_eq_error_iff.mp hfiles] at hrender
          cases hrender
      | ok real =>
          rcases OutputDirectory.emitter_cases hfiles with
            ⟨reason, hreason, -⟩ | ⟨_, emitted, files', -, -, rfl, rfl⟩
              | ⟨_, location, cause, files', -, -, rfl⟩
          · rw [hrender] at hreason
            cases hreason
          · exact ⟨_, _, .stored houtcome hbundle hfiles rfl, .succeeded⟩
          · refine ⟨_, _, .refused houtcome hbundle hfiles rfl, ?_⟩
            rw [← List.append_assoc]
            exact .refused
  | @refused outcome bundle emission reason houtcome hbundle hemission hresult =>
      -- only a bundle without a text is refused by a shelf
      rcases Shelf.emitter_cases hemission with ⟨fault, hrender, rfl⟩ | ⟨text, -, rfl⟩
      · cases hresult
        have hfiles : o.emitter bundle files = .ok ⟨.error (.render fault), [], files⟩ :=
          OutputDirectory.emitter_of_refused hrender
        exact ⟨_, _, .refused houtcome hbundle hfiles rfl, .failed⟩
      · cases hresult

/-- A dry round has no answer where the real one has none. -/
theorem stuck_iff_stuck {shelf : Shelf} {files : FileTree} {halt : Halt} :
    Stuck Shelf.emitter a shelf halt ↔ Stuck o.emitter a files halt := by
  constructor
  · intro h
    cases h with
    | source hcheck hsource => exact .source hcheck hsource
    | pass hcheck hsource hresult hpass => exact .pass hcheck hsource hresult hpass
    | emitter houtcome hbundle hemission =>
        have hrender := Shelf.emitter_eq_error_iff.mp hemission
        exact .emitter houtcome hbundle (OutputDirectory.emitter_eq_error_iff.mpr hrender)
  · intro h
    cases h with
    | source hcheck hsource => exact .source hcheck hsource
    | pass hcheck hsource hresult hpass => exact .pass hcheck hsource hresult hpass
    | emitter houtcome hbundle hemission =>
        have hrender := OutputDirectory.emitter_eq_error_iff.mp hemission
        exact .emitter houtcome hbundle (Shelf.emitter_eq_error_iff.mpr hrender)

end Rounds

/-- Rounds that foretell each other lead to verdicts that do: the real run ends as the dry one
does, with the same reports, unless the file system refuses the bundle. -/
theorem Foretells.verdict {o : OutputDirectory} {dry : RoundOutcome Shelf}
    {real : RoundOutcome FileTree}
    (h : Foretells o dry.result dry.trace.reports real.result real.trace.reports) :
    (real.trace.reports = dry.trace.reports
        ∧ failOnReports real = (failOnReports dry).map (Report.inside o))
      ∨ ∃ location cause, failOnReports real = .error (.emit (.io location cause)) := by
  generalize hdry : dry.result = result at h
  generalize hreal : real.result = result' at h
  generalize hreports : dry.trace.reports = reports at h
  generalize hreports' : real.trace.reports = reports' at h
  cases h with
  | failed =>
      refine .inl ⟨rfl, ?_⟩
      rw [failOnReports_of_error hreal, failOnReports_of_error hdry]
      rfl
  | succeeded =>
      refine .inl ⟨rfl, ?_⟩
      by_cases hclean : reports = []
      · subst hclean
        rw [failOnReports_of_clean hreal hreports', failOnReports_of_clean hdry hreports]
        rfl
      · rw [failOnReports_of_reported hreal (hreports' ▸ hclean),
          failOnReports_of_reported hdry (hreports ▸ hclean), hreports, hreports']
        rfl
  | refused => exact .inr ⟨_, _, failOnReports_of_error hreal⟩

namespace CommandLine

section Runs

attribute [local irreducible] round

/-- What the outcome of a dry run tells of that of the real run with an output directory. -/
structure Outcome.Foretells (o : OutputDirectory) (dry real : Outcome) : Prop where
  /-- Unless the file system refuses the bundle, the runs report the same problems and end in the
  same way. -/
  same : (∀ location cause, real.result ≠ .error (.run (.emit (.io location cause)))) →
    real.trace.reports = dry.trace.reports ∧ real.result = dry.result.map (Report.inside o)
  /-- After a dry run without an error, the file system alone can fail the real one. -/
  fails_by_files : ∀ report, dry.result = .ok report →
    real.result = .ok (report.inside o)
      ∨ ∃ location cause, real.result = .error (.run (.emit (.io location cause)))

theorem Outcome.Foretells.refl_of_error {o : OutputDirectory} {failure : Failure} (trace : Trace)
    (files : FileTree) :
    Outcome.Foretells o ⟨.error failure, trace, files⟩ ⟨.error failure, trace, files⟩ where
  same _ := ⟨rfl, rfl⟩
  fails_by_files report h := by cases h

theorem runRound_dry (a : Arguments) (s : Selection) (settings : Settings) (crate : Crate)
    (before : Trace) (files : FileTree) :
    runRound { a with check := true } s settings crate before files
      = (round settings (fun _ => crate.declarations files) Shelf.emitter {}).map
        (Outcome.ofRound before files) := by
  unfold runRound
  dsimp only
  rw [if_pos rfl]
  cases round settings (fun _ => crate.declarations files) Shelf.emitter {} <;> rfl

theorem runRound_real (a : Arguments) (s : Selection) (settings : Settings) (crate : Crate)
    (before : Trace) (files : FileTree) :
    runRound { a with check := false } s settings crate before files
      = (round settings (fun _ => crate.declarations files) (outputDirectory a s).emitter files).map
        fun outcome => .ofRound before outcome.store outcome := by
  have hplace : outputDirectory { a with check := false } s = outputDirectory a s := rfl
  unfold runRound
  dsimp only
  rw [if_neg Bool.false_ne_true, hplace]
  cases round settings (fun _ => crate.declarations files) (outputDirectory a s).emitter files <;>
    rfl

/-- Rounds that foretell each other make runs that do. -/
theorem ofRound_foretells {o : OutputDirectory} {dry : RoundOutcome Shelf}
    {real : RoundOutcome FileTree}
    (h : Fieldwise.Foretells o dry.result dry.trace.reports real.result real.trace.reports)
    (before : Trace) (files after : FileTree) :
    Outcome.Foretells o (.ofRound before files dry) (.ofRound before after real) := by
  have hverdict := h.verdict
  constructor
  · intro hfiles
    rw [ofRound_result] at hfiles ⊢
    -- what is said before the round is the same, so the reports are compared behind it
    rw [ofRound_result, ofRound_reports, ofRound_reports]
    rcases hverdict with ⟨hsame, hmap⟩ | ⟨location, cause, hrefused⟩
    · rw [hsame, hmap]
      refine ⟨rfl, ?_⟩
      cases failOnReports dry with
      | error reason => rfl
      | ok report => rfl
    · exact absurd (by rw [hrefused]; rfl) (hfiles location cause)
  · intro report hreport
    rw [ofRound_result] at hreport ⊢
    replace hreport := mapError_eq_ok_iff.mp hreport
    rcases hverdict with ⟨-, hmap⟩ | ⟨location, cause, hrefused⟩
    · rw [hmap, hreport]
      exact .inl rfl
    · rw [hrefused]
      exact .inr ⟨location, cause, rfl⟩

/-- **The rounds of a dry run and of a real one foretell each other.** -/
theorem runRound_foretells (a : Arguments) (s : Selection) (settings : Settings) (crate : Crate)
    (before : Trace) (files : FileTree) :
    (∃ halt, runRound { a with check := true } s settings crate before files = .error halt
        ∧ runRound { a with check := false } s settings crate before files = .error halt)
      ∨ ∃ dry real, runRound { a with check := true } s settings crate before files = .ok dry
        ∧ runRound { a with check := false } s settings crate before files = .ok real
        ∧ dry.files = files ∧ Outcome.Foretells (outputDirectory a s) dry real := by
  let work : Assignment := ⟨settings, fun _ => crate.declarations files⟩
  let o := outputDirectory a s
  rw [runRound_dry, runRound_real]
  cases hround : round work.settings work.source Shelf.emitter {} with
  | error halt =>
      have hstuck : Stuck o.emitter work files halt :=
        stuck_iff_stuck.mp (stuck_iff_round.mpr hround)
      rw [stuck_iff_round.mp hstuck]
      exact .inl ⟨halt, rfl, rfl⟩
  | ok dry =>
      obtain ⟨result, after, hexit, hforetells⟩ := (exit_of_round hround).foretells o files
      obtain ⟨real, hreal, rfl, hreports, -⟩ := hexit.exists_round
      rw [← hreports] at hforetells
      rw [hreal]
      exact .inr ⟨_, _, rfl, rfl, rfl, ofRound_foretells hforetells before files real.store⟩

end Runs

/-- **A dry run foretells the real run.** Take any arguments, any description of the workspace and
any files. Both runs have an answer or neither has. The dry one leaves all files and directories as
they are. Unless the real run ends because the file system refuses the bundle, both report the same
problems in the same order and fail in the same way, or both succeed with reports that differ only
in that the bundle of the real run is in the output directory. If the dry run succeeds, the real
one does so too or the file system refuses the bundle. -/
theorem dryRun_foretells (a : Arguments) (workspace : Except WorkspaceError Workspace)
    (files : FileTree) :
    (∃ halt, run { a with check := true } workspace files = .error halt
        ∧ run { a with check := false } workspace files = .error halt)
      ∨ ∃ dry real, run { a with check := true } workspace files = .ok dry
        ∧ run { a with check := false } workspace files = .ok real
        ∧ dry.files = files
        ∧ ∃ o, (∀ w s, workspace = .ok w → w.select a.package = .ok s → o = outputDirectory a s)
          ∧ Outcome.Foretells o dry real := by
  cases workspace with
  | error reason =>
      refine .inr ⟨_, _, rfl, rfl, rfl, ⟨.empty⟩, ?_, .refl_of_error _ _⟩
      intro w s hw
      cases hw
  | ok w =>
      unfold run
      dsimp only
      cases hselect : w.select a.package with
      | error reason =>
          refine .inr ⟨_, _, rfl, rfl, rfl, ⟨.empty⟩, ?_, .refl_of_error _ _⟩
          intro w' s hw hs
          cases hw
          rw [hselect] at hs
          cases hs
      | ok s =>
          have ho : ∀ w' s', Except.ok (ε := WorkspaceError) w = .ok w' →
              w'.select a.package = .ok s' → outputDirectory a s = outputDirectory a s' := by
            intro w' s' hw hs
            cases hw
            rw [hselect] at hs
            cases hs
            rfl
          dsimp only
          cases Crate.ofEntry s.entry (conditionsFor a.features) with
          | error reason =>
              exact .inr ⟨_, _, rfl, rfl, rfl, outputDirectory a s, ho, .refl_of_error _ _⟩
          | ok crate =>
              dsimp only
              rcases runRound_foretells a s (a.overrides.apply s.defaults) crate _ files with
                hhalt | ⟨dry, real, hdry, hreal, hfiles, hforetells⟩
              · exact .inl hhalt
              · exact .inr ⟨dry, real, hdry, hreal, hfiles, outputDirectory a s, ho, hforetells⟩

end CommandLine

end Fieldwise
