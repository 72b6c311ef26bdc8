import Fieldwise.BuildScript
import Fieldwise.CommandLine.Run
import Fieldwise.Proofs.CommandLine.ErrorLines
import Fieldwise.Proofs.Round.Sessions
import Fieldwise.Proofs.Round.Verdicts

set_option autoImplicit false

/-! # No reported problem ends in success

A run inside a build and a run from the command line go through the same stages: some steps before
the round, the round itself, and a look at the number of problems that were reported on the way.
`Progress` is what the first two stages come to, and `Progress.EndsAs` says how the last one makes
a result of it. Both kinds of runs end like that, and the program's status is 0 just if its run
succeeds (`reported_problems_fail`).

The number of problems is kept three times: in the report of the round, in the trace of what it
says, and by the stream that the problems are written to. The first two agree by `Exit.counted`,
the last two by `ErrorStream.reported_reportAll`, whatever could be written. -/

namespace Fieldwise

/-! ## Counting -/

/-- A stream counts every problem, whether it could be written or not. -/
theorem CommandLine.ErrorStream.reported_reportAll (s : ErrorStream)
    (problems : List (Diagnostic × Option String)) :
    (s.reportAll problems).reported = s.reported + problems.length := by
  rw [reportAll_eq]

/-- The report of a round counts what the round has reported. -/
theorem Exit.counted {σ : Type} {e : Emitter σ} {a : Assignment} {store : σ} {report : Report}
    {after : Session σ} (h : Exit e a ⟨[], store⟩ (.ok report) after) :
    report.diagnostics = after.reported.length := by
  cases h with
  | nothing houtcome hbundle => rfl
  | stored houtcome hbundle hemission hresult => rfl

/-! ## From the steps of a run to its result -/

/-- What the steps of a run come to, up to the end of its round: a failure or a report, and the
problems that were reported on the way. -/
structure Progress (φ : Type) where
  result : Except φ Report
  reports : List Diagnostic

/-- What a round comes to, as a part of a run. -/
def RoundOutcome.progress {σ φ : Type} (lift : RunError → φ) (outcome : RoundOutcome σ) :
    Progress φ :=
  ⟨outcome.result.mapError lift, outcome.trace.reports⟩

open CommandLine in
/-- How a run ends after its steps. -/
structure Progress.EndsAs {φ : Type} (p : Progress φ) (lift : RunError → φ)
    (result : Except φ Report) : Prop where
  /-- It succeeds just if no step failed and nothing was reported. -/
  ok_iff : ∀ report, result = .ok report ↔ p.result = .ok report ∧ p.reports = []
  clean : ∀ report, result = .ok report → report.diagnostics = 0
  /-- Reported problems fail it with their number, which is the same wherever it is kept and
  whatever became of writing them. -/
  reported : ∀ report, p.result = .ok report → p.reports ≠ [] →
    result = .error (lift (.diagnostics p.reports.length))
      ∧ report.diagnostics = p.reports.length
      ∧ ∀ writes : List (Option String), writes.length = p.reports.length →
        (ErrorStream.reportAll {} (p.reports.zip writes)).reported = p.reports.length
  /-- A failure of one of the steps is the failure of the run. -/
  failed : ∀ failure, p.result = .error failure → result = .error failure

/-- A step that fails before the round fails the run. -/
theorem Progress.EndsAs.of_failure {φ : Type} (lift : RunError → φ) (failure : φ)
    (reports : List Diagnostic) :
    Progress.EndsAs ⟨.error failure, reports⟩ lift (.error failure) where
  ok_iff report := by
    constructor
    · intro h
      cases h
    · rintro ⟨h, -⟩
      cases h
  clean report h := by cases h
  reported report h := by cases h
  failed found h := by
    cases h
    rfl

/-- **The verdict on a round ends the run.** -/
theorem RoundOutcome.progress_endsAs {σ φ : Type} {e : Emitter σ} {a : Assignment} {store : σ}
    {outcome : RoundOutcome σ} (h : round a.settings a.source e store = .ok outcome)
    (lift : RunError → φ) :
    (outcome.progress lift).EndsAs lift ((failOnReports outcome).mapError lift) := by
  have hcounted (report : Report) (hresult : outcome.result = .ok report) :
      report.diagnostics = outcome.trace.reports.length := by
    have hexit := exit_of_round h
    rw [hresult] at hexit
    exact hexit.counted
  have hverdict (report : Report) : (failOnReports outcome).mapError lift = .ok report
      ↔ outcome.result = .ok report ∧ outcome.trace.reports = [] := by
    rw [mapError_eq_ok_iff, failOnReports_eq_ok_iff]
  refine ⟨?_, ?_, ?_, ?_⟩
  · intro report
    rw [hverdict, progress, mapError_eq_ok_iff]
  · intro report hreport
    obtain ⟨hresult, hreports⟩ := (hverdict report).mp hreport
    rw [hcounted report hresult, hreports]
    rfl
  · intro report hresult hreports
    replace hresult := mapError_eq_ok_iff.mp hresult
    refine ⟨?_, hcounted report hresult, ?_⟩
    · rw [failOnReports_of_reported hresult hreports]
      rfl
    · intro writes hwrites
      have hlength : (outcome.trace.reports.zip writes).length = outcome.trace.reports.length := by
        rw [List.length_zip]
        change writes.length = outcome.trace.reports.length at hwrites
        omega
      exact (CommandLine.ErrorStream.reported_reportAll {} _).trans
        (by rw [progress, hlength]; exact Nat.zero_add _)
  · intro failure hfailure
    cases hresult : outcome.result with
    | error reason =>
        rw [progress, hresult] at hfailure
        rw [failOnReports_of_error hresult]
        exact hfailure
    | ok report =>
        rw [progress, hresult] at hfailure
        cases hfailure

/-! ## Runs inside a build -/

namespace BuildScript

attribute [local irreducible] round

/-- What the steps of a run inside a build come to. Nothing is reported before the round. -/
def progress (settings : Settings) (e : Environment) (files : FileTree) :
    Except Halt (Progress RunError) :=
  match inputs e files with
  | .error reason => .ok ⟨.error reason, []⟩
  | .ok (crate, output) =>
    (round settings (fun _ => crate.declarations files) output.emitter files).map
      (RoundOutcome.progress id)

/-- **A run inside a build ends as its steps say**, and it prints all that was reported. -/
theorem run_endsAs (settings : Settings) (e : Environment) (files : FileTree) :
    (∃ halt, progress settings e files = .error halt ∧ run settings e files = .error halt)
      ∨ ∃ p outcome, progress settings e files = .ok p ∧ run settings e files = .ok outcome
        ∧ (∃ hint, outcome.output = hint ++ String.join (p.reports.map warningLine))
        ∧ p.EndsAs id outcome.result := by
  unfold progress run
  cases inputs e files with
  | error reason => exact .inr ⟨_, _, rfl, rfl, ⟨"", rfl⟩, .of_failure id reason []⟩
  | ok found =>
      obtain ⟨crate, output⟩ := found
      dsimp only
      let work : Assignment := ⟨settings, fun _ => crate.declarations files⟩
      cases hround : round work.settings work.source output.emitter files with
      | error halt => exact .inl ⟨halt, rfl, rfl⟩
      | ok outcome =>
          have hends := RoundOutcome.progress_endsAs hround id
          have hid : (failOnReports outcome).mapError id = failOnReports outcome := by
            cases failOnReports outcome with
            | error reason => rfl
            | ok report => rfl
          rw [hid] at hends
          exact .inr ⟨_, _, rfl, rfl, ⟨watchLine crate.directory, rfl⟩, hends⟩

end BuildScript

/-! ## Runs from the command line -/

namespace CommandLine

attribute [local irreducible] round

/-- What a run needs before its round: the package that is picked, and its crate. -/
def preparation (a : Arguments) (workspace : Except WorkspaceError Workspace) :
    Except Failure (Selection × Crate) := do
  let w ← workspace.mapError .workspace
  let s ← (w.select a.package).mapError .selection
  let crate ← (Crate.ofEntry s.entry (conditionsFor a.features)).mapError fun reason =>
    .run (.source reason)
  return (s, crate)

/-- What the steps of a run come to. Nothing is reported before the round. -/
def progress (a : Arguments) (workspace : Except WorkspaceError Workspace) (files : FileTree) :
    Except Halt (Progress Failure) :=
  match preparation a workspace with
  | .error failure => .ok ⟨.error failure, []⟩
  | .ok (s, crate) =>
    let settings := a.overrides.apply s.defaults
    let source := fun _ => crate.declarations files
    if a.check then (round settings source Shelf.emitter {}).map (RoundOutcome.progress .run)
    else (round settings source (outputDirectory a s).emitter files).map
      (RoundOutcome.progress .run)

/-- **A run from the command line ends as its steps say**, and its trace holds all that was
reported. -/
theorem run_endsAs (a : Arguments) (workspace : Except WorkspaceError Workspace)
    (files : FileTree) :
    (∃ halt, progress a workspace files = .error halt ∧ run a workspace files = .error halt)
      ∨ ∃ p outcome, progress a workspace files = .ok p ∧ run a workspace files = .ok outcome
        ∧ outcome.trace.reports = p.reports ∧ p.EndsAs .run outcome.result := by
  unfold progress run preparation
  cases workspace with
  | error reason => exact .inr ⟨_, _, rfl, rfl, rfl, .of_failure _ _ _⟩
  | ok w =>
      dsimp only [Except.mapError, bind, Except.bind]
      cases w.select a.package with
      | error reason => exact .inr ⟨_, _, rfl, rfl, rfl, .of_failure _ _ _⟩
      | ok s =>
          dsimp only
          cases Crate.ofEntry s.entry (conditionsFor a.features) with
          | error reason => exact .inr ⟨_, _, rfl, rfl, rfl, .of_failure _ _ _⟩
          | ok crate =>
              let work : Assignment :=
                ⟨a.overrides.apply s.defaults, fun _ => crate.declarations files⟩
              -- both emitters lead from the outcome of a round to that of the run in one way
              have hends {σ : Type} {e : Emitter σ} {store : σ} {outcome : RoundOutcome σ}
                  (hround : round work.settings work.source e store = .ok outcome)
                  (before : Trace) (after : FileTree) :
                  (outcome.progress .run).EndsAs .run
                    (Outcome.ofRound before after outcome).result := by
                rw [ofRound_result]
                exact RoundOutcome.progress_endsAs hround _
              dsimp only [pure, Except.pure, runRound]
              cases a.check with
              | true =>
                  rw [if_pos rfl, if_pos rfl]
                  cases hround : round work.settings work.source Shelf.emitter {} with
                  | error halt => exact .inl ⟨halt, rfl, rfl⟩
                  | ok outcome =>
                      exact .inr ⟨_, _, rfl, rfl, ofRound_reports _ _ _, hends hround _ _⟩
              | false =>
                  rw [if_neg Bool.false_ne_true, if_neg Bool.false_ne_true]
                  cases hround : round work.settings work.source (outputDirectory a s).emitter
                      files with
                  | error halt => exact .inl ⟨halt, rfl, rfl⟩
                  | ok outcome =>
                      exact .inr ⟨_, _, rfl, rfl, ofRound_reports _ _ _, hends hround _ _⟩

/-- The status of the program is 0 just if its run succeeds. -/
theorem program_code (a : Arguments) (logWish : Option String)
    (workspace : Except WorkspaceError Workspace) (files : FileTree) :
    (∃ halt, run a workspace files = .error halt
        ∧ program a logWish workspace files = .error halt)
      ∨ ∃ outcome ending, run a workspace files = .ok outcome
        ∧ program a logWish workspace files = .ok ending
        ∧ (ending.code = 0 ↔ ∃ report, outcome.result = .ok report) := by
  unfold program
  cases run a workspace files with
  | error halt => exact .inl ⟨halt, rfl, rfl⟩
  | ok outcome =>
      refine .inr ⟨outcome, _, rfl, rfl, ?_⟩
      cases outcome.result with
      | error failure => simp
      | ok report => simp

end CommandLine

/-- **No reported problem ends in success.** Whatever the environment or the arguments, the
description of the workspace and the files are, a run inside a build and a run from the command
line end as `Progress.EndsAs` says. They succeed just if no step failed and nothing was reported,
and then their report counts no problem. If the round succeeded but problems were reported, they
fail with the number of these; any other failure is the failure of a step. The status of the program
is 0 just if its run succeeds. -/
theorem reported_problems_fail :
    (∀ (settings : Settings) (e : Environment) (files : FileTree),
      (∃ halt, BuildScript.progress settings e files = .error halt
          ∧ BuildScript.run settings e files = .error halt)
        ∨ ∃ p outcome, BuildScript.progress settings e files = .ok p
          ∧ BuildScript.run settings e files = .ok outcome
          ∧ (∃ hint, outcome.output = hint ++ String.join (p.reports.map BuildScript.warningLine))
          ∧ p.EndsAs id outcome.result)
    ∧ ∀ (a : CommandLine.Arguments)
        (workspace : Except CommandLine.WorkspaceError CommandLine.Workspace) (files : FileTree),
      (∃ halt, CommandLine.progress a workspace files = .error halt
          ∧ CommandLine.run a workspace files = .error halt
          ∧ ∀ logWish, CommandLine.program a logWish workspace files = .error halt)
        ∨ ∃ p outcome, CommandLine.progress a workspace files = .ok p
          ∧ CommandLine.run a workspace files = .ok outcome
          ∧ outcome.trace.reports = p.reports ∧ p.EndsAs .run outcome.result
          ∧ ∀ logWish, ∃ ending, CommandLine.program a logWish workspace files = .ok ending
            ∧ (ending.code = 0 ↔ ∃ report, outcome.result = .ok report) := by
  refine ⟨BuildScript.run_endsAs, ?_⟩
  intro a workspace files
  rcases CommandLine.run_endsAs a workspace files with
    ⟨halt, hprogress, hrun⟩ | ⟨p, outcome, hprogress, hrun, hreports, hends⟩
  · refine .inl ⟨halt, hprogress, hrun, fun logWish => ?_⟩
    rcases CommandLine.program_code a logWish workspace files with
      ⟨found, hfound, hprogram⟩ | ⟨outcome, _, hfound, -⟩
    · rw [hrun] at hfound
      cases hfound
      exact hprogram
    · rw [hrun] at hfound
      cases hfound
  · refine .inr ⟨p, outcome, hprogress, hrun, hreports, hends, fun logWish => ?_⟩
    rcases CommandLine.program_code a logWish workspace files with
      ⟨halt, hfound, -⟩ | ⟨found, ending, hfound, hprogram, hcode⟩
    · rw [hrun] at hfound
      cases hfound
    · rw [hrun] at hfound
      cases hfound
      exact ⟨ending, hprogram, hcode⟩

end Fieldwise
