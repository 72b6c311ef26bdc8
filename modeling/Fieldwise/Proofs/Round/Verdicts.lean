import Fieldwise.CommandLine.Run
import Fieldwise.Proofs.Round.Sessions

set_option autoImplicit false

/-! # The verdict on a round

A run ends with the error of its round, with the number of problems that were reported, or with the
report of its round: `failOnReports` tells these three apart. A run from the command line wraps the
errors and adds what was said before the round (`CommandLine.Outcome.ofRound`). -/

namespace Fieldwise

theorem mapError_eq_ok_iff {ε φ α : Type} {x : Except ε α} {f : ε → φ} {a : α} :
    x.mapError f = .ok a ↔ x = .ok a := by
  cases x with
  | error e =>
      constructor
      · intro h
        cases h
      · intro h
        cases h
  | ok b =>
      constructor
      · intro h
        cases h
        rfl
      · intro h
        cases h
        rfl

variable {σ : Type} {outcome : RoundOutcome σ} {report : Report}

theorem failOnReports_of_error {reason : RunError} (h : outcome.result = .error reason) :
    failOnReports outcome = .error reason := by
  unfold failOnReports
  rw [h]

theorem failOnReports_of_reported (h : outcome.result = .ok report)
    (hreports : outcome.trace.reports ≠ []) :
    failOnReports outcome = .error (.diagnostics outcome.trace.reports.length) := by
  have hcount : outcome.trace.reports.length > 0 := List.length_pos_iff.mpr hreports
  unfold failOnReports
  rw [h]
  exact if_pos hcount

theorem failOnReports_of_clean (h : outcome.result = .ok report)
    (hreports : outcome.trace.reports = []) : failOnReports outcome = .ok report := by
  unfold failOnReports
  rw [h, hreports]
  rfl

/-- A run succeeds just if its round does and nothing was reported. -/
theorem failOnReports_eq_ok_iff :
    failOnReports outcome = .ok report
      ↔ outcome.result = .ok report ∧ outcome.trace.reports = [] := by
  constructor
  · intro h
    cases hresult : outcome.result with
    | error reason =>
        rw [failOnReports_of_error hresult] at h
        cases h
    | ok found =>
        by_cases hreports : outcome.trace.reports = []
        · rw [failOnReports_of_clean hresult hreports] at h
          cases h
          exact ⟨rfl, hreports⟩
        · rw [failOnReports_of_reported hresult hreports] at h
          cases h
  · rintro ⟨hresult, hreports⟩
    exact failOnReports_of_clean hresult hreports

/-- It fails with the error of its round, or with the number of problems that were reported. -/
theorem failOnReports_eq_error {reason : RunError} (h : failOnReports outcome = .error reason) :
    outcome.result = .error reason ∨ reason = .diagnostics outcome.trace.reports.length := by
  cases hresult : outcome.result with
  | error found =>
      rw [failOnReports_of_error hresult] at h
      exact .inl h
  | ok report =>
      by_cases hreports : outcome.trace.reports = []
      · rw [failOnReports_of_clean hresult hreports] at h
        cases h
      · rw [failOnReports_of_reported hresult hreports] at h
        exact .inr (Except.error.inj h).symm

namespace CommandLine

theorem ofRound_result (before : Trace) (files : FileTree) (outcome : RoundOutcome σ) :
    (Outcome.ofRound before files outcome).result = (failOnReports outcome).mapError .run := by
  unfold Outcome.ofRound
  cases failOnReports outcome with
  | error reason => rfl
  | ok report => rfl

theorem ofRound_reports (before : Trace) (files : FileTree) (outcome : RoundOutcome σ) :
    (Outcome.ofRound before files outcome).trace.reports
      = before.reports ++ outcome.trace.reports :=
  Trace.reports_append before outcome.trace

end CommandLine

end Fieldwise
