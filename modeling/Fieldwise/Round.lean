import Fieldwise.Discovery.Crate
import Fieldwise.Emission
import Fieldwise.Pass

set_option autoImplicit false

/-! # Rounds

A round checks the settings, takes the declarations, runs a pass over them, tells the user what
is wrong and stores the bundle. All that it says along the way, to the log and to the user, is
its *trace*, in order. -/

namespace Fieldwise

/-- Something that a round says: to the log, or to the user. -/
inductive Notice
  | event (e : Event)
  | report (d : Diagnostic)
  deriving DecidableEq, Repr

/-- All that a round says. -/
abbrev Trace := List Notice

namespace Trace

/-- What is said to the log. -/
def events (t : Trace) : List Event :=
  t.filterMap fun | .event e => some e | .report _ => none

/-- What is said to the user. -/
def reports (t : Trace) : List Diagnostic :=
  t.filterMap fun | .event _ => none | .report d => some d

/-- The trace of events alone. -/
def ofEvents (events : List Event) : Trace := events.map .event

/-- The trace of reports alone. -/
def ofReports (reports : List Diagnostic) : Trace := reports.map .report

end Trace

/-- Why a run fails. -/
inductive RunError
  | settings (reason : SettingsError)
  | source (reason : SourceError)
  | emit (reason : EmitError)
  /-- A variable that a build sets is missing. -/
  | environment (name : String)
  /-- So many problems were reported to the user. -/
  | diagnostics (count : Nat)
  deriving DecidableEq, Repr

/-- The reason in words. -/
def RunError.message : RunError → String
  | .settings reason => reason.message
  | .source reason => reason.message
  | .emit reason => reason.message
  | .environment name =>
    "environment variable " ++ name ++ " is not set; run from a Cargo build script"
  | .diagnostics count => "static_string_util reported " ++ toString count ++ " error(s)"

/-- The result of a round: what was stored and how many problems were reported. -/
structure Report where
  emitted : Option Emitted
  diagnostics : Nat
  deriving DecidableEq, Repr

/-- Whether no problem was reported. -/
def Report.isClean (r : Report) : Bool := r.diagnostics == 0

/-- What came of a round. -/
structure RoundOutcome (σ : Type) where
  result : Except RunError Report
  trace : Trace
  store : σ

/-- Stores the bundle of a pass after its problems were reported. -/
def PassOutcome.settle {σ : Type} (p : PassOutcome) (emitter : Emitter σ) (store : σ) :
    Except Halt (RoundOutcome σ) :=
  let said := Trace.ofEvents p.events ++ Trace.ofReports p.diagnostics
  match p.bundle with
  | some (.ok bundle) =>
    match emitter bundle store with
    | .error halt => .error halt
    | .ok emission =>
      let said := said ++ Trace.ofEvents emission.events
      match emission.result with
      | .ok emitted => .ok ⟨.ok ⟨some emitted, p.diagnostics.length⟩, said, emission.store⟩
      | .error reason =>
        .ok ⟨.error (.emit reason), said ++ [.report (.generationFailed reason.message)],
          emission.store⟩
  | _ => .ok ⟨.ok ⟨none, p.diagnostics.length⟩, said, store⟩

/-- Runs a round. The source is only asked if the settings can be used. -/
def round {σ : Type} (settings : Settings) (source : Unit → Except Halt Findings)
    (emitter : Emitter σ) (store : σ) : Except Halt (RoundOutcome σ) :=
  match settings.check with
  | .error reason => .ok ⟨.error (.settings reason), [], store⟩
  | .ok () =>
    match source () with
    | .error halt => .error halt
    | .ok findings =>
      let said := Trace.ofEvents findings.events
      match findings.result with
      | .error reason => .ok ⟨.error (.source reason), said, store⟩
      | .ok declarations =>
        match pass settings declarations with
        | .error halt => .error halt
        | .ok outcome =>
          match outcome.settle emitter store with
          | .error halt => .error halt
          | .ok settled => .ok { settled with trace := said ++ settled.trace }

/-- The problems that the user is told of in a round, also if it ends without an answer. Then they
are those of its pass, if it comes so far: they are told before the bundle is stored. -/
def roundReports {σ : Type} (settings : Settings) (source : Unit → Except Halt Findings)
    (emitter : Emitter σ) (store : σ) : List Diagnostic :=
  match round settings source emitter store with
  | .ok outcome => outcome.trace.reports
  | .error _ =>
    match source () with
    | .ok ⟨.ok declarations, _⟩ =>
      match pass settings declarations with
      | .ok outcome => outcome.diagnostics
      | .error _ => []
    | _ => []

/-- A source of declarations that are known beforehand. -/
def fixedSource (declarations : List Declaration) : Unit → Except Halt Findings :=
  fun _ => .ok ⟨.ok declarations, []⟩

/-- The result of a run from that of its round: any reported problem fails the run. -/
def failOnReports {σ : Type} (outcome : RoundOutcome σ) : Except RunError Report :=
  match outcome.result with
  | .error reason => .error reason
  | .ok report =>
    let count := outcome.trace.reports.length
    if count > 0 then .error (.diagnostics count) else .ok report

end Fieldwise
