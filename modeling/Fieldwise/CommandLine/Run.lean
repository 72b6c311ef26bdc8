import Fieldwise.CommandLine.Arguments
import Fieldwise.CommandLine.ErrorStream
import Fieldwise.CommandLine.LogFilter
import Fieldwise.CommandLine.Workspace

set_option autoImplicit false

/-! # Runs from the command line

`run` does one round for the package that is picked, and `program` is the whole program: what it
prints and the status it ends with. -/

namespace Fieldwise.CommandLine

/-- Why a run from the command line fails. -/
inductive Failure
  | workspace (reason : WorkspaceError)
  | selection (reason : SelectionError)
  | run (reason : RunError)

/-- The reason in words. -/
def Failure.message : Failure → String
  | .workspace reason => "cargo metadata failed: " ++ reason.message
  | .selection reason => reason.message
  | .run reason => reason.message

/-- What came of a run. -/
structure Outcome where
  result : Except Failure Report
  trace : Trace
  files : FileTree

/-- The conditions for a run: those of the machine with the features that are asked for. -/
def conditionsFor (features : List String) : Conditions :=
  features.foldl Conditions.withFeature Conditions.host

/-- The directory that generated files go to. -/
def outputDirectory (a : Arguments) (s : Selection) : OutputDirectory :=
  ⟨a.outDir.getD ((s.targetDirectory.child "stringutil").child "out")⟩

/-- The outcome of a round, as that of a run. -/
def Outcome.ofRound {σ : Type} (before : Trace) (files : FileTree) (outcome : RoundOutcome σ) :
    Outcome where
  result := match failOnReports outcome with
    | .ok report => .ok report
    | .error reason => .error (.run reason)
  trace := before ++ outcome.trace
  files := files

/-- The round for a crate. A check stores nothing in files. -/
def runRound (a : Arguments) (s : Selection) (settings : Settings) (crate : Crate)
    (before : Trace) (files : FileTree) : Except Halt Outcome :=
  let source := fun _ => crate.declarations files
  if a.check then
    match round settings source Shelf.emitter {} with
    | .error halt => .error halt
    | .ok outcome => .ok (.ofRound before files outcome)
  else
    match round settings source (outputDirectory a s).emitter files with
    | .error halt => .error halt
    | .ok outcome => .ok (.ofRound before outcome.store outcome)

/-- Runs one round for the package that is picked. -/
def run (a : Arguments) (workspace : Except WorkspaceError Workspace) (files : FileTree) :
    Except Halt Outcome :=
  match workspace with
  | .error reason => .ok ⟨.error (.workspace reason), [], files⟩
  | .ok w =>
    match w.select a.package with
    | .error reason => .ok ⟨.error (.selection reason), [], files⟩
    | .ok selection =>
      let settings := a.overrides.apply selection.defaults
      let before : Trace :=
        [.event (.settingsResolved selection.package selection.entry.text settings.typeName)]
      match Crate.ofEntry selection.entry (conditionsFor a.features) with
      | .error reason => .ok ⟨.error (.run (.source reason)), before, files⟩
      | .ok crate => runRound a selection settings crate before files

/-! ## The program -/

/-- What the program prints and the status it ends with. -/
structure Ending where
  code : Nat
  errorText : String
  files : FileTree

/-- A notice on the error stream. -/
def noticeText (filter : LogFilter) : Notice → String
  | .event e => if filter.shows e then logLine e ++ "\n" else ""
  | .report d => errorLine d

/-- What the program says last: what it has stored, or why it failed. -/
def closing (filter : LogFilter) : Except Failure Report → String
  | .error failure => "error: " ++ failure.message ++ "\n"
  | .ok report =>
    noticeText filter <| .event <|
      match report.emitted with
      | some emitted => .bundleReady emitted.location.text emitted.functions
      | none => .nothingMarked

/-- The program, for arguments that were read. -/
def program (a : Arguments) (logWish : Option String)
    (workspace : Except WorkspaceError Workspace) (files : FileTree) : Except Halt Ending :=
  match run a workspace files with
  | .error halt => .error halt
  | .ok outcome =>
    let filter := LogFilter.choose logWish a.verbose
    .ok {
      code := match outcome.result with
        | .ok _ => 0
        | .error _ => 1
      errorText := String.join (outcome.trace.map (noticeText filter))
        ++ closing filter outcome.result
      files := outcome.files }

end Fieldwise.CommandLine
