import Fieldwise.Round

set_option autoImplicit false

/-! # Runs inside a build

A build tells by its environment which package is built and where generated files go. It reads
standard output line by line: a line names the directory whose change makes another run
necessary, and each problem is a line of its own. -/

namespace Fieldwise.BuildScript

/-- What came of a run inside a build. -/
structure Outcome where
  result : Except RunError Report
  /-- What is printed. -/
  output : String
  events : List Event
  files : FileTree

/-- The line that names a directory to watch. -/
def watchLine (directory : Location) : String :=
  "cargo:rerun-if-changed=" ++ directory.text ++ "\n"

/-- A text on one line. -/
def onOneLine (text : String) : String :=
  String.ofList (text.toList.map fun c => if c = '\n' then ' ' else c)

/-- The line for a problem. -/
def warningLine (d : Diagnostic) : String :=
  "cargo:warning=error: " ++ onOneLine d.text ++ "\n"

/-- The line for the directory to watch, and those for problems. -/
def printedLines (directory : Location) (reports : List Diagnostic) : String :=
  watchLine directory ++ String.join (reports.map warningLine)

/-- A variable of the environment, as a location. -/
def variableLocation (e : Environment) (name : String) : Except RunError Location :=
  match e.get? name with
  | some text => .ok ⟨text⟩
  | none => .error (.environment name)

/-- The crate that is built and the directory for generated files. -/
def inputs (e : Environment) (files : FileTree) : Except RunError (Crate × OutputDirectory) := do
  let package ← variableLocation e "CARGO_MANIFEST_DIR"
  let output ← variableLocation e "OUT_DIR"
  match Crate.ofPackage files package (Conditions.current e) with
  | .ok crate => .ok (crate, ⟨output⟩)
  | .error reason => .error (.source reason)

/-- Runs one round for the package that is built. -/
def run (settings : Settings) (e : Environment) (files : FileTree) : Except Halt Outcome :=
  match inputs e files with
  | .error reason => .ok ⟨.error reason, "", [], files⟩
  | .ok (crate, output) =>
    match round settings (fun _ => crate.declarations files) output.emitter files with
    | .error halt => .error halt
    | .ok outcome =>
      .ok {
        result := failOnReports outcome
        output := printedLines crate.directory outcome.trace.reports
        events := outcome.trace.events
        files := outcome.store }

/-- What a run prints, also if it ends without an answer. -/
def printed (settings : Settings) (e : Environment) (files : FileTree) : String :=
  match inputs e files with
  | .error _ => ""
  | .ok (crate, output) =>
    printedLines crate.directory
      (roundReports settings (fun _ => crate.declarations files) output.emitter files)

end Fieldwise.BuildScript
