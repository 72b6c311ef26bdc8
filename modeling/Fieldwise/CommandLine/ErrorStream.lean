import Fieldwise.Round

set_option autoImplicit false

/-! # Reporting on the error stream

Problems are written to the error stream, one after the other, and counted. A problem that
cannot be written counts all the same, and the log says that it was lost. A problem is written as a
whole or not at all. -/

namespace Fieldwise.CommandLine

/-- What was written to the error stream, how many problems were reported, and what the log says
of them. -/
structure ErrorStream where
  written : String := ""
  reported : Nat := 0
  events : List Event := []
  deriving DecidableEq, Repr

/-- A problem as it is written. -/
def errorLine (d : Diagnostic) : String := "error: " ++ d.text ++ "\n"

namespace ErrorStream

/-- Reports a problem. Writing it may fail for a reason; then nothing of its line is written. -/
def report (s : ErrorStream) (failure : Option String) (d : Diagnostic) : ErrorStream :=
  match failure with
  | none => { s with written := s.written ++ errorLine d, reported := s.reported + 1 }
  | some reason =>
    { s with reported := s.reported + 1, events := s.events ++ [.messageLost reason] }

/-- Reports problems, each of which may fail to be written. -/
def reportAll (s : ErrorStream) (problems : List (Diagnostic × Option String)) : ErrorStream :=
  problems.foldl (fun s (d, failure) => s.report failure d) s

end ErrorStream

end Fieldwise.CommandLine
