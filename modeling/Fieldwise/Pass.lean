import Fieldwise.Bundle.Basic
import Fieldwise.Candidate

set_option autoImplicit false

/-! # A pass over declarations

A pass collects the candidates among the declarations of a crate and generates the bundle for
those that can be used. Without any there is no bundle. If generating fails, one more diagnostic
says so, at the type that is to blame. -/

namespace Fieldwise

/-- What came of a pass. -/
structure PassOutcome where
  /-- The bundle, why there is none, or nothing if no candidate can be used. -/
  bundle : Option (Except GenerateError Bundle)
  diagnostics : List Diagnostic
  events : List Event

/-- What to tell the user when a batch gives no bundle. -/
def Batch.blame (batch : Batch) (reason : GenerateError) : Diagnostic :=
  let culprit := reason.culprit?.bind fun name =>
    List.find? (fun (m : Marked) => m.qualifiedName == name) batch
  match culprit with
  | some marked => .generationFailedAt marked reason.message
  | none => .generationFailed reason.message

/-- Runs a pass. -/
def pass (settings : Settings) (declarations : List Declaration) : Except Halt PassOutcome :=
  let collected := collect settings.marker declarations
  if collected.batch.isEmpty then .ok ⟨none, collected.diagnostics, collected.events⟩
  else
    match collected.batch.generate settings with
    | .error halt => .error halt
    | .ok generation =>
      let blamed := match generation.result with
        | .ok _ => []
        | .error reason => [collected.batch.blame reason]
      .ok {
        bundle := some generation.result
        diagnostics := collected.diagnostics ++ blamed
        events := collected.events ++ .generating collected.batch.length :: generation.events }

end Fieldwise
