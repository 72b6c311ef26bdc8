import Fieldwise.Diagnostic
import Fieldwise.Event

set_option autoImplicit false

/-! # Candidates

The declarations that carry the marker are candidates. Each is judged on its own: it must be
visible to everyone, then it must not be a trait, then it must be possible to describe it. Those
that pass form the batch, every other candidate gets one diagnostic. -/

namespace Fieldwise

/-- Whether a candidate may be used, or else what to tell the user. -/
inductive Verdict
  | accepted
  | rejected (diagnostic : Diagnostic)
  deriving DecidableEq, Repr

/-- Whether a verdict is in favour. -/
def Verdict.isAccepted : Verdict → Bool
  | .accepted => true
  | .rejected _ => false

/-- The declarations that carry the marker, in order. -/
def candidates (marker : String) (declarations : List Declaration) : List Declaration :=
  declarations.filter fun d => d.hasAttribute marker

/-- Judges a candidate; the first rule that it breaks decides. -/
def judge (marker : String) (d : Declaration) : Verdict :=
  if d.visibility ≠ .unrestricted then .rejected (.notPublic marker d)
  else if d.kind.isAbstract then .rejected (.isAbstract marker d)
  else .accepted

/-- A batch with what was said while it was collected. -/
structure Collection where
  batch : Batch := []
  diagnostics : List Diagnostic := []
  events : List Event := []
  deriving DecidableEq, Repr

namespace Collection

/-- What one candidate adds. -/
def ofCandidate (marker : String) (d : Declaration) : Collection :=
  match judge marker d with
  | .rejected diagnostic =>
    { diagnostics := [diagnostic], events := [.candidateRejected d.qualifiedName] }
  | .accepted =>
    match d.describe with
    | .ok marked => { batch := [marked] }
    | .error reason => { diagnostics := [.processFailed d reason.message] }

/-- One collection after another. -/
def append (a b : Collection) : Collection :=
  ⟨a.batch ++ b.batch, a.diagnostics ++ b.diagnostics, a.events ++ b.events⟩

instance : Append Collection := ⟨append⟩

/-- What a list of candidates adds. -/
def ofCandidates (marker : String) : List Declaration → Collection
  | [] => {}
  | d :: rest => ofCandidate marker d ++ ofCandidates marker rest

end Collection

/-- Judges all candidates among the declarations. -/
def collect (marker : String) (declarations : List Declaration) : Collection :=
  Collection.ofCandidates marker (candidates marker declarations)

end Fieldwise
