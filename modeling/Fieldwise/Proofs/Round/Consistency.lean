import Fieldwise.Proofs.Emission.Shelves
import Fieldwise.Proofs.Pass.Accounting
import Fieldwise.Proofs.Round.Sessions

set_option autoImplicit false

/-! # Rounds are consistent

`Turn.Consistent` says what a round does by the log of its emitter: what it reports, what it stores
and how it fails. Every exit of a round is consistent (`Exit.consistent`). A round with an emitter
that does not look back does not look back itself (`Session.turn_steady`), and one round keeps a
shelf right (`Exit.holds`). `rounds_consistent` says all this of the rounds of a session.
-/

namespace Fieldwise

/-! ## Consistent rounds -/

/-- What the user is told of a call that failed. -/
def Call.complaint? (call : Call) : Option Diagnostic :=
  match call.result with
  | .ok _ => none
  | .error reason => some ⟨"Couldn't generate class: " ++ reason.message, none, none⟩

@[simp] theorem Call.complaint?_ok (bundle : Bundle) (emitted : Emitted) :
    complaint? ⟨bundle, .ok emitted⟩ = none := rfl

@[simp] theorem Call.complaint?_error (bundle : Bundle) (reason : EmitError) :
    complaint? ⟨bundle, .error reason⟩ = some (.generationFailed reason.message) := rfl

/-- What a round does: it makes `calls` to the emitter and tells the user `added`. -/
structure Turn.Consistent {σ : Type} (t : Turn (Logged σ)) (calls : List Call)
    (added : List Diagnostic) : Prop where
  logged : t.after.store.calls = t.before.store.calls ++ calls
  reported : t.after.reported = t.before.reported ++ added
  /-- Settings that cannot be used are an error, and nothing changes. -/
  settings_iff : ∀ reason, t.result = .error (.settings reason)
    ↔ t.assignment.settings.check = .error reason
  settings_unchanged : ∀ reason, t.result = .error (.settings reason) → t.after = t.before
  /-- So are declarations that cannot be read. -/
  source_iff : ∀ reason, t.result = .error (.source reason)
    ↔ t.assignment.settings.check = .ok () ∧ ∃ findings,
      t.assignment.source () = .ok findings ∧ findings.result = .error reason
  source_unchanged : ∀ reason, t.result = .error (.source reason) → t.after = t.before
  /-- The emitter is called with the bundle of the pass, if there is one. -/
  called_iff : ∀ bundle, calls.map Call.bundle = [bundle]
    ↔ ∃ outcome, t.assignment.outcome? = some outcome ∧ outcome.bundle = some (.ok bundle)
  called_once : calls.length ≤ 1
  uncalled : calls = [] → t.after.store = t.before.store
  /-- The user is told what the pass says, and then of the call if it failed. -/
  added_eq : ∀ outcome, t.assignment.outcome? = some outcome →
    added = outcome.diagnostics ++ calls.filterMap Call.complaint?
  /-- The error of a call that failed is the error of the round. -/
  refused_iff : ∀ reason, t.result = .error (.emit reason)
    ↔ ∃ bundle, calls = [⟨bundle, .error reason⟩]
  /-- A report counts what the user is told, and says what was stored. -/
  counted : ∀ report, t.result = .ok report → report.diagnostics = added.length
  emitted_iff : ∀ report, t.result = .ok report → ∀ emitted, report.emitted = some emitted
    ↔ ∃ bundle, calls = [⟨bundle, .ok emitted⟩]
  /-- There is a report unless one of these errors occurs. -/
  answered : (∃ report, t.result = .ok report)
    ∨ (∃ reason, t.result = .error (.settings reason))
    ∨ (∃ reason, t.result = .error (.source reason)) ∨ ∃ reason, t.result = .error (.emit reason)

section Consistency

attribute [local irreducible] Settings.check pass Session.turn

variable {σ : Type} {e : Emitter σ}

theorem Assignment.outcome?_of_settings {a : Assignment} {reason : SettingsError}
    (hcheck : a.settings.check = .error reason) : a.outcome? = none := by
  rw [Option.eq_none_iff_forall_not_mem]
  intro outcome houtcome
  rw [(outcome?_eq_some_iff.mp houtcome).1] at hcheck
  cases hcheck

/-- A round that comes to its pass has read the declarations. -/
theorem Assignment.source_of_outcome? {a : Assignment} {outcome : PassOutcome}
    (houtcome : a.outcome? = some outcome) (reason : SourceError) :
    ¬ ∃ findings, a.source () = .ok findings ∧ findings.result = .error reason := by
  rintro ⟨findings, hsource, hresult⟩
  obtain ⟨-, found, declarations, hfound, hdeclarations, -⟩ := outcome?_eq_some_iff.mp houtcome
  rw [hsource] at hfound
  cases hfound
  rw [hresult] at hdeclarations
  cases hdeclarations

theorem Assignment.outcome?_of_source {a : Assignment} {findings : Findings} {reason : SourceError}
    (hsource : a.source () = .ok findings) (hresult : findings.result = .error reason) :
    a.outcome? = none := by
  rw [Option.eq_none_iff_forall_not_mem]
  intro outcome houtcome
  exact source_of_outcome? houtcome reason ⟨findings, hsource, hresult⟩

/-- **Every way in which a round ends is consistent.** -/
theorem Exit.consistent {a : Assignment} {s after : Session (Logged σ)}
    {result : Except RunError Report} (h : Exit e.logged a s result after) :
    ∃ calls added, Turn.Consistent ⟨a, s, result, after⟩ calls added := by
  cases h with
  | settings hcheck =>
      have houtcome := Assignment.outcome?_of_settings hcheck
      refine ⟨[], [], ?_⟩
      constructor <;> simp [hcheck, houtcome]
  | source hcheck hsource hresult =>
      have houtcome := Assignment.outcome?_of_source hsource hresult
      refine ⟨[], [], ?_⟩
      constructor <;> simp [hcheck, hsource, hresult, houtcome]
  | @nothing outcome houtcome hbundle =>
      have hcheck := (Assignment.outcome?_eq_some_iff.mp houtcome).1
      have hread := Assignment.source_of_outcome? houtcome
      refine ⟨[], outcome.diagnostics, ?_⟩
      constructor <;> simp [hcheck, hread, houtcome, hbundle]
  | @stored outcome bundle emission emitted houtcome hbundle hemission hresult =>
      have hcheck := (Assignment.outcome?_eq_some_iff.mp houtcome).1
      have hread := Assignment.source_of_outcome? houtcome
      obtain ⟨inner, -, rfl⟩ := Emitter.exists_of_logged hemission
      replace hresult : inner.result = .ok emitted := hresult
      refine ⟨[⟨bundle, .ok emitted⟩], outcome.diagnostics, ?_⟩
      constructor <;> simp [hcheck, hread, houtcome, hbundle, hresult]
  | @refused outcome bundle emission reason houtcome hbundle hemission hresult =>
      have hcheck := (Assignment.outcome?_eq_some_iff.mp houtcome).1
      have hread := Assignment.source_of_outcome? houtcome
      obtain ⟨inner, -, rfl⟩ := Emitter.exists_of_logged hemission
      replace hresult : inner.result = .error reason := hresult
      refine ⟨[⟨bundle, .error reason⟩],
        outcome.diagnostics ++ [.generationFailed reason.message], ?_⟩
      constructor <;> simp [hcheck, hread, houtcome, hbundle, hresult]

end Consistency

/-! ## Emitters that do not look back -/

/-- What comes of a call does not depend on the store. -/
def Emitter.Steady {σ : Type} (e : Emitter σ) : Prop :=
  ∀ bundle store store', (e bundle store).map Emission.result
    = (e bundle store').map Emission.result

section Steadiness

variable {σ : Type} {e : Emitter σ}

theorem Emitter.Steady.ok (he : e.Steady) {bundle : Bundle} {store : σ} {emission : Emission σ}
    (h : e bundle store = .ok emission) (store' : σ) :
    ∃ other, e bundle store' = .ok other ∧ other.result = emission.result := by
  have hsame := he bundle store' store
  rw [h] at hsame
  exact exists_ok_of_map hsame

theorem Emitter.Steady.error (he : e.Steady) {bundle : Bundle} {store : σ} {halt : Halt}
    (h : e bundle store = .error halt) (store' : σ) : e bundle store' = .error halt := by
  have hsame := he bundle store' store
  rw [h] at hsame
  exact eq_error_of_map hsame

theorem Exit.elsewhere {a : Assignment} {s after : Session σ} {result : Except RunError Report}
    (h : Exit e a s result after) (he : e.Steady) (s' : Session σ) :
    ∃ after', Exit e a s' result after' := by
  cases h with
  | settings hcheck => exact ⟨_, .settings hcheck⟩
  | source hcheck hsource hresult => exact ⟨_, .source hcheck hsource hresult⟩
  | nothing houtcome hbundle => exact ⟨_, .nothing houtcome hbundle⟩
  | stored houtcome hbundle hemission hresult =>
      obtain ⟨other, hother, hsame⟩ := he.ok hemission s'.store
      exact ⟨_, .stored houtcome hbundle hother (hsame.trans hresult)⟩
  | refused houtcome hbundle hemission hresult =>
      obtain ⟨other, hother, hsame⟩ := he.ok hemission s'.store
      exact ⟨_, .refused houtcome hbundle hother (hsame.trans hresult)⟩

theorem Stuck.elsewhere {a : Assignment} {store : σ} {halt : Halt} (h : Stuck e a store halt)
    (he : e.Steady) (store' : σ) : Stuck e a store' halt := by
  cases h with
  | source hcheck hsource => exact .source hcheck hsource
  | pass hcheck hsource hresult hpass => exact .pass hcheck hsource hresult hpass
  | emitter houtcome hbundle hemission =>
      exact .emitter houtcome hbundle (he.error hemission store')

/-- **A round does not look back** at what was reported or stored before. -/
theorem Session.turn_steady (he : e.Steady) (a : Assignment) (s s' : Session σ) :
    (s.turn e a).map Turn.result = (s'.turn e a).map Turn.result := by
  rcases exit_or_stuck e a s with ⟨result, after, hexit⟩ | ⟨halt, hstuck⟩
  · obtain ⟨after', hexit'⟩ := hexit.elsewhere he s'
    rw [hexit.turn_eq, hexit'.turn_eq]
    rfl
  · rw [hstuck.turn_eq, (hstuck.elsewhere he s'.store).turn_eq]

end Steadiness

theorem Shelf.emitter_steady : Emitter.Steady Shelf.emitter := by
  intro bundle s s'
  unfold Shelf.emitter
  cases bundle.render with
  | error halt => rfl
  | ok rendered => cases rendered <;> rfl

/-! ## Rounds that share a shelf -/

theorem Shelf.holds_call {bundle : Bundle} {l : Logged Shelf} {emission : Emission (Logged Shelf)}
    (h : Emitter.logged Shelf.emitter bundle l = .ok emission) (hl : l.store.Holds l.stored) :
    emission.store.store.Holds emission.store.stored := by
  obtain ⟨inner, hinner, rfl⟩ := Emitter.exists_of_logged h
  rcases Shelf.emitter_cases hinner with ⟨reason, -, rfl⟩ | ⟨text, hrender, rfl⟩
  · -- a call that failed is in the log, but its bundle is not among those that were stored
    have hstored : Logged.stored ⟨l.store, l.calls ++ [⟨bundle, .error (.render reason)⟩]⟩
        = l.stored := by
      simp [Logged.stored, Except.toOption]
    rw [hstored]
    exact hl
  · have hstored (shelf : Shelf) (emitted : Emitted) :
        Logged.stored ⟨shelf, l.calls ++ [⟨bundle, .ok emitted⟩]⟩ = l.stored ++ [bundle] := by
      simp [Logged.stored, Except.toOption]
    rw [hstored]
    exact hl.insert hrender

/-- **One round keeps a shelf right.** -/
theorem Exit.holds {a : Assignment} {s after : Session (Logged Shelf)}
    {result : Except RunError Report} (h : Exit (Emitter.logged Shelf.emitter) a s result after)
    (hs : s.store.store.Holds s.store.stored) : after.store.store.Holds after.store.stored := by
  cases h with
  | settings hcheck => exact hs
  | source hcheck hsource hresult => exact hs
  | nothing houtcome hbundle => exact hs
  | stored houtcome hbundle hemission hresult => exact Shelf.holds_call hemission hs
  | refused houtcome hbundle hemission hresult => exact Shelf.holds_call hemission hs

/-- **Rounds report, store and fail consistently.** Whatever their settings and sources are, they
follow each other up to one without an answer, and each of them does what `Turn.Consistent` says. On
a shelf the result of a round does not depend on those before it. The last of the bundles that go to
a location is found there, and there is one text for each of the locations. -/
theorem rounds_consistent :
    (∀ (σ : Type) (e : Emitter σ) (start : Session σ) (assignments : List Assignment),
      (start.play e assignments).Follows e start assignments
      ∧ (start.logged.play e.logged assignments).forget = start.play e assignments
      ∧ ∀ t ∈ (start.logged.play e.logged assignments).turns,
        ∃ calls added, t.Consistent calls added)
    ∧ (∀ (a : Assignment) (s s' : Session Shelf),
      (s.turn Shelf.emitter a).map Turn.result = (s'.turn Shelf.emitter a).map Turn.result)
    ∧ ∀ (reported : List Diagnostic) (assignments : List Assignment),
      let start : Session Shelf := ⟨reported, {}⟩
      let shelf := (start.play Shelf.emitter assignments).final.store
      let stored :=
        (start.logged.play (Emitter.logged Shelf.emitter) assignments).final.store.stored
      (∀ b ∈ stored, ∃ text, b.render = .ok (.ok text))
        ∧ (∀ l, shelf.get? l = (bundlesAt l stored).getLast?.bind Bundle.text?)
        ∧ shelf.size = (destinations stored).card := by
  refine ⟨fun σ e start assignments => ⟨start.play_follows e assignments, ?_, ?_⟩,
    Session.turn_steady Shelf.emitter_steady, ?_⟩
  · exact start.logged.play_logged e assignments
  · refine Session.forall_turns (fun s a t hturn => ?_) _ _
    obtain ⟨rfl, rfl, hexit⟩ := Session.exit_of_turn hturn
    exact hexit.consistent
  · intro reported assignments start shelf stored
    have hholds := start.logged.play_invariant (fun s => s.store.store.Holds s.store.stored)
      (fun s a t hturn hs => (Session.exit_of_turn hturn).2.2.holds hs) Shelf.holds_empty
      assignments
    have hshelf : shelf
        = (start.logged.play (Emitter.logged Shelf.emitter) assignments).final.store.store := by
      have hforget := start.logged.play_logged Shelf.emitter assignments
      exact (congrArg (fun p => p.final.store) hforget).symm
    rw [hshelf]
    exact ⟨hholds.rendered, hholds.found, hholds.size_eq⟩

/-- Rounds of every sort: with settings that cannot be used, without declarations, without anything
to store, and two that have something to store at the same place. -/
def mixedRounds : List Assignment :=
  [⟨{ typeName := "not valid" }, fixedSource [markedStruct "User"]⟩,
    ⟨{}, fun _ => .ok ⟨.error (.missingEntry ⟨"src"⟩), []⟩⟩,
    ⟨{}, fixedSource [{ markedStruct "Shape" with kind := .trait }]⟩,
    ⟨{}, fixedSource [markedStruct "User"]⟩,
    ⟨{}, fixedSource [{ markedStruct "Hidden" with visibility := .inherited },
      markedStruct "Order"]⟩]

/-- These rounds with an emitter that stores nothing. -/
def refusedRounds : Play (Logged Unit) :=
  Session.play (Emitter.logged (refusingEmitter "disk full")) (Session.logged ⟨[], ()⟩) mixedRounds

/-- These rounds with a shelf. -/
def shelvedRounds : Play (Logged Shelf) :=
  Session.play (Emitter.logged Shelf.emitter) (Session.logged ⟨[], {}⟩) mixedRounds

/-- The last of these rounds is refused with its own error, and on a shelf it replaces the text of
the one before. -/
theorem mixedRounds_consistent :
    (∃ t ∈ refusedRounds.turns, (∃ calls added, t.Consistent calls added)
      ∧ t.before.reported.map Diagnostic.message
        = ["Classes annotated with #[static_string_util] must not be abstract.",
          "Couldn't generate class: I/O error at model/string_util.rs: disk full"]
      ∧ t.after.reported.map Diagnostic.message
        = ["Classes annotated with #[static_string_util] must not be abstract.",
          "Couldn't generate class: I/O error at model/string_util.rs: disk full",
          "Classes annotated with #[static_string_util] must be public.",
          "Couldn't generate class: I/O error at model/string_util.rs: disk full"])
    ∧ ∃ b ∈ shelvedRounds.final.store.stored, (∃ text, b.render = .ok (.ok text))
      ∧ b.functions.map TextFunction.simpleName = ["Order"]
      ∧ (Session.play Shelf.emitter ⟨[], {}⟩ mixedRounds).final.store.get?
          ⟨"model//string_util.rs"⟩ = b.text?
      ∧ (Session.play Shelf.emitter ⟨[], {}⟩ mixedRounds).final.store.size = 1 := by
  obtain ⟨hrounds, -, hshelf⟩ := rounds_consistent
  constructor
  · obtain ⟨-, -, hconsistent⟩ := hrounds Unit (refusingEmitter "disk full") ⟨[], ()⟩ mixedRounds
    have hview : refusedRounds.turns.getLast?.map (fun t =>
          (t.before.reported.map Diagnostic.message, t.after.reported.map Diagnostic.message))
        = some (["Classes annotated with #[static_string_util] must not be abstract.",
            "Couldn't generate class: I/O error at model/string_util.rs: disk full"],
          ["Classes annotated with #[static_string_util] must not be abstract.",
            "Couldn't generate class: I/O error at model/string_util.rs: disk full",
            "Classes annotated with #[static_string_util] must be public.",
            "Couldn't generate class: I/O error at model/string_util.rs: disk full"]) := by
      decide +kernel
    obtain ⟨t, hlast, hreported⟩ := Option.map_eq_some_iff.mp hview
    obtain ⟨hbefore, hafter⟩ := Prod.mk.inj hreported
    have ht : t ∈ refusedRounds.turns := List.mem_of_getLast? hlast
    exact ⟨t, ht, hconsistent t ht, hbefore, hafter⟩
  · obtain ⟨hrendered, hfound, hsize⟩ := hshelf [] mixedRounds
    have hview : shelvedRounds.final.store.stored.map (fun b =>
          (b.functions.map TextFunction.simpleName, b.relativePath))
        = [(["User"], ⟨"model/string_util.rs"⟩), (["Order"], ⟨"model/string_util.rs"⟩)] := by
      decide +kernel
    have hspelling : Location.components ⟨"model/string_util.rs"⟩
        = Location.components ⟨"model//string_util.rs"⟩ := by
      decide +kernel
    change ∀ b ∈ shelvedRounds.final.store.stored, _ at hrendered
    change _ = (destinations shelvedRounds.final.store.stored).card at hsize
    have hat := hfound ⟨"model//string_util.rs"⟩
    change _ = (bundlesAt _ shelvedRounds.final.store.stored).getLast?.bind _ at hat
    generalize shelvedRounds.final.store.stored = stored at hrendered hat hsize hview ⊢
    -- two bundles were stored, both at the location that `hspelling` spells in another way
    obtain ⟨first, later, rfl, hfirst, hlater⟩ := List.map_eq_cons_iff.mp hview
    obtain ⟨last, rest, rfl, hlast, hrest⟩ := List.map_eq_cons_iff.mp hlater
    obtain rfl := List.map_eq_nil_iff.mp hrest
    obtain ⟨-, hfirst⟩ := Prod.mk.inj hfirst
    obtain ⟨hnames, hlast⟩ := Prod.mk.inj hlast
    refine ⟨last, by simp, hrendered last (by simp), hnames, ?_, ?_⟩
    · rw [hat, bundlesAt, List.filter_eq_self.mpr (by simp [hfirst, hlast, hspelling])]
      rfl
    · rw [hsize, destinations]
      simp [hfirst, hlast]

end Fieldwise
