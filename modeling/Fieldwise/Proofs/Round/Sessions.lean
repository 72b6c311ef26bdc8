import Fieldwise.Round

set_option autoImplicit false

/-! # Rounds in a row

In a session, rounds follow each other: each has its own settings and its own source, and all of
them share what was reported so far and the store. `Exit` lists the ways in which a round ends with
an answer, `Stuck` those in which it ends without one, and by `exit_or_stuck` there are no others.
All that is said of rounds is read off these ways, and carried over to all the rounds of a session
by `Session.play_invariant` and `Session.forall_turns`.

An emitter can keep a log of its calls (`Emitter.logged`). By `Session.play_logged` that changes
nothing else, so the log tells which calls the rounds of a session make.
-/

namespace Fieldwise

namespace Trace

@[simp] theorem reports_append (a b : Trace) : reports (a ++ b) = reports a ++ reports b :=
  List.filterMap_append

@[simp] theorem reports_ofEvents (events : List Event) : reports (ofEvents events) = [] := by
  induction events with
  | nil => rfl
  | cons e rest ih => exact ih

@[simp] theorem reports_ofReports (ds : List Diagnostic) : reports (ofReports ds) = ds := by
  induction ds with
  | nil => rfl
  | cons d rest ih => exact congrArg (d :: ·) ih

@[simp] theorem reports_nil : reports [] = [] := rfl

@[simp] theorem reports_singleton (d : Diagnostic) : reports [.report d] = [d] := rfl

end Trace

theorem exists_ok_of_map {ε α β : Type} {x : Except ε α} {f : α → β} {b : β}
    (h : x.map f = .ok b) : ∃ a, x = .ok a ∧ f a = b := by
  cases x with
  | error e => cases h
  | ok a => exact ⟨a, rfl, Except.ok.inj h⟩

theorem eq_error_of_map {ε α β : Type} {x : Except ε α} {f : α → β} {e : ε}
    (h : x.map f = .error e) : x = .error e := by
  cases x with
  | error found => exact congrArg Except.error (Except.error.inj h)
  | ok a => cases h

/-! ## Sessions -/

/-- What a round is given: its settings and its source. -/
structure Assignment where
  settings : Settings
  source : Unit → Except Halt Findings

/-- What the pass of a round comes to, if the round gets that far. -/
def Assignment.outcome? (a : Assignment) : Option PassOutcome :=
  match a.settings.check, a.source () with
  | .ok (), .ok ⟨.ok declarations, _⟩ => (pass a.settings declarations).toOption
  | _, _ => none

/-- What rounds share: all that was reported so far, and the store. -/
structure Session (σ : Type) where
  reported : List Diagnostic
  store : σ

/-- A round of a session that has an answer. -/
structure Turn (σ : Type) where
  assignment : Assignment
  before : Session σ
  result : Except RunError Report
  after : Session σ

/-- Rounds that followed each other, up to one without an answer. -/
structure Play (σ : Type) where
  turns : List (Turn σ)
  final : Session σ
  halt? : Option Halt

namespace Session

variable {σ : Type}

/-- Runs a round in a session. -/
def turn (e : Emitter σ) (s : Session σ) (a : Assignment) : Except Halt (Turn σ) :=
  match round a.settings a.source e s.store with
  | .error halt => .error halt
  | .ok outcome =>
    .ok ⟨a, s, outcome.result, ⟨s.reported ++ outcome.trace.reports, outcome.store⟩⟩

/-- Runs rounds in a session, one after the other. -/
def play (e : Emitter σ) (s : Session σ) : List Assignment → Play σ
  | [] => ⟨[], s, none⟩
  | a :: rest =>
    match s.turn e a with
    | .error halt => ⟨[], s, some halt⟩
    | .ok t =>
      let later := t.after.play e rest
      ⟨t :: later.turns, later.final, later.halt?⟩

end Session

/-! ## One round -/

section OneRound

-- what a round is made of is not for unification to try
attribute [local irreducible] Settings.check pass

theorem Assignment.outcome?_eq_some_iff {a : Assignment} {outcome : PassOutcome} :
    a.outcome? = some outcome ↔ a.settings.check = .ok () ∧ ∃ findings declarations,
      a.source () = .ok findings ∧ findings.result = .ok declarations
        ∧ pass a.settings declarations = .ok outcome := by
  constructor
  · intro h
    unfold outcome? at h
    split at h
    · rename_i declarations events hcheck hsource
      refine ⟨hcheck, _, declarations, hsource, rfl, ?_⟩
      cases hpass : pass a.settings declarations with
      | error halt =>
          rw [hpass] at h
          cases h
      | ok found =>
          rw [hpass] at h
          cases h
          rfl
    · cases h
  · rintro ⟨hcheck, ⟨result, events⟩, declarations, hsource, rfl, hpass⟩
    unfold outcome?
    simp only [hcheck, hsource, hpass, Except.toOption]

variable {σ : Type} {e : Emitter σ} {a : Assignment} {s : Session σ}

/-- The ways in which a round ends with an answer: its result and the session after it. -/
inductive Exit (e : Emitter σ) (a : Assignment) (s : Session σ) :
    Except RunError Report → Session σ → Prop
  /-- The settings cannot be used. -/
  | settings {reason : SettingsError} (hcheck : a.settings.check = .error reason) :
    Exit e a s (.error (.settings reason)) s
  /-- The declarations cannot be read. -/
  | source {findings : Findings} {reason : SourceError} (hcheck : a.settings.check = .ok ())
    (hsource : a.source () = .ok findings) (hresult : findings.result = .error reason) :
    Exit e a s (.error (.source reason)) s
  /-- There is no bundle. -/
  | nothing {outcome : PassOutcome} (houtcome : a.outcome? = some outcome)
    (hbundle : ∀ bundle, outcome.bundle ≠ some (.ok bundle)) :
    Exit e a s (.ok ⟨none, outcome.diagnostics.length⟩)
      ⟨s.reported ++ outcome.diagnostics, s.store⟩
  /-- The bundle is stored. -/
  | stored {outcome : PassOutcome} {bundle : Bundle} {emission : Emission σ} {emitted : Emitted}
    (houtcome : a.outcome? = some outcome) (hbundle : outcome.bundle = some (.ok bundle))
    (hemission : e bundle s.store = .ok emission) (hresult : emission.result = .ok emitted) :
    Exit e a s (.ok ⟨some emitted, outcome.diagnostics.length⟩)
      ⟨s.reported ++ outcome.diagnostics, emission.store⟩
  /-- The bundle is not stored. -/
  | refused {outcome : PassOutcome} {bundle : Bundle} {emission : Emission σ} {reason : EmitError}
    (houtcome : a.outcome? = some outcome) (hbundle : outcome.bundle = some (.ok bundle))
    (hemission : e bundle s.store = .ok emission) (hresult : emission.result = .error reason) :
    Exit e a s (.error (.emit reason))
      ⟨s.reported ++ (outcome.diagnostics ++ [.generationFailed reason.message]), emission.store⟩

/-- The ways in which a round has no answer: its source, its pass or the emitter has none. -/
inductive Stuck (e : Emitter σ) (a : Assignment) (store : σ) : Halt → Prop
  | source {halt : Halt} (hcheck : a.settings.check = .ok ())
    (hsource : a.source () = .error halt) : Stuck e a store halt
  | pass {halt : Halt} {findings : Findings} {declarations : List Declaration}
    (hcheck : a.settings.check = .ok ()) (hsource : a.source () = .ok findings)
    (hresult : findings.result = .ok declarations)
    (hpass : pass a.settings declarations = .error halt) : Stuck e a store halt
  | emitter {halt : Halt} {outcome : PassOutcome} {bundle : Bundle}
    (houtcome : a.outcome? = some outcome) (hbundle : outcome.bundle = some (.ok bundle))
    (hemission : e bundle store = .error halt) : Stuck e a store halt

/-- A round that comes to its pass does what storing its bundle does. -/
theorem Session.turn_of_outcome {outcome : PassOutcome} (h : a.outcome? = some outcome) :
    s.turn e a = match outcome.settle e s.store with
      | .error halt => .error halt
      | .ok settled => .ok ⟨a, s, settled.result,
          ⟨s.reported ++ Trace.reports settled.trace, settled.store⟩⟩ := by
  obtain ⟨hcheck, findings, declarations, hsource, hresult, hpass⟩ :=
    Assignment.outcome?_eq_some_iff.mp h
  unfold turn round
  simp only [hcheck, hsource, hresult, hpass]
  cases outcome.settle e s.store with
  | error halt => rfl
  | ok settled => simp

/-- Without a bundle there is nothing to store. -/
theorem PassOutcome.settle_of_no_bundle {outcome : PassOutcome}
    (h : ∀ bundle, outcome.bundle ≠ some (.ok bundle)) (store : σ) :
    outcome.settle e store = .ok ⟨.ok ⟨none, outcome.diagnostics.length⟩,
      Trace.ofEvents outcome.events ++ Trace.ofReports outcome.diagnostics, store⟩ := by
  unfold settle
  dsimp only
  split
  · rename_i bundle hbundle
    exact absurd hbundle (h bundle)
  · rfl

theorem Exit.turn_eq {result : Except RunError Report} {after : Session σ}
    (h : Exit e a s result after) : s.turn e a = .ok ⟨a, s, result, after⟩ := by
  cases h with
  | settings hcheck =>
      unfold Session.turn round
      simp [hcheck]
  | source hcheck hsource hresult =>
      unfold Session.turn round
      simp [hcheck, hsource, hresult]
  | nothing houtcome hbundle =>
      rw [Session.turn_of_outcome houtcome, PassOutcome.settle_of_no_bundle hbundle]
      simp
  | stored houtcome hbundle hemission hresult =>
      rw [Session.turn_of_outcome houtcome]
      simp [PassOutcome.settle, hbundle, hemission, hresult]
  | refused houtcome hbundle hemission hresult =>
      rw [Session.turn_of_outcome houtcome]
      simp [PassOutcome.settle, hbundle, hemission, hresult]

theorem Stuck.turn_eq {halt : Halt} (h : Stuck e a s.store halt) : s.turn e a = .error halt := by
  cases h with
  | source hcheck hsource =>
      unfold Session.turn round
      simp [hcheck, hsource]
  | pass hcheck hsource hresult hpass =>
      unfold Session.turn round
      simp [hcheck, hsource, hresult, hpass]
  | emitter houtcome hbundle hemission =>
      rw [Session.turn_of_outcome houtcome]
      simp [PassOutcome.settle, hbundle, hemission]

/-- A round ends in one of the ways of `Exit` or of `Stuck`. -/
theorem exit_or_stuck (e : Emitter σ) (a : Assignment) (s : Session σ) :
    (∃ result after, Exit e a s result after) ∨ ∃ halt, Stuck e a s.store halt := by
  cases hcheck : a.settings.check with
  | error reason => exact .inl ⟨_, _, .settings hcheck⟩
  | ok _ =>
      cases hsource : a.source () with
      | error halt => exact .inr ⟨_, .source hcheck hsource⟩
      | ok findings =>
          cases hresult : findings.result with
          | error reason => exact .inl ⟨_, _, .source hcheck hsource hresult⟩
          | ok declarations =>
              cases hpass : pass a.settings declarations with
              | error halt => exact .inr ⟨_, .pass hcheck hsource hresult hpass⟩
              | ok outcome =>
                  have houtcome : a.outcome? = some outcome :=
                    Assignment.outcome?_eq_some_iff.mpr
                      ⟨hcheck, findings, declarations, hsource, hresult, hpass⟩
                  by_cases hbundle : ∃ bundle, outcome.bundle = some (.ok bundle)
                  · obtain ⟨bundle, hbundle⟩ := hbundle
                    cases hemission : e bundle s.store with
                    | error halt => exact .inr ⟨_, .emitter houtcome hbundle hemission⟩
                    | ok emission =>
                        cases hresult : emission.result with
                        | ok emitted =>
                            exact .inl ⟨_, _, .stored houtcome hbundle hemission hresult⟩
                        | error reason =>
                            exact .inl ⟨_, _, .refused houtcome hbundle hemission hresult⟩
                  · exact .inl ⟨_, _, .nothing houtcome (not_exists.mp hbundle)⟩

/-- **All that a round can do.** -/
theorem Session.exit_of_turn {t : Turn σ} (h : s.turn e a = .ok t) :
    t.assignment = a ∧ t.before = s ∧ Exit e a s t.result t.after := by
  rcases exit_or_stuck e a s with ⟨result, after, hexit⟩ | ⟨halt, hstuck⟩
  · rw [hexit.turn_eq] at h
    cases h
    exact ⟨rfl, rfl, hexit⟩
  · rw [hstuck.turn_eq] at h
    cases h

theorem Session.stuck_of_turn {halt : Halt} (h : s.turn e a = .error halt) :
    Stuck e a s.store halt := by
  rcases exit_or_stuck e a s with ⟨result, after, hexit⟩ | ⟨found, hstuck⟩
  · rw [hexit.turn_eq] at h
    cases h
  · rw [hstuck.turn_eq] at h
    cases h
    exact hstuck

/-- A round by itself is a round of a session in which nothing was reported before. -/
theorem Session.turn_of_round (store : σ) :
    Session.turn e ⟨[], store⟩ a = (round a.settings a.source e store).map fun outcome =>
      ⟨a, ⟨[], store⟩, outcome.result, ⟨outcome.trace.reports, outcome.store⟩⟩ := by
  unfold turn
  cases round a.settings a.source e store with
  | error halt => rfl
  | ok outcome => rfl

theorem exit_of_round {store : σ} {outcome : RoundOutcome σ}
    (h : round a.settings a.source e store = .ok outcome) :
    Exit e a ⟨[], store⟩ outcome.result ⟨outcome.trace.reports, outcome.store⟩ := by
  have hturn := Session.turn_of_round (e := e) (a := a) store
  rw [h] at hturn
  obtain ⟨-, -, hexit⟩ := Session.exit_of_turn hturn
  exact hexit

theorem Exit.exists_round {store : σ} {result : Except RunError Report} {after : Session σ}
    (h : Exit e a ⟨[], store⟩ result after) :
    ∃ outcome, round a.settings a.source e store = .ok outcome ∧ outcome.result = result
      ∧ outcome.trace.reports = after.reported ∧ outcome.store = after.store := by
  have hturn := h.turn_eq
  rw [Session.turn_of_round] at hturn
  obtain ⟨outcome, hround, houtcome⟩ := exists_ok_of_map hturn
  cases houtcome
  exact ⟨outcome, hround, rfl, rfl, rfl⟩

/-- A round whose bundle is not stored reports that after the problems of its pass. -/
theorem Exit.reports_of_refused {store : σ} {reason : EmitError} {after : Session σ}
    (h : Exit e a ⟨[], store⟩ (.error (.emit reason)) after) :
    ∃ p, a.outcome? = some p
      ∧ after.reported = p.diagnostics ++ [.generationFailed reason.message] := by
  cases h with
  | refused houtcome hbundle hemission hresult => exact ⟨_, houtcome, rfl⟩

theorem stuck_iff_round {store : σ} {halt : Halt} :
    Stuck e a store halt ↔ round a.settings a.source e store = .error halt := by
  constructor
  · intro hstuck
    have hturn := Stuck.turn_eq (s := ⟨[], store⟩) hstuck
    rw [Session.turn_of_round] at hturn
    exact eq_error_of_map hturn
  · intro hround
    have hturn := Session.turn_of_round (e := e) (a := a) store
    rw [hround] at hturn
    exact Session.stuck_of_turn hturn

/-- The problems that were told before a round got stuck are those of its pass, if it came so
far. -/
theorem Stuck.roundReports_eq {store : σ} {halt : Halt} (h : Stuck e a store halt) :
    roundReports a.settings a.source e store
      = (a.outcome?.map PassOutcome.diagnostics).getD [] := by
  have hround := stuck_iff_round.mp h
  unfold roundReports
  rw [hround]
  cases h with
  | source hcheck hsource =>
      have hnone : a.outcome? = none := by
        unfold Assignment.outcome?
        rw [hcheck, hsource]
      rw [hnone, hsource]
      rfl
  | @pass findings declarations hcheck hsource hresult hpass =>
      obtain ⟨result, events⟩ := findings
      obtain rfl : result = .ok declarations := hresult
      have hnone : a.outcome? = none := by
        unfold Assignment.outcome?
        rw [hcheck, hsource]
        dsimp only
        rw [hpass]
        rfl
      rw [hnone, hsource]
      dsimp only
      rw [hpass]
      rfl
  | emitter houtcome hbundle hemission =>
      obtain ⟨hcheck, findings, declarations, hsource, hresult, hpass⟩ :=
        Assignment.outcome?_eq_some_iff.mp houtcome
      obtain ⟨result, events⟩ := findings
      obtain rfl : result = .ok declarations := hresult
      rw [houtcome, hsource]
      dsimp only
      rw [hpass]
      rfl

end OneRound

/-! ## Rounds in a row -/

/-- Turns that lead from one session to another. -/
def Turn.Chained {σ : Type} (start : Session σ) : List (Turn σ) → Session σ → Prop
  | [], final => final = start
  | t :: rest, final => t.before = start ∧ Turn.Chained t.after rest final

/-- What a play has to do with the assignments of its rounds: it deals with all of them in order, or
with those in front of the first that has no answer. -/
structure Play.Follows {σ : Type} (p : Play σ) (e : Emitter σ) (start : Session σ)
    (assignments : List Assignment) : Prop where
  chained : Turn.Chained start p.turns p.final
  finished : p.halt? = none → p.turns.map Turn.assignment = assignments
  halted : ∀ halt, p.halt? = some halt → ∃ a rest,
    assignments = p.turns.map Turn.assignment ++ a :: rest ∧ Stuck e a p.final.store halt

section Plays

-- nor is a round as a whole
attribute [local irreducible] Session.turn

variable {σ : Type} {e : Emitter σ}

theorem Session.play_eq (e : Emitter σ) (s : Session σ) (a : Assignment)
    (rest : List Assignment) : s.play e (a :: rest) = match s.turn e a with
      | .error halt => ⟨[], s, some halt⟩
      | .ok t => ⟨t :: (t.after.play e rest).turns, (t.after.play e rest).final,
          (t.after.play e rest).halt?⟩ := rfl

/-- How a play goes on. -/
theorem Session.play_cons (e : Emitter σ) (s : Session σ) (a : Assignment)
    (rest : List Assignment) :
    (∃ halt, s.turn e a = .error halt ∧ s.play e (a :: rest) = ⟨[], s, some halt⟩)
      ∨ ∃ t, s.turn e a = .ok t
        ∧ s.play e (a :: rest) = ⟨t :: (t.after.play e rest).turns, (t.after.play e rest).final,
          (t.after.play e rest).halt?⟩ := by
  cases h : s.turn e a with
  | error halt => exact .inl ⟨halt, rfl, by rw [play_eq, h]⟩
  | ok t => exact .inr ⟨t, rfl, by rw [play_eq, h]⟩

theorem Session.play_follows (e : Emitter σ) (s : Session σ) (assignments : List Assignment) :
    (s.play e assignments).Follows e s assignments := by
  induction assignments generalizing s with
  | nil => exact ⟨rfl, fun _ => rfl, fun halt h => by cases h⟩
  | cons a rest ih =>
      rcases s.play_cons e a rest with ⟨halt, hturn, hplay⟩ | ⟨t, hturn, hplay⟩
      · -- the play ends in front of this assignment
        rw [hplay]
        refine ⟨rfl, fun h => absurd h (by simp), fun found h => ?_⟩
        cases h
        exact ⟨a, rest, rfl, stuck_of_turn hturn⟩
      · obtain ⟨rfl, hbefore, -⟩ := exit_of_turn hturn
        have hlater := ih t.after
        rw [hplay]
        refine ⟨⟨hbefore, hlater.chained⟩, fun h => ?_, fun halt h => ?_⟩
        · exact congrArg (t.assignment :: ·) (hlater.finished h)
        · obtain ⟨a, later, hrest, hstuck⟩ := hlater.halted halt h
          exact ⟨a, later, congrArg (t.assignment :: ·) hrest, hstuck⟩

/-- What every round keeps holds at the end. -/
theorem Session.play_invariant (s : Session σ) (Inv : Session σ → Prop)
    (hstep : ∀ (s : Session σ) a t, s.turn e a = .ok t → Inv s → Inv t.after) (hs : Inv s)
    (assignments : List Assignment) : Inv (s.play e assignments).final := by
  induction assignments generalizing s with
  | nil => exact hs
  | cons a rest ih =>
      rcases s.play_cons e a rest with ⟨halt, -, hplay⟩ | ⟨t, hturn, hplay⟩
      · rw [hplay]
        exact hs
      · rw [hplay]
        exact ih t.after (hstep s a t hturn hs)

/-- What holds of every round holds of all rounds of a play. -/
theorem Session.forall_turns {P : Turn σ → Prop}
    (hstep : ∀ (s : Session σ) a t, s.turn e a = .ok t → P t) (s : Session σ)
    (assignments : List Assignment) : ∀ t ∈ (s.play e assignments).turns, P t := by
  induction assignments generalizing s with
  | nil =>
      intro t ht
      cases ht
  | cons a rest ih =>
      rcases s.play_cons e a rest with ⟨halt, -, hplay⟩ | ⟨t, hturn, hplay⟩
      · rw [hplay]
        intro t ht
        cases ht
      · rw [hplay]
        exact List.forall_mem_cons.mpr ⟨hstep s a t hturn, ih t.after⟩

end Plays

/-! ## Logged emitters -/

/-- A call of an emitter: the bundle that it was given, and what came of it. -/
structure Call where
  bundle : Bundle
  result : Except EmitError Emitted

/-- A store with a log of the calls that were made for it, in order. -/
structure Logged (σ : Type) where
  store : σ
  calls : List Call

/-- The bundles that were stored, in order. -/
def Logged.stored {σ : Type} (l : Logged σ) : List Bundle :=
  l.calls.filterMap fun call => call.result.toOption.map fun _ => call.bundle

/-- An emitter that writes every call to the log. -/
def Emitter.logged {σ : Type} (e : Emitter σ) : Emitter (Logged σ) := fun bundle l =>
  (e bundle l.store).map fun emission =>
    ⟨emission.result, emission.events,
      ⟨emission.store, l.calls ++ [⟨bundle, emission.result⟩]⟩⟩

/-- A session with an empty log. -/
def Session.logged {σ : Type} (s : Session σ) : Session (Logged σ) := ⟨s.reported, ⟨s.store, []⟩⟩

/-- A session without its log. -/
def Session.forget {σ : Type} (s : Session (Logged σ)) : Session σ := ⟨s.reported, s.store.store⟩

/-- A turn without the log. -/
def Turn.forget {σ : Type} (t : Turn (Logged σ)) : Turn σ :=
  ⟨t.assignment, t.before.forget, t.result, t.after.forget⟩

/-- A play without the log. -/
def Play.forget {σ : Type} (p : Play (Logged σ)) : Play σ :=
  ⟨p.turns.map Turn.forget, p.final.forget, p.halt?⟩

section Logs

variable {σ : Type} {e : Emitter σ}

theorem Emitter.exists_of_logged {bundle : Bundle} {l : Logged σ} {emission : Emission (Logged σ)}
    (h : e.logged bundle l = .ok emission) :
    ∃ inner, e bundle l.store = .ok inner ∧ emission = ⟨inner.result, inner.events,
      ⟨inner.store, l.calls ++ [⟨bundle, inner.result⟩]⟩⟩ := by
  obtain ⟨inner, hinner, hemission⟩ := exists_ok_of_map h
  exact ⟨inner, hinner, hemission.symm⟩

/-- The log changes nothing about the ways in which a round ends. -/
theorem Exit.forget {a : Assignment} {s after : Session (Logged σ)}
    {result : Except RunError Report} (h : Exit e.logged a s result after) :
    Exit e a s.forget result after.forget := by
  cases h with
  | settings hcheck => exact .settings hcheck
  | source hcheck hsource hresult => exact .source hcheck hsource hresult
  | nothing houtcome hbundle => exact .nothing houtcome hbundle
  | stored houtcome hbundle hemission hresult =>
      obtain ⟨inner, hinner, rfl⟩ := Emitter.exists_of_logged hemission
      exact .stored houtcome hbundle hinner hresult
  | refused houtcome hbundle hemission hresult =>
      obtain ⟨inner, hinner, rfl⟩ := Emitter.exists_of_logged hemission
      exact .refused houtcome hbundle hinner hresult

theorem Stuck.forget {a : Assignment} {l : Logged σ} {halt : Halt}
    (h : Stuck e.logged a l halt) : Stuck e a l.store halt := by
  cases h with
  | source hcheck hsource => exact .source hcheck hsource
  | pass hcheck hsource hresult hpass => exact .pass hcheck hsource hresult hpass
  | emitter houtcome hbundle hemission =>
      exact .emitter houtcome hbundle (eq_error_of_map hemission)

/-- **A log changes nothing else.** -/
theorem Session.play_logged (e : Emitter σ) (s : Session (Logged σ))
    (assignments : List Assignment) :
    (s.play e.logged assignments).forget = s.forget.play e assignments := by
  induction assignments generalizing s with
  | nil => rfl
  | cons a rest ih =>
      rcases s.play_cons e.logged a rest with ⟨halt, hturn, hplay⟩ | ⟨t, hturn, hplay⟩
      · have hstuck := (stuck_of_turn hturn).forget
        rw [hplay, play_eq, Stuck.turn_eq (s := s.forget) hstuck]
        rfl
      · -- both plays take the same exit, and go on from sessions that differ by the log only
        obtain ⟨rfl, rfl, hexit⟩ := exit_of_turn hturn
        rw [hplay, play_eq, hexit.forget.turn_eq]
        simp only [← ih]
        rfl

end Logs

end Fieldwise
