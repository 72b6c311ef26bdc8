import Fieldwise.Proofs.Conditions.Evaluation

set_option autoImplicit false

/-! # Truth values in formulas

The words `true` and `false` are not read as predicates, and what is not read holds. Alone in an
attribute a truth value therefore demands nothing, and among the parts of a list it takes the
place of the whole list, which then holds whatever its operator and its other parts are. So a
formula with a truth value inside is decided as if the list around it were `all()`
(`constants_unread`); this is its usual truth value exactly where putting `all()` for the list
changes nothing. An attribute with `false` alone leaves nothing out (`falseAttribute_enabled`).
-/

namespace Fieldwise

open Token Grammar

namespace Formula

/-! ## Formulas around a place -/

/-- One operator around a place, with the other parts of a list. -/
inductive Frame
  | all (before after : List Formula)
  | any (before after : List Formula)
  | not

/-- The formula that an operator makes of what stands at the place. -/
def Frame.around : Frame → Formula → Formula
  | .all before after, p => .all (before ++ p :: after)
  | .any before after, p => .any (before ++ p :: after)
  | .not, p => .not p

/-- An operator whose other parts are plain. -/
def Frame.Plain : Frame → Prop
  | .all before after => ∀ p ∈ before ++ after, p.Plain
  | .any before after => ∀ p ∈ before ++ after, p.Plain
  | .not => True

/-- The formula around a place, from the innermost operator outwards. -/
def within (frames : List Frame) (p : Formula) : Formula :=
  frames.foldl (fun inner f => f.around inner) p

theorem within_cons (f : Frame) (frames : List Frame) (p : Formula) :
    within (f :: frames) p = within frames (f.around p) := rfl

theorem Frame.not_constant (f : Frame) (p : Formula) : (f.around p).isConstant = false := by
  cases f with
  | all before after => rfl
  | any before after => rfl
  | not => rfl

theorem Frame.plain_around {f : Frame} (hf : f.Plain) {p : Formula} (hp : p.Plain) :
    (f.around p).Plain := by
  have hparts {before after : List Formula} (h : ∀ q ∈ before ++ after, q.Plain) :
      ∀ q ∈ before ++ p :: after, q.Plain := by
    intro q hq
    rcases List.mem_append.mp hq with hmem | hmem
    · exact h q (List.mem_append_left _ hmem)
    · rcases List.mem_cons.mp hmem with rfl | hlater
      · exact hp
      · exact h q (List.mem_append_right _ hlater)
  cases f with
  | all before after => exact plain_all.mpr (hparts hf)
  | any before after => exact plain_any.mpr (hparts hf)
  | not => exact plain_not.mpr hp

theorem plain_within {frames : List Frame} (hframes : ∀ f ∈ frames, f.Plain) {p : Formula}
    (hp : p.Plain) : (within frames p).Plain := by
  induction frames generalizing p with
  | nil => exact hp
  | cons f frames ih =>
      rw [within_cons]
      have hf : f.Plain := hframes f (by simp)
      exact ih (fun g hg => hframes g (by simp [hg])) (Frame.plain_around hf hp)

/-! ## Putting one formula for another -/

variable {s : Conditions}

theorem Frame.holds_congr (f : Frame) {p q : Formula} (h : p.Holds s ↔ q.Holds s) :
    (f.around p).Holds s ↔ (f.around q).Holds s := by
  cases f with
  | all before after => exact holds_all_replace h before after
  | any before after => exact holds_any_replace h before after
  | not => simp only [around, holds_not, h]

theorem holds_within (frames : List Frame) {p q : Formula} (h : p.Holds s ↔ q.Holds s) :
    (within frames p).Holds s ↔ (within frames q).Holds s := by
  induction frames generalizing p q with
  | nil => exact h
  | cons f frames ih => exact ih (f.holds_congr h)

/-- Two formulas are read, and the predicates they are read as are decided alike. -/
structure ReadAlike (s : Conditions) (p q : Formula) : Prop where
  left : p.isConstant = false
  right : q.isConstant = false
  holds : p.read.holds s = q.read.holds s

theorem Frame.readAlike (f : Frame) {p q : Formula} (h : ReadAlike s p q) :
    ReadAlike s (f.around p) (f.around q) := by
  refine ⟨f.not_constant p, f.not_constant q, ?_⟩
  -- whether a list is read depends on its other parts only
  have hany (before after : List Formula) :
      (before ++ p :: after).any isConstant = (before ++ q :: after).any isConstant := by
    simp only [List.any_append, List.any_cons, h.left, h.right]
  cases f with
  | all before after =>
      rw [around, around, read, read, hany before after]
      split
      · rfl
      · simp only [Predicate.holds, Predicate.allHold_eq, List.map_append, List.map_cons,
          List.all_append, List.all_cons, h.holds]
  | any before after =>
      rw [around, around, read, read, hany before after]
      split
      · rfl
      · simp only [Predicate.holds, Predicate.anyHolds_eq, List.map_append, List.map_cons,
          List.any_append, List.any_cons, h.holds]
  | not =>
      rw [around, around, read, read, h.left, h.right]
      simp only [Bool.false_eq_true, if_false, Predicate.holds, Predicate.anyHolds_eq,
        List.any_cons, List.any_nil, h.holds, List.length_cons, List.length_nil]

theorem readAlike_within (frames : List Frame) {p q : Formula} (h : ReadAlike s p q) :
    ReadAlike s (within frames p) (within frames q) := by
  induction frames generalizing p q with
  | nil => exact h
  | cons f frames ih => exact ih (f.readAlike h)

/-- **A truth value blots out the list around it**: whatever the operator and the other parts
are, the list is decided as the empty conjunction. -/
theorem Frame.readAlike_constant (f : Frame) (value : Bool) :
    ReadAlike s (f.around (.constant value)) (.all []) := by
  refine ⟨f.not_constant _, rfl, ?_⟩
  have hempty : (Formula.all []).read.holds s = true := by
    rw [read]
    rfl
  have hany (before after : List Formula) :
      (before ++ .constant value :: after).any isConstant = true := by
    simp [isConstant]
  rw [hempty]
  cases f with
  | all before after =>
      rw [around, read, hany before after]
      rfl
  | any before after =>
      rw [around, read, hany before after]
      rfl
  | not =>
      rw [around, read]
      rfl

/-- The formula without truth values that means one. -/
def standIn (value : Bool) : Formula := if value then .all [] else .any []

theorem holds_standIn (value : Bool) : (standIn value).Holds s ↔ (constant value).Holds s := by
  cases value with
  | false =>
      show (any []).Holds s ↔ _
      rw [holds_any, Holds]
      simp
  | true =>
      show (all []).Holds s ↔ _
      rw [holds_all, Holds]
      simp

theorem plain_standIn (value : Bool) : (standIn value).Plain := by
  cases value with
  | false => exact plain_any.mpr fun p hp => by cases hp
  | true => exact plain_all.mpr fun p hp => by cases hp

end Formula

namespace Conditions

open Formula

variable {s : Conditions}

theorem enables_single {a : Attribute} {p : Formula} (h : a.Demands p) :
    s.enables [a] = p.read.holds s := by
  simp only [enables, List.filter_cons, h.1, if_true, List.filter_nil, List.all_cons, List.all_nil,
    Bool.and_true, ofAttribute_written h]

/-- **Truth values are not read.** An attribute with a truth value alone leaves nothing out. An
attribute with a truth value inside other operators is decided as if `all()` stood for the
innermost list around it. The answer is what the empty list of the same truth value gives in its
place exactly if those two formulas have the same truth value. -/
theorem constants_unread (hs : s.Built) (value : Bool) :
    (∀ a : Attribute, a.Demands (.constant value) → ∀ before after : List Attribute,
      s.enables (before ++ a :: after) = s.enables (before ++ after))
      ∧ (∀ (f : Frame) (outer : List Frame) (a b : Attribute),
          a.Demands (within (f :: outer) (.constant value)) → b.Demands (within outer (.all [])) →
          ∀ before after : List Attribute,
          s.enables (before ++ a :: after) = s.enables (before ++ b :: after))
      ∧ ∀ (f : Frame) (outer : List Frame) (a b : Attribute), (∀ g ∈ f :: outer, g.Plain) →
          a.Demands (within (f :: outer) (.constant value)) →
          b.Demands (within (f :: outer) (standIn value)) →
          (s.enables [a] = s.enables [b]
            ↔ ((within outer (.all [])).Holds s
                ↔ (within (f :: outer) (.constant value)).Holds s)) := by
  refine ⟨?_, ?_, ?_⟩
  · intro a ha before after
    have hholds : (Predicate.ofAttribute a).holds s = true := by
      rw [ofAttribute_written ha, Formula.read]
      rfl
    simp only [enables, List.filter_append, List.all_append, List.filter_cons, ha.1, if_true,
      List.all_cons, hholds, Bool.true_and]
  · intro f outer a b ha hb before after
    apply enables_replace ha.1 hb.1
    rw [ofAttribute_written ha, ofAttribute_written hb]
    exact (readAlike_within outer (f.readAlike_constant value)).holds
  · intro f outer a b hframes ha hb
    have houter : (within outer (.all [])).Plain :=
      plain_within (fun g hg => hframes g (by simp [hg])) (plain_standIn true)
    have hstandIn : (within (f :: outer) (standIn value)).Plain :=
      plain_within hframes (plain_standIn value)
    have hanswer : s.enables [a] = (within outer (.all [])).read.holds s := by
      rw [enables_single ha]
      exact (readAlike_within outer (f.readAlike_constant value)).holds
    rw [hanswer, enables_single hb, Bool.eq_iff_iff, holds_read hs _ houter,
      holds_read hs _ hstandIn, holds_within (f :: outer) (holds_standIn value)]

/-! ## Truth values that are not what they say -/

/-- An attribute `cfg` with some trees. -/
def cfgAttribute (content : List Tree) : Attribute :=
  ⟨⟨false, [.plain "cfg"]⟩, .list .parenthesis content⟩

/-- The trees of a word with a list in parentheses after it. -/
def listTrees (word : String) (content : List Tree) : List Tree :=
  [.name (.plain word) .start, .group .parenthesis content .start .start]

/-- The part `unix`, a comma, and other trees. -/
def afterUnix (rest : List Tree) : List Tree :=
  .name (.plain "unix") .start :: .punct ',' false .start :: rest

/-- The formula `not(all(unix, false))` holds, but an attribute with it leaves out what it stands
before, as `not(all())` does. -/
theorem falsePart_blots :
    host.Built
      ∧ (within [.all [.option "unix"] [], .not] (.constant false)).Holds host
      ∧ host.enables [cfgAttribute
          (listTrees "not" (listTrees "all" (afterUnix [.name (.plain "false") .start])))] = false
      ∧ host.enables [cfgAttribute (listTrees "not" (listTrees "all" []))] = false := by
  have hfalse : Written (.constant false) [.name (.plain "false") .start] := .constant false .start
  have hunix : Written (.option "unix") _ := .option (by decide) .start
  have hparts := Separated.more hunix false .start (.last hfalse)
  have hpart := Separated.last (Written.all hparts .parenthesis .start .start .start)
  have hempty : Separated Written [.all []] (listTrees "all" []) :=
    .last (.all .none .parenthesis .start .start .start)
  have hdemands : (cfgAttribute (listTrees "not" (listTrees "all"
      (afterUnix [.name (.plain "false") .start])))).Demands
        (within [.all [.option "unix"] [], .not] (.constant false)) :=
    ⟨rfl, .parenthesis, _, rfl, .not hpart .parenthesis .start .start .start⟩
  have hplain : (cfgAttribute (listTrees "not" (listTrees "all" []))).Demands
      (within [.not] (.all [])) :=
    ⟨rfl, .parenthesis, _, rfl, .not hempty .parenthesis .start .start .start⟩
  have hsame := (constants_unread built_host false).2.1 (.all [.option "unix"] []) [.not] _ _
    hdemands hplain [] []
  have hanswer : host.enables [cfgAttribute (listTrees "not" (listTrees "all" []))] = false := by
    decide +kernel
  refine ⟨built_host, ?_, hsame.trans hanswer, hanswer⟩
  rw [within_cons, within_cons]
  show (Formula.not (.all [.option "unix", .constant false])).Holds host
  rw [holds_not, holds_all]
  intro hall
  have hfalsehood := hall (.constant false) (by simp)
  rw [Holds] at hfalsehood
  cases hfalsehood

/-- What carries `#[cfg(false)]` is enabled, while `#[cfg(any())]` leaves it out. -/
theorem falseAttribute_enabled :
    (readAttributes "#[cfg(false)]").toOption.map ({} : Conditions).enables = some true
      ∧ (readAttributes "#[cfg(any())]").toOption.map ({} : Conditions).enables = some false := by
  decide +kernel

end Conditions

end Fieldwise
