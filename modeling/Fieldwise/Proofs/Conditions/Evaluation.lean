import Fieldwise.Proofs.Conditions.Reading

set_option autoImplicit false

/-! # Evaluating formulas

What carries attributes belongs to a crate if the formulas in its attributes `cfg` hold. For plain
formulas the answer of `Conditions.enables` is the conjunction of their truth values
(`enables_formulas`): every part of a plain formula is read, so that none of the answers for what
cannot be read is ever given. So formulas that the laws of logic make equal can stand for each
other.
-/

namespace Fieldwise

open Token Grammar

namespace Predicate

variable (s : Conditions)

theorem allHold_eq (parts : List Predicate) : allHold s parts = parts.all (holds s) := by
  induction parts with
  | nil => rfl
  | cons p parts ih => rw [allHold, ih, List.all_cons]

theorem anyHolds_eq (parts : List Predicate) : anyHolds s parts = parts.any (holds s) := by
  induction parts with
  | nil => rfl
  | cons p parts ih => rw [anyHolds, ih, List.any_cons]

end Predicate

namespace Formula

variable {s : Conditions}

theorem plain_all {parts : List Formula} : (all parts).Plain ↔ ∀ p ∈ parts, p.Plain := by
  rw [Plain]

theorem plain_any {parts : List Formula} : (any parts).Plain ↔ ∀ p ∈ parts, p.Plain := by
  rw [Plain]

theorem plain_not {part : Formula} : (not part).Plain ↔ part.Plain := by
  rw [Plain]

/-- No part of a plain list is a truth value. -/
theorem any_isConstant_of_plain {parts : List Formula} (h : ∀ p ∈ parts, p.Plain) :
    parts.any isConstant = false := by
  rw [List.any_eq_false]
  intro p hp
  simp [(h p hp).isConstant]

/-- **A plain formula is read as a predicate with the same truth value.** -/
theorem holds_read (hs : s.Built) : (p : Formula) → p.Plain → (p.read.holds s = true ↔ p.Holds s)
  | .option name, _ => by
      rw [read, Predicate.holds, Holds]
      exact Conditions.has_iff hs name none
  | .setting name value, _ => by
      rw [read, Predicate.holds, Holds]
      exact Conditions.has_iff hs name (some value)
  | .all parts, h => by
      have hplain := plain_all.mp h
      have hparts : ∀ p ∈ parts, (p.read.holds s = true ↔ p.Holds s) :=
        fun p hp => holds_read hs p (hplain p hp)
      rw [read, any_isConstant_of_plain hplain, if_neg Bool.false_ne_true, Predicate.holds,
        Predicate.allHold_eq, List.all_map, List.all_eq_true, holds_all]
      exact forall₂_congr hparts
  | .any parts, h => by
      have hplain := plain_any.mp h
      have hparts : ∀ p ∈ parts, (p.read.holds s = true ↔ p.Holds s) :=
        fun p hp => holds_read hs p (hplain p hp)
      rw [read, any_isConstant_of_plain hplain, if_neg Bool.false_ne_true, Predicate.holds,
        Predicate.anyHolds_eq, List.any_map, List.any_eq_true, holds_any]
      exact exists_congr fun p => and_congr_right (hparts p)
  | .not part, h => by
      have hplain := plain_not.mp h
      have hpart : part.read.holds s = true ↔ part.Holds s := holds_read hs part hplain
      rw [read, hplain.isConstant, if_neg Bool.false_ne_true, holds_not, ← hpart]
      simp [Predicate.holds, Predicate.anyHolds]
  | .constant value, h => by
      rw [Plain] at h
      exact h.elim

end Formula

namespace Conditions

variable {s : Conditions}

/-! ## Attributes among others -/

theorem enables_iff (attributes : List Attribute) :
    s.enables attributes = true
      ↔ ∀ a ∈ attributes, a.path.isWord "cfg" = true
        → (Predicate.ofAttribute a).holds s = true := by
  simp only [enables, List.all_eq_true, List.mem_filter, and_imp]

/-- Attributes that are decided alike can stand for each other. -/
theorem enables_replace {a b : Attribute} (ha : a.path.isWord "cfg" = true)
    (hb : b.path.isWord "cfg" = true)
    (h : (Predicate.ofAttribute a).holds s = (Predicate.ofAttribute b).holds s)
    (before after : List Attribute) :
    s.enables (before ++ a :: after) = s.enables (before ++ b :: after) := by
  simp only [enables, List.filter_append, List.all_append, List.filter_cons, ha, hb, if_true,
    List.all_cons, h]

/-- **Conditions are evaluated as formulas.** Where every attribute `cfg` spells a plain formula,
what carries the attributes belongs to the crate exactly if all of these formulas hold; other
attributes do not count. Of two formulas that the laws of logic make equal, one can be written for
the other. -/
theorem enables_formulas (hs : s.Built) :
    (∀ (attributes : List Attribute) (meant : Attribute → Formula),
      (∀ a ∈ attributes, a.path.isWord "cfg" = true → (meant a).Plain ∧ a.Demands (meant a)) →
      (s.enables attributes = true
        ↔ ∀ a ∈ attributes, a.path.isWord "cfg" = true → (meant a).Holds s))
      ∧ ∀ (p q : Formula) (a b : Attribute), p.Plain → q.Plain → p.Alike q →
          a.Demands p → b.Demands q → ∀ before after : List Attribute,
          s.enables (before ++ a :: after) = s.enables (before ++ b :: after) := by
  constructor
  · intro attributes meant hmeant
    -- every attribute is read as what it demands, so no answer for what cannot be read is given
    have heach : ∀ a ∈ attributes, a.path.isWord "cfg" = true →
        ((Predicate.ofAttribute a).holds s = true ↔ (meant a).Holds s) := by
      intro a ha hword
      obtain ⟨hplain, hdemands⟩ := hmeant a ha hword
      rw [Formula.ofAttribute_written hdemands]
      exact Formula.holds_read hs (meant a) hplain
    rw [enables_iff]
    constructor
    · intro hholds a ha hword
      exact (heach a ha hword).mp (hholds a ha hword)
    · intro hholds a ha hword
      exact (heach a ha hword).mpr (hholds a ha hword)
  · intro p q a b hp hq halike ha hb before after
    apply enables_replace ha.1 hb.1
    rw [Formula.ofAttribute_written ha, Formula.ofAttribute_written hb, Bool.eq_iff_iff,
      Formula.holds_read hs p hp, Formula.holds_read hs q hq]
    exact halike.holds_iff

/-! ## A formula with every operator -/

/-- The formula `all(unix, not(feature = "Extra-Fields"),)`. -/
def unixFormula : Formula := .all [.option "unix", .not (.setting "feature" "Extra-Fields")]

/-- An attribute that spells it, a comma after its last part. -/
def unixAttribute : Attribute where
  path := ⟨false, [.plain "cfg"]⟩
  body := .list .parenthesis
    [.name (.plain "all") .start, .group .parenthesis
      [.name (.plain "unix") .start, .punct ',' false .start,
        .name (.plain "not") .start, .group .parenthesis
          [.name (.plain "feature") .start, .punct '=' false .start,
            .literal ⟨.string "Extra-Fields", "\"Extra-Fields\""⟩ .start] .start .start,
        .punct ',' false .start] .start .start]

theorem unixAttribute_demands : unixAttribute.Demands unixFormula := by
  have hfeature : Formula.Written (.setting "feature" "Extra-Fields") _ :=
    .setting (by decide) "\"Extra-Fields\"" false .start .start .start
  have hnot : Formula.Written (.not (.setting "feature" "Extra-Fields")) _ :=
    .not (.last hfeature) .parenthesis .start .start .start
  have hunix : Formula.Written (.option "unix") _ := .option (by decide) .start
  have hparts := Formula.Separated.more hunix false .start (.more hnot false .start .none)
  exact ⟨rfl, .parenthesis, _, rfl, .all hparts .parenthesis .start .start .start⟩

/-- On a machine without that feature the formula holds, and what carries it is enabled. -/
theorem unixAttribute_enabled :
    host.Built ∧ unixFormula.Plain ∧ unixAttribute.Demands unixFormula
      ∧ unixFormula.Holds host ∧ host.enables [unixAttribute] = true := by
  have hplain : unixFormula.Plain := by simp [unixFormula, Formula.Plain]
  have hmeans := (enables_formulas built_host).1 [unixAttribute] (fun _ => unixFormula)
    (fun a ha _ => by rw [List.mem_singleton.mp ha]; exact ⟨hplain, unixAttribute_demands⟩)
  have hholds : unixFormula.Holds host := by
    simp only [unixFormula, Formula.holds_all, List.mem_cons, List.not_mem_nil, or_false,
      forall_eq_or_imp, forall_eq, Formula.holds_not]
    simp only [Formula.Holds, Sets]
    decide
  exact ⟨built_host, hplain, unixAttribute_demands, hholds, hmeans.mpr fun _ _ _ => hholds⟩

end Conditions

end Fieldwise
