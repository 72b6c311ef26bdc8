import Fieldwise.Conditions.Predicate
import Fieldwise.Proofs.Conditions.Options

set_option autoImplicit false

/-! # Formulas over options

A condition on what belongs to a crate is a formula: options and their values are its leaves, and
`all`, `any` and `not` combine them. `Formula` is the syntax, `Formula.Holds` its usual meaning
and `Formula.Written` says which trees of tokens spell it. Formulas that the laws of logic make
equal are `Alike`, and then one holds where the other does (`Alike.holds_iff`).
-/

namespace Fieldwise

open Token Grammar

/-- A formula. A truth value may stand in it as it is; a formula without any is plain. -/
inductive Formula
  | option (name : String)
  | setting (name value : String)
  | all (parts : List Formula)
  | any (parts : List Formula)
  | not (part : Formula)
  | constant (value : Bool)

namespace Formula

/-! ## Meaning -/

/-- The usual meaning of a formula. -/
def Holds (s : Conditions) : Formula → Prop
  | .option name => s.Sets name none
  | .setting name value => s.Sets name (some value)
  | .all parts => ∀ p, ∀ _ : p ∈ parts, Holds s p
  | .any parts => ∃ p, ∃ _ : p ∈ parts, Holds s p
  | .not part => ¬ Holds s part
  | .constant value => value = true

/-- Whether a formula is a truth value. -/
def isConstant : Formula → Bool
  | .constant _ => true
  | _ => false

/-- A formula in which no truth value is written. -/
def Plain : Formula → Prop
  | .option _ => True
  | .setting _ _ => True
  | .all parts => ∀ p, ∀ _ : p ∈ parts, Plain p
  | .any parts => ∀ p, ∀ _ : p ∈ parts, Plain p
  | .not part => Plain part
  | .constant _ => False

theorem Plain.isConstant {p : Formula} (h : p.Plain) : p.isConstant = false := by
  cases p with
  | constant value =>
      rw [Plain] at h
      exact h.elim
  | option name => rfl
  | setting name value => rfl
  | all parts => rfl
  | any parts => rfl
  | not part => rfl

/-! ## Laws -/

/-- Formulas that are equal by the laws of logic: two negations cancel, a negation goes inside by
De Morgan's laws, and the order of parts does not matter; and all this inside other formulas. -/
inductive Alike : Formula → Formula → Prop
  | refl (p : Formula) : Alike p p
  | symm {p q : Formula} (h : Alike p q) : Alike q p
  | trans {p q r : Formula} (h : Alike p q) (h' : Alike q r) : Alike p r
  | not_not (p : Formula) : Alike (.not (.not p)) p
  | not_all (parts : List Formula) : Alike (.not (.all parts)) (.any (parts.map .not))
  | not_any (parts : List Formula) : Alike (.not (.any parts)) (.all (parts.map .not))
  | all_perm {parts others : List Formula} (h : parts.Perm others) :
      Alike (.all parts) (.all others)
  | any_perm {parts others : List Formula} (h : parts.Perm others) :
      Alike (.any parts) (.any others)
  | not {p q : Formula} (h : Alike p q) : Alike (.not p) (.not q)
  | all {p q : Formula} (before after : List Formula) (h : Alike p q) :
      Alike (.all (before ++ p :: after)) (.all (before ++ q :: after))
  | any {p q : Formula} (before after : List Formula) (h : Alike p q) :
      Alike (.any (before ++ p :: after)) (.any (before ++ q :: after))

variable {s : Conditions}

theorem holds_all {parts : List Formula} : (all parts).Holds s ↔ ∀ p ∈ parts, p.Holds s := by
  rw [Holds]

theorem holds_any {parts : List Formula} : (any parts).Holds s ↔ ∃ p ∈ parts, p.Holds s := by
  rw [Holds]
  simp only [exists_prop]

theorem holds_not {part : Formula} : (not part).Holds s ↔ ¬ part.Holds s := by
  rw [Holds]

/-- What means the same can stand for each other in a list. -/
theorem holds_all_replace {p q : Formula} (h : p.Holds s ↔ q.Holds s)
    (before after : List Formula) :
    (all (before ++ p :: after)).Holds s ↔ (all (before ++ q :: after)).Holds s := by
  simp only [holds_all, List.mem_append, List.mem_cons, or_imp, forall_and, forall_eq, h]

theorem holds_any_replace {p q : Formula} (h : p.Holds s ↔ q.Holds s)
    (before after : List Formula) :
    (any (before ++ p :: after)).Holds s ↔ (any (before ++ q :: after)).Holds s := by
  simp only [holds_any, List.mem_append, List.mem_cons, or_and_right, exists_or, exists_eq_left, h]

/-- **Formulas that the laws make equal mean the same.** -/
theorem Alike.holds_iff {p q : Formula} (h : Alike p q) : p.Holds s ↔ q.Holds s := by
  induction h with
  | refl p => exact Iff.rfl
  | symm _ ih => exact ih.symm
  | trans _ _ ih ih' => exact ih.trans ih'
  | not_not p =>
      rw [holds_not, holds_not]
      exact Classical.not_not
  | not_all parts =>
      rw [holds_not, holds_all, holds_any]
      constructor
      · intro hfalse
        -- some part fails, and its negation is the part of the other list that holds
        obtain ⟨p, hp⟩ := Classical.not_forall.mp hfalse
        obtain ⟨hmem, hholds⟩ := Classical.not_imp.mp hp
        exact ⟨.not p, List.mem_map_of_mem hmem, holds_not.mpr hholds⟩
      · rintro ⟨q, hq, hholds⟩ hall
        obtain ⟨p, hmem, rfl⟩ := List.mem_map.mp hq
        exact holds_not.mp hholds (hall p hmem)
  | not_any parts =>
      rw [holds_not, holds_any, holds_all]
      constructor
      · intro hfalse q hq
        obtain ⟨p, hmem, rfl⟩ := List.mem_map.mp hq
        exact holds_not.mpr fun hp => hfalse ⟨p, hmem, hp⟩
      · rintro hall ⟨p, hmem, hp⟩
        exact holds_not.mp (hall (.not p) (List.mem_map_of_mem hmem)) hp
  | all_perm h => simp only [holds_all, h.mem_iff]
  | any_perm h => simp only [holds_any, h.mem_iff]
  | not _ ih => rw [holds_not, holds_not, ih]
  | all before after _ ih => exact holds_all_replace ih before after
  | any before after _ ih => exact holds_any_replace ih before after

/-! ## Spelling -/

/-- Things with commas between them, and trees that spell each of them. One more comma may stand
after the last. -/
inductive Separated {α : Type} (Spells : α → List Tree → Prop) : List α → List Tree → Prop
  | none : Separated Spells [] []
  | last {x : α} {trees : List Tree} (h : Spells x trees) : Separated Spells [x] trees
  | more {x : α} {xs : List α} {trees rest : List Tree} (h : Spells x trees) (joint : Bool)
      (place : Position) (hrest : Separated Spells xs rest) :
      Separated Spells (x :: xs) (trees ++ .punct ',' joint place :: rest)

/-- The word for a truth value. -/
def constantWord (value : Bool) : String := if value then "true" else "false"

/-- The trees that spell a formula. The leaves are names that are no keywords. -/
inductive Written : Formula → List Tree → Prop
  | option {name : String} (hname : isIdentifier (.plain name) = true) (place : Position) :
      Written (.option name) [.name (.plain name) place]
  | setting {name value : String} (hname : isIdentifier (.plain name) = true) (text : String)
      (joint : Bool) (place mark quote : Position) :
      Written (.setting name value)
        [.name (.plain name) place, .punct '=' joint mark, .literal ⟨.string value, text⟩ quote]
  | all {parts : List Formula} {content : List Tree} (h : Separated Written parts content)
      (d : Delimiter) (place opening closing : Position) :
      Written (.all parts) [.name (.plain "all") place, .group d content opening closing]
  | any {parts : List Formula} {content : List Tree} (h : Separated Written parts content)
      (d : Delimiter) (place opening closing : Position) :
      Written (.any parts) [.name (.plain "any") place, .group d content opening closing]
  | not {part : Formula} {content : List Tree} (h : Separated Written [part] content)
      (d : Delimiter) (place opening closing : Position) :
      Written (.not part) [.name (.plain "not") place, .group d content opening closing]
  | constant (value : Bool) (place : Position) :
      Written (.constant value) [.name (.plain (constantWord value)) place]

theorem Written.ne_nil {p : Formula} {trees : List Tree} (h : Written p trees) : trees ≠ [] := by
  cases h <;> exact List.cons_ne_nil _ _

end Formula

/-- An attribute `cfg` demands the formula that its content spells. -/
def Grammar.Attribute.Demands (a : Attribute) (p : Formula) : Prop :=
  a.path.isWord "cfg" = true ∧ ∃ d content, a.body = .list d content ∧ p.Written content

end Fieldwise
