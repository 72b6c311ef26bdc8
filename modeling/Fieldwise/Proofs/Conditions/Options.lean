import Fieldwise.Conditions.Basic

set_option autoImplicit false

/-! # What conditions set

Conditions are built from nothing by setting options and features, or from the variables of a
build (`Built`). Whatever the steps were, every feature is kept in its one spelling, so that the
look-up `has` finds a feature in any spelling: it answers as `Sets` says, which compares spellings
on both sides.
-/

namespace Fieldwise.Conditions

/-! ## The one spelling of a feature -/

/-- A character of a feature in its one spelling. -/
def featureChar (c : Char) : Char := if c.toLower = '-' then '_' else c.toLower

theorem featureSpelling_eq (feature : String) :
    featureSpelling feature = String.ofList (feature.toList.map featureChar) := by
  simp only [featureSpelling, Text.lowerLatin, String.toList_ofList, List.map_map]
  rfl

/-- A small letter stays what it is. -/
theorem toLower_toLower (c : Char) : c.toLower.toLower = c.toLower := by
  have hsmall : ¬ (c.toLower.val ≥ 'A'.val ∧ c.toLower.val ≤ 'Z'.val) := by
    unfold Char.toLower
    split
    · rename_i hcapital
      -- a capital lies 32 before its small letter
      simp only [UInt32.le_iff_toNat_le, ge_iff_le, UInt32.toNat_add] at hcapital ⊢
      change 65 ≤ c.toNat ∧ c.toNat ≤ 90 at hcapital
      change ¬ (65 ≤ (c.toNat + 32) % 4294967296 ∧ (c.toNat + 32) % 4294967296 ≤ 90)
      omega
    · assumption
  exact dif_neg hsmall

theorem featureChar_featureChar (c : Char) : featureChar (featureChar c) = featureChar c := by
  by_cases hyphen : c.toLower = '-'
  · have hunderscore : featureChar c = '_' := if_pos hyphen
    rw [hunderscore]
    decide
  · have hlower : featureChar c = c.toLower := if_neg hyphen
    rw [hlower, featureChar, toLower_toLower, if_neg hyphen]

/-- The one spelling is kept as it is. -/
theorem featureSpelling_featureSpelling (feature : String) :
    featureSpelling (featureSpelling feature) = featureSpelling feature := by
  rw [featureSpelling_eq (featureSpelling feature), featureSpelling_eq feature,
    String.toList_ofList, List.map_map]
  congr 1
  exact List.map_congr_left fun c _ => featureChar_featureChar c

/-! ## Building conditions -/

/-- The conditions that can be built. -/
inductive Built : Conditions → Prop
  | empty : Built {}
  | flag {s : Conditions} (h : Built s) (name : String) : Built (s.withFlag name)
  | value {s : Conditions} (h : Built s) (name value : String) : Built (s.withValue name value)
  | feature {s : Conditions} (h : Built s) (feature : String) : Built (s.withFeature feature)
  | environment (bindings : List (String × String)) : Built (ofVariables bindings)

/-- All features are kept in their one spelling. -/
def Spelled (s : Conditions) : Prop := ∀ feature ∈ s.features, featureSpelling feature = feature

variable {s : Conditions}

theorem Spelled.withFeature (h : s.Spelled) (feature : String) :
    (s.withFeature feature).Spelled := by
  intro found hfound
  rcases List.mem_insert_iff.mp hfound with rfl | hold
  · exact featureSpelling_featureSpelling feature
  · exact h found hold

theorem Spelled.withOption (h : s.Spelled) (name : String) (value : Option String) :
    (s.withOption name value).Spelled := by
  unfold Conditions.withOption
  split
  · exact h
  · split
    · exact h.withFeature _
    · exact h

/-- A variable of a build sets options one by one. -/
theorem Spelled.withVariable (h : s.Spelled) (binding : String × String) :
    (s.withVariable binding).Spelled := by
  unfold Conditions.withVariable
  split
  · exact h.withFeature _
  · split
    · rename_i name _
      dsimp only
      split
      · exact h.withOption _ none
      · -- one variable sets its values one after another
        generalize Text.splitText ',' binding.2 = values
        induction values generalizing s with
        | nil => exact h
        | cons value values ih => exact ih (h.withOption _ (some value))
    · exact h

theorem Built.spelled (h : Built s) : s.Spelled := by
  induction h with
  | empty =>
      intro feature hfeature
      cases hfeature
  | flag _ name ih => exact ih.withOption name none
  | value _ name value ih => exact ih.withOption name (some value)
  | feature _ feature ih => exact ih.withFeature feature
  | environment bindings =>
      -- the bindings are gone through from any conditions that keep the spelling
      have hstart : ({} : Conditions).Spelled := fun feature hfeature => by cases hfeature
      unfold ofVariables
      generalize ({} : Conditions) = start at hstart
      induction bindings generalizing start with
      | nil => exact hstart
      | cons binding bindings ih => exact ih _ (hstart.withVariable binding)

/-- The conditions of a machine are built by setting one option after another. -/
theorem built_host : Built host :=
  .flag (.flag (.value (.value (.value (.value .empty _ _) _ _) _ _) _ _) _) _

/-- So are those that a run goes by. -/
theorem built_current (e : Environment) : Built (current e) := by
  unfold current
  split
  · exact .environment e.effective
  · exact built_host

/-! ## Looking options up -/

/-- What it means that an option is set. Nothing is set about `test`; a value of `feature` is set
if that feature is, in whatever spelling. -/
def Sets (s : Conditions) (name : String) : Option String → Prop
  | none => name ≠ "test" ∧ (name, none) ∈ s.options
  | some value => name ≠ "test" ∧
      if name = "feature" then ∃ f ∈ s.features, featureSpelling f = featureSpelling value
      else (name, some value) ∈ s.options

/-- **An option is found exactly if it is set.** -/
theorem has_iff (h : Built s) (name : String) (value : Option String) :
    s.has name value = true ↔ s.Sets name value := by
  by_cases htest : name = "test"
  · cases value with
    | none => simp [has, Sets, htest]
    | some value => simp [has, Sets, htest]
  · cases value with
    | none => simp [has, Sets, htest]
    | some value =>
        by_cases hfeature : name = "feature"
        · subst hfeature
          have hfind : s.has "feature" (some value)
              = s.features.contains (featureSpelling value) := rfl
          rw [hfind, List.contains_iff_mem]
          simp only [Sets, if_pos]
          constructor
          · intro hmem
            exact ⟨htest, featureSpelling value, hmem, featureSpelling_featureSpelling value⟩
          · rintro ⟨-, f, hf, hsame⟩
            rw [← hsame, h.spelled f hf]
            exact hf
        · simp [has, Sets, htest, hfeature]

end Fieldwise.Conditions
