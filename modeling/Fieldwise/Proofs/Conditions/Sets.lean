import Mathlib.Data.List.Nodup
import Fieldwise.Conditions.Predicate
import Fieldwise.Proofs.Conditions.Options
import Fieldwise.Proofs.Text.Splitting

set_option autoImplicit false

/-! # Conditions are sets

An option that is set is kept as an *entry*: as a feature in its one spelling, or as it is; nothing
is kept of `test` (`Entry.of?`). Each way to build conditions adds the entries of some options and
nothing else (`keeps_withAll`), and a look-up asks for the entry of an option (`has_iff_keeps`). So
conditions are the sets of their entries: in which order and how often options were set makes no
difference, and a feature is found whichever way it was switched on (`built_as_sets`).
-/

namespace Fieldwise

namespace Conditions

variable {s a b : Conditions} {name : String} {value : Option String}

/-! ## Entries -/

/-- What is kept of an option. -/
inductive Entry
  | option (name : String) (value : Option String)
  | feature (spelling : String)

/-- What is kept of an option, if anything is. -/
def Entry.of? : String × Option String → Option Entry
  | ("test", _) => none
  | ("feature", some text) => some (.feature (featureSpelling text))
  | (name, value) => some (.option name value)

/-- Conditions keep an entry. -/
def Keeps (s : Conditions) : Entry → Prop
  | .option name value => (name, value) ∈ s.options
  | .feature spelling => spelling ∈ s.features

theorem Entry.of?_feature (text : String) :
    Entry.of? ("feature", some text) = some (.feature (featureSpelling text)) := rfl

/-- An option of which nothing special is to be said. -/
theorem Entry.of?_plain (htest : name ≠ "test") (hfeature : name = "feature" → value = none) :
    Entry.of? (name, value) = some (.option name value) := by
  unfold Entry.of?
  split
  · rename_i heq
    exact absurd (congrArg Prod.fst heq) htest
  · rename_i feature heq
    cases heq
    cases hfeature rfl
  · rename_i heq
    cases heq
    rfl

/-- Nothing, a feature, or the option itself is kept of an option. -/
theorem Entry.of?_cases (name : String) (value : Option String) :
    name = "test" ∧ Entry.of? (name, value) = none
      ∨ (∃ feature, name = "feature" ∧ value = some feature
        ∧ Entry.of? (name, value) = some (.feature (featureSpelling feature)))
      ∨ name ≠ "test" ∧ (name = "feature" → value = none)
        ∧ Entry.of? (name, value) = some (.option name value) := by
  by_cases htest : name = "test"
  · subst htest
    exact .inl ⟨rfl, rfl⟩
  · by_cases hfeature : name = "feature" → value = none
    · exact .inr (.inr ⟨htest, hfeature, of?_plain htest hfeature⟩)
    · obtain ⟨rfl, hvalue⟩ := Classical.not_imp.mp hfeature
      obtain ⟨feature, rfl⟩ := Option.ne_none_iff_exists'.mp hvalue
      exact .inr (.inl ⟨feature, rfl, rfl, of?_feature feature⟩)

/-- Two options are the same. Values of `feature` are compared in their one spelling. -/
def SameOption (o p : String × Option String) : Prop :=
  o.1 = p.1 ∧ (o.2 = p.2
    ∨ o.1 = "feature" ∧ o.2.map featureSpelling = p.2.map featureSpelling)

theorem Entry.of?_eq_iff (o : String × Option String) (htest : name ≠ "test") :
    Entry.of? o = Entry.of? (name, value) ↔ SameOption o (name, value) := by
  obtain ⟨name', value'⟩ := o
  unfold SameOption
  rcases Entry.of?_cases name' value' with
    ⟨rfl, hentry⟩ | ⟨feature', rfl, rfl, hentry⟩ | ⟨htest', hfeature', hentry⟩
  · rw [hentry]
    rcases Entry.of?_cases name value with ⟨rfl, -⟩ | ⟨_, -, -, hother⟩ | ⟨-, -, hother⟩
    · exact absurd rfl htest
    · simp [hother, htest.symm]
    · simp [hother, htest.symm]
  · rw [hentry]
    rcases Entry.of?_cases name value with
      ⟨rfl, -⟩ | ⟨feature, rfl, rfl, hother⟩ | ⟨-, hfeature, hother⟩
    · exact absurd rfl htest
    · simp only [hother, Option.some.injEq, Entry.feature.injEq, Option.map_some, true_and]
      exact ⟨.inr, fun h => h.elim (fun heq => by rw [heq]) id⟩
    · simp only [hother, Option.some.injEq, reduceCtorEq, Option.map_some, true_and, false_iff]
      rintro ⟨rfl, h⟩
      simp [hfeature rfl] at h
  · rw [hentry]
    rcases Entry.of?_cases name value with
      ⟨rfl, -⟩ | ⟨feature, rfl, rfl, hother⟩ | ⟨-, hfeature, hother⟩
    · exact absurd rfl htest
    · simp only [hother, Option.some.injEq, reduceCtorEq, Option.map_some, false_iff]
      rintro ⟨rfl, h⟩
      simp [hfeature' rfl] at h
    · simp only [hother, Option.some.injEq, Entry.option.injEq]
      constructor
      · exact fun h => ⟨h.1, .inl h.2⟩
      · rintro ⟨rfl, h | ⟨rfl, -⟩⟩
        · exact ⟨rfl, h⟩
        · rw [hfeature rfl, hfeature' rfl]
          exact ⟨rfl, rfl⟩

/-! ## Setting options and looking them up -/

/-- A feature is an option. -/
theorem withFeature_eq (s : Conditions) (feature : String) :
    s.withFeature feature = s.withOption "feature" (some feature) := by
  simp [withOption]

theorem withOption_of_plain (htest : name ≠ "test") (hfeature : name = "feature" → value = none) :
    s.withOption name value = { s with options := s.options.insert (name, value) } := by
  unfold withOption
  rw [if_neg htest]
  split
  · cases hfeature rfl
  · rfl

/-- **To set an option is to keep its entry.** -/
theorem keeps_withOption (e : Entry) :
    (s.withOption name value).Keeps e ↔ Entry.of? (name, value) = some e ∨ s.Keeps e := by
  rcases Entry.of?_cases name value with
    ⟨rfl, hentry⟩ | ⟨feature, rfl, rfl, hentry⟩ | ⟨htest, hfeature, hentry⟩
  · simp [withOption, hentry]
  · rw [hentry, ← withFeature_eq]
    cases e with
    | option name value => simp [Keeps, withFeature]
    | feature spelling => simp [Keeps, withFeature, List.mem_insert_iff, eq_comm]
  · rw [hentry, withOption_of_plain htest hfeature]
    cases e with
    | option name value => simp [Keeps, List.mem_insert_iff, eq_comm]
    | feature spelling => simp [Keeps]

/-- **To look an option up is to look for its entry.** -/
theorem has_iff_keeps :
    s.has name value = true ↔ ∃ e, Entry.of? (name, value) = some e ∧ s.Keeps e := by
  rcases Entry.of?_cases name value with
    ⟨rfl, hentry⟩ | ⟨feature, rfl, rfl, hentry⟩ | ⟨htest, hfeature, hentry⟩
  · simp [has, hentry]
  · simp [has, hentry, Keeps]
  · unfold has
    rw [if_neg htest, hentry]
    split
    · cases hfeature rfl
    · simp [Keeps]

/-- Conditions are the same if they keep the same entries. -/
theorem sameAs_iff : a.sameAs b = true ↔ ∀ e, a.Keeps e ↔ b.Keeps e := by
  simp only [sameAs, Bool.and_eq_true, List.all_eq_true, List.contains_iff_mem]
  constructor
  · rintro ⟨⟨⟨hoptions, hoptions'⟩, hfeatures⟩, hfeatures'⟩ e
    cases e with
    | option name value => exact ⟨hoptions _, hoptions' _⟩
    | feature spelling => exact ⟨hfeatures _, hfeatures' _⟩
  · intro h
    exact ⟨⟨⟨fun o => (h (.option o.1 o.2)).mp, fun o => (h (.option o.1 o.2)).mpr⟩,
      fun f => (h (.feature f)).mp⟩, fun f => (h (.feature f)).mpr⟩

/-! ## Setting one option after another -/

/-- The conditions with more options. -/
def withAll (s : Conditions) (options : List (String × Option String)) : Conditions :=
  options.foldl (fun s o => s.withOption o.1 o.2) s

/-- **To set options is to keep their entries**, in whatever order they are set. -/
theorem keeps_withAll (options : List (String × Option String)) (e : Entry) :
    (s.withAll options).Keeps e ↔ (∃ o ∈ options, Entry.of? o = some e) ∨ s.Keeps e := by
  induction options generalizing s with
  | nil => simp [withAll]
  | cons o rest ih =>
      have hrest : s.withAll (o :: rest) = (s.withOption o.1 o.2).withAll rest := rfl
      rw [hrest, ih, keeps_withOption]
      simp only [List.mem_cons, exists_eq_or_imp, or_assoc, or_left_comm]

/-- How often options are set, and in which order, makes no difference. -/
theorem sameAs_withAll {options others : List (String × Option String)}
    (h : ∀ o, o ∈ options ↔ o ∈ others) : (s.withAll options).sameAs (s.withAll others) = true := by
  rw [sameAs_iff]
  intro e
  simp only [keeps_withAll, h]

/-- A step in which conditions are built. -/
inductive Step
  | flag (name : String)
  | value (name value : String)
  | feature (text : String)

namespace Step

/-- The conditions after a step. -/
def take (s : Conditions) : Step → Conditions
  | .flag name => s.withFlag name
  | .value name value => s.withValue name value
  | .feature text => s.withFeature text

/-- The option that a step sets. -/
def option : Step → String × Option String
  | .flag name => (name, none)
  | .value name value => (name, some value)
  | .feature text => ("feature", some text)

theorem take_eq (s : Conditions) (step : Step) :
    step.take s = s.withOption step.option.1 step.option.2 := by
  cases step with
  | flag name => rfl
  | value name value => rfl
  | feature text => exact withFeature_eq s text

/-- The conditions after some steps. -/
def takeAll (s : Conditions) (steps : List Step) : Conditions := steps.foldl take s

theorem takeAll_eq (s : Conditions) (steps : List Step) :
    takeAll s steps = s.withAll (steps.map option) := by
  induction steps generalizing s with
  | nil => rfl
  | cons step rest ih =>
      show takeAll (step.take s) rest = (s.withOption step.option.1 step.option.2).withAll _
      rw [take_eq, ih]

/-- After a step, what is set is what the step sets and what was set before. -/
theorem has_take (s : Conditions) (step : Step) (name : String) (value : Option String) :
    (step.take s).has name value = true
      ↔ name ≠ "test" ∧ (SameOption step.option (name, value) ∨ s.has name value = true) := by
  by_cases htest : name = "test"
  · subst htest
    simp [has]
  · rw [take_eq, ← Entry.of?_eq_iff step.option htest]
    simp only [has_iff_keeps, keeps_withOption, Prod.eta, ne_eq, htest, not_false_eq_true,
      true_and]
    obtain ⟨e, he⟩ : ∃ e, Entry.of? (name, value) = some e := by
      rcases Entry.of?_cases name value with ⟨hname, -⟩ | ⟨_, -, -, he⟩ | ⟨-, -, he⟩
      · exact absurd hname htest
      · exact ⟨_, he⟩
      · exact ⟨_, he⟩
    simp [he]

end Step

/-! ## The variables of a build -/

/-- The options that a variable of a build sets. -/
def optionsOf (binding : String × String) : List (String × Option String) :=
  match Text.afterStart? "CARGO_FEATURE_" binding.1 with
  | some feature => [("feature", some feature)]
  | none =>
    match Text.afterStart? "CARGO_CFG_" binding.1 with
    | some name =>
      if binding.2 = "" then [(Text.lowerLatin name, none)]
      else (Text.splitText ',' binding.2).map fun value => (Text.lowerLatin name, some value)
    | none => []

theorem withVariable_eq (s : Conditions) (binding : String × String) :
    s.withVariable binding = s.withAll (optionsOf binding) := by
  unfold withVariable optionsOf
  cases Text.afterStart? "CARGO_FEATURE_" binding.1 with
  | some text => exact withFeature_eq s text
  | none =>
      cases Text.afterStart? "CARGO_CFG_" binding.1 with
      | none => rfl
      | some name =>
          by_cases hvalue : binding.2 = ""
          · simp only [hvalue, if_true]
            rfl
          · simp only [hvalue, if_false, withAll, List.foldl_map]
            rfl

theorem ofVariables_eq (bindings : List (String × String)) :
    ofVariables bindings = withAll {} (bindings.flatMap optionsOf) := by
  unfold ofVariables
  generalize ({} : Conditions) = start
  induction bindings generalizing start with
  | nil => rfl
  | cons binding rest ih =>
      rw [List.foldl_cons, ih, withVariable_eq, List.flatMap_cons, withAll, withAll, withAll,
        List.foldl_append]

/-- A variable that tells of a feature sets that feature. -/
theorem optionsOf_feature (f value : String) :
    optionsOf ("CARGO_FEATURE_" ++ f, value) = [("feature", some f)] := by
  have hstart : Text.afterStart? "CARGO_FEATURE_" ("CARGO_FEATURE_" ++ f) = some f :=
    Text.afterStart?_eq_some_iff.mpr rfl
  unfold optionsOf
  rw [hstart]

/-- The variable that lists features sets one after another. -/
theorem optionsOf_list {f : String} {values : List String} (hf : f ∈ values) (hne : f ≠ "")
    (hcomma : ∀ v ∈ values, ',' ∉ v.toList) :
    optionsOf ("CARGO_CFG_FEATURE", ",".intercalate values)
      = values.map fun value => ("feature", some value) := by
  have hsplit : Text.splitText ',' (",".intercalate values) = values :=
    Text.splitText_intercalate (List.ne_nil_of_mem hf) hcomma
  have hvalue : ",".intercalate values ≠ "" := by
    intro hempty
    rw [hempty] at hsplit
    -- only one empty value is joined to the empty text
    have hone : values = [""] := hsplit.symm
    rw [hone] at hf
    exact hne (List.mem_singleton.mp hf)
  have hother : Text.afterStart? "CARGO_FEATURE_" "CARGO_CFG_FEATURE" = none := rfl
  have hstart : Text.afterStart? "CARGO_CFG_" "CARGO_CFG_FEATURE" = some "FEATURE" :=
    Text.afterStart?_eq_some_iff.mpr rfl
  have hname : Text.lowerLatin "FEATURE" = "feature" := by decide
  unfold optionsOf
  rw [hother, hstart]
  simp only [hvalue, if_false, hsplit, hname]

/-- A variable that tells of an option or a feature. -/
def IsBuildVariable (binding : String × String) : Prop :=
  ∃ rest, binding.1 = "CARGO_FEATURE_" ++ rest ∨ binding.1 = "CARGO_CFG_" ++ rest

/-- Only such a variable sets anything. -/
theorem isBuildVariable_of_mem {binding : String × String} {o : String × Option String}
    (h : o ∈ optionsOf binding) : IsBuildVariable binding := by
  unfold optionsOf at h
  split at h
  · rename_i rest hrest
    exact ⟨rest, .inl (Text.afterStart?_eq_some_iff.mp hrest)⟩
  · split at h
    · rename_i rest hrest
      exact ⟨rest, .inr (Text.afterStart?_eq_some_iff.mp hrest)⟩
    · cases h

/-- In which order variables come, how often, and with which others, makes no difference. -/
theorem sameAs_ofVariables {bindings others : List (String × String)}
    (h : ∀ binding, IsBuildVariable binding → (binding ∈ bindings ↔ binding ∈ others)) :
    (ofVariables bindings).sameAs (ofVariables others) = true := by
  rw [ofVariables_eq, ofVariables_eq]
  refine sameAs_withAll fun o => ?_
  simp only [List.mem_flatMap]
  constructor
  · rintro ⟨binding, hbinding, ho⟩
    exact ⟨binding, (h binding (isBuildVariable_of_mem ho)).mp hbinding, ho⟩
  · rintro ⟨binding, hbinding, ho⟩
    exact ⟨binding, (h binding (isBuildVariable_of_mem ho)).mpr hbinding, ho⟩

/-! ## What is kept -/

/-- Nothing is kept of `test`, no feature is kept as a value of `feature`, all features are kept in
their one spelling, and nothing is kept twice. -/
structure WellKept (s : Conditions) : Prop where
  test : ∀ o ∈ s.options, o.1 ≠ "test"
  feature : ∀ o ∈ s.options, o.1 = "feature" → o.2 = none
  spelled : s.Spelled
  options : s.options.Nodup
  features : s.features.Nodup

theorem wellKept_empty : WellKept {} where
  test o ho := by cases ho
  feature o ho := by cases ho
  spelled f hf := by cases hf
  options := List.nodup_nil
  features := List.nodup_nil

theorem WellKept.withOption (h : s.WellKept) (name : String) (value : Option String) :
    (s.withOption name value).WellKept := by
  rcases Entry.of?_cases name value with
    ⟨rfl, -⟩ | ⟨feature, rfl, rfl, -⟩ | ⟨htest, hfeature, -⟩
  · simpa [Conditions.withOption] using h
  · rw [← withFeature_eq]
    exact ⟨h.test, h.feature, h.spelled.withFeature feature, h.options, h.features.insert⟩
  · rw [withOption_of_plain htest hfeature]
    refine ⟨fun o ho => ?_, fun o ho => ?_, h.spelled, h.options.insert, h.features⟩
    · rcases List.mem_insert_iff.mp ho with rfl | ho
      · exact htest
      · exact h.test o ho
    · rcases List.mem_insert_iff.mp ho with rfl | ho
      · exact hfeature
      · exact h.feature o ho

theorem WellKept.withAll (h : s.WellKept) (options : List (String × Option String)) :
    (s.withAll options).WellKept := by
  induction options generalizing s with
  | nil => exact h
  | cons o rest ih => exact ih (h.withOption o.1 o.2)

/-- **Whatever the steps were**, all is well kept. -/
theorem Built.wellKept (h : Built s) : s.WellKept := by
  induction h with
  | empty => exact wellKept_empty
  | flag _ name ih => exact ih.withOption name none
  | value _ name value ih => exact ih.withOption name (some value)
  | feature _ text ih =>
      rw [withFeature_eq]
      exact ih.withOption "feature" (some text)
  | environment bindings =>
      rw [ofVariables_eq]
      exact wellKept_empty.withAll _

/-! ## Features -/

/-- The ways in which a feature is switched on: by itself, as a value of `feature`, and by one of
the variables of a build, which tells of it alone or lists it among others. -/
inductive SwitchedOn (f : String) : Conditions → Prop
  | feature (s : Conditions) : SwitchedOn f (s.withFeature f)
  | value (s : Conditions) : SwitchedOn f (s.withValue "feature" f)
  | variable {bindings : List (String × String)} {value : String}
    (h : ("CARGO_FEATURE_" ++ f, value) ∈ bindings) : SwitchedOn f (ofVariables bindings)
  | list {bindings : List (String × String)} {values : List String}
    (h : ("CARGO_CFG_FEATURE", ",".intercalate values) ∈ bindings) (hf : f ∈ values)
    (hcomma : ∀ v ∈ values, ',' ∉ v.toList) : SwitchedOn f (ofVariables bindings)

/-- A feature that is switched on is kept. -/
theorem SwitchedOn.keeps {f : String} (hne : f ≠ "") (h : SwitchedOn f s) :
    s.Keeps (.feature (featureSpelling f)) := by
  have hentry := Entry.of?_feature f
  cases h with
  | feature s =>
      rw [withFeature_eq, keeps_withOption]
      exact .inl hentry
  | value s => exact (keeps_withOption _).mpr (.inl hentry)
  | «variable» h =>
      rw [ofVariables_eq, keeps_withAll]
      refine .inl ⟨_, List.mem_flatMap.mpr ⟨_, h, ?_⟩, hentry⟩
      rw [optionsOf_feature]
      exact List.mem_singleton_self _
  | list h hf hcomma =>
      rw [ofVariables_eq, keeps_withAll]
      refine .inl ⟨_, List.mem_flatMap.mpr ⟨_, h, ?_⟩, hentry⟩
      rw [optionsOf_list hf hne hcomma]
      exact List.mem_map_of_mem hf

/-- **A feature that is switched on is found** in whatever spelling. -/
theorem SwitchedOn.holds {f g : String} (hne : f ≠ "") (h : SwitchedOn f s)
    (hsame : featureSpelling g = featureSpelling f) :
    (Predicate.option "feature" (some g)).holds s = true := by
  have hkept : s.Keeps (.feature (featureSpelling g)) := by
    rw [hsame]
    exact h.keeps hne
  rw [Predicate.holds]
  exact has_iff_keeps.mpr ⟨_, Entry.of?_feature g, hkept⟩

/-- **Conditions are sets, however they are built.**

* All is well kept in them.
* After a step, an option is found if the step sets it or it was found before; `test` never is.
* A step that sets a value of `feature`, and a variable that tells of a feature or lists it alone,
  do what setting the feature does.
* Whichever way a feature was switched on, predicates find it in whatever spelling.
* The order of the steps, and how often they are taken, make no difference.
* Nor does the order of variables, or how often they come, or what other variables there are. -/
theorem built_as_sets :
    (∀ s, Built s → s.WellKept)
    ∧ (∀ (s : Conditions) (step : Step) (name : String) (value : Option String),
      (step.take s).has name value = true
        ↔ name ≠ "test" ∧ (SameOption step.option (name, value) ∨ s.has name value = true))
    ∧ (∀ f, f ≠ "" → ',' ∉ f.toList → ∀ s : Conditions, s.withValue "feature" f = s.withFeature f
      ∧ (∀ value, s.withVariable ("CARGO_FEATURE_" ++ f, value) = s.withFeature f)
      ∧ s.withVariable ("CARGO_CFG_FEATURE", f) = s.withFeature f)
    ∧ (∀ f s, f ≠ "" → SwitchedOn f s → ∀ g, featureSpelling g = featureSpelling f →
      (Predicate.option "feature" (some g)).holds s = true)
    ∧ (∀ s (steps others : List Step), (∀ step, step ∈ steps ↔ step ∈ others) →
      (Step.takeAll s steps).sameAs (Step.takeAll s others) = true)
    ∧ ∀ bindings others,
      (∀ binding, IsBuildVariable binding → (binding ∈ bindings ↔ binding ∈ others)) →
        (ofVariables bindings).sameAs (ofVariables others) = true := by
  refine ⟨fun s => Built.wellKept, Step.has_take, fun f hne hcomma s => ?_,
    fun f s hne hon g => hon.holds hne, fun s steps others h => ?_,
    fun bindings others => sameAs_ofVariables⟩
  · refine ⟨(withFeature_eq s f).symm, fun value => ?_, ?_⟩
    · rw [withVariable_eq, optionsOf_feature, withFeature_eq]
      rfl
    · have hlist : optionsOf ("CARGO_CFG_FEATURE", f) = [("feature", some f)] := by
        have hone := optionsOf_list (List.mem_singleton_self f) hne
          (fun v hv => (by rwa [List.mem_singleton.mp hv]))
        rwa [String.intercalate_singleton] at hone
      rw [withVariable_eq, hlist, withFeature_eq]
      rfl
  · rw [Step.takeAll_eq, Step.takeAll_eq]
    refine sameAs_withAll fun o => ?_
    simp only [List.mem_map, h]

/-- Variables of a build for which a feature is listed. -/
def listedFeature : List (String × String) :=
  [("CARGO_CFG_TEST", ""), ("CARGO_CFG_FEATURE", "serde,Extra-Fields")]

/-- The same in another order, one of them twice, with one that tells of nothing. -/
def listedFeatureAgain : List (String × String) :=
  [("CARGO_CFG_FEATURE", "serde,Extra-Fields"), ("PATH", "/usr/bin"), ("CARGO_CFG_TEST", ""),
    ("CARGO_CFG_FEATURE", "serde,Extra-Fields")]

theorem not_isBuildVariable_path (value : String) : ¬ IsBuildVariable ("PATH", value) := by
  rintro ⟨rest, hrest | hrest⟩
  · exact absurd (congrArg (·.toList.head?) hrest) (by simp)
  · exact absurd (congrArg (·.toList.head?) hrest) (by simp)

/-- The feature is found in another spelling, and the variables of both say the same. -/
theorem listedFeature_asSets :
    (ofVariables listedFeature).WellKept
      ∧ (Predicate.option "feature" (some "extra_fields")).holds (ofVariables listedFeature) = true
      ∧ (ofVariables listedFeature).sameAs (ofVariables listedFeatureAgain) = true := by
  obtain ⟨hkept, -, -, hholds, -, hsame⟩ := built_as_sets
  have hlisted : ("CARGO_CFG_FEATURE", ",".intercalate ["serde", "Extra-Fields"])
      ∈ listedFeature := by decide
  have hon : SwitchedOn "Extra-Fields" (ofVariables listedFeature) :=
    .list hlisted (by decide) (by decide)
  have hspelling : featureSpelling "extra_fields" = featureSpelling "Extra-Fields" := by
    rw [featureSpelling_eq, featureSpelling_eq]
    exact congrArg String.ofList (by decide)
  have hne : "Extra-Fields" ≠ "" := by decide
  have hfound := hholds "Extra-Fields" (ofVariables listedFeature) hne hon "extra_fields" hspelling
  have hbuilt : Built (ofVariables listedFeature) := .environment listedFeature
  refine ⟨hkept _ hbuilt, hfound, hsame listedFeature listedFeatureAgain ?_⟩
  intro binding hbinding
  have hother : binding ≠ ("PATH", "/usr/bin") := by
    rintro rfl
    exact not_isBuildVariable_path _ hbinding
  unfold listedFeature listedFeatureAgain
  simp only [List.mem_cons, List.not_mem_nil, or_false, hother, false_or]
  constructor
  · exact fun h => .inr h
  · rintro (h | h | h)
    · exact .inr h
    · exact .inl h
    · exact .inr h

end Conditions

end Fieldwise
