import Fieldwise.Pass
import Mathlib.Data.List.Forall2

set_option autoImplicit false

/-! # Every candidate is accounted for

A candidate has to keep three rules (`CandidateRule`): it is visible to everyone, it is no trait,
it has no generic parameters. One that keeps them all ends up in the batch (`collect_batch`), for
any other there is one diagnostic, about the first rule that it breaks (`collect_diagnostics`).

`pass_cases` says all that a pass can come to: nothing but those diagnostics where the batch is
empty, and otherwise what generating gives, with one more diagnostic if that fails.
`pass_accounts` puts the two together: nothing is lost, repeated or reordered on the way from the
declarations to the functions of the bundle.
-/

namespace Fieldwise

/-! ## The rules for candidates -/

/-- A rule for candidates. -/
inductive CandidateRule
  | isPublic
  | isConcrete
  | isNotGeneric
  deriving DecidableEq, Repr

namespace CandidateRule

/-- The rules, in the order in which they are applied. -/
def all : List CandidateRule := [isPublic, isConcrete, isNotGeneric]

/-- Whether a declaration breaks a rule. -/
def isBroken (d : Declaration) : CandidateRule → Bool
  | isPublic => d.visibility ≠ .unrestricted
  | isConcrete => d.kind = .trait
  | isNotGeneric => d.generics ≠ []

/-- What is said of a declaration that breaks a rule. -/
def complaint (marker : String) (d : Declaration) : CandidateRule → String
  | isPublic => "Classes annotated with #[" ++ marker ++ "] must be public."
  | isConcrete => "Classes annotated with #[" ++ marker ++ "] must not be abstract."
  | isNotGeneric =>
    "Couldn't process class " ++ d.qualifiedName ++ ": generic parameters are not supported"

end CandidateRule

namespace Declaration

/-- A declaration that a function can be made for: it is `pub` without restriction, no trait, and
without generic parameters. -/
structure Usable (d : Declaration) : Prop where
  isPublic : d.visibility = .unrestricted
  isConcrete : d.kind ≠ .trait
  isNotGeneric : d.generics = []

instance (d : Declaration) : Decidable d.Usable :=
  decidable_of_iff (d.visibility = .unrestricted ∧ d.kind ≠ .trait ∧ d.generics = [])
    ⟨fun h => ⟨h.1, h.2.1, h.2.2⟩, fun h => ⟨h.isPublic, h.isConcrete, h.isNotGeneric⟩⟩

/-- The first rule that a declaration breaks. -/
def brokenRule? (d : Declaration) : Option CandidateRule :=
  CandidateRule.all.find? (CandidateRule.isBroken d)

/-- What the user is told of a declaration that breaks a rule, with the name of the declaration and
the line where it stands. -/
def objection (marker : String) (d : Declaration) (rule : CandidateRule) : Diagnostic :=
  ⟨rule.complaint marker d, some d.qualifiedName, d.anchor⟩

/-- What the user is told of a declaration that breaks rules; the first one decides. -/
def objection? (marker : String) (d : Declaration) : Option Diagnostic :=
  d.brokenRule?.map (d.objection marker)

/-- What a batch keeps of a declaration. -/
def marked (d : Declaration) : Marked :=
  ⟨d.qualifiedName, dropRawMark d.simpleName, d.package, d.fields, d.anchor⟩

theorem brokenRule?_eq_none_iff (d : Declaration) : d.brokenRule? = none ↔ d.Usable := by
  have hall : d.brokenRule? = none ↔ ∀ rule ∈ CandidateRule.all, ¬ rule.isBroken d = true :=
    List.find?_eq_none
  simp only [hall, CandidateRule.all, List.forall_mem_cons, CandidateRule.isBroken,
    decide_eq_true_eq, not_not]
  constructor
  · rintro ⟨hpublic, hconcrete, hgeneric, -⟩
    exact ⟨hpublic, hconcrete, hgeneric⟩
  · intro h
    exact ⟨h.isPublic, h.isConcrete, h.isNotGeneric, fun rule hrule => by cases hrule⟩

theorem objection?_eq_none_iff (marker : String) (d : Declaration) :
    d.objection? marker = none ↔ d.Usable := by
  rw [objection?, Option.map_eq_none_iff, brokenRule?_eq_none_iff]

end Declaration

theorem markerText_between (front marker back : String) :
    front ++ markerText marker ++ back = front ++ "#[" ++ marker ++ ("]" ++ back) := by
  simp only [markerText, String.append_assoc]

theorem notPublic_eq_objection (marker : String) (d : Declaration) :
    Diagnostic.notPublic marker d = d.objection marker .isPublic := by
  rw [Diagnostic.notPublic, markerText_between]
  rfl

theorem isAbstract_eq_objection (marker : String) (d : Declaration) :
    Diagnostic.isAbstract marker d = d.objection marker .isConcrete := by
  rw [Diagnostic.isAbstract, markerText_between]
  rfl

theorem processFailed_eq_objection (marker : String) (d : Declaration) :
    Diagnostic.processFailed d DescribeError.genericParameters.message
      = d.objection marker .isNotGeneric := by
  rw [Diagnostic.processFailed, String.append_assoc]
  rfl

/-! ## Collecting -/

namespace Collection

@[simp] theorem batch_append (a b : Collection) : (a ++ b).batch = a.batch ++ b.batch := rfl

@[simp] theorem diagnostics_append (a b : Collection) :
    (a ++ b).diagnostics = a.diagnostics ++ b.diagnostics := rfl

/-- **One candidate goes to the batch or gets one diagnostic.** -/
theorem ofCandidate_parts (marker : String) (d : Declaration) :
    (ofCandidate marker d).batch = (if d.Usable then [d.marked] else [])
      ∧ (ofCandidate marker d).diagnostics = (d.objection? marker).toList := by
  by_cases hpublic : d.visibility = .unrestricted
  · by_cases hconcrete : d.kind = .trait
    · have husable : ¬ d.Usable := fun h => h.isConcrete hconcrete
      have hrule : d.brokenRule? = some .isConcrete := by
        simp [Declaration.brokenRule?, CandidateRule.all, CandidateRule.isBroken, hpublic,
          hconcrete]
      have hjudge : judge marker d = .rejected (d.objection marker .isConcrete) := by
        simp [judge, hpublic, hconcrete, Kind.isAbstract, isAbstract_eq_objection]
      simp [ofCandidate, hjudge, Declaration.objection?, hrule, husable]
    · have hjudge : judge marker d = .accepted := by
        cases hkind : d.kind with
        | trait => exact absurd hkind hconcrete
        | _ => simp [judge, hpublic, hkind, Kind.isAbstract]
      by_cases hgeneric : d.generics = []
      · have husable : d.Usable := ⟨hpublic, hconcrete, hgeneric⟩
        have hdescribe : d.describe = .ok d.marked := by
          simp [Declaration.describe, hgeneric, Declaration.marked]
        simp [ofCandidate, hjudge, hdescribe, husable,
          (d.objection?_eq_none_iff marker).mpr husable]
      · have husable : ¬ d.Usable := fun h => hgeneric h.isNotGeneric
        have hrule : d.brokenRule? = some .isNotGeneric := by
          simp [Declaration.brokenRule?, CandidateRule.all, CandidateRule.isBroken, hpublic,
            hconcrete, hgeneric]
        have hdescribe : d.describe = .error .genericParameters := by
          simp [Declaration.describe, hgeneric]
        simp [ofCandidate, hjudge, hdescribe, Declaration.objection?, hrule, husable,
          processFailed_eq_objection marker]
  · have husable : ¬ d.Usable := fun h => hpublic h.isPublic
    have hrule : d.brokenRule? = some .isPublic := by
      simp [Declaration.brokenRule?, CandidateRule.all, CandidateRule.isBroken, hpublic]
    have hjudge : judge marker d = .rejected (d.objection marker .isPublic) := by
      simp [judge, hpublic, notPublic_eq_objection]
    simp [ofCandidate, hjudge, Declaration.objection?, hrule, husable]

end Collection

/-- The candidates among some declarations that can be used, in order. -/
def usableCandidates (marker : String) (declarations : List Declaration) : List Declaration :=
  (candidates marker declarations).filter fun d => d.Usable

/-- The candidates among some declarations that cannot be used, in order. -/
def unusableCandidates (marker : String) (declarations : List Declaration) : List Declaration :=
  (candidates marker declarations).filter fun d => ¬ d.Usable

theorem batch_ofCandidates (marker : String) (ds : List Declaration) :
    (Collection.ofCandidates marker ds).batch
      = (ds.filter fun d => d.Usable).map Declaration.marked := by
  induction ds with
  | nil => rfl
  | cons d rest ih =>
      rw [Collection.ofCandidates, Collection.batch_append, ih,
        (Collection.ofCandidate_parts marker d).1]
      by_cases h : d.Usable <;> simp [h]

theorem diagnostics_ofCandidates (marker : String) (ds : List Declaration) :
    (Collection.ofCandidates marker ds).diagnostics
      = ds.filterMap (Declaration.objection? marker) := by
  induction ds with
  | nil => rfl
  | cons d rest ih =>
      rw [Collection.ofCandidates, Collection.diagnostics_append, ih,
        (Collection.ofCandidate_parts marker d).2, List.filterMap_cons]
      cases d.objection? marker <;> rfl

/-- **The batch holds the candidates that can be used**, in order. -/
theorem collect_batch (marker : String) (declarations : List Declaration) :
    (collect marker declarations).batch
      = (usableCandidates marker declarations).map Declaration.marked :=
  batch_ofCandidates marker _

/-- **Every other candidate gets one diagnostic**, in order. -/
theorem collect_diagnostics (marker : String) (declarations : List Declaration) :
    List.Forall₂ (fun d diagnostic => d.objection? marker = some diagnostic)
      (unusableCandidates marker declarations) (collect marker declarations).diagnostics := by
  rw [collect, diagnostics_ofCandidates, unusableCandidates]
  induction candidates marker declarations with
  | nil => exact .nil
  | cons d rest ih =>
      cases hobjection : d.objection? marker with
      | none =>
          have husable : d.Usable := (d.objection?_eq_none_iff marker).mp hobjection
          simpa [List.filterMap_cons, hobjection, husable] using ih
      | some diagnostic =>
          have husable : ¬ d.Usable := fun h => by
            rw [(d.objection?_eq_none_iff marker).mpr h] at hobjection
            cases hobjection
          rw [List.filterMap_cons, hobjection, List.filter_cons_of_pos (by simpa using husable)]
          exact .cons hobjection ih

/-! ## Generating -/

/-- The function for a marked type, if there is one. -/
def Marked.textFunction (m : Marked) : TextFunction :=
  ⟨m.qualifiedName, typePathOf m.qualifiedName, m.simpleName, m.fields⟩

theorem Marked.eq_textFunction_of_function {m : Marked} {f : TextFunction}
    (h : m.function = .ok (.ok f)) : f = m.textFunction := by
  unfold Marked.function at h
  dsimp only at h
  split at h
  · cases h
  · split at h
    · cases h
    · cases h
    · cases h
      rfl

section Functions

-- reading the path of a type is not for unification to try
attribute [local irreducible] Marked.function

theorem Batch.functions_cons (m : Marked) (rest : List Marked) :
    Batch.functions (m :: rest) = match m.function with
      | .error halt => .error halt
      | .ok (.error reason) => .ok (.error reason)
      | .ok (.ok f) =>
        match Batch.functions rest with
        | .error halt => .error halt
        | .ok (.error reason) => .ok (.error reason)
        | .ok (.ok fs) => .ok (.ok (f :: fs)) := rfl

/-- There are functions for all types of a batch or for none. -/
theorem Batch.eq_map_of_functions {batch : List Marked} {fs : List TextFunction}
    (h : Batch.functions batch = .ok (.ok fs)) : fs = batch.map Marked.textFunction := by
  induction batch generalizing fs with
  | nil =>
      cases h
      rfl
  | cons m rest ih =>
      rw [Batch.functions_cons] at h
      split at h
      · cases h
      · cases h
      · rename_i f hf
        split at h
        · cases h
        · cases h
        · rename_i more hmore
          cases h
          rw [List.map_cons, ← ih hmore, ← Marked.eq_textFunction_of_function hf]

end Functions

/-- The bundle that a batch with a first type gives, if it gives one. -/
def Batch.bundle (settings : Settings) (leader : Marked) (batch : Batch) : Bundle where
  typeName := settings.typeName
  package := leader.package
  functions := batch.map Marked.textFunction
  rendering := settings.rendering
  runtime := settings.runtime
  fileName := settings.fileName

theorem Batch.eq_bundle_of_generate {batch : Batch} {settings : Settings} {generation : Generation}
    {bundle : Bundle} (h : batch.generate settings = .ok generation)
    (hresult : generation.result = .ok bundle) :
    ∃ leader, batch.head? = some leader ∧ bundle = Batch.bundle settings leader batch := by
  unfold Batch.generate at h
  split at h
  · cases h
    cases hresult
  · rename_i leader hleader
    refine ⟨leader, hleader, ?_⟩
    split at h
    · cases h
      cases hresult
    · dsimp only at h
      split at h
      · cases h
      · cases h
        cases hresult
      · rename_i fs hfs
        cases h
        cases hresult
        rw [Batch.eq_map_of_functions hfs]
        rfl

/-! ## A pass -/

/-- **All that a pass can come to.** Where no candidate can be used there is nothing to generate.
Otherwise the bundle is what generating gives, and there is one more diagnostic if that fails. -/
theorem pass_cases {settings : Settings} {declarations : List Declaration} {outcome : PassOutcome}
    (h : pass settings declarations = .ok outcome) :
    ((collect settings.marker declarations).batch = [] ∧ outcome.bundle = none
        ∧ outcome.diagnostics = (collect settings.marker declarations).diagnostics)
      ∨ ((collect settings.marker declarations).batch ≠ []
        ∧ ∃ generation, (collect settings.marker declarations).batch.generate settings
            = .ok generation
          ∧ outcome.bundle = some generation.result
          ∧ outcome.diagnostics = (collect settings.marker declarations).diagnostics
            ++ match generation.result with
              | .ok _ => []
              | .error reason =>
                [(collect settings.marker declarations).batch.blame reason]) := by
  unfold pass at h
  dsimp only at h
  split at h
  · rename_i hempty
    cases h
    exact Or.inl ⟨List.isEmpty_iff.mp hempty, rfl, rfl⟩
  · rename_i hempty
    refine Or.inr ⟨fun hnil => hempty (List.isEmpty_iff.mpr hnil), ?_⟩
    split at h
    · cases h
    · rename_i generation hgeneration
      cases h
      exact ⟨generation, hgeneration, rfl, rfl⟩

/-- A pass that gives a bundle has nothing more to say than what it said of its candidates. -/
theorem pass_generated {settings : Settings} {declarations : List Declaration}
    {outcome : PassOutcome} {bundle : Bundle} (h : pass settings declarations = .ok outcome)
    (hbundle : outcome.bundle = some (.ok bundle)) :
    outcome.diagnostics = (collect settings.marker declarations).diagnostics
      ∧ ∃ first, (usableCandidates settings.marker declarations).head? = some first
        ∧ bundle = Batch.bundle settings first.marked
          ((usableCandidates settings.marker declarations).map Declaration.marked) := by
  have hbatch := collect_batch settings.marker declarations
  rcases pass_cases h with ⟨-, hnone, -⟩ | ⟨-, generation, hgenerate, hsome, hdiagnostics⟩
  · rw [hnone] at hbundle
    cases hbundle
  · have hresult : generation.result = .ok bundle := by
      rw [hsome] at hbundle
      exact Option.some.inj hbundle
    obtain ⟨leader, hleader, rfl⟩ := Batch.eq_bundle_of_generate hgenerate hresult
    rw [hbatch, List.head?_map] at hleader
    obtain ⟨first, hfirst, rfl⟩ := Option.map_eq_some_iff.mp hleader
    rw [hresult, List.append_nil] at hdiagnostics
    exact ⟨hdiagnostics, first, hfirst, by rw [hbatch]⟩

/-- A name without the mark of a raw name: what follows `r#`, or all of it. -/
inductive BareName : String → String → Prop
  | raw (bare : String) : BareName ("r#" ++ bare) bare
  | plain {name : String} (h : ∀ bare, name ≠ "r#" ++ bare) : BareName name name

theorem bareName_dropRawMark (name : String) : BareName name (dropRawMark name) := by
  unfold dropRawMark
  split
  · rename_i rest hrest
    have hname : name = "r#" ++ String.ofList rest := by
      apply String.ext
      simp [hrest]
    nth_rewrite 1 [hname]
    exact .raw _
  · rename_i hnot
    refine .plain fun bare hbare => hnot bare.toList ?_
    simp [hbare]

/-- What a batch keeps of a declaration. -/
structure Marked.Describes (m : Marked) (d : Declaration) : Prop where
  qualifiedName : m.qualifiedName = d.qualifiedName
  simpleName : BareName d.simpleName m.simpleName
  package : m.package = d.package
  fields : m.fields = (d.members.filter fun member => member.kind = .field).map Member.name
  anchor : m.anchor = d.anchor

/-- The function that shows values of a declared type: it names the type by its path from the root
of the crate, and shows its name without `r#` and all its fields. -/
structure TextFunction.Shows (f : TextFunction) (d : Declaration) : Prop where
  declaration : f.declaration = d.qualifiedName
  typePath : f.typePath = "crate::" ++ d.qualifiedName
  simpleName : BareName d.simpleName f.simpleName
  fields : f.fields = (d.members.filter fun member => member.kind = .field).map Member.name

theorem Declaration.marked_describes (d : Declaration) : d.marked.Describes d :=
  ⟨rfl, bareName_dropRawMark _, rfl, rfl, rfl⟩

theorem Declaration.textFunction_shows (d : Declaration) : d.marked.textFunction.Shows d :=
  ⟨rfl, rfl, bareName_dropRawMark _, rfl⟩

/-- What an account of a pass says. The diagnostics are `objections`, and then `more`. -/
structure PassOutcome.Accounts (outcome : PassOutcome) (settings : Settings)
    (declarations : List Declaration) (objections more : List Diagnostic) : Prop where
  /-- The batch holds the candidates that can be used, in order. -/
  batch : List.Forall₂ Marked.Describes (collect settings.marker declarations).batch
    (usableCandidates settings.marker declarations)
  diagnostics : outcome.diagnostics = objections ++ more
  /-- There is one objection to each other candidate, in order: to the first rule it breaks. -/
  objections : List.Forall₂ (fun d objection => d.objection? settings.marker = some objection)
    (unusableCandidates settings.marker declarations) objections
  /-- There is nothing to generate just where no candidate can be used. -/
  nothing_iff : outcome.bundle = none ↔ usableCandidates settings.marker declarations = []
  nothing_more : outcome.bundle = none → more = []
  /-- Where there is something to generate, one more diagnostic says that it failed. -/
  failed_iff : outcome.bundle ≠ none →
    ((∃ reason, outcome.bundle = some (.error reason)) ↔ more.length = 1)
  /-- There is one function for each candidate that can be used, in order, and the first of these
  decides about the package. -/
  generated : ∀ bundle, outcome.bundle = some (.ok bundle) → more = []
    ∧ List.Forall₂ TextFunction.Shows bundle.functions
      (usableCandidates settings.marker declarations)
    ∧ ∃ first, (usableCandidates settings.marker declarations).head? = some first
      ∧ bundle.package = first.package

/-- **Every candidate is accounted for exactly once.** A candidate that can be used has its place in
the batch and its function in the bundle, if there is one; any other has its diagnostic. -/
theorem pass_accounts {settings : Settings} {declarations : List Declaration}
    {outcome : PassOutcome} (h : pass settings declarations = .ok outcome) :
    ∃ objections more, outcome.Accounts settings declarations objections more := by
  have hbatch := collect_batch settings.marker declarations
  have hobjections := collect_diagnostics settings.marker declarations
  have hdescribed : List.Forall₂ Marked.Describes (collect settings.marker declarations).batch
      (usableCandidates settings.marker declarations) := by
    rw [hbatch, List.forall₂_map_left_iff, List.forall₂_same]
    exact fun d _ => d.marked_describes
  rcases pass_cases h with ⟨hempty, hnone, hdiagnostics⟩ | ⟨hsome, generation, -, hbundle,
    hdiagnostics⟩
  · refine ⟨_, [], hdescribed, by rw [hdiagnostics, List.append_nil], hobjections, ?_,
      fun _ => rfl, fun hnot => absurd hnone hnot, ?_⟩
    · rw [hbatch, List.map_eq_nil_iff] at hempty
      simp [hnone, hempty]
    · intro bundle hbundle
      rw [hnone] at hbundle
      cases hbundle
  · refine ⟨_, _, hdescribed, hdiagnostics, hobjections, ?_, ?_, ?_, ?_⟩
    · rw [hbatch] at hsome
      simpa [hbundle] using hsome
    · intro hnone
      rw [hbundle] at hnone
      cases hnone
    · intro _
      cases hresult : generation.result with
      | ok bundle => simp [hbundle, hresult]
      | error reason => simp [hbundle, hresult]
    · intro bundle hok
      obtain ⟨hsame, first, hfirst, rfl⟩ := pass_generated h hok
      refine ⟨?_, ?_, first, hfirst, rfl⟩
      · rw [hdiagnostics] at hsame
        exact List.append_right_eq_self.mp hsame
      · rw [Batch.bundle, List.map_map, List.forall₂_map_left_iff, List.forall₂_same]
        exact fun d _ => d.textFunction_shows

/-- A struct in the module `model` that carries the marker. -/
def markedStruct (name : String) : Declaration where
  qualifiedName := "model::" ++ name
  simpleName := name
  package := ⟨["model"]⟩
  visibility := .unrestricted
  kind := .struct
  attributes := ["static_string_util"]
  generics := []
  members := []
  anchor := some ⟨"src/model.rs", 3⟩

/-- Candidates of every sort, and one declaration that is none. -/
def mixedDeclarations : List Declaration :=
  [{ markedStruct "Hidden" with visibility := .restricted "crate", kind := .trait },
    { markedStruct "r#User" with members := [⟨"id", .field⟩, ⟨"new", .method⟩, ⟨"id", .field⟩] },
    { markedStruct "Shape" with kind := .trait, generics := ["T"] },
    { markedStruct "Plain" with attributes := ["derive"] },
    { markedStruct "Wrapper" with generics := ["T"] },
    { markedStruct "Order" with package := ⟨["shop"]⟩ }]

/-- A result of which something is known is a result. -/
theorem exists_ok_of_view {ε α β : Type} {x : Except ε α} {view : α → β} {b : β}
    (h : x.toOption.map view = some b) : ∃ a, x = .ok a ∧ view a = b := by
  cases x with
  | error e => cases h
  | ok a => exact ⟨a, rfl, Option.some.inj h⟩

theorem eq_ok_of_toOption {ε α : Type} {x : Except ε α} {a : α} (h : x.toOption = some a) :
    x = .ok a := by
  cases x with
  | error e => cases h
  | ok found => exact congrArg Except.ok (Option.some.inj h)

/-- The functions that a pass gives. -/
def PassOutcome.functions (outcome : PassOutcome) : List TextFunction :=
  match outcome.bundle with
  | some (.ok bundle) => bundle.functions
  | _ => []

/-- Two of them end up in the bundle, three get a diagnostic each. -/
theorem mixedDeclarations_accounted :
    ∃ outcome objections more, pass {} mixedDeclarations = .ok outcome
      ∧ outcome.Accounts {} mixedDeclarations objections more
      ∧ outcome.functions.map (fun f => (f.typePath, f.simpleName, f.fields))
        = [("crate::model::r#User", "User", ["id", "id"]), ("crate::model::Order", "Order", [])]
      ∧ outcome.diagnostics.map Diagnostic.message
        = ["Classes annotated with #[static_string_util] must be public.",
          "Classes annotated with #[static_string_util] must not be abstract.",
          "Couldn't process class model::Wrapper: generic parameters are not supported"] := by
  obtain ⟨outcome, hpass, hview⟩ : ∃ outcome, pass {} mixedDeclarations = .ok outcome
      ∧ (outcome.functions.map (fun f => (f.typePath, f.simpleName, f.fields)),
          outcome.diagnostics.map Diagnostic.message)
        = ([("crate::model::r#User", "User", ["id", "id"]), ("crate::model::Order", "Order", [])],
          ["Classes annotated with #[static_string_util] must be public.",
            "Classes annotated with #[static_string_util] must not be abstract.",
            "Couldn't process class model::Wrapper: generic parameters are not supported"]) :=
    exists_ok_of_view (by decide +kernel)
  obtain ⟨hfunctions, hmessages⟩ := Prod.mk.inj hview
  obtain ⟨objections, more, haccounts⟩ := pass_accounts hpass
  exact ⟨outcome, objections, more, hpass, haccounts, hfunctions, hmessages⟩

end Fieldwise
