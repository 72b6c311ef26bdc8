import Fieldwise.Proofs.Bundle.Rendering
import Fieldwise.Proofs.Lists.First

set_option autoImplicit false

/-! # What stops a batch

The functions of a batch are made one after another, and the labels of each type are read one after
another. Both ways the first entry that is not as it should be decides (`eachOf_refused_iff`,
`eachOf_halts_iff`). So there are three things that a batch stops at, each the first of its kind: a
type whose path does not read, a label that leads nowhere, and a label that is a number too large
for an index. The first two refuse the batch (`Batch.functions_refused_iff`), the third gives no
answer (`Batch.functions_halts_iff`).
-/

namespace Fieldwise

open Grammar

/-! ## One entry after another -/

/-- Does something for every entry of a list. The first entry for which it is refused, or for which
there is no answer, decides. -/
def eachOf {α β ε : Type} (f : α → Except Halt (Except ε β)) :
    List α → Except Halt (Except ε (List β))
  | [] => .ok (.ok [])
  | x :: rest =>
    match f x with
    | .error halt => .error halt
    | .ok (.error reason) => .ok (.error reason)
    | .ok (.ok b) =>
      match eachOf f rest with
      | .error halt => .error halt
      | .ok (.error reason) => .ok (.error reason)
      | .ok (.ok bs) => .ok (.ok (b :: bs))

/-- What ends a computation that gives nothing: a halt, or a reason. -/
def stop? {β ε : Type} : Except Halt (Except ε β) → Option (Halt ⊕ ε)
  | .error halt => some (.inl halt)
  | .ok (.error reason) => some (.inr reason)
  | .ok (.ok _) => none

section Each

variable {α β ε : Type} {f : α → Except Halt (Except ε β)} {result : Except Halt (Except ε β)}
  {xs : List α} {halt : Halt} {reason : ε}

theorem stop?_eq_none_iff : stop? result = none ↔ ∃ b, result = .ok (.ok b) := by
  rcases result with found | found | b <;> simp [stop?]

theorem stop?_eq_halt_iff : stop? result = some (.inl halt) ↔ result = .error halt := by
  rcases result with found | found | b <;> simp [stop?]

theorem stop?_eq_reason_iff :
    stop? result = some (.inr reason) ↔ result = .ok (.error reason) := by
  rcases result with found | found | b <;> simp [stop?]

/-- What ends the work on a list is what ends it for the first entry that gives nothing. -/
theorem stop?_eachOf (f : α → Except Halt (Except ε β)) (xs : List α) :
    stop? (eachOf f xs) = xs.findSome? fun x => stop? (f x) := by
  induction xs with
  | nil => rfl
  | cons x rest ih =>
      rw [List.findSome?_cons, ← ih, eachOf]
      rcases f x with found | found | b
      · rfl
      · rfl
      · rcases eachOf f rest with found | found | bs <;> rfl

/-- Something is done for an entry. -/
def Succeeds (f : α → Except Halt (Except ε β)) (x : α) : Prop := ∃ b, f x = .ok (.ok b)

theorem findSome?_stop?_iff {stop : Halt ⊕ ε} :
    (xs.findSome? fun x => stop? (f x)) = some stop
      ↔ ∃ x, IsFirst (fun y => ¬ Succeeds f y) xs x ∧ stop? (f x) = some stop := by
  rw [List.findSome?_eq_some_iff]
  constructor
  · rintro ⟨front, x, back, heq, hx, hfront⟩
    refine ⟨x, ⟨front, back, heq, ?_, ?_⟩, hx⟩
    · intro y hy hnot
      exact hnot (stop?_eq_none_iff.mp (hfront y hy))
    · intro hsucceeds
      rw [stop?_eq_none_iff.mpr hsucceeds] at hx
      cases hx
  · rintro ⟨x, ⟨front, back, heq, hfront, -⟩, hx⟩
    refine ⟨front, x, back, heq, hx, ?_⟩
    intro y hy
    exact stop?_eq_none_iff.mpr (not_not.mp (hfront y hy))

/-- **A list succeeds** where each of its entries does. -/
theorem eachOf_succeeds_iff : (∃ bs, eachOf f xs = .ok (.ok bs)) ↔ ∀ x ∈ xs, Succeeds f x := by
  simp only [← stop?_eq_none_iff, stop?_eachOf, List.findSome?_eq_none_iff, Succeeds]

/-- **A list is refused** for its first entry that fails, if that one is refused. -/
theorem eachOf_refused_iff : eachOf f xs = .ok (.error reason)
    ↔ ∃ x, IsFirst (fun y => ¬ Succeeds f y) xs x ∧ f x = .ok (.error reason) := by
  simp only [← stop?_eq_reason_iff, stop?_eachOf, findSome?_stop?_iff]

/-- **A list has no answer** for its first entry that fails, if that one has none. -/
theorem eachOf_halts_iff : eachOf f xs = .error halt
    ↔ ∃ x, IsFirst (fun y => ¬ Succeeds f y) xs x ∧ f x = .error halt := by
  simp only [← stop?_eq_halt_iff, stop?_eachOf, findSome?_stop?_iff]

end Each

/-! ## Labels -/

namespace Accessor

/-- A label leads to a field. -/
def Leads (label : String) : Prop := ∃ a, ofLabel label = .ok (some a)

/-- A label leads nowhere: it is no number and no name, not even with the mark of a raw name. -/
structure Astray (label : String) : Prop where
  number : Text.wordNumber? label = none
  name : ∀ n, readIdentifier label ≠ .ok n
  rawName : ∀ n, readIdentifier ("r#" ++ label) ≠ .ok n

/-- A label is a number from the limit on. -/
structure TooLarge (label : String) (n : Nat) : Prop where
  number : Text.wordNumber? label = some n
  limit : indexLimit ≤ n

/-- What is read from one label of several: its accessor, or the label itself. -/
def ofLabelOf (label : String) : Except Halt (Except String Accessor) :=
  match ofLabel label with
  | .error halt => .error halt
  | .ok none => .ok (.error label)
  | .ok (some a) => .ok (.ok a)

theorem ofLabels_eq_eachOf (labels : List String) : ofLabels labels = eachOf ofLabelOf labels := by
  induction labels with
  | nil => rfl
  | cons label rest ih =>
      rw [ofLabels, eachOf, ofLabelOf, ih]
      rcases ofLabel label with halt | _ | a
      · rfl
      · rfl
      · rcases eachOf ofLabelOf rest with halt | found | accessors <;> rfl

theorem succeeds_ofLabelOf_iff {label : String} : Succeeds ofLabelOf label ↔ Leads label := by
  unfold Succeeds Leads ofLabelOf
  rcases ofLabel label with halt | _ | a <;> simp

theorem ofLabelOf_refused_iff {label found : String} :
    ofLabelOf label = .ok (.error found) ↔ ofLabel label = .ok none ∧ label = found := by
  unfold ofLabelOf
  rcases ofLabel label with halt | _ | a <;> simp

theorem ofLabelOf_halts_iff {label : String} {halt : Halt} :
    ofLabelOf label = .error halt ↔ ofLabel label = .error halt := by
  unfold ofLabelOf
  rcases ofLabel label with found | _ | a <;> simp

theorem ofLabel_eq_none_iff {label : String} : ofLabel label = .ok none ↔ Astray label := by
  constructor
  · intro h
    unfold ofLabel at h
    split at h
    · split at h
      · cases h
      · cases h
    · rename_i hnumber
      split at h
      · cases h
      · rename_i fault hname
        split at h
        · cases h
        · rename_i rawFault hrawName
          refine ⟨hnumber, fun n hn => ?_, fun n hn => ?_⟩
          · rw [hname] at hn
            cases hn
          · rw [hrawName] at hn
            cases hn
  · intro h
    unfold ofLabel
    rw [h.number]
    dsimp only
    cases hname : readIdentifier label with
    | ok n => exact absurd hname (h.name n)
    | error fault =>
        cases hrawName : readIdentifier ("r#" ++ label) with
        | ok n => exact absurd hrawName (h.rawName n)
        | error rawFault => rfl

theorem ofLabel_eq_error_iff {label : String} {halt : Halt} :
    ofLabel label = .error halt ↔ ∃ n, TooLarge label n ∧ halt = .indexTooLarge n := by
  constructor
  · intro h
    obtain ⟨n, hnumber, hlimit, hhalt⟩ := ofLabel_eq_error h
    exact ⟨n, ⟨hnumber, hlimit⟩, hhalt⟩
  · rintro ⟨n, htoo, rfl⟩
    unfold ofLabel
    rw [htoo.number]
    exact if_neg (Nat.not_lt.mpr htoo.limit)

/-- Labels are read where each of them leads to a field. -/
theorem ofLabels_succeeds_iff {labels : List String} :
    (∃ accessors, ofLabels labels = .ok (.ok accessors)) ↔ ∀ label ∈ labels, Leads label := by
  simp only [ofLabels_eq_eachOf, eachOf_succeeds_iff, succeeds_ofLabelOf_iff]

/-- They are refused for the first that leads to no field, if it leads nowhere. -/
theorem ofLabels_refused_iff {labels : List String} {label : String} :
    ofLabels labels = .ok (.error label)
      ↔ IsFirst (fun l => ¬ Leads l) labels label ∧ Astray label := by
  simp only [ofLabels_eq_eachOf, eachOf_refused_iff, succeeds_ofLabelOf_iff, ofLabelOf_refused_iff,
    ofLabel_eq_none_iff]
  constructor
  · rintro ⟨found, hfirst, hastray, rfl⟩
    exact ⟨hfirst, hastray⟩
  · rintro ⟨hfirst, hastray⟩
    exact ⟨label, hfirst, hastray, rfl⟩

/-- They have no answer for the first that leads to no field, if it is a number too large. -/
theorem ofLabels_halts_iff {labels : List String} {halt : Halt} :
    ofLabels labels = .error halt ↔ ∃ label n, IsFirst (fun l => ¬ Leads l) labels label
      ∧ TooLarge label n ∧ halt = .indexTooLarge n := by
  simp only [ofLabels_eq_eachOf, eachOf_halts_iff, succeeds_ofLabelOf_iff, ofLabelOf_halts_iff,
    ofLabel_eq_error_iff]
  constructor
  · rintro ⟨label, hfirst, n, htoo, hhalt⟩
    exact ⟨label, n, hfirst, htoo, hhalt⟩
  · rintro ⟨label, n, hfirst, htoo, hhalt⟩
    exact ⟨label, hfirst, n, htoo, hhalt⟩

end Accessor

/-! ## Types -/

namespace Marked

/-- A type that a function can be made for: its path reads, and every label leads to a field. -/
structure Nameable (m : Marked) : Prop where
  path : ∃ path, readPath (typePathOf m.qualifiedName) = .ok path
  labels : ∀ label ∈ m.fields, Accessor.Leads label

/-- What is wrong with a type that is refused. -/
inductive Refused (m : Marked) : GenerateError → Prop
  /-- Its path does not read. -/
  | typePath (h : ∀ path, readPath (typePathOf m.qualifiedName) ≠ .ok path) :
      Refused m (.notTypePath m.qualifiedName (typePathOf m.qualifiedName))
  /-- The first of its labels that leads to no field leads nowhere. -/
  | fieldName {path : Path} {field : String}
      (hpath : readPath (typePathOf m.qualifiedName) = .ok path)
      (hfirst : IsFirst (fun l => ¬ Accessor.Leads l) m.fields field)
      (hastray : Accessor.Astray field) : Refused m (.notFieldName m.qualifiedName field)

/-- The path of a type reads, and the first of its labels that leads to no field is a number too
large for an index. -/
structure Overflows (m : Marked) (n : Nat) : Prop where
  path : ∃ path, readPath (typePathOf m.qualifiedName) = .ok path
  label : ∃ label, IsFirst (fun l => ¬ Accessor.Leads l) m.fields label ∧ Accessor.TooLarge label n

variable {m : Marked} {reason : GenerateError} {halt : Halt}

/-- What comes of the labels of a type whose path reads. -/
def withLabels (m : Marked) : Except Halt (Except String (List Accessor)) →
    Except Halt (Except GenerateError TextFunction)
  | .error halt => .error halt
  | .ok (.error field) => .ok (.error (.notFieldName m.qualifiedName field))
  | .ok (.ok _) => .ok (.ok m.textFunction)

/-- The function for a type from the two things that are read for it. -/
theorem function_eq (m : Marked) : m.function
    = if (readPath (typePathOf m.qualifiedName)).isOk then
        m.withLabels (Accessor.ofLabels m.fields)
      else .ok (.error (.notTypePath m.qualifiedName (typePathOf m.qualifiedName))) := by
  unfold function
  dsimp only
  cases (readPath (typePathOf m.qualifiedName)).isOk with
  | false => rfl
  | true => rcases Accessor.ofLabels m.fields with halt | field | accessors <;> rfl

theorem succeeds_function_iff : Succeeds function m ↔ m.Nameable := by
  rw [Succeeds, function_eq]
  by_cases hpath : (readPath (typePathOf m.qualifiedName)).isOk = true
  · have hlabels : (∃ f, m.withLabels (Accessor.ofLabels m.fields) = .ok (.ok f))
        ↔ ∃ accessors, Accessor.ofLabels m.fields = .ok (.ok accessors) := by
      rcases Accessor.ofLabels m.fields with halt | field | accessors <;> simp [withLabels]
    rw [if_pos hpath, hlabels, Accessor.ofLabels_succeeds_iff]
    exact ⟨fun h => ⟨isOk_iff.mp hpath, h⟩, fun h => h.labels⟩
  · rw [if_neg hpath]
    constructor
    · rintro ⟨f, hf⟩
      cases hf
    · intro h
      exact absurd (isOk_iff.mpr h.path) hpath

theorem function_refused_iff : m.function = .ok (.error reason) ↔ m.Refused reason := by
  rw [function_eq]
  by_cases hpath : (readPath (typePathOf m.qualifiedName)).isOk = true
  · obtain ⟨path, hread⟩ := isOk_iff.mp hpath
    rw [if_pos hpath]
    constructor
    · intro h
      cases hlabels : Accessor.ofLabels m.fields with
      | error halt =>
          rw [hlabels] at h
          cases h
      | ok labels =>
          cases labels with
          | error field =>
              rw [hlabels] at h
              cases h
              obtain ⟨hfirst, hastray⟩ := Accessor.ofLabels_refused_iff.mp hlabels
              exact .fieldName hread hfirst hastray
          | ok accessors =>
              rw [hlabels] at h
              cases h
    · intro h
      cases h with
      | typePath hnot => exact absurd hread (hnot path)
      | fieldName _ hfirst hastray =>
          rw [Accessor.ofLabels_refused_iff.mpr ⟨hfirst, hastray⟩]
          rfl
  · rw [if_neg hpath]
    constructor
    · intro h
      cases h
      exact .typePath fun path hread => hpath (isOk_iff.mpr ⟨path, hread⟩)
    · intro h
      cases h with
      | typePath _ => rfl
      | fieldName hread _ _ => exact absurd (isOk_iff.mpr ⟨_, hread⟩) hpath

theorem function_halts_iff :
    m.function = .error halt ↔ ∃ n, m.Overflows n ∧ halt = .indexTooLarge n := by
  rw [function_eq]
  by_cases hpath : (readPath (typePathOf m.qualifiedName)).isOk = true
  · have hlabels : m.withLabels (Accessor.ofLabels m.fields) = .error halt
        ↔ Accessor.ofLabels m.fields = .error halt := by
      rcases Accessor.ofLabels m.fields with found | field | accessors <;> simp [withLabels]
    rw [if_pos hpath, hlabels, Accessor.ofLabels_halts_iff]
    constructor
    · rintro ⟨label, n, hfirst, htoo, hhalt⟩
      exact ⟨n, ⟨isOk_iff.mp hpath, label, hfirst, htoo⟩, hhalt⟩
    · rintro ⟨n, ⟨-, label, hfirst, htoo⟩, hhalt⟩
      exact ⟨label, n, hfirst, htoo, hhalt⟩
  · rw [if_neg hpath]
    constructor
    · intro h
      cases h
    · rintro ⟨n, hoverflows, -⟩
      exact absurd (isOk_iff.mpr hoverflows.path) hpath

end Marked

/-! ## Batches -/

namespace Batch

section Functions

-- reading the path of a type is not for unification to try
attribute [local irreducible] Marked.function

theorem functions_eq_eachOf (batch : List Marked) :
    functions batch = eachOf Marked.function batch := by
  induction batch with
  | nil => rfl
  | cons m rest ih =>
      rw [functions_cons, eachOf, ih]
      rcases m.function with halt | reason | f
      · rfl
      · rfl
      · rcases eachOf Marked.function rest with halt | reason | fs <;> rfl

end Functions

variable {batch : List Marked} {settings : Settings} {reason : GenerateError} {halt : Halt}

/-- The functions of a batch are refused for its first type that none can be made for. -/
theorem functions_refused_iff : functions batch = .ok (.error reason)
    ↔ ∃ m, IsFirst (fun m => ¬ m.Nameable) batch m ∧ m.Refused reason := by
  simp only [functions_eq_eachOf, eachOf_refused_iff, Marked.succeeds_function_iff,
    Marked.function_refused_iff]

/-- They have no answer where that type has none. -/
theorem functions_halts_iff : functions batch = .error halt
    ↔ ∃ m n, IsFirst (fun m => ¬ m.Nameable) batch m ∧ m.Overflows n
      ∧ halt = .indexTooLarge n := by
  simp only [functions_eq_eachOf, eachOf_halts_iff, Marked.succeeds_function_iff,
    Marked.function_halts_iff]
  constructor
  · rintro ⟨m, hfirst, n, hoverflows, hhalt⟩
    exact ⟨m, n, hfirst, hoverflows, hhalt⟩
  · rintro ⟨m, n, hfirst, hoverflows, hhalt⟩
    exact ⟨m, hfirst, n, hoverflows, hhalt⟩

end Batch

end Fieldwise
