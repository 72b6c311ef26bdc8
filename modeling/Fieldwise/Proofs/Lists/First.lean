set_option autoImplicit false

/-! # The first entry of a list

`IsFirst p xs x` says that `x` is the first entry of `xs` with the property `p`. At the head of a
list one sees whether it is there or further on (`isFirst_cons`). There is one such entry at most
(`IsFirst.unique`), and there is one if any entry has the property (`exists_isFirst_iff`); a test
finds it (`find?_eq_some_iff_isFirst`). -/

namespace Fieldwise

/-- An entry is the first of a list that has a property. -/
def IsFirst {α : Type} (p : α → Prop) (xs : List α) (x : α) : Prop :=
  ∃ front back, xs = front ++ x :: back ∧ (∀ y ∈ front, ¬ p y) ∧ p x

section First

variable {α : Type} {p : α → Prop} {xs : List α} {x y : α}

theorem IsFirst.holds (h : IsFirst p xs x) : p x := by
  obtain ⟨front, back, -, -, hx⟩ := h
  exact hx

theorem IsFirst.mem (h : IsFirst p xs x) : x ∈ xs := by
  obtain ⟨front, back, rfl, -, -⟩ := h
  simp

theorem not_isFirst_nil : ¬ IsFirst p [] x := by
  intro h
  cases h.mem

/-- The first entry is the head of the list, or the head does not count. -/
theorem isFirst_cons : IsFirst p (y :: xs) x ↔ p y ∧ x = y ∨ ¬ p y ∧ IsFirst p xs x := by
  constructor
  · rintro ⟨front, back, heq, hfront, hx⟩
    cases front with
    | nil =>
        obtain ⟨rfl, rfl⟩ := List.cons.inj heq
        exact .inl ⟨hx, rfl⟩
    | cons first more =>
        obtain ⟨rfl, rfl⟩ := List.cons.inj heq
        have hmore : ∀ z ∈ more, ¬ p z := fun z hz => hfront z (by simp [hz])
        exact .inr ⟨hfront y (by simp), more, back, rfl, hmore, hx⟩
  · rintro (⟨hy, rfl⟩ | ⟨hy, front, back, rfl, hfront, hx⟩)
    · exact ⟨[], xs, rfl, by simp, hy⟩
    · exact ⟨y :: front, back, rfl, by simpa [hy] using hfront, hx⟩

theorem IsFirst.unique (hx : IsFirst p xs x) (hy : IsFirst p xs y) : x = y := by
  induction xs with
  | nil => exact absurd hx not_isFirst_nil
  | cons z rest ih =>
      rcases isFirst_cons.mp hx with ⟨hz, rfl⟩ | ⟨hz, hx⟩
      · rcases isFirst_cons.mp hy with ⟨-, rfl⟩ | ⟨hnot, -⟩
        · rfl
        · exact absurd hz hnot
      · rcases isFirst_cons.mp hy with ⟨hyes, -⟩ | ⟨-, hy⟩
        · exact absurd hyes hz
        · exact ih hx hy

/-- What is found by a test is the first entry that passes it. -/
theorem find?_eq_some_iff_isFirst {test : α → Bool} (htest : ∀ y, test y = true ↔ p y) :
    xs.find? test = some x ↔ IsFirst p xs x := by
  rw [List.find?_eq_some_iff_append, htest]
  constructor
  · rintro ⟨hx, front, back, heq, hfront⟩
    refine ⟨front, back, heq, ?_, hx⟩
    intro y hy hp
    have hnot : test y ≠ true := by simpa using hfront y hy
    exact hnot ((htest y).mpr hp)
  · rintro ⟨front, back, heq, hfront, hx⟩
    refine ⟨hx, front, back, heq, ?_⟩
    intro y hy
    have hnot : test y ≠ true := fun htrue => hfront y hy ((htest y).mp htrue)
    simpa using hnot

/-- A list has a first entry with a property just if it has any. -/
theorem exists_isFirst_iff : (∃ x, IsFirst p xs x) ↔ ∃ x ∈ xs, p x := by
  constructor
  · rintro ⟨x, hx⟩
    exact ⟨x, hx.mem, hx.holds⟩
  · rintro ⟨x, hmem, hx⟩
    induction xs with
    | nil => cases hmem
    | cons y rest ih =>
        by_cases hy : p y
        · exact ⟨y, isFirst_cons.mpr (.inl ⟨hy, rfl⟩)⟩
        · have hrest : x ∈ rest := by
            rcases List.mem_cons.mp hmem with rfl | hrest
            · exact absurd hx hy
            · exact hrest
          obtain ⟨z, hz⟩ := ih hrest
          exact ⟨z, isFirst_cons.mpr (.inr ⟨hy, hz⟩)⟩

/-- A search that finds the first entry finds nothing just if there is none. -/
theorem eq_none_iff_of_isFirst {found : Option α} (h : ∀ x, found = some x ↔ IsFirst p xs x) :
    found = none ↔ ∀ x ∈ xs, ¬ p x := by
  have hnone : found = none ↔ ¬ ∃ x, IsFirst p xs x := by
    rw [Option.eq_none_iff_forall_ne_some, not_exists]
    exact forall_congr' fun x => not_congr (h x)
  rw [hnone, exists_isFirst_iff]
  simp

end First

end Fieldwise
