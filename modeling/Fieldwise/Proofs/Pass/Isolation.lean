import Fieldwise.Proofs.Pass.Accounting

set_option autoImplicit false

/-! # Candidates do not get into each other's way

Collecting takes one declaration after another (`collect_append`), so a declaration in the middle
adds its own part to what the others add, and nothing else. What a pass generates depends on the
batch alone (`pass_of_batch_eq`).

`pass_isolated` compares a pass with one over the same declarations and one more among them: a
declaration that is no candidate changes nothing, a candidate that cannot be used adds its
diagnostic, and one that can be used adds its function, each where it belongs in the order.
-/

namespace Fieldwise

/-- A list is another one with an entry inserted at a position. -/
def InsertedAt {α : Type} (position : Nat) (entry : α) (before after : List α) : Prop :=
  ∃ front back, before = front ++ back ∧ after = front ++ entry :: back ∧ front.length = position

/-! ## Collecting one declaration after another -/

namespace Collection

theorem append_assoc (a b c : Collection) : a ++ b ++ c = a ++ (b ++ c) := by
  show append (append a b) c = append a (append b c)
  simp only [append, List.append_assoc]

theorem nil_append (a : Collection) : ({} : Collection) ++ a = a := rfl

theorem ofCandidates_append (marker : String) (xs ys : List Declaration) :
    ofCandidates marker (xs ++ ys) = ofCandidates marker xs ++ ofCandidates marker ys := by
  induction xs with
  | nil => rfl
  | cons d rest ih => rw [List.cons_append, ofCandidates, ofCandidates, ih, append_assoc]

end Collection

section Insertion

variable {settings : Settings} {xs ys : List Declaration} {d : Declaration} {a b : PassOutcome}

theorem collect_append (marker : String) (xs ys : List Declaration) :
    collect marker (xs ++ ys) = collect marker xs ++ collect marker ys := by
  rw [collect, candidates, List.filter_append, Collection.ofCandidates_append]
  rfl

/-- A declaration that is no candidate adds nothing. -/
theorem collect_insert_unmarked (xs ys : List Declaration) {marker : String}
    (hd : d.hasAttribute marker = false) :
    collect marker (xs ++ [d] ++ ys) = collect marker (xs ++ ys) := by
  have hnone : collect marker [d] = {} := by
    simp [collect, candidates, hd, Collection.ofCandidates]
  rw [collect_append, collect_append, collect_append, hnone, Collection.append_assoc,
    Collection.nil_append]

/-- A candidate adds its own part between those of its neighbours. -/
theorem collect_insert_marked (xs ys : List Declaration) {marker : String}
    (hd : d.hasAttribute marker = true) :
    (collect marker (xs ++ [d] ++ ys)).batch
        = (collect marker xs).batch ++ (if d.Usable then [d.marked] else [])
          ++ (collect marker ys).batch
      ∧ (collect marker (xs ++ [d] ++ ys)).diagnostics
        = (collect marker xs).diagnostics ++ (d.objection? marker).toList
          ++ (collect marker ys).diagnostics := by
  obtain ⟨hbatch, hdiagnostics⟩ := Collection.ofCandidate_parts marker d
  have hone : collect marker [d] = Collection.ofCandidate marker d ++ {} := by
    simp [collect, candidates, hd, Collection.ofCandidates]
  rw [collect_append, collect_append, hone]
  simp only [Collection.batch_append, Collection.diagnostics_append, hbatch, hdiagnostics,
    List.append_nil]
  exact ⟨trivial, trivial⟩

theorem usableCandidates_insert (xs ys : List Declaration) {marker : String}
    (hd : d.hasAttribute marker = true) (husable : d.Usable) :
    usableCandidates marker (xs ++ [d] ++ ys)
        = usableCandidates marker xs ++ d :: usableCandidates marker ys
      ∧ usableCandidates marker (xs ++ ys)
        = usableCandidates marker xs ++ usableCandidates marker ys := by
  simp [usableCandidates, candidates, List.filter_append, hd, husable]

/-! ## Two passes -/

/-- What is generated, and what is said of it, depends on the batch alone. -/
theorem pass_of_batch_eq {ds es : List Declaration} (ha : pass settings ds = .ok a)
    (hb : pass settings es = .ok b)
    (hbatch : (collect settings.marker ds).batch = (collect settings.marker es).batch) :
    a.bundle = b.bundle ∧ ∃ more, a.diagnostics = (collect settings.marker ds).diagnostics ++ more
      ∧ b.diagnostics = (collect settings.marker es).diagnostics ++ more := by
  rcases pass_cases ha with ⟨hempty, hnone, hsaid⟩ | ⟨hsome, generation, hgenerate, hbundle, hsaid⟩
  · rcases pass_cases hb with ⟨-, hnone', hsaid'⟩ | ⟨hsome', -⟩
    · exact ⟨by rw [hnone, hnone'], [], by rw [hsaid, List.append_nil],
        by rw [hsaid', List.append_nil]⟩
    · exact absurd (hbatch ▸ hempty) hsome'
  · rcases pass_cases hb with ⟨hempty', -⟩ | ⟨-, generation', hgenerate', hbundle', hsaid'⟩
    · exact absurd (hbatch ▸ hempty') hsome
    · rw [hbatch, hgenerate'] at hgenerate
      cases hgenerate
      rw [hbatch] at hsaid
      exact ⟨by rw [hbundle, hbundle'], _, hsaid, hsaid'⟩

/-- A candidate that cannot be used adds its diagnostic after those of the candidates before it. -/
theorem pass_insert_unusable (ha : pass settings (xs ++ [d] ++ ys) = .ok a)
    (hb : pass settings (xs ++ ys) = .ok b) (hd : d.hasAttribute settings.marker = true)
    (husable : ¬ d.Usable) :
    a.bundle = b.bundle ∧ ∃ objection, d.objection? settings.marker = some objection
      ∧ InsertedAt (unusableCandidates settings.marker xs).length objection b.diagnostics
          a.diagnostics := by
  obtain ⟨hbatch, hdiagnostics⟩ := collect_insert_marked xs ys hd
  have hothers := collect_append settings.marker xs ys
  have hsame : (collect settings.marker (xs ++ [d] ++ ys)).batch
      = (collect settings.marker (xs ++ ys)).batch := by
    rw [hbatch, hothers, if_neg husable, List.append_nil, Collection.batch_append]
  obtain ⟨objection, hobjection⟩ : ∃ objection, d.objection? settings.marker = some objection := by
    rw [← Option.ne_none_iff_exists']
    exact fun hnone => husable ((d.objection?_eq_none_iff _).mp hnone)
  obtain ⟨hbundle, more, hsaid, hsaid'⟩ := pass_of_batch_eq ha hb hsame
  refine ⟨hbundle, objection, hobjection, (collect settings.marker xs).diagnostics,
    (collect settings.marker ys).diagnostics ++ more, ?_, ?_, ?_⟩
  · rw [hsaid', hothers, Collection.diagnostics_append, List.append_assoc]
  · rw [hsaid, hdiagnostics, hobjection]
    simp
  · exact (collect_diagnostics settings.marker xs).length_eq.symm

/-- A candidate that can be used adds its function after those of the candidates before it. -/
theorem pass_insert_usable (ha : pass settings (xs ++ [d] ++ ys) = .ok a)
    (hb : pass settings (xs ++ ys) = .ok b) (hd : d.hasAttribute settings.marker = true)
    (husable : d.Usable) {u v : Bundle} (hu : a.bundle = some (.ok u))
    (hv : b.bundle = some (.ok v)) :
    a.diagnostics = b.diagnostics
      ∧ (∃ f, f.Shows d
        ∧ InsertedAt (usableCandidates settings.marker xs).length f v.functions u.functions)
      ∧ (usableCandidates settings.marker xs ≠ [] →
        u.package = v.package ∧ u.relativePath = v.relativePath) := by
  obtain ⟨hlong, hshort⟩ := usableCandidates_insert xs ys hd husable
  obtain ⟨hsaid, first, hfirst, rfl⟩ := pass_generated ha hu
  obtain ⟨hsaid', first', hfirst', rfl⟩ := pass_generated hb hv
  refine ⟨?_, ⟨d.marked.textFunction, d.textFunction_shows, ?_⟩, ?_⟩
  · rw [hsaid, hsaid', (collect_insert_marked xs ys hd).2, collect_append,
      (d.objection?_eq_none_iff _).mpr husable]
    simp
  · refine ⟨(usableCandidates settings.marker xs).map (Marked.textFunction ∘ Declaration.marked),
      (usableCandidates settings.marker ys).map (Marked.textFunction ∘ Declaration.marked),
      ?_, ?_, by simp⟩
    · rw [hshort]
      simp [Batch.bundle]
    · rw [hlong]
      simp [Batch.bundle]
  · intro hearlier
    -- both bundles belong in the package of the first candidate before the new one
    have hsame : first = first' := by
      rw [hlong, List.head?_append_of_ne_nil _ hearlier] at hfirst
      rw [hshort, List.head?_append_of_ne_nil _ hearlier] at hfirst'
      exact Option.some.inj (hfirst.symm.trans hfirst')
    rw [hsame]
    exact ⟨rfl, rfl⟩

/-- **Candidates are isolated from one another.** Take a declaration out of the list that a pass is
run over. If it was no candidate, the pass comes to the same. If it was a candidate that cannot be
used, the bundle is the same, and of the diagnostics just its own is missing, which stood after
those of the unusable candidates before it. If it can be used, and both passes give a bundle, the
diagnostics are the same, and of the functions just its own is missing, which stood after those of
the usable candidates before it; and unless it was the first of these, both bundles belong in the
same package and file. -/
theorem pass_isolated (ha : pass settings (xs ++ [d] ++ ys) = .ok a)
    (hb : pass settings (xs ++ ys) = .ok b) :
    (d.hasAttribute settings.marker = false → a = b)
      ∧ (d.hasAttribute settings.marker = true → ¬ d.Usable →
        a.bundle = b.bundle ∧ ∃ objection, d.objection? settings.marker = some objection
          ∧ InsertedAt (unusableCandidates settings.marker xs).length objection b.diagnostics
              a.diagnostics)
      ∧ (d.hasAttribute settings.marker = true → d.Usable → ∀ u v,
        a.bundle = some (.ok u) → b.bundle = some (.ok v) →
          a.diagnostics = b.diagnostics
            ∧ (∃ f, f.Shows d
              ∧ InsertedAt (usableCandidates settings.marker xs).length f v.functions u.functions)
            ∧ (usableCandidates settings.marker xs ≠ [] →
              u.package = v.package ∧ u.relativePath = v.relativePath)) := by
  refine ⟨fun hd => ?_, pass_insert_unusable ha hb, fun hd husable u v hu hv =>
    pass_insert_usable ha hb hd husable hu hv⟩
  have hcollect := collect_insert_unmarked xs ys hd
  have hpass : pass settings (xs ++ [d] ++ ys) = pass settings (xs ++ ys) := by
    simp only [pass, hcollect]
  rw [hpass, hb] at ha
  exact (Except.ok.inj ha).symm

end Insertion

/-! ## An example -/

/-- Two candidates to insert after: one that cannot be used, one that can. -/
def earlierNeighbours : List Declaration :=
  [{ markedStruct "Hidden" with visibility := .inherited }, markedStruct "User"]

/-- Two candidates to insert before. -/
def laterNeighbours : List Declaration :=
  [{ markedStruct "Shape" with kind := .trait }, markedStruct "Order"]

/-- A declaration of each sort. -/
def plainStruct : Declaration := { markedStruct "Plain" with attributes := [] }
def genericStruct : Declaration := { markedStruct "Wrapper" with generics := ["T"] }
def emptyStruct : Declaration := { markedStruct "Ping" with package := ⟨["net"]⟩ }

theorem exists_generated {settings : Settings} {declarations : List Declaration}
    (h : (pass settings declarations).toOption.map (fun o => o.bundle.any Except.isOk)
      = some true) :
    ∃ outcome bundle, pass settings declarations = .ok outcome
      ∧ outcome.bundle = some (.ok bundle) := by
  obtain ⟨outcome, hpass, hview⟩ := exists_ok_of_view h
  obtain ⟨result, hbundle, hok⟩ := (Option.any_eq_true _ _).mp hview
  cases result with
  | error reason => cases hok
  | ok bundle => exact ⟨outcome, bundle, hpass, hbundle⟩

/-- Between those neighbours the first changes nothing, the second adds a diagnostic and the third
a function, both in the second place. -/
theorem neighbours_isolated :
    (∃ a b, pass {} (earlierNeighbours ++ [plainStruct] ++ laterNeighbours) = .ok a
        ∧ pass {} (earlierNeighbours ++ laterNeighbours) = .ok b ∧ a = b)
      ∧ (∃ a b objection,
        pass {} (earlierNeighbours ++ [genericStruct] ++ laterNeighbours) = .ok a
          ∧ pass {} (earlierNeighbours ++ laterNeighbours) = .ok b ∧ a.bundle = b.bundle
          ∧ InsertedAt 1 objection b.diagnostics a.diagnostics)
      ∧ ∃ a b u v f, pass {} (earlierNeighbours ++ [emptyStruct] ++ laterNeighbours) = .ok a
          ∧ pass {} (earlierNeighbours ++ laterNeighbours) = .ok b
          ∧ a.bundle = some (.ok u) ∧ b.bundle = some (.ok v) ∧ a.diagnostics = b.diagnostics
          ∧ InsertedAt 1 f v.functions u.functions ∧ u.relativePath = v.relativePath := by
  obtain ⟨b, v, hb, hv⟩ : ∃ b v, pass {} (earlierNeighbours ++ laterNeighbours) = .ok b
      ∧ b.bundle = some (.ok v) := exists_generated (by decide +kernel)
  refine ⟨?_, ?_, ?_⟩
  · obtain ⟨a, -, ha, -⟩ : ∃ a u, pass {} (earlierNeighbours ++ [plainStruct] ++ laterNeighbours)
        = .ok a ∧ a.bundle = some (.ok u) := exists_generated (by decide +kernel)
    exact ⟨a, b, ha, hb, (pass_isolated ha hb).1 (by decide)⟩
  · obtain ⟨a, -, ha, -⟩ : ∃ a u, pass {} (earlierNeighbours ++ [genericStruct] ++ laterNeighbours)
        = .ok a ∧ a.bundle = some (.ok u) := exists_generated (by decide +kernel)
    obtain ⟨hbundle, objection, -, hinserted⟩ :=
      (pass_isolated ha hb).2.1 (by decide) (by decide)
    exact ⟨a, b, objection, ha, hb, hbundle, hinserted⟩
  · obtain ⟨a, u, ha, hu⟩ : ∃ a u, pass {} (earlierNeighbours ++ [emptyStruct] ++ laterNeighbours)
        = .ok a ∧ a.bundle = some (.ok u) := exists_generated (by decide +kernel)
    obtain ⟨hdiagnostics, ⟨f, -, hinserted⟩, hplace⟩ :=
      (pass_isolated ha hb).2.2 (by decide) (by decide) u v hu hv
    exact ⟨a, b, u, v, f, ha, hb, hu, hv, hdiagnostics, hinserted, (hplace (by decide)).2⟩

end Fieldwise
