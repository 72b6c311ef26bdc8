import Fieldwise.Proofs.Pass.Obstacles

set_option autoImplicit false

/-! # Which type a failed pass blames

Generating stops at one type of the batch (`Batch.StopsAt`): at the first one if that is in the
unnamed package, and otherwise at the first one that no function can be made for. The reason keeps
the qualified name of that type and no more, and `Batch.blame` looks the type up by the name again.
So the diagnostic is about the first type of that name, which need not be the one that generating
stopped at. `pass_blames` says so with the exact condition under which the line is the right one;
`namesakes_confused` is a pass in which it is not.
-/

namespace Fieldwise

namespace Batch

/-- The type that generating stops at, and what is wrong with it. -/
inductive StopsAt (batch : Batch) (culprit : Marked) : GenerateError → Prop
  /-- The first type is in the unnamed package. -/
  | unnamed (hleader : batch.head? = some culprit) (hpackage : culprit.package.isUnnamed = true) :
      StopsAt batch culprit (.missingPackage culprit.qualifiedName)
  /-- The first type is not, but no function can be made for one of them; it is the first such. -/
  | refused {leader : Marked} {reason : GenerateError} (hleader : batch.head? = some leader)
      (hpackage : leader.package.isUnnamed = false)
      (hfirst : IsFirst (fun m : Marked => ¬ m.Nameable) batch culprit)
      (hrefused : culprit.Refused reason) : StopsAt batch culprit reason

variable {batch : Batch} {culprit other : Marked} {settings : Settings} {reason : GenerateError}

theorem StopsAt.mem (h : batch.StopsAt culprit reason) : culprit ∈ batch := by
  cases h with
  | unnamed hleader _ => exact List.mem_of_mem_head? hleader
  | refused _ _ hfirst _ => exact hfirst.mem

/-- The reason names the type. -/
theorem StopsAt.culprit? (h : batch.StopsAt culprit reason) :
    reason.culprit? = some culprit.qualifiedName := by
  cases h with
  | unnamed _ _ => rfl
  | refused _ _ _ hrefused =>
      cases hrefused with
      | typePath _ => rfl
      | fieldName _ _ _ => rfl

/-- There is one such type. -/
theorem StopsAt.unique (h : batch.StopsAt culprit reason) (hother : batch.StopsAt other reason) :
    other = culprit := by
  cases h with
  | unnamed hleader hpackage =>
      generalize hreason : GenerateError.missingPackage culprit.qualifiedName = reason at hother
      cases hother with
      | unnamed hleader' _ => exact Option.some.inj (hleader'.symm.trans hleader)
      | refused _ _ _ hrefused =>
          rw [← hreason] at hrefused
          cases hrefused
  | refused hleader hpackage hfirst hrefused =>
      cases hother with
      | unnamed _ _ => cases hrefused
      | refused _ _ hfirst' _ => exact hfirst'.unique hfirst

section Functions

-- making the functions is not for unification to try
attribute [local irreducible] functions

/-- **Where generating fails.** A batch that is not empty is refused for the type that generating
stops at. -/
theorem stopsAt_of_generate {generation : Generation} (hbatch : batch ≠ [])
    (h : batch.generate settings = .ok generation) (hresult : generation.result = .error reason) :
    ∃ culprit, batch.StopsAt culprit reason := by
  unfold generate at h
  split at h
  · rename_i hnone
    exact absurd (List.head?_eq_none_iff.mp hnone) hbatch
  · rename_i leader hleader
    split at h
    · rename_i hpackage
      cases h
      cases hresult
      exact ⟨leader, .unnamed hleader hpackage⟩
    · rename_i hpackage
      dsimp only at h
      split at h
      · cases h
      · rename_i found hfunctions
        cases h
        cases hresult
        obtain ⟨m, hfirst, hrefused⟩ := functions_refused_iff.mp hfunctions
        exact ⟨m, .refused hleader (Bool.eq_false_iff.mpr hpackage) hfirst hrefused⟩
      · cases h
        cases hresult

end Functions

/-- **The type that is blamed** is the first one of the name of the type that generating stopped
at. -/
theorem blame_eq (h : batch.StopsAt culprit reason) :
    ∃ namesake, IsFirst (fun m : Marked => m.qualifiedName = culprit.qualifiedName) batch namesake
      ∧ batch.blame reason = .generationFailedAt namesake reason.message := by
  cases hfind : List.find? (fun m : Marked => m.qualifiedName == culprit.qualifiedName) batch with
  | none =>
      -- the type itself has that name
      have hnot := List.find?_eq_none.mp hfind culprit h.mem
      simp at hnot
  | some namesake =>
      refine ⟨namesake, (find?_eq_some_iff_isFirst fun m => beq_iff_eq).mp hfind, ?_⟩
      unfold blame
      rw [h.culprit?]
      dsimp only [Option.bind_some]
      rw [hfind]

/-- The first type of a batch is the first one of its name. -/
theorem isFirst_of_head? (h : batch.head? = some culprit) :
    IsFirst (fun m : Marked => m.qualifiedName = culprit.qualifiedName) batch culprit := by
  cases batch with
  | nil => cases h
  | cons leader rest =>
      cases h
      exact isFirst_cons.mpr (.inl ⟨rfl, rfl⟩)

end Batch

/-- Two types of one name get the same diagnostic just if they stand on the same line. -/
theorem generationFailedAt_inj_iff {m n : Marked} (hname : m.qualifiedName = n.qualifiedName)
    (reason : String) :
    Diagnostic.generationFailedAt m reason = .generationFailedAt n reason
      ↔ m.anchor = n.anchor := by
  unfold Diagnostic.generationFailedAt
  rw [hname, Diagnostic.mk.injEq]
  exact ⟨fun h => h.2.2, fun h => ⟨rfl, rfl, h⟩⟩

/-- **Whom a failed pass blames.** There is one type at which generating stopped. The last
diagnostic names it, and gives the line of the first type of the batch that has this name. So it is
the diagnostic of the type at which generating stopped just if these two stand on the same line. In
particular it is so if the package is to blame, or if no other type of the batch has that name. -/
theorem pass_blames {settings : Settings} {declarations : List Declaration} {outcome : PassOutcome}
    {reason : GenerateError} (h : pass settings declarations = .ok outcome)
    (hfailed : outcome.bundle = some (.error reason)) :
    ∃ culprit namesake,
      (∀ m, Batch.StopsAt (collect settings.marker declarations).batch m reason ↔ m = culprit)
      ∧ IsFirst (fun m : Marked => m.qualifiedName = culprit.qualifiedName)
          (collect settings.marker declarations).batch namesake
      ∧ outcome.diagnostics = (collect settings.marker declarations).diagnostics
          ++ [.generationFailedAt namesake reason.message]
      ∧ (outcome.diagnostics.getLast? = some (.generationFailedAt culprit reason.message)
          ↔ namesake.anchor = culprit.anchor)
      ∧ (reason = .missingPackage culprit.qualifiedName → namesake = culprit)
      ∧ ((∀ m ∈ (collect settings.marker declarations).batch,
          m.qualifiedName = culprit.qualifiedName → m = culprit) → namesake = culprit) := by
  rcases pass_cases h with ⟨-, hnone, -⟩ | ⟨hbatch, generation, hgenerate, hbundle, hsaid⟩
  · rw [hnone] at hfailed
    cases hfailed
  · have hresult : generation.result = .error reason := by
      rw [hbundle] at hfailed
      exact Option.some.inj hfailed
    rw [hresult] at hsaid
    obtain ⟨culprit, hstops⟩ := Batch.stopsAt_of_generate hbatch hgenerate hresult
    obtain ⟨namesake, hfirst, hblame⟩ := Batch.blame_eq hstops
    dsimp only at hsaid
    rw [hblame] at hsaid
    refine ⟨culprit, namesake, fun m => ⟨fun hm => hstops.unique hm, ?_⟩, hfirst, hsaid, ?_, ?_, ?_⟩
    · rintro rfl
      exact hstops
    · rw [hsaid, List.getLast?_concat, Option.some_inj]
      exact generationFailedAt_inj_iff hfirst.holds reason.message
    · intro hpackage
      rw [hpackage] at hstops
      cases hstops with
      | unnamed hleader _ => exact hfirst.unique (Batch.isFirst_of_head? hleader)
      | refused _ _ _ hrefused => cases hrefused
    · intro halone
      exact halone namesake hfirst.mem hfirst.holds

/-- Why a pass gives no bundle. -/
def PassOutcome.failure? (outcome : PassOutcome) : Option GenerateError :=
  match outcome.bundle with
  | some (.error reason) => some reason
  | _ => none

theorem PassOutcome.bundle_of_failure? {outcome : PassOutcome} {reason : GenerateError}
    (h : outcome.failure? = some reason) : outcome.bundle = some (.error reason) := by
  unfold failure? at h
  split at h
  · rename_i found hbundle
    cases h
    exact hbundle
  · cases h

/-- A struct with one field, whose label leads nowhere. -/
def unlabelledStruct (name : String) (anchor : Anchor) : Declaration :=
  { markedStruct name with
    members := [⟨"not a name", .field⟩]
    anchor := some anchor }

/-- What is wrong with such a struct. -/
def unlabelled (name : String) : GenerateError := .notFieldName ("model::" ++ name) "not a name"

/-- The second of two structs is blamed, as no other struct has its name. -/
theorem unlabelledOrder_blamed :
    ∃ outcome, pass {} [namedUser, unlabelledStruct "Order" ⟨"src/order.rs", 8⟩] = .ok outcome
      ∧ outcome.bundle = some (.error (unlabelled "Order"))
      ∧ outcome.diagnostics.getLast? = some (.generationFailedAt
          (unlabelledStruct "Order" ⟨"src/order.rs", 8⟩).marked (unlabelled "Order").message) := by
  obtain ⟨outcome, hpass, hview⟩ : ∃ outcome,
      pass {} [namedUser, unlabelledStruct "Order" ⟨"src/order.rs", 8⟩] = .ok outcome
        ∧ outcome.failure? = some (unlabelled "Order") := exists_ok_of_view (by decide +kernel)
  have hfailed := PassOutcome.bundle_of_failure? hview
  obtain ⟨culprit, namesake, hculprit, -, -, hsaid, -, halone⟩ := pass_blames hpass hfailed
  have hstops := (hculprit culprit).mpr rfl
  have hbatch : (collect "static_string_util"
      [namedUser, unlabelledStruct "Order" ⟨"src/order.rs", 8⟩]).batch
        = [namedUser.marked, (unlabelledStruct "Order" ⟨"src/order.rs", 8⟩).marked] := by decide
  have hname : culprit.qualifiedName = "model::Order" := (Option.some.inj hstops.culprit?).symm
  have hsame : ∀ m ∈ (collect "static_string_util"
      [namedUser, unlabelledStruct "Order" ⟨"src/order.rs", 8⟩]).batch,
        m.qualifiedName = "model::Order"
          → m = (unlabelledStruct "Order" ⟨"src/order.rs", 8⟩).marked := by
    rw [hbatch]
    decide
  have horder := hsame culprit hstops.mem hname
  refine ⟨outcome, hpass, hfailed, ?_⟩
  rw [← horder]
  refine hsaid.mpr (congrArg Marked.anchor (halone fun m hm hshared => ?_))
  rw [horder]
  exact hsame m hm (hshared.trans hname)

/-- Two structs of one name, of which only the second is refused. -/
def firstUser : Declaration := { namedUser with anchor := some ⟨"src/first.rs", 3⟩ }
def secondUser : Declaration := unlabelledStruct "User" ⟨"src/second.rs", 8⟩

/-- **A pass that blames the wrong type.** Generating stops at the second of two structs of one
name, and the diagnostic gives the line of the first. -/
theorem namesakes_confused :
    ∃ outcome diagnostic, pass {} [firstUser, secondUser] = .ok outcome
      ∧ outcome.bundle = some (.error (unlabelled "User"))
      ∧ Batch.StopsAt (collect "static_string_util" [firstUser, secondUser]).batch
          secondUser.marked (unlabelled "User")
      ∧ outcome.diagnostics.getLast? = some diagnostic
      ∧ diagnostic.anchor = firstUser.anchor ∧ diagnostic.anchor ≠ secondUser.anchor := by
  obtain ⟨outcome, hpass, hview⟩ : ∃ outcome, pass {} [firstUser, secondUser] = .ok outcome
      ∧ (outcome.failure?, outcome.diagnostics)
        = (some (unlabelled "User"),
          [.generationFailedAt firstUser.marked (unlabelled "User").message]) :=
    exists_ok_of_view (by decide +kernel)
  obtain ⟨hfailure, hdiagnostics⟩ := Prod.mk.inj hview
  have hbatch : (collect "static_string_util" [firstUser, secondUser]).batch
      = [firstUser.marked, secondUser.marked] := by decide
  have hfirst : firstUser.marked.Nameable :=
    Marked.succeeds_function_iff.mp ⟨firstUser.marked.textFunction, by decide +kernel⟩
  have hsecond : secondUser.marked.function = .ok (.error (unlabelled "User")) := by
    decide +kernel
  have hnot : ¬ secondUser.marked.Nameable := by
    intro hnameable
    obtain ⟨f, hf⟩ := Marked.succeeds_function_iff.mpr hnameable
    rw [hsecond] at hf
    cases hf
  refine ⟨outcome, _, hpass, PassOutcome.bundle_of_failure? hfailure, ?_, by rw [hdiagnostics]; rfl,
    rfl, by decide⟩
  rw [hbatch]
  refine .refused rfl rfl ?_ (Marked.function_refused_iff.mp hsecond)
  exact isFirst_cons.mpr (.inr ⟨not_not.mpr hfirst, isFirst_cons.mpr (.inl ⟨hnot, rfl⟩)⟩)

end Fieldwise
