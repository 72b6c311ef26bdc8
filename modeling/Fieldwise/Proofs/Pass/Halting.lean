import Fieldwise.Proofs.Pass.Obstacles

set_option autoImplicit false

/-! # When there is no answer

Two things on the way from declarations to source text end without an answer. A label that is a
number from the limit for an index on cannot be made an index, and a path that holds what the
printer does not know cannot be printed.

`generating_halts_iff` says exactly when: generating has no answer where the first type that no
function can be made for has such a number as the first of its labels that leads to no field, and
then the text of a bundle has no answer only for want of a way to print one of its paths. The labels
of a bundle have been read before, so they end nothing a second time. `hugeLabel_halts` and
`verbatimArgument_halts` are the two ways.
-/

namespace Fieldwise

open Grammar

/-- The first type of a batch is in a named package, and the first that no function can be made for
has a number too large for an index as the first of its labels that leads to no field. -/
structure Batch.Overflows (batch : Batch) (n : Nat) : Prop where
  leader : ∃ leader, batch.head? = some leader ∧ leader.package.isUnnamed = false
  member : ∃ m, IsFirst (fun m : Marked => ¬ m.Nameable) batch m ∧ m.Overflows n

section Functions

-- making the functions is not for unification to try
attribute [local irreducible] Batch.functions

theorem Batch.generate_halts_iff {batch : Batch} {settings : Settings} {halt : Halt} :
    batch.generate settings = .error halt ↔ ∃ n, batch.Overflows n ∧ halt = .indexTooLarge n := by
  constructor
  · intro h
    unfold generate at h
    split at h
    · cases h
    · rename_i leader hleader
      split at h
      · cases h
      · rename_i hpackage
        dsimp only at h
        split at h
        · rename_i found hfunctions
          cases h
          obtain ⟨m, n, hfirst, hoverflows, hhalt⟩ := functions_halts_iff.mp hfunctions
          exact ⟨n, ⟨⟨leader, hleader, Bool.eq_false_iff.mpr hpackage⟩, m, hfirst, hoverflows⟩,
            hhalt⟩
        · cases h
        · cases h
  · rintro ⟨n, ⟨⟨leader, hleader, hpackage⟩, m, hfirst, hoverflows⟩, hhalt⟩
    have hfunctions : functions batch = .error halt :=
      functions_halts_iff.mpr ⟨m, n, hfirst, hoverflows, hhalt⟩
    have hfirstOne : batch.leader? = some leader := hleader
    unfold generate
    rw [hfirstOne]
    dsimp only
    rw [hpackage, hfunctions]
    rfl

end Functions

section Pass

attribute [local irreducible] Batch.generate

/-- A pass has no answer where generating has none. -/
theorem pass_eq_error_iff {settings : Settings} {declarations : List Declaration} {halt : Halt} :
    pass settings declarations = .error halt
      ↔ (collect settings.marker declarations).batch.generate settings = .error halt := by
  unfold pass
  dsimp only
  split
  · rename_i hempty
    have hnil := List.isEmpty_iff.mp hempty
    rw [hnil]
    constructor
    · intro h
      cases h
    · intro h
      -- an empty batch has an answer
      obtain ⟨n, hoverflows, -⟩ := Batch.generate_halts_iff.mp h
      obtain ⟨leader, hleader, -⟩ := hoverflows.leader
      cases hleader
  · cases (collect settings.marker declarations).batch.generate settings with
    | error found => simp
    | ok generation => simp

end Pass

/-- The names of a bundle read, but one of its paths holds what the printer does not know. -/
structure Bundle.Unprintable (b : Bundle) : Prop where
  typeName : ∃ name, readIdentifier b.typeName = .ok name
  /-- A path that begins with `try` is refused before anything is printed. -/
  runtime : ∃ runtime, readPath b.runtime = .ok runtime ∧ runtime.beginsWithTry = false
  path : ∃ path ∈ b.paths, ¬ Prints path

/-- The text of a bundle that was generated has no answer just where it cannot be printed. -/
theorem Bundle.Made.render_halts_iff {b : Bundle} {settings : Settings} (h : b.Made settings)
    {halt : Halt} : b.render = .error halt ↔ b.Unprintable ∧ halt = .unprintable := by
  cases htypeName : readIdentifier b.typeName with
  | error fault =>
      have hprinted : b.printed = .ok (.error (.typeName b.typeName fault)) := by
        unfold Bundle.printed
        rw [htypeName]
      have hnot : ¬ b.Unprintable := by
        intro hunprintable
        obtain ⟨name, hname⟩ := hunprintable.typeName
        rw [htypeName] at hname
        cases hname
      rw [Bundle.render_eq, hprinted]
      simp [hnot]
  | ok name =>
      cases hruntime : readPath b.runtime with
      | error fault =>
          have hprinted : b.printed = .ok (.error (.runtime b.runtime fault)) := by
            unfold Bundle.printed
            rw [htypeName]
            dsimp only
            rw [hruntime]
          have hnot : ¬ b.Unprintable := by
            intro hunprintable
            obtain ⟨runtime, hread, -⟩ := hunprintable.runtime
            rw [hruntime] at hread
            cases hread
          rw [Bundle.render_eq, hprinted]
          simp [hnot]
      | ok runtime =>
          have hrenders : b.Renders runtime :=
            h.renders_of_read ⟨name, h.typeName ▸ htypeName⟩ (h.runtime ▸ hruntime)
          rw [hrenders.halts_iff halt]
          constructor
          · rintro ⟨hhalt, htry, hpaths⟩
            have hpath : ∃ path ∈ b.paths, ¬ Prints path := by simpa using hpaths
            exact ⟨⟨⟨name, htypeName⟩, ⟨runtime, hruntime, htry⟩, hpath⟩, hhalt⟩
          · rintro ⟨hunprintable, hhalt⟩
            obtain ⟨found, hread, htry⟩ := hunprintable.runtime
            obtain ⟨path, hpath, hnot⟩ := hunprintable.path
            rw [hruntime] at hread
            cases hread
            exact ⟨hhalt, htry, fun hall => hnot (hall path hpath)⟩

/-- **All that has no answer** on the way from declarations to source text. Whatever the settings,
generating has none just where the batch overflows, a pass just where its batch does, and the text
of a bundle that either of them gives just where it cannot be printed. -/
theorem generating_halts_iff (settings : Settings) :
    (∀ (batch : Batch) halt, batch.generate settings = .error halt
        ↔ ∃ n, batch.Overflows n ∧ halt = .indexTooLarge n)
      ∧ (∀ declarations halt, pass settings declarations = .error halt
        ↔ ∃ n, Batch.Overflows (collect settings.marker declarations).batch n
          ∧ halt = .indexTooLarge n)
      ∧ (∀ (batch : Batch) generation bundle, batch.generate settings = .ok generation →
          generation.result = .ok bundle →
            ∀ halt, bundle.render = .error halt ↔ bundle.Unprintable ∧ halt = .unprintable)
      ∧ ∀ declarations outcome bundle, pass settings declarations = .ok outcome →
          outcome.bundle = some (.ok bundle) →
            ∀ halt, bundle.render = .error halt ↔ bundle.Unprintable ∧ halt = .unprintable := by
  refine ⟨fun batch halt => Batch.generate_halts_iff, fun declarations halt => ?_, ?_, ?_⟩
  · rw [pass_eq_error_iff]
    exact Batch.generate_halts_iff
  · intro batch generation bundle hgenerate hresult halt
    exact (Bundle.made_of_generate hgenerate hresult).render_halts_iff
  · intro declarations outcome bundle hpass hbundle halt
    exact (Bundle.made_of_pass hpass hbundle).render_halts_iff

/-- A struct whose only field is called by the least number that is no index. -/
def hugeLabelStruct : Declaration :=
  { markedStruct "User" with members := [⟨"4294967295", .field⟩] }

/-- **A pass without an answer**: the label is read as a number, and the number is no index. -/
theorem hugeLabel_halts : pass {} [hugeLabelStruct] = .error (.indexTooLarge 4294967295) := by
  have hbatch : (collect "static_string_util" [hugeLabelStruct]).batch = [hugeLabelStruct.marked] :=
    by decide
  have hfunction : hugeLabelStruct.marked.function = .error (.indexTooLarge 4294967295) := by
    decide +kernel
  have hnot : ¬ hugeLabelStruct.marked.Nameable := by
    intro hnameable
    obtain ⟨f, hf⟩ := Marked.succeeds_function_iff.mpr hnameable
    rw [hfunction] at hf
    cases hf
  obtain ⟨n, hoverflows, hhalt⟩ := Marked.function_halts_iff.mp hfunction
  rw [pass_eq_error_iff, hbatch, Batch.generate_halts_iff]
  exact ⟨n, ⟨⟨_, rfl, rfl⟩, _, isFirst_cons.mpr (.inl ⟨hnot, rfl⟩), hoverflows⟩, hhalt⟩

/-- A type whose path has an argument that is kept as it was written. -/
def verbatimArgument : Marked := (markedStruct "List<dyn* Item>").marked

/-- **A bundle without an answer**: its paths read, and one of them does not print. -/
theorem verbatimArgument_halts :
    ∃ generation bundle, Batch.generate [verbatimArgument] {} = .ok generation
      ∧ generation.result = .ok bundle ∧ bundle.render = .error .unprintable := by
  obtain ⟨generation, hgenerate, hview⟩ : ∃ generation,
      Batch.generate [verbatimArgument] {} = .ok generation
        ∧ generation.result.toOption.map (fun b => (b.typeName, b.runtime, b.paths))
          = some ("StringUtil", "static_string_util",
            ["static_string_util", "crate::model::List<dyn* Item>"]) :=
    exists_ok_of_view (by decide +kernel)
  obtain ⟨bundle, hresult, hnames⟩ := exists_ok_of_view hview
  obtain ⟨htypeName, hruntime, hpaths⟩ : bundle.typeName = "StringUtil"
      ∧ bundle.runtime = "static_string_util"
      ∧ bundle.paths = ["static_string_util", "crate::model::List<dyn* Item>"] := by
    simpa using hnames
  have hunprintable : bundle.Unprintable := by
    refine ⟨?_, ?_, "crate::model::List<dyn* Item>", ?_, ?_⟩
    · rw [htypeName]
      exact isOk_iff.mp (by decide +kernel)
    · rw [hruntime]
      exact exists_ok_of_view (by decide +kernel)
    · rw [hpaths]
      decide
    · obtain ⟨path, hpath, hhole⟩ : ∃ path, readPath "crate::model::List<dyn* Item>" = .ok path
          ∧ (path.layout false).printable = false := exists_ok_of_view (by decide +kernel)
      rw [prints_iff hpath, hhole]
      decide
  obtain ⟨-, -, hrenders, -⟩ := generating_halts_iff {}
  exact ⟨generation, bundle, hgenerate, hresult,
    (hrenders _ _ _ hgenerate hresult _).mpr ⟨hunprintable, rfl⟩⟩

end Fieldwise
