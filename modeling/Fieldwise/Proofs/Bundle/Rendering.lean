import Fieldwise.Proofs.Emission.Outcomes
import Fieldwise.Proofs.Emission.Shelves
import Fieldwise.Proofs.Grammar.Types
import Fieldwise.Proofs.Layout.Documents
import Fieldwise.Proofs.Pass.Markers
import Fieldwise.Proofs.Round.Sessions

set_option autoImplicit false

/-! # Which bundles have a text

The names that a bundle is made of are read before there is a bundle: the settings are checked, and
the path and the labels of every type are read when its function is made. `Settings.checked_renders`
says how far that goes. A bundle of checked settings has a text unless the path of the runtime crate
begins with the word `try`, or one of its paths holds a type that cannot be printed. Each path is
read by itself here; that the same decides whether what is assembled from them is a source file is
`Bundle.Made.refused_or_read`.
-/

namespace Fieldwise

open Grammar Layout

/-! ## What can be printed -/

/-- Accessors and texts can always be printed. -/
theorem PrintedBody.printable_argumentsLayout (accessors : List Accessor) :
    (argumentsLayout accessors).printable = true := by
  induction accessors with
  | nil => rfl
  | cons a rest ih =>
      cases rest with
      | nil => simp [argumentsLayout, Doc.spaceGap, Doc.zeroGap]
      | cons b more => simp [argumentsLayout, Doc.spaceGap, Doc.zeroGap, ih]

theorem PrintedBody.printable_layout (body : PrintedBody) : body.layout.printable = true := by
  cases body with
  | fixed text => simp [layout]
  | formatted template accessors =>
      simp [layout, Doc.zeroGap, printable_argumentsLayout]

/-- An implementation can be printed where the two paths in it can. -/
theorem PrintedFunction.printable_layout (typeName : Token.Name) (runtime : Path)
    (f : PrintedFunction) : (f.layout typeName runtime).printable
      = ((runtime.layout false).printable && (f.typePath.layout false).printable) := by
  simp [layout, functionLayout, Doc.zeroGap, Doc.lastComma, Doc.lineEnd, Doc.spaceGap,
    PrintedBody.printable_layout]

theorem PrintedBundle.printable_layout (b : PrintedBundle) :
    b.layout.printable = b.functions.all fun f =>
      (b.runtime.layout false).printable && (f.typePath.layout false).printable := by
  simp [layout, Doc.lineEnd, PrintedFunction.printable_layout, List.all_map, Function.comp_def]

/-! ## What is read beforehand -/

/-- A function whose names can be read, and whose type is named from the root of its crate. -/
structure TextFunction.Legible (f : TextFunction) : Prop where
  path : ∃ path, readPath f.typePath = .ok path
  accessors : ∃ accessors, Accessor.ofLabels f.fields = .ok (.ok accessors)
  crate : ∃ name, f.typePath = typePathOf name

theorem isOk_iff {ε α : Type} {x : Except ε α} : x.isOk = true ↔ ∃ a, x = .ok a := by
  cases x with
  | error e => simp [Except.isOk, Except.toBool]
  | ok a => simp [Except.isOk, Except.toBool]

theorem Marked.legible_of_function {m : Marked} {f : TextFunction}
    (h : m.function = .ok (.ok f)) : f.Legible := by
  unfold Marked.function at h
  dsimp only at h
  split at h
  · cases h
  · rename_i hread
    split at h
    · cases h
    · cases h
    · rename_i accessors haccessors
      cases h
      refine ⟨?_, ⟨accessors, haccessors⟩, m.qualifiedName, rfl⟩
      rw [Bool.not_eq_true', Bool.not_eq_false] at hread
      exact isOk_iff.mp hread

section Generation

-- reading the path of a type is not for unification to try
attribute [local irreducible] Marked.function

theorem Batch.legible_of_functions {batch : List Marked} {fs : List TextFunction}
    (h : Batch.functions batch = .ok (.ok fs)) : ∀ f ∈ fs, f.Legible := by
  induction batch generalizing fs with
  | nil =>
      cases h
      intro f hf
      cases hf
  | cons m rest ih =>
      rw [Batch.functions_cons] at h
      split at h
      · cases h
      · cases h
      · rename_i first hfirst
        split at h
        · cases h
        · cases h
        · rename_i more hmore
          cases h
          intro f hf
          rcases List.mem_cons.mp hf with rfl | hf
          · exact Marked.legible_of_function hfirst
          · exact ih hmore f hf

end Generation

/-- Generating a bundle has read the names of all its functions. -/
theorem Batch.legible_of_generate {batch : Batch} {settings : Settings} {generation : Generation}
    {bundle : Bundle} (h : batch.generate settings = .ok generation)
    (hresult : generation.result = .ok bundle) : ∀ f ∈ bundle.functions, f.Legible := by
  unfold Batch.generate at h
  split at h
  · cases h
    cases hresult
  · split at h
    · cases h
      cases hresult
    · dsimp only at h
      split at h
      · cases h
      · cases h
        cases hresult
      · rename_i fs hfs
        cases h
        cases hresult
        exact Batch.legible_of_functions hfs

/-- What is known of the names of a bundle that a pass gives. -/
structure Bundle.Made (b : Bundle) (settings : Settings) : Prop where
  typeName : b.typeName = settings.typeName
  runtime : b.runtime = settings.runtime
  functions : b.functions ≠ []
  legible : ∀ f ∈ b.functions, f.Legible

theorem Bundle.made_of_generate {batch : Batch} {settings : Settings} {generation : Generation}
    {b : Bundle} (h : batch.generate settings = .ok generation)
    (hresult : generation.result = .ok b) : b.Made settings := by
  have hlegible := Batch.legible_of_generate h hresult
  obtain ⟨leader, hleader, rfl⟩ := Batch.eq_bundle_of_generate h hresult
  refine ⟨rfl, rfl, ?_, hlegible⟩
  intro hnone
  rw [List.map_eq_nil_iff.mp hnone] at hleader
  cases hleader

theorem Bundle.made_of_pass {settings : Settings} {declarations : List Declaration}
    {outcome : PassOutcome} {b : Bundle} (h : pass settings declarations = .ok outcome)
    (hbundle : outcome.bundle = some (.ok b)) : b.Made settings := by
  rcases pass_cases h with ⟨-, hnone, -⟩ | ⟨-, generation, hgenerate, hsome, -⟩
  · rw [hnone] at hbundle
    cases hbundle
  · have hresult : generation.result = .ok b := by
      rw [hsome] at hbundle
      exact Option.some.inj hbundle
    exact Bundle.made_of_generate hgenerate hresult

/-- The check of settings reads all names among them. -/
theorem Settings.read_of_check {settings : Settings} (h : settings.check = .ok ()) :
    (∃ name, readIdentifier settings.typeName = .ok name)
      ∧ ∃ runtime, readPath settings.runtime = .ok runtime := by
  unfold Settings.check at h
  split at h
  · cases h
  · split at h
    · cases h
    · rename_i htypeName
      split at h
      · cases h
      · rename_i hruntime
        rw [Bool.not_eq_true', Bool.not_eq_false] at htypeName hruntime
        exact ⟨isOk_iff.mp htypeName, isOk_iff.mp hruntime⟩

/-! ## What is read again -/

theorem TextFunction.Legible.printed {f : TextFunction} (h : f.Legible) (rendering : Rendering) :
    ∃ p, f.printed rendering = .ok (.ok p) ∧ readPath f.typePath = .ok p.typePath := by
  obtain ⟨path, hpath⟩ := h.path
  obtain ⟨accessors, haccessors⟩ := h.accessors
  unfold TextFunction.printed
  rw [hpath]
  dsimp only
  split
  · exact ⟨_, rfl, rfl⟩
  · rw [haccessors]
    exact ⟨_, rfl, rfl⟩

section Functions

-- reading names is not for unification to try
attribute [local irreducible] TextFunction.printed

theorem printedFunctions_cons (rendering : Rendering) (f : TextFunction)
    (rest : List TextFunction) :
    printedFunctions rendering (f :: rest) = match f.printed rendering with
      | .error halt => .error halt
      | .ok (.error reason) => .ok (.error reason)
      | .ok (.ok p) =>
        match printedFunctions rendering rest with
        | .error halt => .error halt
        | .ok (.error reason) => .ok (.error reason)
        | .ok (.ok ps) => .ok (.ok (p :: ps)) := rfl

/-- Names that could be read once are read again, and give the same paths. -/
theorem printedFunctions_of_legible {fs : List TextFunction} (h : ∀ f ∈ fs, f.Legible)
    (rendering : Rendering) :
    ∃ ps, printedFunctions rendering fs = .ok (.ok ps)
      ∧ List.Forall₂ (fun f p => readPath f.typePath = .ok p.typePath) fs ps := by
  induction fs with
  | nil => exact ⟨[], rfl, .nil⟩
  | cons f rest ih =>
      obtain ⟨p, hp, hpath⟩ := (h f (by simp)).printed rendering
      obtain ⟨ps, hps, hpaths⟩ := ih fun g hg => h g (by simp [hg])
      refine ⟨p :: ps, ?_, .cons hpath hpaths⟩
      rw [printedFunctions_cons, hp]
      dsimp only
      rw [hps]

end Functions

/-- The path of a type in its crate does not begin with `try`. -/
theorem TextFunction.Legible.not_beginsWithTry {f : TextFunction} (h : f.Legible) {path : Path}
    (hpath : readPath f.typePath = .ok path) : path.beginsWithTry = false := by
  obtain ⟨name, hname⟩ := h.crate
  have htext : f.typePath.toList = "crate".toList ++ ':' :: ':' :: name.toList := by
    simp [hname, typePathOf]
  exact not_beginsWithTry_crate htext hpath

/-- It can stand where a type is wanted. -/
theorem TextFunction.Legible.isType {f : TextFunction} (h : f.Legible) :
    ∃ type, readType f.typePath = .ok type := by
  obtain ⟨path, hpath⟩ := h.path
  exact ⟨_, readType_of_readPath hpath (h.not_beginsWithTry hpath)⟩

theorem firstTypeFault?_eq_none_iff {texts : List String} :
    firstTypeFault? texts = none ↔ ∀ text ∈ texts, ∃ type, readType text = .ok type := by
  simp only [firstTypeFault?, List.findSome?_eq_none_iff]
  refine forall₂_congr fun text _ => ?_
  cases readType text with
  | error fault => simp
  | ok type => simp

/-- Of the paths of a bundle the runtime crate alone can be no type. -/
theorem firstTypeFault?_of_legible {runtime : String} {fs : List TextFunction} (hfs : fs ≠ [])
    (h : ∀ f ∈ fs, f.Legible) :
    firstTypeFault? (fs.flatMap fun f => [runtime, f.typePath]) = none
      ↔ ∃ type, readType runtime = .ok type := by
  rw [firstTypeFault?_eq_none_iff]
  constructor
  · intro hall
    obtain ⟨f, hf⟩ := List.exists_mem_of_ne_nil fs hfs
    exact hall runtime (List.mem_flatMap.mpr ⟨f, hf, by simp⟩)
  · intro hruntime text htext
    obtain ⟨f, hf, htext⟩ := List.mem_flatMap.mp htext
    rcases List.mem_pair.mp htext with rfl | rfl
    · exact hruntime
    · exact (h f hf).isType

section Rendering

attribute [local irreducible] Bundle.printed

theorem Bundle.render_eq (b : Bundle) : b.render = match b.printed with
    | .error halt => .error halt
    | .ok (.error reason) => .ok (.error reason)
    | .ok (.ok printed) =>
      if printed.layout.printable then .ok (.ok printed.text) else .error .unprintable := rfl

end Rendering

/-! ## Bundles without an answer -/

/-- Why a bundle has no answer, if it has none. -/
def Bundle.halt? (b : Bundle) : Option Halt :=
  match b.render with
  | .error halt => some halt
  | .ok _ => none

theorem Bundle.halt?_eq_some_iff {b : Bundle} {halt : Halt} :
    b.halt? = some halt ↔ b.render = .error halt := by
  unfold Bundle.halt?
  cases b.render with
  | error found => simp
  | ok rendered => simp

/-- A field is called by a number that is no index. -/
def TextFunction.IndexTooLarge (f : TextFunction) (n : Nat) : Prop :=
  ∃ label ∈ f.fields, Text.wordNumber? label = some n ∧ indexLimit ≤ n

theorem Accessor.ofLabel_eq_error {label : String} {halt : Halt}
    (h : Accessor.ofLabel label = .error halt) :
    ∃ n, Text.wordNumber? label = some n ∧ indexLimit ≤ n ∧ halt = .indexTooLarge n := by
  unfold Accessor.ofLabel at h
  split at h
  · rename_i n hn
    split at h
    · cases h
    · rename_i hlimit
      cases h
      exact ⟨n, hn, by omega, rfl⟩
  · split at h
    · cases h
    · split at h
      · cases h
      · cases h

theorem Accessor.ofLabels_eq_error {labels : List String} {halt : Halt}
    (h : Accessor.ofLabels labels = .error halt) :
    ∃ label ∈ labels, Accessor.ofLabel label = .error halt := by
  induction labels with
  | nil => cases h
  | cons label rest ih =>
      unfold Accessor.ofLabels at h
      split at h
      · rename_i hlabel
        cases h
        exact ⟨label, by simp, hlabel⟩
      · cases h
      · split at h
        · rename_i hrest
          cases h
          obtain ⟨found, hfound, herror⟩ := ih hrest
          exact ⟨found, by simp [hfound], herror⟩
        · cases h
        · cases h

theorem TextFunction.printed_eq_error {f : TextFunction} {rendering : Rendering} {halt : Halt}
    (h : f.printed rendering = .error halt) :
    ∃ n, f.IndexTooLarge n ∧ halt = .indexTooLarge n := by
  unfold TextFunction.printed at h
  split at h
  · cases h
  · split at h
    · cases h
    · split at h
      · rename_i hlabels
        cases h
        obtain ⟨label, hlabel, herror⟩ := Accessor.ofLabels_eq_error hlabels
        obtain ⟨n, hn, hlimit, rfl⟩ := Accessor.ofLabel_eq_error herror
        exact ⟨n, ⟨label, hlabel, hn, hlimit⟩, rfl⟩
      · cases h
      · cases h

theorem printedFunctions_eq_error {rendering : Rendering} {fs : List TextFunction} {halt : Halt}
    (h : printedFunctions rendering fs = .error halt) :
    ∃ f ∈ fs, f.printed rendering = .error halt := by
  induction fs with
  | nil => cases h
  | cons f rest ih =>
      rw [printedFunctions_cons] at h
      split at h
      · rename_i hf
        cases h
        exact ⟨f, by simp, hf⟩
      · cases h
      · split at h
        · rename_i hrest
          cases h
          obtain ⟨found, hfound, herror⟩ := ih hrest
          exact ⟨found, by simp [hfound], herror⟩
        · cases h
        · cases h

/-- **Why a bundle has no answer**: it cannot be printed, or one of its fields is called by a number
that is no index. -/
theorem Bundle.halt_of_render {b : Bundle} {halt : Halt} (h : b.render = .error halt) :
    halt = .unprintable ∨ ∃ f ∈ b.functions, ∃ n, f.IndexTooLarge n ∧ halt = .indexTooLarge n := by
  rw [Bundle.render_eq] at h
  split at h
  · rename_i hprinted
    cases h
    refine .inr ?_
    unfold Bundle.printed at hprinted
    split at hprinted
    · cases hprinted
    · split at hprinted
      · cases hprinted
      · split at hprinted
        · rename_i hfunctions
          cases hprinted
          obtain ⟨f, hf, herror⟩ := printedFunctions_eq_error hfunctions
          exact ⟨f, hf, TextFunction.printed_eq_error herror⟩
        · cases hprinted
        · dsimp only at hprinted
          split at hprinted
          · cases hprinted
          · cases hprinted
  · cases h
  · split at h
    · cases h
    · cases h
      exact .inl rfl

/-! ## Checked settings -/

/-- A text is a path all of which can be printed. -/
def Prints (text : String) : Prop :=
  ∃ path, readPath text = .ok path ∧ (path.layout false).printable = true

theorem prints_iff {text : String} {path : Path} (h : readPath text = .ok path) :
    Prints text ↔ (path.layout false).printable = true := by
  constructor
  · rintro ⟨found, hfound, hprintable⟩
    rw [h] at hfound
    cases hfound
    exact hprintable
  · exact fun hprintable => ⟨path, h, hprintable⟩

/-- The paths that the text of a bundle names. -/
def Bundle.paths (b : Bundle) : List String := b.functions.flatMap fun f => [b.runtime, f.typePath]

/-- A bundle can be printed where all paths that its text names can. -/
theorem printable_iff_prints {b : Bundle} {printed : PrintedBundle}
    (hruntime : readPath b.runtime = .ok printed.runtime)
    (hpaths : List.Forall₂ (fun f p => readPath f.typePath = .ok p.typePath) b.functions
      printed.functions) :
    printed.layout.printable = true ↔ ∀ path ∈ b.paths, Prints path := by
  rw [PrintedBundle.printable_layout, Bundle.paths]
  generalize b.functions = fs at hpaths
  generalize printed.functions = ps at hpaths
  induction hpaths with
  | nil => simp
  | cons hpath _ ih =>
      simp only [List.all_cons, Bool.and_eq_true, ih, List.flatMap_cons, List.forall_mem_append,
        List.forall_mem_cons, prints_iff hruntime, prints_iff hpath, List.not_mem_nil,
        false_implies, implies_true, and_true]

/-- What comes of rendering a bundle, given the path of its runtime crate. -/
structure Bundle.Renders (b : Bundle) (runtime : Path) : Prop where
  /-- It is refused just where the path begins with `try`. -/
  refused_iff : (∃ reason, b.render = .ok (.error reason)) ↔ runtime.beginsWithTry = true
  /-- It has a text just where the path does not, and where all its paths can be printed. -/
  text_iff : (∃ text, b.render = .ok (.ok text))
    ↔ runtime.beginsWithTry = false ∧ ∀ path ∈ b.paths, Prints path
  /-- There is no other outcome but that one of its paths cannot be printed. -/
  halts_iff : ∀ halt, b.render = .error halt
    ↔ halt = .unprintable ∧ runtime.beginsWithTry = false ∧ ¬ ∀ path ∈ b.paths, Prints path

namespace Bundle.Made

variable {b : Bundle} {settings : Settings} {runtime : Path}

/-- Reading the names of a bundle again can fail only where a type is wanted. -/
theorem exists_printed (h : b.Made settings)
    (htypeName : ∃ name, readIdentifier settings.typeName = .ok name)
    (hruntime : readPath settings.runtime = .ok runtime) :
    ∃ typeName ps, List.Forall₂ (fun f p => readPath f.typePath = .ok p.typePath) b.functions ps
      ∧ b.printed = match firstTypeFault? b.paths with
        | some fault => .ok (.error (.notType fault))
        | none => .ok (.ok ⟨typeName, runtime, ps⟩) := by
  obtain ⟨typeName, htypeName⟩ := htypeName
  obtain ⟨ps, hps, hpaths⟩ := printedFunctions_of_legible h.legible b.rendering
  refine ⟨typeName, ps, hpaths, ?_⟩
  rw [← h.typeName] at htypeName
  rw [← h.runtime] at hruntime
  unfold Bundle.printed
  rw [htypeName]
  dsimp only
  rw [hruntime]
  dsimp only
  rw [hps]
  rfl

/-- A bundle is refused where its runtime crate cannot stand for a type. -/
theorem refused_of_try (h : b.Made settings)
    (htypeName : ∃ name, readIdentifier settings.typeName = .ok name)
    (hruntime : readPath settings.runtime = .ok runtime) (htry : runtime.beginsWithTry = true) :
    ∃ fault, b.render = .ok (.error (.notType fault)) := by
  obtain ⟨typeName, ps, -, hprinted⟩ := h.exists_printed htypeName hruntime
  obtain ⟨fault, hfault⟩ := readType_of_beginsWithTry hruntime htry
  cases hfirst : firstTypeFault? b.paths with
  | none =>
      obtain ⟨type, htype⟩ := (firstTypeFault?_of_legible h.functions h.legible).mp hfirst
      rw [h.runtime, hfault] at htype
      cases htype
  | some found =>
      rw [hfirst] at hprinted
      exact ⟨found, by rw [Bundle.render_eq, hprinted]⟩

/-- Any other bundle has a text, if it can be printed. -/
theorem render_of_not_try (h : b.Made settings)
    (htypeName : ∃ name, readIdentifier settings.typeName = .ok name)
    (hruntime : readPath settings.runtime = .ok runtime) (htry : runtime.beginsWithTry = false) :
    ((∀ path ∈ b.paths, Prints path) ∧ ∃ text, b.render = .ok (.ok text))
      ∨ (¬ ∀ path ∈ b.paths, Prints path) ∧ b.render = .error .unprintable := by
  obtain ⟨typeName, ps, hpaths, hprinted⟩ := h.exists_printed htypeName hruntime
  have htype := readType_of_readPath hruntime htry
  rw [← h.runtime] at hruntime htype
  have hnone : firstTypeFault? b.paths = none :=
    (firstTypeFault?_of_legible h.functions h.legible).mpr ⟨_, htype⟩
  have hprintable : (PrintedBundle.layout ⟨typeName, runtime, ps⟩).printable = true
      ↔ ∀ path ∈ b.paths, Prints path := printable_iff_prints hruntime hpaths
  rw [hnone] at hprinted
  rw [Bundle.render_eq, hprinted]
  dsimp only
  split
  · rename_i hlayout
    exact .inl ⟨hprintable.mp hlayout, _, rfl⟩
  · rename_i hlayout
    exact .inr ⟨mt hprintable.mpr hlayout, rfl⟩

/-- **What comes of rendering a bundle** whose type name and runtime crate read. -/
theorem renders_of_read (h : b.Made settings)
    (htypeName : ∃ name, readIdentifier settings.typeName = .ok name)
    (hruntime : readPath settings.runtime = .ok runtime) : b.Renders runtime := by
  cases htry : runtime.beginsWithTry with
  | true =>
      obtain ⟨fault, hrender⟩ := h.refused_of_try htypeName hruntime htry
      constructor <;> simp [hrender, htry]
  | false =>
      rcases h.render_of_not_try htypeName hruntime htry with
        ⟨hall, text, hrender⟩ | ⟨hnot, hrender⟩
      · constructor
        · simp [hrender, htry]
        · simpa [hrender, htry] using hall
        · simpa [hrender, htry] using hall
      · constructor
        · simp [hrender, htry]
        · simpa [hrender, htry] using hnot
        · intro halt
          rw [hrender, Except.error.injEq]
          exact ⟨fun heq => ⟨heq.symm, htry, hnot⟩, fun hhalt => hhalt.1.symm⟩

theorem renders (h : b.Made settings) (hcheck : settings.check = .ok ())
    (hruntime : readPath settings.runtime = .ok runtime) : b.Renders runtime :=
  h.renders_of_read (Settings.read_of_check hcheck).1 hruntime

theorem render_of_try (h : b.Made settings) (hcheck : settings.check = .ok ())
    (hruntime : readPath settings.runtime = .ok runtime) (htry : runtime.beginsWithTry = true) :
    ∃ fault, b.render = .ok (.error (.notType fault)) :=
  h.refused_of_try (Settings.read_of_check hcheck).1 hruntime htry

end Bundle.Made

/-- An emitter renders: it fails for the text of a bundle only where the bundle has none. -/
def Emitter.RefusesByText {σ : Type} (e : Emitter σ) : Prop :=
  ∀ bundle store emission reason, e bundle store = .ok emission →
    emission.result = .error (.render reason) → bundle.render = .ok (.error reason)

theorem Shelf.emitter_refusesByText : Emitter.RefusesByText Shelf.emitter := by
  intro bundle shelf emission reason h hresult
  rcases Shelf.emitter_cases h with ⟨found, hrender, rfl⟩ | ⟨text, hrender, rfl⟩
  · cases hresult
    exact hrender
  · cases hresult

theorem OutputDirectory.emitter_refusesByText (o : OutputDirectory) :
    Emitter.RefusesByText o.emitter := by
  intro bundle files emission reason h hresult
  rcases o.emitter_cases h with ⟨found, hrender, rfl⟩ | ⟨text, emitted, after, -, -, -, rfl⟩
    | ⟨text, location, cause, after, -, -, rfl⟩
  · cases hresult
    exact hrender
  · cases hresult
  · cases hresult

/-- A round ends with a bundle that has no text only where the path of the runtime crate begins with
`try`. -/
theorem round_refused {σ : Type} {e : Emitter σ} (he : e.RefusesByText) {settings : Settings}
    {runtime : Path} (hruntime : readPath settings.runtime = .ok runtime)
    {source : Unit → Except Halt Findings} {store : σ} {outcome : RoundOutcome σ}
    {reason : RenderError} (h : round settings source e store = .ok outcome)
    (hresult : outcome.result = .error (.emit (.render reason))) :
    runtime.beginsWithTry = true := by
  have hexit := exit_of_round (a := ⟨settings, source⟩) h
  generalize (⟨outcome.trace.reports, outcome.store⟩ : Session σ) = after at hexit
  rw [hresult] at hexit
  cases hexit with
  | refused houtcome hbundle hemission hrefused =>
      obtain ⟨hcheck, findings, declarations, -, -, hpass⟩ :=
        Assignment.outcome?_eq_some_iff.mp houtcome
      have hrender := he _ _ _ _ hemission hrefused
      have hmade := Bundle.made_of_pass hpass hbundle
      exact (hmade.renders hcheck hruntime).refused_iff.mp ⟨reason, hrender⟩

/-- **How far the checks made beforehand go.** With settings that pass the check, whatever the
declarations: a bundle is refused just where the path of the runtime crate begins with `try`, and
where it does not, the bundle has a text, unless one of its paths holds what cannot be printed. So
no round ends with a refused bundle under another runtime crate. -/
theorem Settings.checked_renders {settings : Settings} (hcheck : settings.check = .ok ()) :
    ∃ runtime, readPath settings.runtime = .ok runtime
      ∧ (∀ declarations outcome bundle, pass settings declarations = .ok outcome →
          outcome.bundle = some (.ok bundle) → bundle.Renders runtime)
      ∧ (runtime.beginsWithTry = false → ∀ (source : Unit → Except Halt Findings) reason,
          (∀ shelf outcome, round settings source Shelf.emitter shelf = .ok outcome →
            outcome.result ≠ .error (.emit (.render reason)))
          ∧ ∀ (o : OutputDirectory) files outcome,
            round settings source o.emitter files = .ok outcome →
              outcome.result ≠ .error (.emit (.render reason))) := by
  obtain ⟨-, runtime, hruntime⟩ := Settings.read_of_check hcheck
  refine ⟨runtime, hruntime, ?_, ?_⟩
  · intro declarations outcome bundle hpass hbundle
    exact (Bundle.made_of_pass hpass hbundle).renders hcheck hruntime
  · intro htry source reason
    refine ⟨fun shelf outcome hround hresult => ?_, fun o files outcome hround hresult => ?_⟩
    · have hrefused := round_refused Shelf.emitter_refusesByText hruntime hround hresult
      rw [htry] at hrefused
      cases hrefused
    · have hrefused := round_refused o.emitter_refusesByText hruntime hround hresult
      rw [htry] at hrefused
      cases hrefused

/-- A struct with one field that carries the marker. -/
def namedUser : Declaration := { markedStruct "User" with members := [⟨"name", .field⟩] }

/-- The bundle of a pass. -/
def PassOutcome.bundle? (outcome : PassOutcome) : Option Bundle :=
  outcome.bundle.bind Except.toOption

theorem PassOutcome.bundle_of_bundle? {outcome : PassOutcome} {bundle : Bundle}
    (h : outcome.bundle? = some bundle) : outcome.bundle = some (.ok bundle) := by
  unfold bundle? at h
  obtain ⟨result, hresult, h⟩ := Option.bind_eq_some_iff.mp h
  cases result with
  | error reason => cases h
  | ok found =>
      cases h
      exact hresult

/-- With the settings that hold by default a bundle has a text. -/
theorem defaultSettings_render :
    Settings.check {} = .ok () ∧ ∃ outcome bundle text, pass {} [namedUser] = .ok outcome
      ∧ outcome.bundle = some (.ok bundle) ∧ bundle.render = .ok (.ok text) := by
  have hcheck : Settings.check {} = .ok () := check_eq_ok (by decide +kernel)
  obtain ⟨outcome, hpass, hview⟩ : ∃ outcome, pass {} [namedUser] = .ok outcome
      ∧ outcome.bundle?.map Bundle.paths = some ["static_string_util", "crate::model::User"] :=
    exists_ok_of_view (by decide +kernel)
  obtain ⟨bundle, hbundle, hpaths⟩ := Option.map_eq_some_iff.mp hview
  have hgenerated := PassOutcome.bundle_of_bundle? hbundle
  obtain ⟨runtime, hruntime, hrenders, -⟩ := Settings.checked_renders hcheck
  obtain ⟨found, hfound, htry⟩ : ∃ found, readPath "static_string_util" = .ok found
      ∧ found.beginsWithTry = false := exists_ok_of_view (by decide +kernel)
  cases hfound.symm.trans hruntime
  have hprints : ∀ path ∈ bundle.paths, Prints path := by
    rw [hpaths]
    intro path hpath
    rcases List.mem_pair.mp hpath with rfl | rfl
    · exact exists_ok_of_view (by decide +kernel)
    · exact exists_ok_of_view (by decide +kernel)
  obtain ⟨text, htext⟩ := (hrenders _ outcome bundle hpass hgenerated).text_iff.mpr ⟨htry, hprints⟩
  exact ⟨hcheck, outcome, bundle, text, hpass, hgenerated, htext⟩

/-- Settings that reach the trait through the word `try`. -/
def trySettings : Settings := { runtime := "try" }

/-- The word `try` passes as the path of a runtime crate, but no trait can be reached through it:
the bundle of a marked struct has no text, and a round with it fails. -/
theorem tryRuntime_refused :
    trySettings.check = .ok ()
      ∧ (∃ outcome bundle, pass trySettings [namedUser] = .ok outcome
        ∧ outcome.bundle = some (.ok bundle) ∧ ∃ reason, bundle.render = .ok (.error reason))
      ∧ ∃ outcome reason, round trySettings (fixedSource [namedUser]) Shelf.emitter {}
          = .ok outcome ∧ outcome.result = .error (.emit (.render reason)) := by
  have hcheck : trySettings.check = .ok () := check_eq_ok (by decide +kernel)
  obtain ⟨outcome, hpass, hview⟩ : ∃ outcome, pass trySettings [namedUser] = .ok outcome
      ∧ outcome.bundle?.isSome = true := exists_ok_of_view (by decide +kernel)
  obtain ⟨bundle, hbundle⟩ := Option.isSome_iff_exists.mp hview
  have hgenerated := PassOutcome.bundle_of_bundle? hbundle
  obtain ⟨path, hpath, htry⟩ : ∃ path, readPath "try" = .ok path ∧ path.beginsWithTry = true :=
    exists_ok_of_view (by decide +kernel)
  obtain ⟨fault, hrender⟩ :=
    (Bundle.made_of_pass hpass hgenerated).render_of_try hcheck hpath htry
  refine ⟨hcheck, ⟨outcome, bundle, hpass, hgenerated, _, hrender⟩, ?_⟩
  have houtcome : Assignment.outcome? ⟨trySettings, fixedSource [namedUser]⟩
      = some outcome := Assignment.outcome?_eq_some_iff.mpr ⟨hcheck, _, _, rfl, rfl, hpass⟩
  obtain ⟨ended, hround, hresult, -⟩ := Exit.exists_round
    (Exit.refused (s := ⟨[], {}⟩) houtcome hgenerated (Shelf.emitter_of_refused hrender) rfl)
  exact ⟨ended, _, hround, hresult⟩

end Fieldwise
