import Fieldwise.Proofs.Bundle.Lexemes
import Fieldwise.Proofs.Grammar.RulesKept

set_option autoImplicit false

/-! # What a generated file says

The text of a bundle, read back as tokens, says what the bundle says (`Bundle.text_says`): the type,
and one implementation for each function in order, with its path in both places and a body that fits
its fields. A path of names alone comes through token for token. Of generic arguments the printer
leaves out what means nothing, such as brackets around none (`Part.Printed`); the values among them,
and what else a type holds that is no type, are taken to be printed as they are read
(`Rules.PrintsLeaves`).
-/

namespace Fieldwise

open Token Grammar Layout Text

/-! ## What is read before it is printed -/

/-- A text is read as a path, and its tokens are printed as these. If they are names alone, what is
printed is what was given. -/
def PathSays (text : String) (said : List Lexeme) : Prop :=
  ∃ path given, readPath text = .ok path ∧ lexemesOf text = .ok given
    ∧ Part.path.Printed given said ∧ (path.isPlain = true → said = given)

/-- What a text has that is no type is printed as it is read. -/
def LeavesPrinted (text : String) : Prop :=
  ∀ given, lexemesOf text = .ok given → ∀ depth, (rules depth).PrintsLeaves given

/-- **A path is printed as the tokens it was given in.** -/
theorem pathSays_of_readPath {text : String} {path : Path} (h : readPath text = .ok path)
    (hleaves : LeavesPrinted text) (hprintable : (path.layout false).printable = true) :
    ∃ said, (path.layout false).Prints said ∧ PathSays text said := by
  obtain ⟨given, hgiven⟩ := lexemesOf_of_readPath h
  have hpath := givenAs_of_readPath h hgiven (hleaves given hgiven)
  by_cases hplain : path.isPlain = true
  · obtain ⟨hprints, hprinted⟩ := hpath.prints_plain hplain
    exact ⟨given, hprints, path, given, h, hgiven, hprinted, fun _ => rfl⟩
  · obtain ⟨said, hprints, hprinted⟩ := hpath.keptFor hprintable
    exact ⟨said, hprints, path, given, h, hgiven, hprinted, fun hyes => absurd hyes hplain⟩

/-- A body fits a function: without fields it gives the name with empty braces, and with fields it
fills the template of the type with what reaches them, in order. -/
inductive TextFunction.BodyFits (f : TextFunction) (rendering : Rendering) : PrintedBody → Prop
  | fixed (hfields : f.fields = []) : BodyFits f rendering (.fixed (emptySummary f.simpleName))
  | formatted {accessors : List Accessor} (hfields : f.fields ≠ [])
      (haccessors : List.Forall₂ (fun label a => Accessor.ofLabel label = .ok (some a)) f.fields
        accessors) :
      BodyFits f rendering (.formatted (template f.simpleName f.fields rendering) accessors)

/-- What is said is what a function says. -/
structure TextFunction.SaidBy (rendering : Rendering) (f : TextFunction) (said : SaidFunction) :
    Prop where
  path : PathSays f.typePath said.typePath
  body : f.BodyFits rendering said.body

namespace Accessor

theorem forall₂_of_ofLabels {labels : List String} {accessors : List Accessor}
    (h : ofLabels labels = .ok (.ok accessors)) :
    List.Forall₂ (fun label a => ofLabel label = .ok (some a)) labels accessors := by
  induction labels generalizing accessors with
  | nil =>
      cases h
      exact .nil
  | cons label rest ih =>
      unfold ofLabels at h
      split at h
      · cases h
      · cases h
      · rename_i a ha
        split at h
        · cases h
        · cases h
        · rename_i more hmore
          cases h
          exact .cons ha (ih hmore)

theorem sound_of_ofLabel {label : String} {a : Accessor} (h : ofLabel label = .ok (some a)) :
    a.Sound := by
  have hname {text : String} {n : Name} (hread : readIdentifier text = .ok n) : n.Lexical :=
    ((accepted_iff n).mp ⟨text, hread⟩).1
  unfold ofLabel at h
  split at h
  · split at h
    · cases h
      trivial
    · cases h
  · split at h
    · rename_i hread
      cases h
      exact hname hread
    · split at h
      · rename_i hread
        cases h
        exact hname hread
      · cases h

theorem forall_sound {labels : List String} {accessors : List Accessor}
    (h : List.Forall₂ (fun label a => ofLabel label = .ok (some a)) labels accessors) :
    ∀ a ∈ accessors, a.Sound := by
  induction h with
  | nil => exact fun a ha => by cases ha
  | cons hlabel _ ih => exact List.forall_mem_cons.mpr ⟨sound_of_ofLabel hlabel, ih⟩

end Accessor

theorem TextFunction.BodyFits.sound {f : TextFunction} {rendering : Rendering} {body : PrintedBody}
    (h : f.BodyFits rendering body) : body.Sound := by
  cases h with
  | fixed hfields => trivial
  | formatted hfields haccessors =>
      refine ⟨?_, Accessor.forall_sound haccessors⟩
      rintro rfl
      exact hfields (List.forall₂_nil_right_iff.mp haccessors)

theorem TextFunction.bodyFits_of_printed {f : TextFunction} {rendering : Rendering}
    {p : PrintedFunction} (h : f.printed rendering = .ok (.ok p)) :
    readPath f.typePath = .ok p.typePath ∧ f.BodyFits rendering p.body := by
  unfold TextFunction.printed at h
  split at h
  · cases h
  · rename_i path hpath
    split at h
    · rename_i hfields
      cases h
      exact ⟨hpath, .fixed (List.isEmpty_iff.mp hfields)⟩
    · rename_i hfields
      split at h
      · cases h
      · cases h
      · rename_i accessors haccessors
        cases h
        refine ⟨hpath, .formatted ?_ (Accessor.forall₂_of_ofLabels haccessors)⟩
        simpa using hfields

theorem TextFunction.saidBy_of_printed {f : TextFunction} {rendering : Rendering}
    {p : PrintedFunction} (h : f.printed rendering = .ok (.ok p))
    (hleaves : LeavesPrinted f.typePath) (hprintable : (p.typePath.layout false).printable = true) :
    ∃ said, p.Says said ∧ f.SaidBy rendering said := by
  obtain ⟨hread, hbody⟩ := TextFunction.bodyFits_of_printed h
  obtain ⟨said, hprints, hpath⟩ := pathSays_of_readPath hread hleaves hprintable
  exact ⟨⟨said, p.body⟩, ⟨hprints, rfl⟩, ⟨hpath, hbody⟩⟩

section Functions

-- reading names is not for unification to try
attribute [local irreducible] TextFunction.printed

/-- Functions are read one by one. -/
theorem forall₂_of_printedFunctions {rendering : Rendering} {fs : List TextFunction}
    {ps : List PrintedFunction} (h : printedFunctions rendering fs = .ok (.ok ps)) :
    List.Forall₂ (fun f p => f.printed rendering = .ok (.ok p)) fs ps := by
  induction fs generalizing ps with
  | nil =>
      cases h
      exact .nil
  | cons f rest ih =>
      rw [printedFunctions_cons] at h
      split at h
      · cases h
      · cases h
      · rename_i p hp
        split at h
        · cases h
        · cases h
        · rename_i more hmore
          cases h
          exact .cons hp (ih hmore)

end Functions

theorem bodies_sound {rendering : Rendering} {fs : List TextFunction} {ps : List PrintedFunction}
    (h : List.Forall₂ (fun f p => f.printed rendering = .ok (.ok p)) fs ps) :
    ∀ p ∈ ps, p.body.Sound := by
  induction h with
  | nil => exact fun p hp => by cases hp
  | cons hp _ ih =>
      exact List.forall_mem_cons.mpr ⟨(TextFunction.bodyFits_of_printed hp).2.sound, ih⟩

theorem saidBy_of_printedFunctions {rendering : Rendering} {fs : List TextFunction}
    {ps : List PrintedFunction}
    (h : List.Forall₂ (fun f p => f.printed rendering = .ok (.ok p)) fs ps)
    (hleaves : ∀ f ∈ fs, LeavesPrinted f.typePath)
    (hprintable : ∀ p ∈ ps, (p.typePath.layout false).printable = true) :
    ∃ all, List.Forall₂ PrintedFunction.Says ps all
      ∧ List.Forall₂ (TextFunction.SaidBy rendering) fs all := by
  induction h with
  | nil => exact ⟨[], .nil, .nil⟩
  | cons hp _ ih =>
      obtain ⟨hleaf, hleaves⟩ := List.forall_mem_cons.mp hleaves
      obtain ⟨hfirst, hprintable⟩ := List.forall_mem_cons.mp hprintable
      obtain ⟨said, hprints, hsaid⟩ := TextFunction.saidBy_of_printed hp hleaf hfirst
      obtain ⟨all, hall, hsaidAll⟩ := ih hleaves hprintable
      exact ⟨said :: all, .cons hprints hall, .cons hsaid hsaidAll⟩

/-- What is said has the names of a bundle, and its functions in order. The runtime crate is named
in functions only. -/
structure Bundle.SaidBy (b : Bundle) (said : SaidBundle) : Prop where
  read : readIdentifier b.typeName = .ok said.typeName
  typeName : lexemesOf b.typeName = .ok [.name said.typeName]
  runtime : b.functions ≠ [] → PathSays b.runtime said.runtime
  functions : List.Forall₂ (TextFunction.SaidBy b.rendering) b.functions said.functions

theorem lexemesOf_readIdentifier {text : String} {n : Name} (h : readIdentifier text = .ok n) :
    lexemesOf text = .ok [.name n] := by
  obtain ⟨trees, hlex, hread⟩ := lex_of_readText h
  obtain ⟨after, hident, hrest, hstray⟩ := Parser.finished_of_run hread
  obtain ⟨_, hpassed, rfl⟩ := Parser.at_identifier hident hstray List.infix_rfl
  have hname : Tree.lexemesAll trees = _ := hpassed
  rw [lexemesOf, hlex, Except.map, hname, hrest]
  rfl

theorem Bundle.saidBy_of_printed {b : Bundle} {p : PrintedBundle} (h : b.printed = .ok (.ok p))
    (hleaves : ∀ path ∈ b.paths, LeavesPrinted path) (hprintable : p.layout.printable = true) :
    ∃ said, p.Says said ∧ b.SaidBy said ∧ ∀ f ∈ p.functions, f.body.Sound := by
  unfold Bundle.printed at h
  split at h
  · cases h
  · rename_i typeName htypeName
    split at h
    · cases h
    · rename_i runtime hruntime
      split at h
      · cases h
      · cases h
      · rename_i functions hfunctions
        dsimp only at h
        split at h
        · cases h
        · cases h
          rw [PrintedBundle.printable_layout, List.all_eq_true] at hprintable
          simp only [Bool.and_eq_true] at hprintable
          have hprinted := forall₂_of_printedFunctions hfunctions
          have hsounds := bodies_sound hprinted
          obtain ⟨all, hall, hsaid⟩ := saidBy_of_printedFunctions hprinted
            (fun f hf => hleaves _ (List.mem_flatMap.mpr ⟨f, hf, by simp⟩))
            (fun f hf => (hprintable f hf).2)
          have hnil : functions = [] ↔ b.functions = [] := by
            rw [← List.length_eq_zero_iff, ← List.length_eq_zero_iff, hall.length_eq,
              hsaid.length_eq]
          have htypeSaid := lexemesOf_readIdentifier htypeName
          by_cases hnone : functions = []
          · exact ⟨⟨typeName, [], all⟩, ⟨rfl, fun hne => absurd hnone hne, hall⟩,
              ⟨htypeName, htypeSaid, fun hne => absurd (hnil.mp hnone) hne, hsaid⟩, hsounds⟩
          · obtain ⟨q, hq⟩ := List.exists_mem_of_ne_nil _ hnone
            obtain ⟨f, hf⟩ := List.exists_mem_of_ne_nil _ (mt hnil.mpr hnone)
            obtain ⟨said, hprints, hpath⟩ := pathSays_of_readPath hruntime
              (hleaves _ (List.mem_flatMap.mpr ⟨f, hf, by simp⟩)) (hprintable q hq).1
            exact ⟨⟨typeName, said, all⟩, ⟨rfl, fun _ => hprints, hall⟩,
              ⟨htypeName, htypeSaid, fun _ => hpath, hsaid⟩, hsounds⟩

/-! ## What a text says -/

theorem Bundle.printed_of_render {b : Bundle} {text : String} (h : b.render = .ok (.ok text)) :
    ∃ p, b.printed = .ok (.ok p) ∧ p.layout.printable = true ∧ text = p.text := by
  rw [Bundle.render_eq] at h
  split at h
  · cases h
  · cases h
  · rename_i p hprinted
    split at h
    · rename_i hprintable
      cases h
      exact ⟨p, hprinted, hprintable, rfl⟩
    · cases h

/-- A bundle with these functions. -/
def bundleOf (functions : List TextFunction) : Bundle where
  typeName := "StringUtil"
  package := ⟨["model"]⟩
  functions := functions
  rendering := .display
  runtime := "static_string_util"
  fileName := "string_util.rs"

end Fieldwise
