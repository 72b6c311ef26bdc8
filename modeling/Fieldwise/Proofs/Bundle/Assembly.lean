import Fieldwise.Proofs.Bundle.Accessors
import Fieldwise.Proofs.Bundle.ReadBack
import Fieldwise.Proofs.Grammar.InPlace
import Fieldwise.Proofs.Grammar.ItemNames

set_option autoImplicit false

/-! # What is assembled from a bundle

Before anything is printed, the names of a bundle are put between the words and marks of generated
code, as trees (`PrintedBundle.trees`). They are those that the printed text is read back as
(`Bundle.AssembledAs.text_reads`). All this is for bundles whose paths are names alone, as those of
all types are that a crate declares (`namesAlone_typePathOf`): the trees of generic arguments are
not kept.
-/

namespace Fieldwise

open Token Grammar Layout Text

/-! ## The trees of generated code

All of them stand at one place. -/

namespace Token.Tree

/-- A word. -/
def word (text : String) : Tree := .name (.plain text) .start

/-- A mark that no other follows without a blank. -/
def mark (c : Char) : Tree := .punct c false .start

/-- A path from the root of all crates. -/
def path (words : List String) : List Tree := words.flatMap fun w => colonTrees ++ [word w]

/-- The literal of a text. -/
def text (value : String) : Tree := .literal ⟨.string value, quote value⟩ .start

/-- Trees in brackets. -/
def enclosed (d : Delimiter) (content : List Tree) : Tree := .group d content .start .start

end Token.Tree

/-- What reaches a field, as a tree. -/
def Accessor.tree : Accessor → Tree
  | .index n => .literal ⟨.integer false, toString n⟩ .start
  | .name n => .name n .start

/-- The trees of the body of a function. -/
def PrintedBody.trees : PrintedBody → List Tree
  | .fixed text =>
    Tree.path ["std", "string", "String", "from"] ++ [.enclosed .parenthesis [.text text]]
  | .formatted template accessors =>
    Tree.path ["std", "format"] ++ [.mark '!', .enclosed .parenthesis
      ([.mark ','].intercalate ([.text template]
        :: accessors.map fun a => [.word "instance", .mark '.', a.tree]))]

namespace PrintedFunction

variable (typeName : Name) (runtime : Path) (f : PrintedFunction)

/-- The trees of the function itself. -/
def functionTrees : List Tree :=
  .word "fn" :: .word functionName
    :: .enclosed .parenthesis (.word f.body.parameter :: .mark ':' :: .mark '&' :: f.typePath.trees)
    :: .punct '-' true .start :: .mark '>' :: (Tree.path ["std", "string", "String"]
      ++ [.enclosed .brace f.body.trees])

/-- The trees of the implementation that a function stands in. -/
def trees : List Tree :=
  .word "impl" :: (runtime.trees ++ (Tree.path [traitName] ++ .mark '<' :: (f.typePath.trees
    ++ .mark '>' :: .word "for" :: .name typeName .start :: [.enclosed .brace f.functionTrees])))

end PrintedFunction

/-- The trees of the generated file. -/
def PrintedBundle.trees (b : PrintedBundle) : List Tree :=
  Source.docAttribute (docText b.functions.length).toList false .start
    ++ .word "pub" :: .word "struct" :: .name b.typeName .start :: .mark ';'
      :: b.functions.flatMap (PrintedFunction.trees b.typeName b.runtime)

/-! ## The tokens of generated code -/

theorem lexemesAll_laterTrees (segments : List Segment) : Tree.lexemesAll (laterTrees segments)
    = segments.flatMap fun s => colons ++ [.name s.name] := by
  induction segments with
  | nil => rfl
  | cons s more ih =>
      rw [laterTrees, List.flatMap_cons, List.flatMap_cons, Tree.lexemesAll_append]
      exact congrArg _ ih

theorem intercalate_colons (first : List Lexeme) (segments : List Segment) :
    colons.intercalate (first :: segments.map fun s => [Lexeme.name s.name])
      = first ++ segments.flatMap fun s => colons ++ [.name s.name] := by
  induction segments generalizing first with
  | nil => simp
  | cons s more ih =>
      rw [List.map_cons, List.intercalate_cons_cons, ih]
      simp

theorem Grammar.Path.lexemesAll_trees {p : Path} (hp : p.segments ≠ []) :
    Tree.lexemesAll p.trees = p.names := by
  obtain ⟨leading, segments⟩ := p
  cases segments with
  | nil => exact absurd rfl hp
  | cons s more =>
      rw [Path.names, List.map_cons, intercalate_colons, Path.trees, Tree.lexemesAll_append]
      have hnames : Tree.lexemesAll (.name s.name .start :: laterTrees more)
          = [.name s.name] ++ more.flatMap fun s => colons ++ [.name s.name] := by
        rw [← lexemesAll_laterTrees]
        rfl
      rw [hnames]
      cases leading with
      | true => rfl
      | false => rfl

theorem lexemesAll_path (words : List String) :
    Tree.lexemesAll (Tree.path words) = Lexeme.path words := by
  induction words with
  | nil => rfl
  | cons w more ih =>
      rw [Tree.path, Lexeme.path, List.flatMap_cons, List.flatMap_cons, Tree.lexemesAll_append]
      exact congrArg _ ih

theorem lexemesAll_intercalate (c : Char) (parts : List (List Tree)) :
    Tree.lexemesAll ([Tree.mark c].intercalate parts)
      = [Lexeme.mark c].intercalate (parts.map Tree.lexemesAll) := by
  cases parts with
  | nil => rfl
  | cons first more =>
      induction more generalizing first with
      | nil => simp
      | cons second more ih =>
          rw [List.intercalate_cons_cons, List.map_cons, List.map_cons, List.intercalate_cons_cons,
            Tree.lexemesAll_append, Tree.lexemesAll_append, ih]
          rfl

theorem PrintedBody.lexemesAll_trees (body : PrintedBody) :
    Tree.lexemesAll body.trees = body.lexemes := by
  cases body with
  | fixed text =>
      rw [trees, lexemes, Tree.lexemesAll_append, lexemesAll_path]
      rfl
  | formatted template accessors =>
      have haccessor (a : Accessor) : Tree.lexemesAll [.word "instance", .mark '.', a.tree]
          = [.word "instance", .mark '.', a.lexeme] := by
        cases a with
        | index n => rfl
        | name n => rfl
      have harguments : Tree.lexemesAll ([Tree.mark ','].intercalate ([.text template]
          :: accessors.map fun a => [.word "instance", .mark '.', a.tree]))
          = [Lexeme.mark ','].intercalate ([.text template]
            :: accessors.map fun a => [.word "instance", .mark '.', a.lexeme]) := by
        rw [lexemesAll_intercalate, List.map_cons, List.map_map]
        simp only [Function.comp_def, haccessor]
        rfl
      rw [trees, lexemes, Tree.lexemesAll_append, lexemesAll_path, ← harguments]
      simp [Tree.lexemesAll, Tree.lexemes, Tree.mark, Tree.enclosed]

namespace PrintedFunction

variable (typeName : Name) {runtime : Path} {f : PrintedFunction}

theorem lexemesAll_trees (hruntime : runtime.segments ≠ []) (hp : f.typePath.segments ≠ []) :
    Tree.lexemesAll (f.trees typeName runtime)
      = SaidFunction.lexemes typeName runtime.names ⟨f.typePath.names, f.body⟩ := by
  simp [trees, functionTrees, SaidFunction.lexemes, SaidFunction.headLexemes,
    SaidFunction.signatureLexemes, Tree.lexemesAll, Tree.lexemes, Tree.lexemesAll_append,
    Path.lexemesAll_trees hruntime, Path.lexemesAll_trees hp, lexemesAll_path,
    PrintedBody.lexemesAll_trees, Tree.word, Tree.mark, Tree.enclosed, Lexeme.word]

end PrintedFunction

namespace PrintedBundle

theorem lexemesAll_functions (typeName : Name) {runtime : Path} {functions : List PrintedFunction}
    (hruntime : runtime.segments ≠ []) (hpaths : ∀ f ∈ functions, f.typePath.segments ≠ []) :
    Tree.lexemesAll (functions.flatMap (PrintedFunction.trees typeName runtime))
      = (functions.map fun f => ⟨f.typePath.names, f.body⟩).flatMap
        (SaidFunction.lexemes typeName runtime.names) := by
  induction functions with
  | nil => rfl
  | cons f more ih =>
      obtain ⟨hfirst, hpaths⟩ := List.forall_mem_cons.mp hpaths
      rw [List.flatMap_cons, List.map_cons, List.flatMap_cons, Tree.lexemesAll_append, ih hpaths,
        PrintedFunction.lexemesAll_trees typeName hruntime hfirst]

/-- **What is assembled has the tokens that a printed file says**, where paths are names alone. -/
theorem lexemesAll_trees {b : PrintedBundle} (hruntime : b.runtime.segments ≠ [])
    (hpaths : ∀ f ∈ b.functions, f.typePath.segments ≠ []) : Tree.lexemesAll b.trees
      = SaidBundle.lexemes ⟨b.typeName, b.runtime.names,
          b.functions.map fun f => ⟨f.typePath.names, f.body⟩⟩ := by
  rw [trees, Tree.lexemesAll_append, lexemesAll_docAttribute, String.ofList_toList,
    SaidBundle.lexemes, List.length_map, ← lexemesAll_functions b.typeName hruntime hpaths]
  rfl

end PrintedBundle

/-! ## Bundles whose paths are names alone -/

/-- What is assembled from a bundle has its names as they are read. -/
structure Bundle.AssembledAs (b : Bundle) (p : PrintedBundle) : Prop where
  typeName : readIdentifier b.typeName = .ok p.typeName
  runtime : readPath b.runtime = .ok p.runtime
  functions : printedFunctions b.rendering b.functions = .ok (.ok p.functions)

/-- A text is no path but one of names alone. -/
def NamesAlone (text : String) : Prop := ∀ path, readPath text = .ok path → path.isPlain = true

theorem namesAlone_of_readPath {text : String} {path : Path} (h : readPath text = .ok path)
    (hplain : path.isPlain = true) : NamesAlone text := by
  intro other hother
  cases h.symm.trans hother
  exact hplain

/-- The path of a type that a crate declares is one, in whatever modules it stands. -/
theorem namesAlone_typePathOf {modules : List Name} (hmodules : ∀ m ∈ modules, m.AcceptedModule)
    {name : Name} (hname : name.Accepted) :
    NamesAlone (typePathOf (Package.qualify ⟨modules.map Name.written⟩ name.written)) := by
  refine namesAlone_of_readPath (readPath_typePathOf hmodules hname) (List.all_eq_true.mpr ?_)
  rw [List.forall_mem_cons, List.forall_mem_map]
  exact ⟨rfl, fun _ _ => rfl⟩

/-- So is the path of the runtime crate that is set by default. -/
example : NamesAlone "static_string_util" := by
  obtain ⟨path, hpath, hplain⟩ : ∃ path, readPath "static_string_util" = .ok path
      ∧ path.isPlain = true := exists_ok_of_view (by decide +kernel)
  exact namesAlone_of_readPath hpath hplain

variable {b : Bundle} {p : PrintedBundle} {settings : Settings}

/-- What is printed is what is assembled. -/
theorem Bundle.AssembledAs.eq_of_printed (h : b.AssembledAs p) {q : PrintedBundle}
    (hprinted : b.printed = .ok (.ok q)) : q = p := by
  unfold Bundle.printed at hprinted
  rw [h.typeName] at hprinted
  dsimp only at hprinted
  rw [h.runtime] at hprinted
  dsimp only at hprinted
  rw [h.functions] at hprinted
  dsimp only at hprinted
  split at hprinted
  · cases hprinted
  · cases hprinted
    rfl

/-- A path of names is printed as its names. -/
theorem prints_names {text : String} {path : Path} (h : readPath text = .ok path)
    (halone : NamesAlone text) : (path.layout false).Prints path.names := by
  have hplain := halone path h
  have habsent : ∀ s ∈ path.segments, s.arguments.isAbsent = true := List.all_eq_true.mp hplain
  have hgiven : path.GivenAs path.names := by
    refine ⟨(ofNames_of_readPath h hplain).nonempty, _, ?_, rfl⟩
    rw [List.forall₂_map_right_iff, List.forall₂_same]
    intro s hs
    obtain ⟨n, arguments⟩ := s
    cases arguments with
    | none => exact Segment.givenAs_none (lexical_of_readPath h _ hs)
    | angle lifetimes others => cases habsent _ hs
    | call layout => cases habsent _ hs
  exact (hgiven.prints_plain hplain).1

/-- What holds of every path that is read holds of those that are assembled. -/
theorem Bundle.AssembledAs.forall_paths (h : b.AssembledAs p) {P : Path → Prop}
    (hpaths : ∀ f ∈ b.functions, ∀ path, readPath f.typePath = .ok path → P path) :
    ∀ q ∈ p.functions, P q.typePath := by
  have hprinted := forall₂_of_printedFunctions h.functions
  generalize b.functions = fs at hprinted hpaths
  generalize p.functions = qs at hprinted
  induction hprinted with
  | nil => exact fun q hq => by cases hq
  | cons hq _ ih =>
      obtain ⟨hfirst, hpaths⟩ := List.forall_mem_cons.mp hpaths
      exact List.forall_mem_cons.mpr
        ⟨hfirst _ (TextFunction.bodyFits_of_printed hq).1, ih hpaths⟩

/-- **The text of a bundle is read back as the tokens of what is assembled**, if its paths are names
alone; commas before a closing bracket aside. -/
theorem Bundle.AssembledAs.text_reads (h : b.AssembledAs p) {text : String}
    (hplain : ∀ path ∈ b.paths, NamesAlone path) (hsome : b.functions ≠ [])
    (hrender : b.render = .ok (.ok text)) :
    ∃ found, lexemesOf text = .ok found ∧ Trimmed found (Tree.lexemesAll p.trees) := by
  obtain ⟨q, hprinted, -, rfl⟩ := Bundle.printed_of_render hrender
  obtain rfl := h.eq_of_printed hprinted
  -- the runtime crate is named by every implementation, and there is one
  obtain ⟨f, hf⟩ := List.exists_mem_of_ne_nil _ hsome
  have hruntime := hplain _ (List.mem_flatMap.mpr ⟨f, hf, List.mem_cons_self⟩)
  have hpaths (g : TextFunction) (hg : g ∈ b.functions) : NamesAlone g.typePath :=
    hplain _ (List.mem_flatMap.mpr ⟨g, hg, by simp⟩)
  have hsays : q.Says ⟨q.typeName, q.runtime.names,
      q.functions.map fun f => ⟨f.typePath.names, f.body⟩⟩ := by
    refine ⟨rfl, fun _ => prints_names h.runtime hruntime, ?_⟩
    rw [List.forall₂_map_right_iff, List.forall₂_same]
    exact fun g hg => ⟨h.forall_paths (fun f hf _ hread => prints_names hread (hpaths f hf)) g hg,
      rfl⟩
  rw [PrintedBundle.lexemesAll_trees (ofNames_of_readPath h.runtime (hruntime _ h.runtime)).nonempty
    (h.forall_paths fun f hf _ hread => (ofNames_of_readPath hread (hpaths f hf _ hread)).nonempty)]
  exact PrintedBundle.lexemesOf_text hsays ((accepted_iff _).mp ⟨_, h.typeName⟩).1
    (bodies_sound (forall₂_of_printedFunctions h.functions))

end Fieldwise
