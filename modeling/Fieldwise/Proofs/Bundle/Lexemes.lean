import Fieldwise.Proofs.Bundle.Rendering
import Fieldwise.Proofs.Grammar.PrintedForms
import Fieldwise.Proofs.Layout.Documents

set_option autoImplicit false

/-! # The tokens of generated code

What is printed for a bundle is the type with its comment, and one implementation for each function:
the path of the type in two places, and a body that gives a text or fills a template. Given the
tokens that its paths are printed as, the text is read as just these and the fixed ones between them
(`PrintedBundle.lexemesOf_text`), however its lines are broken and whatever characters its literals
hold.
-/

namespace Fieldwise

open Token Grammar Layout Text

/-! ## Lexemes of generated code -/

namespace Token.Lexeme

/-- The literal of a text. -/
def text (value : String) : Lexeme := .literal ⟨.string value, quote value⟩

/-- A path from the root of all crates. -/
def path (words : List String) : List Lexeme := words.flatMap fun w => colons ++ [word w]

end Token.Lexeme

/-- What reaches a field, as a lexeme. -/
def Accessor.lexeme : Accessor → Lexeme
  | .index n => .literal ⟨.integer false, toString n⟩
  | .name n => .name n

/-- The lexemes of the body of a function. -/
def PrintedBody.lexemes : PrintedBody → List Lexeme
  | .fixed text =>
    Lexeme.path ["std", "string", "String", "from"]
      ++ [.opening .parenthesis, .text text, .closing .parenthesis]
  | .formatted template accessors =>
    Lexeme.path ["std", "format"] ++ [.mark '!', .opening .parenthesis]
      ++ [.mark ','].intercalate ([.text template]
        :: accessors.map fun a => [.word "instance", .mark '.', a.lexeme])
      ++ [.closing .parenthesis]

/-- What a printed function says: its path in tokens, and its body. -/
structure SaidFunction where
  typePath : List Lexeme
  body : PrintedBody

/-- What a printed bundle says: the path of the runtime crate in tokens, and its functions. -/
structure SaidBundle where
  typeName : Name
  runtime : List Lexeme
  functions : List SaidFunction

namespace SaidFunction

variable (typeName : Name) (runtime : List Lexeme) (f : SaidFunction)

/-- The lexemes that say which trait is implemented for which type. -/
def headLexemes : List Lexeme :=
  .word "impl" :: (runtime ++ Lexeme.path [traitName] ++ .mark '<'
    :: (f.typePath ++ [.mark '>', .word "for", .name typeName]))

/-- The lexemes of a function before its body. -/
def signatureLexemes : List Lexeme :=
  .word "fn" :: .word functionName :: .opening .parenthesis :: .word f.body.parameter :: .mark ':'
    :: .mark '&' :: (f.typePath ++ .closing .parenthesis :: .mark '-' :: .mark '>'
      :: Lexeme.path ["std", "string", "String"])

/-- The lexemes of the implementation that a function stands in. -/
def lexemes : List Lexeme :=
  f.headLexemes typeName runtime ++ .opening .brace
    :: (f.signatureLexemes ++ .opening .brace
      :: (f.body.lexemes ++ [.closing .brace, .closing .brace]))

end SaidFunction

/-- A function is printed as what is said. -/
structure PrintedFunction.Says (f : PrintedFunction) (said : SaidFunction) : Prop where
  path : (f.typePath.layout false).Prints said.typePath
  body : f.body = said.body

/-! ## Fixed words -/

/-- The words of generated code. -/
def generatedWords : List String :=
  ["pub", "struct", "impl", "for", "fn", traitName, functionName, "instance", "_instance", "std",
   "string", "String", "from", "format"]

theorem lexical_generatedWords : ∀ w ∈ generatedWords, (Name.plain w).Lexical := by
  decide +kernel

variable {opened : List Delimiter} {text : List Char} {found : List Lexeme}

/-- A word of generated code in front of a text that ends it. -/
theorem Token.Reads.word (h : Reads opened text found) {w : String} (hw : w ∈ generatedWords)
    (hend : EndsName text) : Reads opened (w.toList ++ text) (.word w :: found) := by
  have hword := h.name (lexical_generatedWords w hw) hend
  exact hword

/-- A path of generated code in front of a text that ends it. -/
theorem Token.Reads.path (h : Reads opened text found) {words : List String}
    (hwords : ∀ w ∈ words, w ∈ generatedWords) (hend : EndsName text) :
    Reads opened (pathText (words.map Name.plain) ++ text) (Lexeme.path words ++ found) := by
  induction words with
  | nil => exact h
  | cons w words ih =>
      obtain ⟨hw, hmore⟩ := List.forall_mem_cons.mp hwords
      have hrest := ih hmore
      have hnext : EndsName (pathText (words.map Name.plain) ++ text) := by
        cases words with
        | nil => exact hend
        | cons x words => exact endsName_cons (by decide) _
      have hword := ((hrest.word hw hnext).mark (c := ':') (by decide)).mark (c := ':') (by decide)
      simpa [pathText, Lexeme.path, colons, Name.written, Name.plain] using hword

theorem pathText_std_string : "::std::string::String".toList
    = pathText (["std", "string", "String"].map Name.plain) := rfl

theorem pathText_std_from : "::std::string::String::from".toList
    = pathText (["std", "string", "String", "from"].map Name.plain) := rfl

theorem pathText_std_format : "::std::format!(".toList
    = pathText (["std", "format"].map Name.plain) ++ ['!', '('] := rfl

/-! ## Bodies -/

/-- An accessor whose name source text can hold. -/
def Accessor.Sound : Accessor → Prop
  | .index _ => True
  | .name n => n.Lexical

theorem Accessor.reads {a : Accessor} (ha : a.Sound) (h : Reads opened text found)
    (hbegins : Begins PartsWords text) :
    Reads opened (a.written.toList ++ text) (a.lexeme :: found) := by
  have hend : EndsName text := fun c hc => (hbegins c hc).1
  cases a with
  | index n => exact h.number n hend fun hpoint => (hbegins '.' hpoint).2 rfl
  | name n => exact h.name ha hend

/-- A field after its dot. -/
theorem Accessor.spells {a : Accessor} (ha : a.Sound) (opened : List Delimiter) :
    Spells PartsWords opened ("." ++ a.written) [.mark '.', a.lexeme] opened :=
  fun text found hbegins hread => by
    simpa using (Accessor.reads ha hread hbegins).mark (c := '.') (by decide)

/-- A field after its dot, with the comma that follows. -/
theorem Accessor.spells_comma {a : Accessor} (ha : a.Sound) (opened : List Delimiter) :
    Spells (fun _ => True) opened ("." ++ a.written ++ ",") [.mark '.', a.lexeme, .mark ',']
      opened := fun text found _ hread => by
  have hcomma := hread.mark (c := ',') (by decide)
  have hfield := Accessor.reads ha hcomma (begins_cons (by decide) text)
  simpa using hfield.mark (c := '.') (by decide)

namespace PrintedBody

variable {rest : List Piece} {after : List Lexeme}

/-- The instance before one of its fields; the line may end between them. -/
theorem yields_field {word : String} {more : List Char} (hword : word.toList = '.' :: more)
    (hrest : Yields opened (.word word :: rest) after) :
    Yields opened (.gap { blanks := 1 } :: .word "instance" :: .gap {} :: .word word :: rest)
      (.word "instance" :: after) := by
  have hinstance : Spells PartsNames opened "instance" [.word "instance"] opened :=
    fun _ _ hbegins hread => hread.word (by decide) hbegins
  have hdot : Opens PartsNames (.word word :: rest) := opens_word (c := '.') (by decide) hword rest
  exact yields_gap adds_none (yields_word hinstance (opens_gap adds_none rfl hdot)
    (yields_gap adds_none hrest))

/-- The accessors of a template are printed in order, with commas between them. -/
theorem yields_argumentsLayout {accessors : List Accessor} (hsound : ∀ a ∈ accessors, a.Sound)
    (hne : accessors ≠ []) (hrest : Yields opened rest after) (hopens : Opens PartsWords rest) :
    Yields opened ((argumentsLayout accessors).piecesBefore rest)
      ([.mark ','].intercalate
        (accessors.map fun a => [.word "instance", .mark '.', a.lexeme]) ++ after) := by
  induction accessors with
  | nil => exact absurd rfl hne
  | cons a accessors ih =>
      obtain ⟨ha, hmore⟩ := List.forall_mem_cons.mp hsound
      cases accessors with
      | nil =>
          have hfield := yields_word (Accessor.spells ha opened) hopens hrest
          have hall := yields_field (by simp; rfl) hfield
          simp only [argumentsLayout, Doc.piecesBefore_append, Doc.spaceGap, Doc.zeroGap]
          simpa using hall
      | cons b accessors =>
          -- the comma belongs to the word of the field before it
          have hfield := yields_word (Accessor.spells_comma ha opened) (fun _ _ _ => trivial)
            (ih hmore (List.cons_ne_nil b accessors))
          have hall := yields_field (by simp; rfl) hfield
          simp only [argumentsLayout, Doc.piecesBefore_append, Doc.spaceGap, Doc.zeroGap]
          simpa using hall

theorem printsAs_quote (value : String) :
    (Doc.word (quote value)).PrintsAs [.text value] := fun opened rest after hrest hopens => by
  have hspells : Spells PartsNames opened (quote value) [.text value] opened :=
    fun _ _ hbegins hread => hread.quoted value hbegins
  exact yields_word hspells (opens_names hopens) hrest

theorem printsAs_fixed (value : String) :
    (PrintedBody.fixed value).layout.PrintsAs (PrintedBody.fixed value).lexemes := by
  intro opened rest after hrest hopens
  have hpath : Spells PartsNames opened "::std::string::String::from"
      (Lexeme.path ["std", "string", "String", "from"]) opened := fun text found hbegins hread => by
    rw [pathText_std_from]
    exact hread.path (by decide) hbegins
  have hbracket : Opens PartsNames
      ((Doc.bracketed "(" ")" [.word (quote value)]).piecesBefore (.leave :: rest)) := by
    rw [Doc.piecesBefore_bracketed _ _ (List.cons_ne_nil _ _)]
    exact opens_word (by decide) rfl _
  have hargument := List.Forall₂.cons (printsAs_quote value) .nil
  have hlist := yields_bracketed (encloses_parenthesis opened) hargument (List.cons_ne_nil _ _)
    (yields_leave hrest)
  rw [layout, Doc.fill, Doc.piecesBefore_group (Doc.word_ne_empty _)
    (Doc.bracketed_ne_empty _ _ _) (Doc.firm_bracketed _ _ _), lexemes]
  simpa using yields_enter (yields_word hpath hbracket hlist) .inconsistent 0

theorem argumentsLayout_ne_empty {accessors : List Accessor} (hne : accessors ≠ []) :
    argumentsLayout accessors ≠ .empty := by
  cases accessors with
  | nil => exact absurd rfl hne
  | cons a rest => cases rest <;> simp [argumentsLayout]

theorem firm_argumentsLayout {accessors : List Accessor} (hne : accessors ≠ []) :
    (argumentsLayout accessors).Firm := by
  induction accessors with
  | nil => exact absurd rfl hne
  | cons a accessors ih =>
      cases accessors with
      | nil => exact (Doc.firm_word _).append _ (Doc.word_ne_empty _)
      | cons b accessors =>
          have hmore := List.cons_ne_nil b accessors
          exact (ih hmore).append _ (argumentsLayout_ne_empty hmore)

theorem piecesBefore_formatted (template : String) {accessors : List Accessor}
    (hne : accessors ≠ []) (rest : List Piece) :
    (PrintedBody.formatted template accessors).layout.piecesBefore rest
      = .enter .inconsistent 0 :: .word "::std::format!(" :: .enter .consistent indentStep
        :: .gap {} :: .enter .inconsistent 0 :: .word (quote template ++ ",")
        :: (argumentsLayout accessors).piecesBefore (.leave :: .gap { shift := -indentStep }
          :: .leave :: .word ")" :: .leave :: rest) := by
  have hgap : Doc.zeroGap.outdentLast = .gap { shift := -indentStep } := rfl
  rw [layout, hgap, Doc.fill, Doc.piecesBefore_group (by simp) (Doc.word_ne_empty _)
      (Doc.firm_word _), Doc.piecesBefore_append, Doc.stack,
    Doc.piecesBefore_group (by simp [Doc.zeroGap]) (Doc.gap_ne_empty _) (Doc.firm_gap rfl),
    Doc.piecesBefore_append, Doc.fill, Doc.piecesBefore_group (Doc.word_ne_empty _)
      (argumentsLayout_ne_empty hne) (firm_argumentsLayout hne)]
  rfl

theorem printsAs_formatted (template : String) {accessors : List Accessor}
    (hsound : ∀ a ∈ accessors, a.Sound) (hne : accessors ≠ []) :
    (PrintedBody.formatted template accessors).layout.PrintsAs
      (PrintedBody.formatted template accessors).lexemes := by
  intro opened rest after hrest hopens
  have hhead : Spells (fun _ => True) opened "::std::format!("
      (Lexeme.path ["std", "format"] ++ [.mark '!', .opening .parenthesis])
      (.parenthesis :: opened) := fun text found _ hread => by
    have hmarks := (Reads.opening hread).mark (c := '!') (by decide)
    rw [pathText_std_format, List.append_assoc, List.append_assoc]
    exact hmarks.path (by decide) (endsName_cons (by decide) _)
  have htemplate : Spells (fun _ => True) (.parenthesis :: opened) (quote template ++ ",")
      [.text template, .mark ','] (.parenthesis :: opened) := fun text found _ hread => by
    have hcomma := hread.mark (c := ',') (by decide)
    rw [String.toList_append, List.append_assoc]
    exact hcomma.quoted template (endsName_cons (by decide) _)
  have hclose : Spells (fun _ => True) (.parenthesis :: opened) ")" [.closing .parenthesis]
      opened := fun _ _ _ hread => hread.closing .parenthesis
  have hend : Opens PartsWords (.leave :: .gap { shift := -indentStep } :: .leave :: .word ")"
      :: .leave :: rest) :=
    opens_leave (opens_gap adds_none rfl (opens_leave (opens_word (by decide) rfl _)))
  have harguments := yields_argumentsLayout hsound hne
    (yields_leave (yields_gap adds_none (yields_leave
      (yields_word hclose (fun _ _ _ => trivial) (yields_leave hrest))))) hend
  rw [piecesBefore_formatted template hne, lexemes]
  have hall := yields_enter (yields_word hhead (fun _ _ _ => trivial)
    (yields_enter (yields_gap (g := {}) adds_none (yields_enter
      (yields_word htemplate (fun _ _ _ => trivial) harguments) .inconsistent 0))
      .consistent indentStep)) .inconsistent 0
  cases accessors with
  | nil => exact absurd rfl hne
  | cons a accessors => simpa using hall

/-- A body whose accessors can be printed, and that shows a field if it shows a template. -/
def Sound : PrintedBody → Prop
  | .fixed _ => True
  | .formatted _ accessors => accessors ≠ [] ∧ ∀ a ∈ accessors, a.Sound

/-- **A body says what it does**: it gives a fixed text, or fills a template with fields. -/
theorem printsAs {body : PrintedBody} (h : body.Sound) : body.layout.PrintsAs body.lexemes := by
  cases body with
  | fixed value => exact printsAs_fixed value
  | formatted template accessors => exact printsAs_formatted template h.2 h.1

end PrintedBody

/-! ## Functions -/

theorem spells_openingBrace (opened : List Delimiter) :
    Spells (fun _ => True) opened " \x7b" [.opening .brace] (.brace :: opened) :=
  fun _ _ _ hread => (Reads.opening hread).blank (.inl rfl)

theorem spells_closingBrace (opened : List Delimiter) :
    Spells (fun _ => True) (.brace :: opened) "\x7d" [.closing .brace] opened :=
  fun _ _ _ hread => hread.closing .brace

namespace PrintedFunction

variable {rest : List Piece} {after : List Lexeme} {f : PrintedFunction} {said : SaidFunction}

/-- The gap that ends a line and goes back one step. -/
def outdentedEnd : Gap := { force := some .always, shift := -indentStep }

theorem piecesBefore_functionLayout (f : PrintedFunction) (rest : List Piece) :
    f.functionLayout.piecesBefore rest
      = .enter .consistent indentStep :: .word ("fn " ++ functionName ++ "(")
        :: .enter .consistent 0 :: .gap {} :: .word (f.body.parameter ++ ": &")
        :: (f.typePath.layout false).piecesBefore (.gap Doc.closingGap :: .leave :: .word ")"
          :: .enter .consistent (-indentStep) :: .word " -> ::std::string::String" :: .leave
          :: .word " \x7b" :: .gap { force := some .always }
          :: f.body.layout.piecesBefore (.gap outdentedEnd :: .leave :: .word "\x7d" :: rest)) := by
  have hcomma : Doc.lastComma.outdentLast = .gap Doc.closingGap := rfl
  have hend : Doc.lineEnd.outdentLast = .gap outdentedEnd := rfl
  rw [functionLayout, hcomma, hend, Doc.piecesBefore_append, Doc.stack,
    Doc.piecesBefore_group (by simp) (Doc.gap_ne_empty _) (Doc.firm_gap rfl)]
  simp only [Doc.piecesBefore_append]
  rw [Doc.stack, Doc.piecesBefore_group (by simp [Doc.zeroGap]) (Doc.gap_ne_empty _)
    (Doc.firm_gap rfl)]
  simp only [Doc.piecesBefore_append]
  rfl

theorem piecesBefore_layout (typeName : Name) (runtime : Path) (f : PrintedFunction)
    (rest : List Piece) :
    (f.layout typeName runtime).piecesBefore rest
      = .enter .consistent indentStep :: .enter .inconsistent (-indentStep) :: .word "impl "
        :: (runtime.layout false).piecesBefore (.word ("::" ++ traitName)
          :: (Doc.bracketed "<" ">" [f.typePath.layout false]).piecesBefore
            (.gap { blanks := 1 } :: .word ("for " ++ typeName.written) :: .leave
              :: .word " \x7b" :: .gap { force := some .always }
              :: f.functionLayout.piecesBefore (.gap outdentedEnd :: .leave :: .word "\x7d"
                :: .gap { force := some .always } :: rest))) := by
  have hend : Doc.lineEnd.outdentLast = .gap outdentedEnd := rfl
  rw [layout, hend, Doc.piecesBefore_append, Doc.piecesBefore_append, Doc.stack,
    Doc.piecesBefore_group (by simp) (Doc.gap_ne_empty _) (Doc.firm_gap rfl)]
  simp only [Doc.piecesBefore_append]
  rw [Doc.fill, Doc.piecesBefore_group (by simp) (Doc.word_ne_empty _) (Doc.firm_word _)]
  simp only [Doc.piecesBefore_append]
  rfl

theorem spells_functionName (opened : List Delimiter) :
    Spells (fun _ => True) opened ("fn " ++ functionName ++ "(")
      [.word "fn", .word functionName, .opening .parenthesis] (.parenthesis :: opened) :=
  fun text found _ hread => by
    have hname := (Reads.opening hread).word (by decide : functionName ∈ generatedWords)
      (endsName_cons (by decide) _)
    exact (hname.blank (.inl rfl)).word (by decide : "fn" ∈ generatedWords)
      (endsName_cons (by decide) _)

theorem spells_parameter (body : PrintedBody) (opened : List Delimiter) :
    Spells (fun _ => True) opened (body.parameter ++ ": &")
      [.word body.parameter, .mark ':', .mark '&'] opened :=
  fun text found _ hread => by
    have hparameter : body.parameter ∈ generatedWords := by
      cases body with
      | fixed value => exact (by decide : "_instance" ∈ generatedWords)
      | formatted template accessors => exact (by decide : "instance" ∈ generatedWords)
    have hand := (hread.mark (c := '&') (by decide)).blank (.inl rfl)
    have hmarks := hand.mark (c := ':') (by decide)
    rw [String.toList_append, List.append_assoc]
    exact hmarks.word hparameter (endsName_cons (by decide) _)

theorem spells_result (opened : List Delimiter) :
    Spells PartsNames opened " -> ::std::string::String"
      (.mark '-' :: .mark '>' :: Lexeme.path ["std", "string", "String"]) opened :=
  fun text found hbegins hread => by
    have hwords : ∀ w ∈ ["std", "string", "String"], w ∈ generatedWords := by decide
    have hpath := hread.path hwords hbegins
    rw [← pathText_std_string] at hpath
    exact (((hpath.blank (.inl rfl)).mark (by decide)).mark (by decide)).blank (.inl rfl)

/-- A function says its parameter, its type and its body. -/
theorem yields_functionLayout (h : f.Says said) (hbody : f.body.Sound)
    (hrest : Yields opened rest after) :
    Yields opened (f.functionLayout.piecesBefore rest)
      (said.signatureLexemes ++ .opening .brace :: (said.body.lexemes ++ .closing .brace
        :: after)) := by
  have hclose := yields_gap (g := outdentedEnd) adds_none (yields_leave
    (yields_word (spells_closingBrace opened) (fun _ _ _ => trivial) hrest))
  have hopensClose : Opens PartsWords (.gap outdentedEnd :: .leave :: .word "\x7d" :: rest) :=
    opens_gap adds_none rfl (opens_leave (opens_word (by decide) rfl _))
  have hinside := yields_word (spells_openingBrace opened) (fun _ _ _ => trivial)
    (yields_gap (g := { force := some .always }) adds_none
      (PrintedBody.printsAs hbody hclose hopensClose))
  have hresult := yields_enter (yields_word (spells_result opened)
    (opens_leave (opens_word (by decide) rfl _)) (yields_leave hinside)) .consistent (-indentStep)
  have hparameters := yields_lastComma Doc.adds_closingGap
    (encloses_parenthesis opened).closes
    (closes_leave (closes_word (encloses_parenthesis opened).last hresult))
  have htype := h.path.printsAs hparameters (opens_gap Doc.adds_closingGap rfl
    (opens_leave (opens_word (by decide) rfl _)))
  have hall := yields_enter (yields_word (spells_functionName opened) (fun _ _ _ => trivial)
    (yields_enter (yields_gap (g := {}) adds_none (yields_word (spells_parameter f.body _)
      (fun _ _ _ => trivial) htype)) .consistent 0)) .consistent indentStep
  rw [piecesBefore_functionLayout, SaidFunction.signatureLexemes, ← h.body]
  simpa using hall

theorem spells_impl (opened : List Delimiter) :
    Spells (fun _ => True) opened "impl " [.word "impl"] opened := fun text found _ hread =>
  (hread.blank (.inl rfl)).word (by decide : "impl" ∈ generatedWords)
    (endsName_cons (by decide) _)

theorem spells_trait (opened : List Delimiter) :
    Spells PartsNames opened ("::" ++ traitName) (Lexeme.path [traitName]) opened :=
  fun text found hbegins hread => by
    have hwords : ∀ w ∈ [traitName], w ∈ generatedWords := by decide
    exact hread.path hwords hbegins

theorem spells_for {typeName : Name} (hname : typeName.Lexical) (opened : List Delimiter) :
    Spells PartsNames opened ("for " ++ typeName.written) [.word "for", .name typeName] opened :=
  fun text found hbegins hread => by
    have htype := (hread.name hname hbegins).blank (.inl rfl)
    rw [String.toList_append, List.append_assoc]
    exact htype.word (by decide : "for" ∈ generatedWords) (endsName_cons (by decide) _)

/-- **An implementation says what its function is**: the path of the type in both places, and the
body. -/
theorem yields_layout (h : f.Says said) (hbody : f.body.Sound) {typeName : Name}
    (hname : typeName.Lexical) {runtime : Path} {runtimeSaid : List Lexeme}
    (hruntime : (runtime.layout false).Prints runtimeSaid) (hrest : Yields opened rest after) :
    Yields opened ((f.layout typeName runtime).piecesBefore rest)
      (said.lexemes typeName runtimeSaid ++ after) := by
  have hclose := yields_gap (g := outdentedEnd) adds_none (yields_leave
    (yields_word (spells_closingBrace opened) (fun _ _ _ => trivial)
      (yields_gap (g := { force := some .always }) adds_none hrest)))
  have hinside := yields_word (spells_openingBrace opened) (fun _ _ _ => trivial)
    (yields_gap (g := { force := some .always }) adds_none
      (yields_functionLayout h hbody hclose))
  have hfor := yields_gap (g := { blanks := 1 }) adds_none (yields_word (spells_for hname opened)
    (opens_leave (opens_word (by decide) rfl _)) (yields_leave hinside))
  have hargument := List.Forall₂.cons h.path.printsAs .nil
  have htrait := yields_word (spells_trait opened) (by
      rw [Doc.piecesBefore_bracketed _ _ (List.cons_ne_nil _ _)]
      exact opens_word (by decide) rfl _)
    (yields_bracketed (encloses_angle opened) hargument (List.cons_ne_nil _ _) hfor)
  have hall := yields_enter (yields_enter (yields_word (spells_impl opened) (fun _ _ _ => trivial)
    (hruntime.printsAs htrait (opens_word (by decide) rfl _))) .inconsistent (-indentStep))
    .consistent indentStep
  rw [piecesBefore_layout, SaidFunction.lexemes, SaidFunction.headLexemes]
  simpa using hall

theorem yields_concat {fs : List PrintedFunction} {all : List SaidFunction}
    (h : List.Forall₂ Says fs all) (hbodies : ∀ f ∈ fs, f.body.Sound) {typeName : Name}
    (hname : typeName.Lexical) {runtime : Path} {runtimeSaid : List Lexeme}
    (hruntime : fs ≠ [] → (runtime.layout false).Prints runtimeSaid) :
    Yields [] ((Doc.concat (fs.map (layout typeName runtime))).piecesBefore [])
      (all.flatMap (SaidFunction.lexemes typeName runtimeSaid)) := by
  induction h with
  | nil => exact yields_nil
  | cons hfirst _ ih =>
      obtain ⟨hbody, hbodies⟩ := List.forall_mem_cons.mp hbodies
      have hprints := hruntime (List.cons_ne_nil _ _)
      rw [List.map_cons, Doc.concat, Doc.piecesBefore_append, List.flatMap_cons]
      exact yields_layout hfirst hbody hname hprints (ih hbodies fun _ => hprints)

end PrintedFunction

/-! ## The whole file -/

/-- The text of the comment that documents the generated type. -/
def docText (count : Nat) : String :=
  " `" ++ traitName ++ "` implementations for the " ++ toString count
    ++ " marked type(s) of this crate."

theorem docText_line (count : Nat) : ∀ c ∈ (docText count).toList, c ≠ '\n' ∧ c ≠ '\r' := by
  have hdigits : ∀ c ∈ (toString count).toList, c ≠ '\n' ∧ c ≠ '\r' := by
    intro c hc
    rw [Nat.toString_eq_ofList_toDigits, String.toList_ofList] at hc
    have hdigit := Nat.isDigit_of_mem_toDigits (by decide) (by decide) hc
    exact ⟨ne_of_isDigit hdigit (by decide), ne_of_isDigit hdigit (by decide)⟩
  have hfront : ((" `" ++ traitName ++ "` implementations for the ").toList.all
      fun c => c != '\n' && c != '\r') = true := by decide
  have hback : (" marked type(s) of this crate.".toList.all
      fun c => c != '\n' && c != '\r') = true := by decide
  intro c hc
  rw [docText, String.toList_append, String.toList_append] at hc
  rcases List.mem_append.mp hc with hc | hc
  · rcases List.mem_append.mp hc with hc | hc
    · simpa using List.all_eq_true.mp hfront c hc
    · exact hdigits c hc
  · simpa using List.all_eq_true.mp hback c hc

/-- The lexemes of the generated file. -/
def SaidBundle.lexemes (b : SaidBundle) : List Lexeme :=
  docLexemes (docText b.functions.length)
    ++ .word "pub" :: .word "struct" :: .name b.typeName :: .mark ';'
      :: b.functions.flatMap (SaidFunction.lexemes b.typeName b.runtime)

namespace PrintedBundle

/-- A bundle is printed as what is said. The runtime crate is named in functions only. -/
structure Says (b : PrintedBundle) (said : SaidBundle) : Prop where
  typeName : b.typeName = said.typeName
  runtime : b.functions ≠ [] → (b.runtime.layout false).Prints said.runtime
  functions : List.Forall₂ PrintedFunction.Says b.functions said.functions

theorem spells_struct {typeName : Name} (hname : typeName.Lexical) (opened : List Delimiter) :
    Spells (fun _ => True) opened ("pub struct " ++ typeName.written ++ ";")
      [.word "pub", .word "struct", .name typeName, .mark ';'] opened :=
  fun text found _ hread => by
    have htype := ((hread.mark (c := ';') (by decide)).name hname
      (endsName_cons (by decide) _)).blank (.inl rfl)
    have hstruct := (htype.word (by decide : "struct" ∈ generatedWords)
      (endsName_cons (by decide) _)).blank (.inl rfl)
    have hpub := hstruct.word (by decide : "pub" ∈ generatedWords) (endsName_cons (by decide) _)
    simp only [String.toList_append, List.append_assoc]
    exact hpub

/-- The pieces of the generated file after the line that documents its type. -/
def itemPieces (b : PrintedBundle) : List Piece :=
  .word ("pub struct " ++ b.typeName.written ++ ";") :: .gap { force := some .always }
    :: (Doc.concat (b.functions.map (PrintedFunction.layout b.typeName b.runtime))).piecesBefore []

theorem pieces_layout (b : PrintedBundle) :
    b.layout.pieces = .word ("///" ++ docText b.functions.length)
      :: .gap { force := some .always } :: b.itemPieces := by
  have hfront : "/// `" = "///" ++ " `" := by decide
  simp only [layout, Doc.pieces, Doc.piecesBefore_append, hfront, docText, String.append_assoc]
  rfl

/-- A line that ends, printed where no blanks are owed. -/
theorem run_line {p : Printer} (hp : p.owed = 0) (word : String) (rest : List Piece) :
    ∃ q : Printer, p.run (.word word :: .gap { force := some .always } :: rest)
      = word.toList ++ '\n' :: q.run rest := by
  let ended : Printer := { p with room := p.room - word.utf8ByteSize, owed := 0 }
  refine ⟨ended.newLine { force := some .always }, ?_⟩
  rw [Printer.run, hp]
  rfl

/-- The characters of the generated file. -/
def characters (b : PrintedBundle) : List Char :=
  headerLine.toList ++ '\n' :: Printer.run {} b.layout.pieces

theorem toList_text (b : PrintedBundle) : b.text.toList = b.characters := by
  simp [text, render, characters]

/-- **A printed file says its type and its functions**, whatever the layout of its lines. -/
theorem lexemesOf_text {b : PrintedBundle} {said : SaidBundle} (h : b.Says said)
    (hname : b.typeName.Lexical) (hbodies : ∀ f ∈ b.functions, f.body.Sound) :
    ∃ found, lexemesOf b.text = .ok found ∧ Trimmed found said.lexemes := by
  have hitems : Yields [] b.itemPieces _ := yields_word (spells_struct hname [])
    (fun _ _ _ => trivial) (yields_gap adds_none
      (PrintedFunction.yields_concat h.functions hbodies hname h.runtime))
  obtain ⟨q, hrun⟩ := run_line (p := {}) rfl ("///" ++ docText b.functions.length) b.itemPieces
  obtain ⟨found, hread, htrim⟩ := hitems q
  refine ⟨docLexemes (docText b.functions.length) ++ found, ?_, ?_⟩
  · have htext : b.text.toList = '/' :: '/' :: ' ' :: (headerLine.toList.drop 3 ++ '\n' :: '/'
        :: '/' :: '/' :: ((docText b.functions.length).toList ++ '\n' :: q.run b.itemPieces)) := by
      have hheader : headerLine.toList = '/' :: '/' :: ' ' :: headerLine.toList.drop 3 := rfl
      rw [toList_text, characters, pieces_layout, hrun, hheader]
      simp only [String.toList_append, List.append_assoc]
      rfl
    have hslash : (docText b.functions.length).toList.head? ≠ some '/' := by simp [docText]
    have hdoc := lexemesOf_commented htext (by decide) (docText_line _) hslash hread
    rwa [String.ofList_toList] at hdoc
  · rw [SaidBundle.lexemes, ← h.functions.length_eq, ← h.typeName]
    exact htrim.append _

end PrintedBundle

end Fieldwise
