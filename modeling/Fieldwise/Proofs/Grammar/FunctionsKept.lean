import Fieldwise.Proofs.Grammar.TypesKept

set_option autoImplicit false
set_option synthInstance.maxSize 1000000

/-! # What is kept of function types

The arguments of a function type have attributes and perhaps names, and dots may stand for more of
them after the last. The document that is kept prints what was read (`Rules.at_functionType`). -/

namespace Fieldwise.Grammar

open Fieldwise.Token Fieldwise.Layout Fieldwise.Grammar.Parser

variable {whole given more : List Lexeme} {part : Part} {d e : Doc}

/-! ## Calling conventions -/

/-- A string literal is read as it was written. -/
def StringGiven (found : Option String) (given : List Lexeme) : Prop :=
  ∃ l : Option Literal, found = l.map Literal.text ∧ given = l.toList.map .literal
    ∧ ∀ x ∈ l, x.kind ≠ .unwritten

theorem at_string? {s : Input} : string?.At whole StringGiven s := by
  unfold string?
  have hnone : StringGiven none [] := ⟨none, rfl, rfl, fun x hx => by cases hx⟩
  refine @At.get _ _ _ _ _ ?_
  split
  · rename_i l p rest hrest
    refine .ask fun ahead hahead => ?_
    cases ahead with
    | true =>
        refine .bind (at_skip 1) fun _ mid _ _ hgiven => .pure ⟨some l, rfl, ?_, ?_⟩
        · simp [hgiven, hrest, Tree.lexemesAll, Tree.lexemes]
        · rintro _ ⟨rfl⟩ hkind
          obtain ⟨kind, text⟩ := l
          cases hkind
          rw [hrest] at hahead
          cases hahead
    | false => exact .pure hnone
  · exact .pure hnone

theorem at_convention {r : Rules} (hr : r.PrintsLeaves whole) {s : Input} :
    convention.At whole
      (fun text given => ∀ opened, SpellsAnywhere opened text given opened) s := by
  unfold convention
  refine .bind (at_word? "extern") fun found s₁ _ _ hfound => ?_
  cases found with
  | false => exact .pure (by simpa [hfound, maybeWord] using spells_empty)
  | true =>
      refine .bind at_string?.inside fun name s₂ _ _ hname => .pure fun opened => ?_
      obtain ⟨⟨l, rfl, rfl, hwritten⟩, hinside⟩ := hname
      have hword := spells_wordBlank (w := "extern") (by decide +kernel) opened
      cases l with
      | none => simpa [hfound, maybeWord, conventionText] using hword
      | some l =>
          have hliteral := hr.literal l (hinside.subset (by simp)) (hwritten l rfl) opened
          have hall := hword.append (hliteral.append_of_head (spells_blank opened) rfl (by decide))
            fun _ _ => begins_any _
          simpa [hfound, maybeWord, conventionText, String.append_assoc] using hall

/-! ## Arguments -/

/-- A name before a colon, or none. -/
def labelled (label : Option Name) : List Lexeme :=
  label.toList.flatMap fun n => [.name n, .mark ':']

theorem leads_label {n : Name} (hn : n.Lexical) :
    (Doc.word (n.written ++ ": ")).Leads (labelled (some n)) :=
  Doc.leads_word fun opened => (spells_name hn opened).append_of_head (spells_colon opened) rfl
    (by decide)

theorem keptFor_append_hole : KeptFor part (d ++ .hole) given := fun h => by
  rw [Doc.printable_append, Bool.and_eq_true] at h
  cases h.2

/-- An argument after its attributes. -/
theorem keptFor_input {attributes : Doc} (hattributes : LeadsFor .value attributes given)
    {label : Doc} {name : Option Name} (hlabel : label.Leads (labelled name)) {t : Doc}
    (ht : KeptFor .type t more) :
    KeptFor .input (attributes ++ (label ++ t)) (given ++ (labelled name ++ more)) := by
  intro hprintable
  simp only [Doc.printable_append, Bool.and_eq_true] at hprintable
  obtain ⟨attributes', hleads, hattributesPrinted⟩ := hattributes hprintable.1
  obtain ⟨said, hprints, hprinted⟩ := ht hprintable.2.2
  exact ⟨_, hleads.append_prints (hlabel.append_prints hprints),
    .input hattributesPrinted name hprinted⟩

namespace Rules

variable {r : Rules} [r.Advances] {s : Input}

/-- Reads an argument from its name on. -/
def labelledArgument (r : Rules) (allowSelf hasMutSelf hasSelf : Bool) : Parser Doc := do
  let named ← ask (.and (.any [.identifier, .word "_"]) (.second colonAhead))
  let label ←
    if named || hasSelf then
      let name ← anyName
      punct [':']
      pure (Doc.word (name.written ++ ": "))
    else pure .empty
  if allowSelf && !hasSelf && (← ask (.and (.word "mut") (.second (.word "self")))) then
    skip 2
    return .hole
  else if hasMutSelf && !(named || hasSelf) then
    word "self"
    return .hole
  else
    let t ← r.type true
    return if hasMutSelf then .hole else label ++ t.layout

/-- An argument is a type, perhaps after a name. Other ways to write a value of its own are read,
but cannot be printed. -/
theorem at_labelledArgument (hr : r.Keeps whole) (hwhole : ∀ a ∈ whole, a.Sound)
    {attributes : Doc} (hattributes : LeadsFor .value attributes given)
    {hasMutSelf : Bool} {front : List Lexeme} (hfront : hasMutSelf = false → front = [])
    (allowSelf hasSelf : Bool) : (r.labelledArgument allowSelf hasMutSelf hasSelf).At whole
      (fun d more => KeptFor .input (attributes ++ d) (given ++ (front ++ more))) s := by
  unfold labelledArgument
  refine .ask fun named _ => ?_
  have hend {label : Doc} {name : Option Name} (hlabel : label.Leads (labelled name)) (s : Input) :
      At whole (fun d more => KeptFor .input (attributes ++ d)
        (given ++ (front ++ (labelled name ++ more)))) (do
          if allowSelf && !hasSelf && (← ask (.and (.word "mut") (.second (.word "self")))) then
            skip 2
            return .hole
          else if hasMutSelf && !(named || hasSelf) then
            word "self"
            return .hole
          else
            let t ← r.type true
            return if hasMutSelf then .hole else label ++ t.layout) s := by
    refine .ask fun mutSelf _ => ?_
    split
    · exact .bind at_any fun _ s₁ _ _ _ => .pure keptFor_append_hole
    · split
      · exact .bind at_any fun _ s₁ _ _ _ => .pure keptFor_append_hole
      · refine .bind (hr.type true s) fun t s₁ _ _ ht => .pure ?_
        cases hasMutSelf with
        | true => exact keptFor_append_hole
        | false => simpa [hfront rfl] using keptFor_input hattributes hlabel ht.kept
  by_cases hlabel : (named || hasSelf) = true
  · rw [if_pos hlabel]
    refine .bind (at_soundName hwhole) fun n s₁ _ _ hn => ?_
    refine .bind (at_punct [':']) fun _ s₂ _ _ hcolon => ?_
    refine (hend (leads_label hn.1) s₂).mono fun d more hd => ?_
    simpa [hn.2, hcolon, labelled] using hd
  · rw [if_neg hlabel]
    have hnone : Doc.empty.Leads (labelled none) := Doc.leads_empty
    exact hend hnone s

theorem at_functionTypeArgument (hr : r.Keeps whole) (hwhole : ∀ a ∈ whole, a.Sound)
    {attributes : Doc} (hattributes : LeadsFor .value attributes given) (allowSelf : Bool) :
    (r.functionTypeArgument allowSelf).At whole
      (fun d more => KeptFor .input (attributes ++ d) (given ++ more)) s := by
  unfold functionTypeArgument
  have hlabelled {hasMutSelf : Bool} {front : List Lexeme}
      (hfront : hasMutSelf = false → front = []) (hasSelf : Bool) (s : Input) :=
    at_labelledArgument (s := s) hr hwhole hattributes hfront allowSelf hasSelf
  cases allowSelf with
  | true =>
      refine .ask fun hasMutSelf _ => ?_
      cases hasMutSelf with
      | true =>
          refine .bind (at_word "mut") fun _ s₁ _ _ hmut => .ask fun hasSelf _ => ?_
          exact hlabelled (fun h => by cases h) hasSelf s₁
      | false => exact .ask fun hasSelf _ => hlabelled (fun _ => rfl) hasSelf s
  | false => exact @hlabelled false [] (fun _ => rfl) false s

omit [r.Advances] in
theorem at_variadicType (hwhole : ∀ a ∈ whole, a.Sound) {attributes : Doc}
    (hattributes : LeadsFor .value attributes given) : variadicType.At whole
      (fun d more => ∃ (part : List Lexeme) (comma : Bool),
        KeptFor .input (attributes ++ d) (given ++ part)
        ∧ more = part ++ if comma then [.mark ','] else []) s := by
  unfold variadicType
  refine .ask fun name _ => ?_
  have hdots (opened : List Delimiter) : SpellsAnywhere opened "..."
      [.mark '.', .mark '.', .mark '.'] opened := fun _ _ _ hread =>
    ((hread.mark (by decide)).mark (by decide)).mark (by decide)
  have hend (label : Option Name) {text : String}
      (htext : ∀ opened, SpellsAnywhere opened text (labelled label) opened) (s : Input) :
      At whole (fun d more => ∃ (part : List Lexeme) (comma : Bool),
        KeptFor .input (attributes ++ d) (given ++ part)
        ∧ labelled label ++ more = part ++ if comma then [.mark ','] else []) (do
          punct ['.', '.', '.']
          let _ ← punct? [',']
          return .word (text ++ "...") : Parser Doc) s := by
    refine .bind (at_punct ['.', '.', '.']) fun _ s₁ _ _ hgiven => ?_
    refine .bind (at_punct? [',']) fun comma s₂ _ _ hcomma => .pure ?_
    refine ⟨labelled label ++ [.mark '.', .mark '.', .mark '.'], comma, fun hprintable => ?_,
      by simp [hgiven, hcomma]⟩
    simp only [Doc.printable_append, Bool.and_eq_true] at hprintable
    obtain ⟨attributes', hleads, hattributesPrinted⟩ := hattributes hprintable.1
    have hword := Doc.leads_word fun opened => (htext opened).append (hdots opened) fun _ _ =>
      begins_any _
    exact ⟨_, (hleads.append hword).prints, .dots hattributesPrinted label⟩
  cases name with
  | true =>
      refine .bind (at_soundName hwhole) fun n s₁ _ _ hn => ?_
      refine .bind (at_punct [':']) fun _ s₂ _ _ hcolon => ?_
      have htext (opened : List Delimiter) : SpellsAnywhere opened (n.written ++ ": ")
          (labelled (some n)) opened :=
        (spells_name hn.1 opened).append_of_head (spells_colon opened) rfl (by decide)
      refine (hend (some n) htext s₂).mono fun d more hd => ?_
      simpa [hn.2, hcolon, labelled] using hd
  | false => exact hend none spells_empty s

/-- The arguments of a function type, with dots after them perhaps, go with tokens that have commas
between them. -/
def InputsGivenAs (inputs : List Doc) (dots : Option Doc) (given : List Lexeme) : Prop :=
  ∃ parts last, List.Forall₂ (KeptFor .input) (inputs ++ dots.toList) parts
    ∧ given = listed ',' last parts

theorem at_functionTypeArguments (hr : r.Keeps whole) (hwhole : ∀ a ∈ whole, a.Sound) :
    r.functionTypeArguments.At whole
      (fun found given => InputsGivenAs found.1 found.2 given) s := by
  unfold functionTypeArguments
  refine .bind (R := fun found given => ∃ parts last,
    List.Forall₂ (KeptFor .input) (found.1.reverse ++ found.2.1.toList) parts
      ∧ given = listed ',' last parts ∧ (found.2.2 = true → last = true ∧ found.2.1 = none))
    (at_iterate ?_ ⟨[], true, .nil, rfl, fun _ => ⟨rfl, rfl⟩⟩) ?_
  · rintro ⟨inputs, dots, more⟩ _ s ⟨parts, last, hparts, rfl, hlast⟩
    refine .ask fun done _ => ?_
    by_cases hdone : (!more || done) = true
    · rw [if_pos hdone]
      exact .pure rfl
    rw [if_neg hdone]
    obtain ⟨rfl, rfl⟩ := hlast (by cases more <;> simp_all)
    have hnext {d : Doc} {part : List Lexeme} (hd : KeptFor .input d part) :
        List.Forall₂ (KeptFor .input) (inputs.reverse ++ [d]) (parts ++ [part]) :=
      List.rel_append (by simpa using hparts) (.cons hd .nil)
    refine .bind (at_outerLayout hr.leaves) fun attributes s₁ given _ hattributes => ?_
    refine .ask fun variadic _ => ?_
    cases variadic with
    | true =>
        refine .bind (at_variadicType hwhole hattributes) fun d s₂ _ _ hd => .pure ?_
        obtain ⟨part, comma, hd, rfl⟩ := hd
        have hlisted := listed_true_append ',' comma parts (given ++ part)
        refine ⟨_, comma, hnext hd, ?_, nofun⟩
        simpa using hlisted
    | false =>
        refine .bind (at_functionTypeArgument hr hwhole hattributes inputs.isEmpty)
          fun d s₂ part _ hd => ?_
        have hlisted (last : Bool) := listed_true_append ',' last parts (given ++ part)
        have hinputs : List.Forall₂ (KeptFor .input)
            (((attributes ++ d) :: inputs).reverse ++ (none : Option Doc).toList)
            (parts ++ [given ++ part]) := by simpa using hnext hd
        refine .ask fun done _ => ?_
        cases done with
        | true => exact .pure ⟨_, false, hinputs, by simpa using hlisted false, nofun⟩
        | false =>
            refine .bind (at_punct [',']) fun _ s₃ _ _ hcomma => .pure ?_
            refine ⟨_, true, hinputs, ?_, fun _ => ⟨rfl, rfl⟩⟩
            simpa [hcomma] using hlisted true
  · rintro ⟨inputs, dots, more⟩ mid _ _ ⟨parts, last, hparts, rfl, -⟩
    exact .pure ⟨parts, last, hparts, by simp⟩

end Rules

/-! ## Function types -/

theorem encloses_fn (opened : List Delimiter) :
    Encloses opened (.parenthesis :: opened) "fn(" ")" [.word "fn", .opening .parenthesis]
      (.closing .parenthesis) where
  first _ _ _ hread := (Reads.opening hread).name (by decide +kernel : (Name.plain "fn").Lexical)
    (endsName_cons (by decide) _)
  last hread := hread.closing .parenthesis
  closes := trivial
  parts := ⟨')', [], rfl, by decide⟩

/-- Arguments with commas between them as they are printed, with dots after them perhaps. -/
def inputsLayout (inputs : List Doc) : Option Doc → Doc
  | none => .commaItems .lastComma inputs
  | some dots => .commaItems (.word "," ++ .spaceGap) inputs ++ dots ++ .zeroGap

theorem functionTypeLayout_eq (head : Doc) (inputs : List Doc) (dots : Option Doc)
    (result : Option TypeExpr) : Rules.functionTypeLayout head inputs dots result
      = head ++ .word "fn(" ++ .stack indentStep (.zeroGap ++ inputsLayout inputs dots).outdentLast
        ++ .word ")" ++ resultLayout result := by
  cases dots <;> rfl

/-- The pieces of arguments with dots after them. -/
theorem piecesBefore_dots (inputs : List Doc) (dots : Doc) (rest : List Piece) :
    (Doc.word "fn(" ++ .stack indentStep (.zeroGap ++ inputsLayout inputs (some dots)).outdentLast
        ++ .word ")").piecesBefore rest
      = .word "fn(" :: .enter .consistent indentStep :: .gap {}
        :: (Doc.commaItems (.word "," ++ .spaceGap) inputs).piecesBefore
          (dots.piecesBefore (.gap { shift := -indentStep } :: .leave :: .word ")" :: rest)) := by
  have hshift : Doc.zeroGap.shiftLast (-indentStep) = .gap { shift := -indentStep } := rfl
  have hgap (shift : Int) : (Doc.gap { shift }).Firm := Doc.firm_gap rfl
  rw [inputsLayout, Doc.outdentLast, Doc.shiftLast_append _ (by simp [Doc.zeroGap]),
    Doc.shiftLast_append _ (e := Doc.zeroGap) (Doc.gap_ne_empty _), hshift, Doc.piecesBefore_append,
    Doc.piecesBefore_append, Doc.stack, Doc.zeroGap, Doc.piecesBefore_group (Doc.gap_ne_empty _)
      (by simp) ((hgap _).append _ (Doc.gap_ne_empty _))]
  simp only [Doc.piecesBefore_append, Doc.piecesBefore_word, Doc.piecesBefore_gap]

/-- Arguments are printed in parentheses, with commas between them. -/
theorem leads_inputs {inputs : List Doc} {dots : Option Doc} {items : List (List Lexeme)}
    (h : List.Forall₂ Doc.Prints (inputs ++ dots.toList) items) :
    (Doc.word "fn(" ++ .stack indentStep (.zeroGap ++ inputsLayout inputs dots).outdentLast
        ++ .word ")").Leads
      (.word "fn" :: .opening .parenthesis :: (commas items ++ [.closing .parenthesis])) := by
  cases dots with
  | none => exact Doc.leads_bracketed encloses_fn (by simpa using h)
  | some dots =>
      refine ⟨fun opened rest after hrest => ?_, (Doc.solid_word ")").after (Doc.word_ne_empty _) _⟩
      obtain ⟨init, last, hinit, hlast, rfl⟩ := forall₂_dropLast h (a := dots) (by simp)
      rw [Option.toList_some, List.dropLast_concat] at hinit
      have hclose := yields_gap (g := { shift := -indentStep }) adds_none (yields_leave
        (yields_word (encloses_fn opened).spells_closing (opens_any rest) hrest))
      have hopens : Opens PartsWords
          (.gap { shift := -indentStep } :: .leave :: .word ")" :: rest) :=
        opens_gap adds_none rfl (opens_leave (opens_word (by decide) rfl _))
      have hitems := Doc.yields_commaItems_before (Doc.forall_printsAs hinit)
        (hlast.printsAs hclose hopens)
      have hall := yields_word (encloses_fn opened).first (opens_any _)
        (yields_enter (yields_gap (g := {}) adds_none hitems) .consistent indentStep)
      rw [piecesBefore_dots, commas, ← Doc.flatMap_append_intercalate]
      simpa using hall

theorem printable_functionTypeLayout (head : Doc) (inputs : List Doc) (dots : Option Doc)
    (result : Option TypeExpr) : (Rules.functionTypeLayout head inputs dots result).printable
      = (head.printable && (inputs ++ dots.toList).all Doc.printable
        && (resultLayout result).printable) := by
  have hlast : Doc.lastComma.printable = true := rfl
  have hcomma : (Doc.word "," ++ .spaceGap).printable = true := rfl
  rw [functionTypeLayout_eq]
  cases dots with
  | none => simp [inputsLayout, Doc.zeroGap, Doc.printable_commaItems hlast]
  | some dots =>
      simp [inputsLayout, Doc.zeroGap, Doc.printable_commaItems hcomma, Bool.and_assoc]

/-- A function type is printed with what it binds, its words, its arguments and its result. -/
theorem keptFor_function {outer : Option Doc} {outerGiven : List Lexeme}
    (houter : LeadsFor .binder (outer.getD .empty) outerGiven) {isUnsafe : Bool}
    {safety convention : String} {conventionGiven : List Lexeme}
    (hsafety : ∀ opened, SpellsAnywhere opened safety (maybeWord isUnsafe "unsafe") opened)
    (hconvention : ∀ opened, SpellsAnywhere opened convention conventionGiven opened)
    {inputs : List Doc} {dots : Option Doc} {parts : List (List Lexeme)} (last : Bool)
    (hinputs : List.Forall₂ (KeptFor .input) (inputs ++ dots.toList) parts)
    {result : Option TypeExpr} {after : List Lexeme}
    (hresult : KeptFor .result (resultLayout result) after) :
    KeptFor .type (Rules.functionTypeLayout (outer.getD .empty ++ .word (safety ++ convention))
        inputs dots result)
      (outerGiven ++ (maybeWord isUnsafe "unsafe" ++ (conventionGiven ++ .word "fn"
        :: .opening .parenthesis
          :: (listed ',' last parts ++ .closing .parenthesis :: after)))) := by
  intro hprintable
  rw [printable_functionTypeLayout, Doc.printable_append, Doc.printable_word, Bool.and_true]
    at hprintable
  simp only [Bool.and_eq_true] at hprintable
  obtain ⟨⟨houterPrintable, hinputsPrintable⟩, hresultPrintable⟩ := hprintable
  obtain ⟨binder', hleads, hbinderPrinted⟩ := houter houterPrintable
  obtain ⟨items, hitems, hprinted⟩ := exists_of_keptFor hinputs hinputsPrintable
  obtain ⟨result', hprints, hresultPrinted⟩ := hresult hresultPrintable
  have hwords := Doc.leads_word fun opened => (hsafety opened).append (hconvention opened)
    fun _ _ => begins_any _
  have hfront := (hleads.append hwords).append (leads_inputs hitems)
  have hall := hfront.congr (e := outer.getD .empty ++ .word (safety ++ convention) ++ .word "fn("
      ++ .stack indentStep _ ++ .word ")")
    (fun rest => by simp only [Doc.piecesBefore_append]; rfl)
    ((Doc.solid_word ")").after (Doc.word_ne_empty ")") _)
  refine ⟨_, functionTypeLayout_eq _ _ _ _ ▸ hall.append_prints hprints, ?_⟩
  simpa using Part.Printed.function hbinderPrinted isUnsafe conventionGiven last hprinted
    hresultPrinted

namespace Rules

variable {r : Rules} [r.Advances] {s : Input}

theorem at_functionType (hr : r.Keeps whole) (hwhole : ∀ a ∈ whole, a.Sound) {outer : Option Doc}
    {outerGiven : List Lexeme} (houter : BinderGivenAs outer outerGiven) :
    (r.functionType outer).At whole (fun t more => TypeExpr.GivenAs t (outerGiven ++ more)) s := by
  unfold functionType
  refine .bind (at_spacedWord "unsafe" (by decide +kernel)) fun safety s₁ _ _ hsafety => ?_
  refine .bind (at_convention hr.leaves) fun convention s₂ conventionGiven _ hconvention => ?_
  refine .bind (at_word "fn") fun _ s₃ _ _ hfn => ?_
  refine .bind (.group fun inner => at_functionTypeArguments hr hwhole)
    fun found s₄ _ _ hinputs => ?_
  refine .bind (at_resultType hr false) fun result s₅ after _ hresult => .pure ?_
  obtain ⟨isUnsafe, rfl, hspells⟩ := hsafety
  obtain ⟨_, ⟨parts, last, hparts, rfl⟩, rfl⟩ := hinputs
  have hall := keptFor_function houter.leads hspells hconvention last hparts hresult
  simpa [hfn] using TypeExpr.givenAs_plain hall

end Rules

end Fieldwise.Grammar
