import Fieldwise.Proofs.Grammar.PathsKept

set_option autoImplicit false
set_option synthInstance.maxSize 1000000

/-! # What is kept of bounds

A bound is a lifetime or a trait, and `use<..>` lists what a type may mention. A trait is kept as a
document with what a `for<..>` binds before it and perhaps argument types in parentheses after it,
and the document prints the tokens that the bound was read from. -/

namespace Fieldwise.Grammar

open Fieldwise.Token Fieldwise.Layout Fieldwise.Grammar.Parser

variable {whole given more : List Lexeme} {part : Part} {d e : Doc}

/-! ## Captured parameters -/

/-- Reads the name of a captured parameter. -/
def capturedName : Parser String := do
  let name ←
    if ← ask .lifetime then pure (lifetimeText (← lifetime))
    else if ← ask (.or .identifier (.word "Self")) then pure (← anyName).written
    else failExpected ["lifetime", "identifier", "`>`"]
  return name

/-- Reads the comma after the name of a captured parameter. -/
def capturedComma : Parser Unit := do
  if !(← punct? [',']) then failExpected ["`,`", "`>`"]

instance : capturedName.Advances := by
  dsimp only [capturedName]
  infer_instance

instance : capturedComma.Advances := by
  dsimp only [capturedComma]
  infer_instance

/-- Captured parameters are items with commas between them. -/
theorem capturedParameters_eq : Rules.capturedParameters = (do
    word "use"
    punct ['<']
    let names ← collect (separatedStep (.punct ['>']) capturedComma capturedName)
    punct ['>']
    return .word ("use<" ++ ", ".intercalate names ++ ">")) := by
  have htail (name : String) : (do
      if !(← ask (.punct ['>'])) then
        if !(← punct? [',']) then failExpected ["`,`", "`>`"]
      return some name : Parser (Option String)) = (do
      if !(← ask (.punct ['>'])) then capturedComma
      return some name) := by
    unfold capturedComma
    refine bind_congr fun last => ?_
    split
    · rw [bind_assoc]
      refine bind_congr fun comma => ?_
      split <;> rfl
    · rfl
  unfold Rules.capturedParameters separatedStep capturedName
  refine bind_congr fun _ => ?_
  refine bind_congr fun _ => ?_
  refine congrArg (fun step : Parser (Option String) => do
    let names ← collect step
    punct ['>']
    return Doc.word ("use<" ++ ", ".intercalate names ++ ">")) ?_
  refine bind_congr fun stop => ?_
  split
  · rfl
  · rw [bind_assoc]
    refine bind_congr fun lifetime => ?_
    rw [bind_assoc]
    refine bind_congr fun name => ?_
    split
    · rw [bind_assoc]
      exact bind_congr fun n => htail _
    · split
      · rw [bind_assoc]
        exact bind_congr fun n => htail _
      · rfl

/-- A name or a lifetime, as it is kept and as it is given. -/
def NameGiven (text : String) (given : List Lexeme) : Prop :=
  ∃ a, given = [a] ∧ ∀ opened, Spells PartsNames opened text [a] opened

theorem at_capturedName {s : Input} (hwhole : ∀ a ∈ whole, a.Sound) :
    capturedName.At whole NameGiven s := by
  unfold capturedName
  refine .ask fun lifetime _ => .ask fun name _ => ?_
  split
  · refine .bind (Rules.at_soundLifetime hwhole) fun n s₁ _ _ hn => .pure ?_
    rw [hn.2]
    exact ⟨_, rfl, spells_lifetime hn.1⟩
  · split
    · refine .bind (Rules.at_soundName hwhole) fun n s₁ _ _ hn => .pure ?_
      rw [hn.2]
      exact ⟨_, rfl, spells_name hn.1⟩
    · exact at_failExpected _

theorem at_capturedComma {s : Input} :
    capturedComma.At whole (fun _ given => given = [.mark ',']) s := by
  unfold capturedComma
  refine .bind (at_punct? [',']) fun comma s₁ _ _ hcomma => ?_
  cases comma with
  | true => exact .pure (by simpa using hcomma)
  | false => exact at_failExpected _

/-- Names are spelled with commas between them. -/
theorem spells_names {names : List String} {parts : List (List Lexeme)}
    (h : List.Forall₂ NameGiven names parts) (opened : List Delimiter) :
    Spells PartsNames opened (", ".intercalate names) (commas parts) opened := by
  induction h with
  | nil => exact fun _ _ _ hread => hread
  | cons hfirst hmore ih =>
      obtain ⟨a, rfl, hspells⟩ := hfirst
      cases hmore with
      | nil => simpa using hspells opened
      | cons =>
          have hcomma : SpellsAnywhere opened ", " [.mark ','] opened := fun _ _ _ hread =>
            (hread.blank (.inl rfl)).mark (by decide)
          have hname := (hspells opened).append_of_head hcomma rfl (by decide)
          rw [String.intercalate_cons_cons]
          simpa using hname.append ih fun _ _ => begins_any _

theorem NameGiven.exists_names {names : List String} {parts : List (List Lexeme)}
    (h : List.Forall₂ NameGiven names parts) : ∃ given : List Lexeme, parts = given.map ([·]) := by
  induction h with
  | nil => exact ⟨[], rfl⟩
  | cons hfirst _ ih =>
      obtain ⟨a, rfl, -⟩ := hfirst
      obtain ⟨more, rfl⟩ := ih
      exact ⟨a :: more, rfl⟩

theorem Rules.at_capturedParameters {s : Input} (hwhole : ∀ a ∈ whole, a.Sound) :
    Rules.capturedParameters.At whole (KeptFor .bound) s := by
  rw [capturedParameters_eq]
  refine .bind (at_word "use") fun _ s₁ _ _ huse => ?_
  refine .bind (at_punct ['<']) fun _ s₂ _ _ hopen => ?_
  refine .bind (at_separated (fun _ => at_capturedName hwhole) fun _ => at_capturedComma)
    fun names s₃ _ _ hnames => ?_
  refine .bind (at_punct ['>']) fun _ s₄ _ _ hclose => .pure fun _ => ?_
  obtain ⟨parts, last, hparts, rfl⟩ := hnames
  obtain ⟨items, rfl⟩ := NameGiven.exists_names hparts
  have hword (opened : List Delimiter) :
      SpellsAnywhere opened "use<" [.word "use", .mark '<'] opened := fun _ _ _ hread =>
    (hread.mark (c := '<') (by decide)).name (by decide +kernel : (Name.plain "use").Lexical)
      (endsName_cons (by decide) _)
  have hspells (opened : List Delimiter) := ((hword opened).append (spells_names hparts opened)
    fun _ _ => begins_any _).append_of_head (spells_mark (c := '>') (by decide) opened) rfl
      (by decide)
  refine ⟨_, (Doc.leads_word hspells).prints, ?_⟩
  simpa [huse, hopen, hclose] using Part.Printed.captures items last

/-! ## Trait bounds -/

/-- A document for a trait: its path after what it binds, or after a question mark. -/
theorem keptFor_trait {binder : Option Doc} {binderGiven : List Lexeme}
    (hbinder : LeadsFor .binder (binder.getD .empty) binderGiven) (maybe : Bool)
    (hmaybe : maybe = true → binder = none ∧ binderGiven = []) {p : Path}
    {pathGiven : List Lexeme} (hp : p.GivenAs pathGiven) :
    KeptFor .trait ((if maybe then .word "?" else .empty) ++ binder.getD .empty ++ p.layout false)
      (binderGiven ++ ((if maybe then [.mark '?'] else []) ++ pathGiven)) := fun hprintable => by
  simp only [Doc.printable_append, Bool.and_eq_true] at hprintable
  obtain ⟨⟨-, hbinderPrintable⟩, hpathPrintable⟩ := hprintable
  obtain ⟨binder', hleads, hbinderPrinted⟩ := hbinder hbinderPrintable
  obtain ⟨said, hprints, hprinted⟩ := hp.keptFor hpathPrintable
  cases maybe with
  | true =>
      obtain ⟨rfl, rfl⟩ := hmaybe rfl
      have hmark := Doc.leads_word (spells_mark (c := '?') (by decide))
      exact ⟨_, (hmark.append Doc.leads_empty).append_prints hprints,
        .trait .noBinder true hprinted⟩
  | false =>
      exact ⟨_, (Doc.leads_empty.append hleads).append_prints hprints,
        .trait hbinderPrinted false hprinted⟩

/-- A list of pairs with its last one apart. -/
theorem forall₂_dropLast {α β : Type} {R : α → β → Prop} {as : List α} {bs : List β} {a : α}
    (h : List.Forall₂ R as bs) (hlast : as.getLast? = some a) :
    ∃ init b, List.Forall₂ R as.dropLast init ∧ R a b ∧ bs = init ++ [b] := by
  induction h with
  | nil => cases hlast
  | cons hfirst hmore ih =>
      cases hmore with
      | nil =>
          cases hlast
          exact ⟨[], _, .nil, hfirst, rfl⟩
      | cons hsecond hrest =>
          obtain ⟨init, b, hinit, hb, hbs⟩ := ih hlast
          exact ⟨_ :: init, b, .cons hfirst hinit, hb, by rw [hbs]; rfl⟩

/-- A path whose last name gets argument types in parentheses. -/
theorem Path.GivenAs.setLastArguments {p : Path} (h : p.GivenAs given)
    (hempty : p.lastArguments.isEmpty = true) {inputs : List TypeExpr}
    {parts : List (List Lexeme)} (hinputs : List.Forall₂ TypeExpr.GivenAs inputs parts)
    {result : Option TypeExpr} {after : List Lexeme}
    (hresult : KeptFor .result (resultLayout result) after) (before last : Bool) :
    (p.setLastArguments
      (.call (callLayout (inputs.map TypeExpr.layout) (resultLayout result)))).GivenAs
      (given ++ (maybeColons before ++ .opening .parenthesis
        :: (listed ',' last parts ++ .closing .parenthesis :: after))) := by
  obtain ⟨leading, segments⟩ := p
  obtain ⟨hne, names, hnames, rfl⟩ := h
  obtain ⟨s, hs⟩ : ∃ s, segments.getLast? = some s :=
    ⟨_, List.getLast?_eq_some_getLast hne⟩
  obtain ⟨init, name, hinit, hname, rfl⟩ := forall₂_dropLast hnames hs
  simp only [Path.lastArguments, hs] at hempty
  obtain ⟨brackets, rfl⟩ := hname.empty hempty
  have hcall := Segment.givenAs_call hname.name hinputs hresult brackets before last
  simp only [Path.setLastArguments, hs]
  refine ⟨by simp, _, List.rel_append hinit (.cons hcall .nil), ?_⟩
  rw [List.append_assoc, Doc.intercalate_append_last]
  simp

namespace Rules

variable {r : Rules} [r.Advances] {s : Input}

omit [r.Advances] in
theorem at_constness (allowConst : Bool) :
    (constness allowConst).At whole (fun const given => const = false → given = []) s := by
  unfold constness
  refine .here fun start => ?_
  have hrefuse (text : String) (s : Input) : (if allowConst then pure ()
      else failFrom start (.rule text) : Parser Unit).At whole (fun _ _ => True) s := by
    split
    · exact .pure trivial
    · exact at_failFrom _ _
  refine .ask fun bracket _ => ?_
  split
  · refine .bind (.group (R := fun _ _ => True) fun inner => (at_word "const").mono
      fun _ _ _ => trivial) fun _ s₁ _ _ _ => ?_
    refine .bind (hrefuse _ s₁) fun _ s₂ _ _ _ => .pure nofun
  · refine .bind (at_word? "const") fun const s₁ _ _ hconst => ?_
    split
    · exact .bind (hrefuse _ s₁) fun _ s₂ _ _ _ => .pure nofun
    · rename_i hno
      rw [Bool.eq_false_iff.mpr hno] at hconst
      exact .pure fun _ => by simpa [maybeWord] using hconst

/-- Reads a trait bound from its path on. -/
def traitEnd (r : Rules) (const maybe : Bool) (bound : Option Doc) (mark : Option Position) :
    Parser Doc := do
  let path ← r.path false
  let path ←
    if path.lastArguments.isEmpty && (← ask callAhead) then
      let _ ← punct? [':', ':']
      pure (path.setLastArguments (← r.callArguments))
    else pure path
  if maybe && bound.isSome then
    failFrom mark (.rule "`for<...>` binder not allowed with `?` trait polarity modifier")
  if const then return .hole
  return (if maybe then .word "?" else .empty) ++ bound.getD .empty ++ path.layout false

/-- The tokens before the path of a trait, unless they are refused or cannot be printed: what is
bound, and perhaps a question mark. -/
def TraitFront (const maybe : Bool) (bound : Option Doc) (front : List Lexeme) : Prop :=
  (maybe && bound.isSome) = false → const = false →
    ∃ binderGiven, LeadsFor .binder (bound.getD .empty) binderGiven
      ∧ (maybe = true → bound = none ∧ binderGiven = [])
      ∧ front = binderGiven ++ if maybe then [.mark '?'] else []

theorem at_traitEnd (hr : r.Keeps whole) (hwhole : ∀ a ∈ whole, a.Sound) {const maybe : Bool}
    {bound : Option Doc} {front : List Lexeme} (hfront : TraitFront const maybe bound front)
    (mark : Option Position) : (r.traitEnd const maybe bound mark).At whole
      (fun d more => KeptFor .trait d (front ++ more)) s := by
  unfold traitEnd
  refine .bind (at_path hr hwhole) fun p s₁ pathGiven _ hp => .ask fun call _ => ?_
  have hlayout {p : Path} {pathGiven : List Lexeme} (hp : p.GivenAs pathGiven) (s : Input) :
      At whole (fun d more => KeptFor .trait d (front ++ (pathGiven ++ more))) (do
        if maybe && bound.isSome then
          failFrom mark (.rule "`for<...>` binder not allowed with `?` trait polarity modifier")
        if const then return .hole
        return (if maybe then .word "?" else .empty) ++ bound.getD .empty ++ p.layout false
          : Parser Doc) s := by
    by_cases hrefused : (maybe && bound.isSome) = true
    · rw [if_pos hrefused]
      exact at_failFrom_bind _ _ _
    · rw [if_neg hrefused]
      cases const with
      | true => exact .pure keptFor_hole
      | false =>
          obtain ⟨binderGiven, hbinder, hmaybe, rfl⟩ :=
            hfront (Bool.eq_false_iff.mpr hrefused) rfl
          exact .pure (by simpa using keptFor_trait hbinder maybe hmaybe hp)
  by_cases hcall : (p.lastArguments.isEmpty && call) = true
  · rw [if_pos hcall]
    refine .bind (at_punct? [':', ':']) fun before s₂ _ _ hbefore => ?_
    refine .bind (at_callArguments hr) fun arguments s₃ _ _ harguments => ?_
    obtain ⟨inputs, parts, last, result, after, hparts, hresult, rfl, rfl⟩ := harguments
    obtain ⟨hempty, -⟩ := Bool.and_eq_true_iff.mp hcall
    have hq := hp.setLastArguments hempty hparts hresult before last
    refine (hlayout hq s₃).mono fun d more hd => ?_
    simpa [hbefore, maybeColons, colons] using hd
  · rw [if_neg hcall]
    exact hlayout hp s₁

theorem at_traitBound (hr : r.Keeps whole) (hwhole : ∀ a ∈ whole, a.Sound) (allowConst : Bool) :
    (r.traitBound allowConst).At whole (KeptFor .trait) s := by
  unfold traitBound
  refine .bind (hr.binder s) fun outer s₁ outerGiven _ houter => ?_
  refine .bind (at_constness allowConst) fun const s₂ constGiven _ hconst => ?_
  refine .here fun mark => ?_
  refine .bind (at_punct? ['?']) fun maybe s₃ maybeGiven _ hmaybe => ?_
  by_cases hsecond : (maybe && outer.isNone) = true
  · rw [if_pos hsecond]
    obtain ⟨rfl, hnone⟩ := Bool.and_eq_true_iff.mp hsecond
    obtain rfl : outer = none := Option.isNone_iff_eq_none.mp hnone
    obtain rfl : outerGiven = [] := houter.none rfl
    refine .bind (hr.binder s₃) fun bound s₄ boundGiven _ hbound => ?_
    have hfront : TraitFront const true bound
        ([] ++ (constGiven ++ (maybeGiven ++ boundGiven))) := fun hsome hplain => by
      obtain rfl : bound = none := by simpa using hsome
      obtain rfl : boundGiven = [] := hbound.none rfl
      exact ⟨[], hbound.leads, fun _ => ⟨rfl, rfl⟩, by simp [hconst hplain, hmaybe]⟩
    exact (at_traitEnd hr hwhole hfront mark).mono fun d more hd => by simpa using hd
  · rw [if_neg hsecond]
    have hfront : TraitFront const maybe outer (outerGiven ++ (constGiven ++ maybeGiven)) := by
      intro hsome hplain
      refine ⟨outerGiven, houter.leads, fun hyes => ?_, by simp [hconst hplain, hmaybe]⟩
      cases outer <;> simp_all
    exact (at_traitEnd hr hwhole hfront mark).mono fun d more hd => by simpa using hd

/-! ## Bounds -/

theorem at_bound (hr : r.Keeps whole) (hwhole : ∀ a ∈ whole, a.Sound)
    (allowCapture allowConst : Bool) : (r.bound allowCapture allowConst).At whole
      (fun b given => KeptFor .bound b.layout given) s := by
  unfold bound
  refine .ask fun lifetime _ => ?_
  split
  · refine .bind (at_soundLifetime hwhole) fun n s₁ _ _ hn => .pure fun _ => ?_
    rw [hn.2]
    exact ⟨_, prints_lifetime hn.1, .outlives n⟩
  · refine .ask fun use _ => ?_
    split
    · refine .here fun start => .bind (at_capturedParameters hwhole) fun d s₁ given _ hd => ?_
      split
      · exact at_failFrom_bind _ _ _
      · exact .pure (by simpa using hd)
    · refine .ask fun parenthesis _ => ?_
      split
      · refine .bind (.group fun inner => at_traitBound hr hwhole allowConst)
          fun d s₁ _ _ hd => .pure fun hprintable => ?_
        obtain ⟨inside, hinside, rfl⟩ := hd
        simp only [parenthesised, Doc.printable_append, Doc.printable_word, Bool.true_and,
          Bool.and_true] at hprintable
        obtain ⟨said, hprints, hprinted⟩ := hinside hprintable
        have hall := hprints.enclosed Doc.spells_openingParenthesis
          Doc.spells_closingParenthesis rfl (by decide)
        refine ⟨_, hall.prints, ?_⟩
        simpa using Part.Printed.parenthesisedBound hprinted
      · refine .bind (at_traitBound hr hwhole allowConst) fun d s₁ _ _ hd =>
          .pure fun hprintable => ?_
        obtain ⟨said, hprints, hprinted⟩ := hd hprintable
        exact ⟨said, hprints, .traitBound (by simpa using hprinted)⟩

end Rules

end Fieldwise.Grammar
