import Fieldwise.Proofs.Grammar.BoundsKept

set_option autoImplicit false
set_option synthInstance.maxSize 1000000

/-! # What is kept of parameters and generic arguments

The parameters that a `for<..>` binds have bounds and values, and so do the names among generic
arguments. Each reader keeps a document that prints what was read, if the rules for what is inside
of it do (`at_binderRule`, `at_argumentRule`). -/

namespace Fieldwise.Grammar

open Fieldwise.Token Fieldwise.Layout Fieldwise.Grammar.Parser

variable {whole given more : List Lexeme} {part : Part} {d e : Doc}

/-- What was read of the bounds after a colon, if there is one, goes with tokens. -/
def BoundsGivenAs (bounds : List Doc) (given : List Lexeme) : Prop :=
  (bounds = [] ∧ (given = [] ∨ given = [.mark ':']))
    ∨ (bounds ≠ [] ∧ ∃ parts last, List.Forall₂ (KeptFor .bound) bounds parts
      ∧ given = .mark ':' :: listed '+' last parts)

theorem boundsGivenAs_of_listed {bounds : List Doc} {parts : List (List Lexeme)} (last : Bool)
    (h : List.Forall₂ (KeptFor .bound) bounds parts) :
    BoundsGivenAs bounds (.mark ':' :: listed '+' last parts) := by
  cases h with
  | nil => exact .inl ⟨rfl, .inr rfl⟩
  | cons hfirst hmore => exact .inr ⟨nofun, _, last, .cons hfirst hmore, rfl⟩

theorem spells_colon (opened : List Delimiter) : SpellsAnywhere opened ": " [.mark ':'] opened :=
  fun _ _ _ hread => (hread.blank (.inl rfl)).mark (by decide)

theorem spells_plus (opened : List Delimiter) : SpellsAnywhere opened "+ " [.mark '+'] opened :=
  fun _ _ _ hread => (hread.blank (.inl rfl)).mark (by decide)

theorem spells_blankPlus (opened : List Delimiter) :
    SpellsAnywhere opened " + " [.mark '+'] opened :=
  fun _ _ _ hread => (spells_plus opened (begins_any _) hread).blank (.inl rfl)

/-- Bounds are printed after a colon, with plus signs between them. -/
theorem BoundsGivenAs.keptFor {bounds : List Doc} (h : BoundsGivenAs bounds given) {between : Doc}
    (hbetween : between.Leads [.mark '+']) (hheads : between.Heads)
    (hprintable : between.printable = true) :
    KeptFor .bounds (.introduced (.word ": ") between bounds) given := fun hall => by
  obtain ⟨rfl, hgiven⟩ | ⟨hne, parts, last, hparts, rfl⟩ := h
  · refine ⟨[], Doc.prints_empty, ?_⟩
    obtain rfl | rfl := hgiven
    · exact .noBounds
    · exact .noneBound
  · rw [Doc.printable_introduced rfl hprintable] at hall
    obtain ⟨said, hprints, hprinted⟩ := exists_of_keptFor hparts hall
    have hparts : parts ≠ [] := by
      rintro rfl
      exact hne (List.forall₂_nil_right_iff.mp hparts)
    exact ⟨_, Doc.prints_introduced (Doc.leads_word spells_colon) hbetween hheads hne hprints,
      .bounds last hparts hprinted⟩

theorem starts_boundsAfterName (bounds : List Doc) : (boundsAfterName bounds).Starts :=
  Doc.starts_introduced (Doc.heads_word (by decide) rfl) _ _

/-- Bounds on the lines that they fill. -/
theorem BoundsGivenAs.keptFor_fill {bounds : List Doc} (h : BoundsGivenAs bounds given) :
    KeptFor .bounds (boundsAfterName bounds) given :=
  h.keptFor ((Doc.leads_word spells_plus).after_gap (Doc.word_ne_empty _) adds_none)
    (Doc.heads_gap adds_none (Doc.heads_word (by decide) rfl)) rfl

theorem spells_equalsBlank (opened : List Delimiter) :
    SpellsAnywhere opened "= " [.mark '='] opened :=
  fun _ _ _ hread => (hread.blank (.inl rfl)).mark (by decide)

theorem spells_equals (opened : List Delimiter) :
    SpellsAnywhere opened " = " [.mark '='] opened :=
  fun _ _ _ hread => (spells_equalsBlank opened (begins_any _) hread).blank (.inl rfl)

/-- What was read of the value of a parameter, if it has one, goes with tokens. -/
def DefaultGivenAs (d : Doc) (given : List Lexeme) : Prop := KeptFor .default d given ∧ d.Starts

theorem DefaultGivenAs.empty : DefaultGivenAs .empty [] :=
  ⟨fun _ => ⟨[], Doc.prints_empty, .noDefault⟩, Doc.starts_empty⟩

/-- A term, whether it is a type or a value. -/
theorem keptFor_term {d : Doc} (h : KeptFor .type d given ∨ KeptFor .value d given) :
    KeptFor .term d given := fun hprintable => by
  obtain h | h := h
  · obtain ⟨said, hprints, hprinted⟩ := h hprintable
    exact ⟨said, hprints, .typeTerm hprinted⟩
  · obtain ⟨said, hprints, hprinted⟩ := h hprintable
    exact ⟨said, hprints, .valueTerm hprinted⟩

/-- A term after an equals sign. -/
theorem DefaultGivenAs.of_term {equals d : Doc} (hequals : equals.Leads [.mark '='])
    (hheads : equals.Heads) (hd : KeptFor .term d given) :
    DefaultGivenAs (equals ++ d) (.mark '=' :: given) := by
  refine ⟨fun hprintable => ?_, (hheads.append d).starts⟩
  rw [Doc.printable_append, Bool.and_eq_true] at hprintable
  obtain ⟨said, hprints, hprinted⟩ := hd hprintable.2
  exact ⟨_, hequals.append_prints hprints, .default hprinted⟩

namespace Rules

variable {r : Rules} [r.Advances] {s : Input}

theorem at_lifetimeBounds (hwhole : ∀ a ∈ whole, a.Sound) :
    lifetimeBounds.At whole BoundsGivenAs s := by
  unfold lifetimeBounds
  refine .bind (at_punct? [':']) fun colon s₁ _ _ hcolon => ?_
  split
  · rename_i hyes
    rw [hcolon, if_pos hyes]
    refine .bind (at_separatedWhile '+' fun _ => at_soundLifetime hwhole) fun names s₂ _ _ hnames =>
      .pure ?_
    obtain ⟨parts, last, hparts, rfl⟩ := hnames
    have hbounds : List.Forall₂ (KeptFor .bound)
        (names.map fun n => Doc.word (lifetimeText n)) parts := by
      rw [List.forall₂_map_left_iff]
      refine hparts.imp fun n part hn _ => ?_
      rw [hn.2]
      exact ⟨_, prints_lifetime hn.1, .outlives n⟩
    simpa using boundsGivenAs_of_listed last hbounds
  · rename_i hno
    exact .pure (.inl ⟨rfl, .inl (by simp [hcolon, hno])⟩)

/-! ## Parameters -/

/-- There are no attributes, or their tokens begin with a hash. -/
theorem at_outerAttributes : r.outerAttributes.At whole
    (fun attributes given => attributes = [] ∧ given = [] ∨ given.head? = some (.mark '#')) s := by
  have hstep (s : Input) : At whole
      (Optionally fun (_ : Attribute) given => given.head? = some (.mark '#')) (do
        if ← punct? ['#'] then return some (← group .bracket r.attributeInside)
        else return none) s := by
    refine .bind (at_punct? ['#']) fun hash s₁ _ _ hhash => ?_
    cases hash with
    | true => exact .bind at_any fun a s₂ _ _ _ => .pure (by simp [Optionally, hhash])
    | false => exact .pure (by simpa [Optionally] using hhash)
  refine (at_collect hstep).mono fun attributes given hgiven => ?_
  obtain ⟨parts, hparts, rfl⟩ := hgiven
  cases hparts with
  | nil => exact .inl ⟨rfl, rfl⟩
  | cons hfirst _ => exact .inr (by simp [hfirst])

/-- Attributes are printed as they are given, if there are any. -/
theorem at_attributes (hr : r.PrintsLeaves whole) : r.outerAttributes.At whole
    (fun attributes given => LeadsFor .value (Attribute.layoutAll false attributes) given) s := by
  refine ((hr.attributes s).and at_outerAttributes).mono fun attributes given hgiven => ?_
  obtain ⟨hleads, ⟨rfl, rfl⟩ | hhash⟩ := hgiven
  · exact fun _ => ⟨[], Doc.leads_empty, .value .nil⟩
  · exact hleads (by rintro rfl; cases hhash)

theorem at_outerLayout (hr : r.PrintsLeaves whole) :
    r.outerLayout.At whole (fun d given => LeadsFor .value d given) s := by
  unfold outerLayout
  refine .bind (at_attributes hr) fun attributes s₁ given _ hattributes => .pure ?_
  rwa [List.append_nil]

theorem at_lifetimeParameter (hwhole : ∀ a ∈ whole, a.Sound) {attributes : List Attribute}
    (hattributes : LeadsFor .value (Attribute.layoutAll false attributes) given) :
    (lifetimeParameter attributes).At whole
      (fun p more => KeptFor .parameter p.layout (given ++ more)) s := by
  unfold lifetimeParameter
  refine .bind (at_soundLifetime hwhole) fun n s₁ _ _ hn => ?_
  refine .bind (at_lifetimeBounds hwhole) fun bounds s₂ boundsGiven _ hbounds =>
    .pure fun hprintable => ?_
  simp only [Doc.printable_append, Doc.printable_word, Bool.and_true, Bool.and_eq_true]
    at hprintable
  obtain ⟨attributes', hleads, hattributesPrinted⟩ := hattributes hprintable.1
  obtain ⟨said, hprints, hprinted⟩ := hbounds.keptFor (Doc.leads_word spells_blankPlus)
    (Doc.heads_word (by decide) rfl) rfl hprintable.2
  have hall := (hleads.append_prints (prints_lifetime hn.1)).append hprints
    (Doc.starts_introduced (Doc.heads_word (by decide) rfl) _ _)
  refine ⟨_, hall, ?_⟩
  simpa [hn.2] using Part.Printed.lifetimeParameter hattributesPrinted n hprinted

theorem at_constantParameter (hr : r.Keeps whole) (hwhole : ∀ a ∈ whole, a.Sound)
    {attributes : List Attribute}
    (hattributes : LeadsFor .value (Attribute.layoutAll false attributes) given) :
    (r.constantParameter attributes).At whole
      (fun p more => KeptFor .parameter p.layout (given ++ more)) s := by
  unfold constantParameter
  refine .bind (at_word "const") fun _ s₁ _ _ hconst => ?_
  refine .bind (at_soundIdentifier hwhole) fun n s₂ _ _ hn => ?_
  refine .bind (at_punct [':']) fun _ s₃ _ _ hcolon => ?_
  refine .bind (hr.type true s₃) fun t s₄ typeGiven _ ht => ?_
  refine .bind (at_punct? ['=']) fun equals s₅ _ _ hequals => ?_
  have hend {default : Doc} {defaultGiven : List Lexeme}
      (hdefault : DefaultGivenAs default defaultGiven) : KeptFor .parameter
        (Attribute.layoutAll false attributes ++ .word ("const " ++ n.written ++ ": ") ++ t.layout
          ++ default)
        (given ++ (.word "const" :: .name n :: .mark ':' :: (typeGiven ++ defaultGiven))) := by
    intro hprintable
    simp only [Doc.printable_append, Doc.printable_word, Bool.and_true, Bool.and_eq_true]
      at hprintable
    obtain ⟨⟨hfirst, hsecond⟩, hthird⟩ := hprintable
    obtain ⟨attributes', hleads, hattributesPrinted⟩ := hattributes hfirst
    obtain ⟨type', htype, htypePrinted⟩ := ht.kept hsecond
    obtain ⟨value', hvalue, hvaluePrinted⟩ := hdefault.1 hthird
    have hname (opened : List Delimiter) := ((spells_wordBlank (w := "const") (by decide +kernel)
      opened).append (spells_name hn.1 opened) fun _ _ => begins_any _).append_of_head
        (spells_colon opened) rfl (by decide)
    have hall := ((hleads.append (Doc.leads_word hname)).append_prints htype).append hvalue
      hdefault.2
    refine ⟨_, hall, ?_⟩
    simpa using Part.Printed.constantParameter hattributesPrinted n htypePrinted hvaluePrinted
  cases equals with
  | true =>
      refine .bind (at_constantArgument hr.leaves hwhole) fun d s₆ valueGiven _ hd => .pure ?_
      have hvalue := hend (.of_term (Doc.leads_word spells_equals)
        (Doc.heads_word (by decide) rfl) (keptFor_term (.inr hd)))
      simpa [hconst, hn.2, hcolon, hequals] using hvalue
  | false =>
      refine .pure ?_
      simpa [hconst, hn.2, hcolon, hequals] using hend DefaultGivenAs.empty

/-- A type parameter is printed with its bounds and its value on lines that they fill. -/
theorem keptFor_typeParameter {attributes : Doc} {attributesGiven : List Lexeme}
    (hattributes : LeadsFor .value attributes attributesGiven) {n : Name} (hn : n.Lexical)
    {bounds : List Doc} {boundsGiven : List Lexeme} (hbounds : BoundsGivenAs bounds boundsGiven)
    {default : Doc} {defaultGiven : List Lexeme} (hdefault : DefaultGivenAs default defaultGiven) :
    KeptFor .parameter
      (attributes ++ .word n.written ++ .fill indentStep (boundsAfterName bounds ++ default))
      (attributesGiven ++ .name n :: (boundsGiven ++ defaultGiven)) := fun hprintable => by
  simp only [Doc.printable_append, Doc.printable_word, Doc.printable_fill, Bool.and_true,
    Bool.and_eq_true] at hprintable
  obtain ⟨hfirst, hsecond, hthird⟩ := hprintable
  obtain ⟨attributes', hleads, hattributesPrinted⟩ := hattributes hfirst
  obtain ⟨bounds', hboundsPrints, hboundsPrinted⟩ := hbounds.keptFor_fill hsecond
  obtain ⟨value', hvalue, hvaluePrinted⟩ := hdefault.1 hthird
  have hinside := hboundsPrints.append hvalue hdefault.2
  have hstarts := (starts_boundsAfterName bounds).append hdefault.2
  have hall := (hleads.append_prints (prints_name hn)).append
    (hinside.group .inconsistent indentStep) (Doc.starts_group hstarts hinside.solid _ _)
  refine ⟨_, hall, ?_⟩
  simpa using Part.Printed.typeParameter hattributesPrinted n hboundsPrinted hvaluePrinted

theorem at_typeParameter (hr : r.Keeps whole) (hwhole : ∀ a ∈ whole, a.Sound)
    {attributes : List Attribute}
    (hattributes : LeadsFor .value (Attribute.layoutAll false attributes) given) :
    (r.typeParameter attributes).At whole
      (fun p more => KeptFor .parameter p.layout (given ++ more)) s := by
  unfold typeParameter
  refine .bind (at_soundIdentifier hwhole) fun n s₁ _ _ hn => ?_
  refine .bind (at_punct? [':']) fun colon s₂ _ _ hcolon => ?_
  have hend {bounds : List Bound} {boundsGiven : List Lexeme}
      (hbounds : BoundsGivenAs (bounds.map Bound.layout) boundsGiven) (s : Input) : At whole
        (fun p more => KeptFor .parameter p.layout (given ++ .name n :: (boundsGiven ++ more))) (do
        let default ←
          if ← punct? ['='] then
            pure (.spaceGap ++ .word "= " ++ (← r.type true).layout)
          else pure Doc.empty
        return ⟨attributes, false, n.written,
          Attribute.layoutAll false attributes ++ .word n.written
            ++ .fill indentStep (boundsAfterName (bounds.map Bound.layout) ++ default)⟩
          : Parser Parameter) s := by
    refine .bind (at_punct? ['=']) fun equals s₁ _ _ hequals => ?_
    cases equals with
    | true =>
        refine .bind (hr.type true s₁) fun t s₂ typeGiven _ ht => .pure ?_
        have hleads : (Doc.spaceGap ++ .word "= ").Leads [.mark '='] :=
          (Doc.leads_word spells_equalsBlank).after_gap (Doc.word_ne_empty _) adds_none
        have hvalue : DefaultGivenAs (.spaceGap ++ .word "= " ++ t.layout)
            (.mark '=' :: typeGiven) :=
          .of_term hleads (Doc.heads_gap adds_none (Doc.heads_word (by decide) rfl))
            (keptFor_term (.inl ht.kept))
        simpa [hequals] using keptFor_typeParameter hattributes hn.1 hbounds hvalue
    | false =>
        refine .pure ?_
        simpa [hequals] using keptFor_typeParameter hattributes hn.1 hbounds .empty
  cases colon with
  | true =>
      refine .bind (at_separatedWhile '+' fun s => at_bound hr hwhole false true)
        fun bounds s₃ _ _ hgiven => ?_
      obtain ⟨parts, last, hparts, rfl⟩ := hgiven
      have hbounds : BoundsGivenAs (bounds.map Bound.layout) (.mark ':' :: listed '+' last parts) :=
        boundsGivenAs_of_listed last (List.forall₂_map_left_iff.mpr hparts)
      refine (hend hbounds s₃).mono fun p more hp => ?_
      simpa [hn.2, hcolon] using hp
  | false =>
      have hbounds : BoundsGivenAs (([] : List Bound).map Bound.layout) [] := .inl ⟨rfl, .inl rfl⟩
      refine (hend hbounds s₂).mono fun p more hp => ?_
      simpa [hn.2, hcolon] using hp

theorem at_boundParameter (hr : r.Keeps whole) (hwhole : ∀ a ∈ whole, a.Sound) :
    r.boundParameter.At whole (fun p given => KeptFor .parameter p.layout given) s := by
  unfold boundParameter
  refine .bind (at_attributes hr.leaves) fun attributes s₁ given _ hattributes => ?_
  refine .ask fun name _ => ?_
  split
  · exact at_typeParameter hr hwhole hattributes
  · refine .ask fun lifetime _ => ?_
    split
    · exact at_lifetimeParameter hwhole hattributes
    · refine .ask fun constant _ => ?_
      split
      · exact at_constantParameter hr hwhole hattributes
      · exact at_failExpected _

/-- What the word `for` binds is printed between angle brackets. -/
theorem leadsFor_forLayout {parameters : List Doc} {parts : List (List Lexeme)} (last : Bool)
    (h : List.Forall₂ (KeptFor .parameter) parameters parts) :
    LeadsFor .binder (forLayout parameters)
      (.word "for" :: .mark '<' :: (listed ',' last parts ++ [.mark '>'])) := fun hprintable => by
  rw [forLayout, Doc.printable_append, Doc.printable_append, Doc.printable_word, Bool.true_and,
    Doc.printable_separated rfl, Doc.printable_word, Bool.and_true] at hprintable
  obtain ⟨said, hprints, hprinted⟩ := exists_of_keptFor h hprintable
  have hopening (opened : List Delimiter) :
      SpellsAnywhere opened "for<" [.word "for", .mark '<'] opened := fun _ _ _ hread =>
    (hread.mark (c := '<') (by decide)).name (by decide +kernel : (Name.plain "for").Lexical)
      (endsName_cons (by decide) _)
  have hcomma (opened : List Delimiter) : SpellsAnywhere opened ", " [.mark ','] opened :=
    fun _ _ _ hread => (hread.blank (.inl rfl)).mark (by decide)
  have hclosing (opened : List Delimiter) : SpellsAnywhere opened "> " [.mark '>'] opened :=
    fun _ _ _ hread => (hread.blank (.inl rfl)).mark (by decide)
  have hlist := Doc.prints_separated hcomma rfl (by decide) hprints
  have hall := ((Doc.leads_word hopening).append_prints hlist).append_leads
    (Doc.leads_word hclosing) (Doc.heads_word (by decide) rfl)
  refine ⟨_, hall, ?_⟩
  simpa using Part.Printed.binder last hprinted

theorem at_binderRule (hr : r.Keeps whole) (hwhole : ∀ a ∈ whole, a.Sound) :
    r.binderRule.At whole BinderGivenAs s := by
  unfold binderRule
  refine .bind (at_word? "for") fun bound s₁ _ _ hbound => ?_
  cases bound with
  | false =>
      refine .pure ?_
      subst hbound
      exact ⟨fun _ => ⟨[], Doc.leads_empty, .noBinder⟩, fun _ => rfl, nofun⟩
  | true =>
      refine .bind (at_punct ['<']) fun _ s₂ _ _ hopen => ?_
      refine .bind (at_separatedBefore ',' fun s => at_boundParameter hr hwhole)
        fun parameters s₃ _ _ hparameters => ?_
      refine .bind (at_punct ['>']) fun _ s₄ _ _ hclose => .pure ?_
      obtain ⟨parts, last, hparts, rfl⟩ := hparameters
      have hdocs : List.Forall₂ (KeptFor .parameter) (parameters.map Parameter.layout) parts :=
        List.forall₂_map_left_iff.mpr hparts
      refine ⟨?_, nofun, fun _ => ⟨listed ',' last parts, ?_⟩⟩
      · simpa [hbound, hopen, hclose, maybeWord] using leadsFor_forLayout last hdocs
      · simp [hbound, hopen, hclose, maybeWord]

end Rules

/-! ## Generic arguments -/

/-- A type that is a name with its arguments goes with the tokens of the name. -/
theorem TypeExpr.GivenAs.lone {t : TypeExpr} (h : t.GivenAs given) {g : Segment}
    (hlone : Rules.lone? t = some g) : g.GivenAs given := by
  obtain ⟨form, layout⟩ := t
  unfold Rules.lone? at hlone
  split at hlone
  · rename_i hform
    cases hlone
    obtain ⟨-, -, parts, hparts, rfl⟩ := h.path _ hform
    cases hparts with
    | cons hg hnil =>
        cases hnil
        simpa [maybeColons] using hg
  · cases hlone

theorem keptFor_argument (h : KeptFor .term d given) : KeptFor (.argument false) d given :=
  fun hprintable => by
    obtain ⟨said, hprints, hprinted⟩ := h hprintable
    exact ⟨said, hprints, .argument hprinted⟩

/-- A name with the term that it stands for. -/
theorem Segment.GivenAs.keptFor_binding {g : Segment} (hg : g.GivenAs given)
    (hd : KeptFor .term d more) : KeptFor (.argument false) (g.layout false ++ .word " = " ++ d)
      (given ++ .mark '=' :: more) := fun hprintable => by
  simp only [Doc.printable_append, Doc.printable_word, Bool.and_true, Bool.and_eq_true]
    at hprintable
  obtain ⟨name', hname, hnamePrinted⟩ := hg.kept hprintable.1
  obtain ⟨said, hprints, hprinted⟩ := hd hprintable.2
  have hequals := Doc.leads_word spells_equals
  have hall := (hname.append_leads hequals (Doc.heads_word (by decide) rfl)).append_prints hprints
  refine ⟨_, hall, ?_⟩
  simpa using Part.Printed.binding hnamePrinted hprinted

/-- A name with the bounds of the type that it stands for. -/
theorem Segment.GivenAs.keptFor_constraint {g : Segment} (hg : g.GivenAs given)
    {bounds : List Doc} (hbounds : BoundsGivenAs bounds more) :
    KeptFor (.argument false) (g.layout false ++ .fill indentStep (boundsAfterName bounds))
      (given ++ more) := fun hprintable => by
  rw [Doc.printable_append, Doc.printable_fill, Bool.and_eq_true] at hprintable
  obtain ⟨name', hname, hnamePrinted⟩ := hg.kept hprintable.1
  obtain ⟨said, hprints, hprinted⟩ := hbounds.keptFor_fill hprintable.2
  have hstarts := Doc.starts_group (starts_boundsAfterName bounds) hprints.solid .inconsistent
    indentStep
  exact ⟨_, hname.append (hprints.group .inconsistent indentStep) hstarts,
    .constraint hnamePrinted hprinted⟩

namespace Rules

variable {r : Rules} [r.Advances] {s : Input}

theorem at_typeArgument (hr : r.Keeps whole) (hwhole : ∀ a ∈ whole, a.Sound) :
    r.typeArgument.At whole (KeptFor (.argument false)) s := by
  unfold typeArgument
  refine @At.bind _ _ _ _ _ _ _ _ (hr.type true s) (fun t => by split <;> infer_instance)
    fun t s₁ given _ ht => ?_
  split
  · exact .pure (by simpa using keptFor_argument (keptFor_term (.inl ht.kept)))
  · rename_i g hlone
    have hg := ht.lone hlone
    refine .bind (at_punct? ['=']) fun equals s₂ _ _ hequals => ?_
    cases equals with
    | true =>
        refine .ask fun constant _ => ?_
        split
        · refine .bind (at_constantArgument hr.leaves hwhole) fun d s₃ valueGiven _ hd => .pure ?_
          simpa [hequals] using hg.keptFor_binding (keptFor_term (.inr hd))
        · refine .bind (hr.type true s₂) fun v s₃ valueGiven _ hv => .pure ?_
          simpa [hequals] using hg.keptFor_binding (keptFor_term (.inl hv.kept))
    | false =>
        refine .bind (at_punct? [':']) fun colon s₃ _ _ hcolon => ?_
        cases colon with
        | true =>
            refine .bind (at_separatedWhile '+' fun s => at_bound hr hwhole false true)
              fun bounds s₄ _ _ hbounds => .pure ?_
            obtain ⟨parts, last, hparts, rfl⟩ := hbounds
            have hbounds := boundsGivenAs_of_listed last (List.forall₂_map_left_iff.mpr hparts)
            simpa [hequals, hcolon] using hg.keptFor_constraint hbounds
        | false =>
            have hargument := keptFor_argument (keptFor_term (.inl ht.kept))
            exact .pure (by simpa [hequals, hcolon] using hargument)

theorem at_argumentRule (hr : r.Keeps whole) (hwhole : ∀ a ∈ whole, a.Sound) :
    r.argumentRule.At whole GenericArgument.GivenAs s := by
  unfold argumentRule
  refine .ask fun lifetime _ => ?_
  split
  · refine .bind (at_soundLifetime hwhole) fun n s₁ _ _ hn => .pure fun _ => ?_
    rw [hn.2]
    exact ⟨_, prints_lifetime hn.1, .lifetime n⟩
  · refine .ask fun constant _ => ?_
    split
    · refine .bind (at_constantArgument hr.leaves hwhole) fun d s₁ given _ hd => .pure ?_
      rw [List.append_nil]
      exact keptFor_argument (keptFor_term (.inr hd))
    · refine .bind (at_typeArgument hr hwhole) fun d s₁ given _ hd => .pure ?_
      rw [List.append_nil]
      exact hd

end Rules

end Fieldwise.Grammar
