import Fieldwise.Proofs.Grammar.ArgumentsKept

set_option autoImplicit false
set_option synthInstance.maxSize 1000000

/-! # What is kept of types prints the tokens they were read from

Each reader of `Grammar/Type.lean` keeps a document that prints what was read, if the rules for what
is inside of it do (`Rules.at_typeRule`). -/

namespace Fieldwise.Grammar

open Fieldwise.Token Fieldwise.Layout Fieldwise.Grammar.Parser

variable {whole given more : List Lexeme} {part : Part} {d e : Doc}

/-! ## Words before something else -/

section Words

variable {s : Input}

/-- A word that may be there is printed with a blank after it if it is. -/
theorem at_spacedWord (word : String) (hword : (Name.plain word).Lexical) :
    (spacedWord word).At whole (fun text given => ∃ found, given = maybeWord found word
      ∧ ∀ opened, SpellsAnywhere opened text (maybeWord found word) opened) s := by
  unfold spacedWord
  refine .bind (at_word? word) fun found s₁ _ _ hfound => ?_
  cases found with
  | true => exact .pure ⟨true, by simp [hfound], spells_wordBlank hword⟩
  | false => exact .pure ⟨false, by simp [hfound], spells_empty⟩

end Words

/-! ## Bounds with plus signs -/

/-- What was read of bounds goes with tokens that have plus signs between them. -/
def BoundList (bounds : List Bound) (given : List Lexeme) : Prop :=
  ∃ parts last, List.Forall₂ (KeptFor .bound) (bounds.map Bound.layout) parts
    ∧ given = listed '+' last parts

theorem TypeExpr.givenAs_plain (h : KeptFor .type d given) : (TypeExpr.plain d).GivenAs given :=
  ⟨h, nofun, nofun⟩

section Pluses

variable {bounds : List Doc} {parts : List (List Lexeme)}

/-- Bounds are printed on one line. -/
theorem prints_pluses (h : List.Forall₂ (KeptFor .bound) bounds parts)
    (hprintable : (plusSeparated bounds).printable = true) :
    ∃ said, (plusSeparated bounds).Prints (pluses said)
      ∧ List.Forall₂ Part.bound.Printed parts said := by
  rw [plusSeparated, Doc.printable_separated rfl] at hprintable
  obtain ⟨said, hprints, hprinted⟩ := exists_of_keptFor h hprintable
  exact ⟨said, Doc.prints_separated spells_blankPlus rfl (by decide) hprints, hprinted⟩

theorem leads_dyn : (Doc.word "dyn ").Leads [.word "dyn"] :=
  Doc.leads_word (spells_wordBlank (w := "dyn") (by decide +kernel))

theorem keptFor_object (last : Bool) (h : List.Forall₂ (KeptFor .bound) bounds parts) :
    KeptFor .type (objectLayout bounds) (.word "dyn" :: listed '+' last parts) := by
  intro hprintable
  rw [objectLayout, Doc.printable_append, Doc.printable_word, Bool.true_and] at hprintable
  obtain ⟨said, hprints, hprinted⟩ := prints_pluses h hprintable
  exact ⟨_, leads_dyn.append_prints hprints, .object last hprinted⟩

/-- Bounds that are a type by themselves get the word `dyn` before them. -/
theorem keptFor_bareObject (last : Bool) (hbare : IsBare last parts)
    (h : List.Forall₂ (KeptFor .bound) bounds parts) :
    KeptFor .type (objectLayout bounds) (listed '+' last parts) := by
  intro hprintable
  rw [objectLayout, Doc.printable_append, Doc.printable_word, Bool.true_and] at hprintable
  obtain ⟨said, hprints, hprinted⟩ := prints_pluses h hprintable
  exact ⟨_, leads_dyn.append_prints hprints, .bareObject last hbare hprinted⟩

theorem keptFor_implementation (last : Bool) (h : List.Forall₂ (KeptFor .bound) bounds parts) :
    KeptFor .type (.word "impl " ++ plusSeparated bounds)
      (.word "impl" :: listed '+' last parts) := by
  intro hprintable
  rw [Doc.printable_append, Doc.printable_word, Bool.true_and] at hprintable
  obtain ⟨said, hprints, hprinted⟩ := prints_pluses h hprintable
  exact ⟨_, (Doc.leads_word (spells_wordBlank (w := "impl") (by decide +kernel))).append_prints
    hprints, .implementation last hprinted⟩

end Pluses

namespace Rules

variable {r : Rules} [r.Advances] {s : Input}

theorem at_boundList (hr : r.Keeps whole) (hwhole : ∀ a ∈ whole, a.Sound)
    (allowPlus allowCapture allowConst : Bool) :
    (r.boundList allowPlus allowCapture allowConst).At whole BoundList s := by
  unfold boundList
  refine .bind (R := fun found given => ∃ parts last,
    List.Forall₂ (fun b part => KeptFor .bound b.layout part) found.1.reverse parts
      ∧ given = listed '+' last parts ∧ (found.2 = true → last = true))
    (at_iterate ?_ ⟨[], true, .nil, rfl, fun _ => rfl⟩) ?_
  · rintro ⟨bounds, more⟩ _ s ⟨parts, last, hparts, rfl, hlast⟩
    cases more with
    | false => exact .pure rfl
    | true =>
        obtain rfl : last = true := hlast rfl
        refine .bind (at_bound hr hwhole allowCapture allowConst) fun b s₁ part _ hb => ?_
        have hnext (plus more : Bool) : ∃ parts' last, List.Forall₂
            (fun b part => KeptFor .bound b.layout part) (b :: bounds).reverse parts'
            ∧ listed '+' true parts ++ (part ++ if plus then [.mark '+'] else [])
              = listed '+' last parts'
            ∧ ((plus && more) = true → last = true) := by
          refine ⟨parts ++ [part], plus, ?_, listed_true_append _ _ _ _, by cases plus <;> simp⟩
          simpa using List.rel_append hparts (.cons hb .nil)
        cases allowPlus with
        | true =>
            refine .bind (at_punct? ['+']) fun plus s₂ _ _ hplus => .ask fun more _ => .pure ?_
            simpa [hplus, Optionally] using hnext plus more
        | false =>
            refine .bind (R := fun plus given => plus = false ∧ given = []) (.pure ⟨rfl, rfl⟩) ?_
            rintro _ s₂ _ _ ⟨rfl, rfl⟩
            exact .ask fun more _ => .pure (by simpa [Optionally] using hnext false more)
  · rintro ⟨bounds, more⟩ mid _ _ ⟨parts, last, hparts, rfl, -⟩
    exact .pure ⟨parts, last, List.forall₂_map_left_iff.mpr hparts, by simp⟩

theorem at_objectBounds (hr : r.Keeps whole) (hwhole : ∀ a ∈ whole, a.Sound)
    (start : Option Position) (allowPlus : Bool) :
    (r.objectBounds start allowPlus).At whole BoundList s := by
  unfold objectBounds
  refine .bind (at_boundList hr hwhole allowPlus false false) fun bounds s₁ given _ hbounds => ?_
  split
  · exact .pure (by simpa using hbounds)
  · exact at_failFrom _ _

theorem at_addedBounds (hr : r.Keeps whole) (hwhole : ∀ a ∈ whole, a.Sound) :
    r.addedBounds.At whole (fun found given => ∃ parts,
      List.Forall₂ (KeptFor .bound) (found.1.map Bound.layout) parts
        ∧ given = parts.flatMap (.mark '+' :: ·) ++ if found.2 then [.mark '+'] else []) s := by
  unfold addedBounds
  refine .bind (R := fun found given => ∃ parts,
    List.Forall₂ (fun b part => KeptFor .bound b.layout part) found.1.reverse parts
      ∧ given = parts.flatMap (.mark '+' :: ·) ++ if found.2 then [.mark '+'] else [])
    (at_iterate ?_ ⟨[], .nil, rfl⟩) ?_
  · rintro ⟨bounds, plus⟩ _ s ⟨parts, hparts, rfl⟩
    cases plus with
    | true => exact .pure rfl
    | false =>
        refine .bind (at_punct? ['+']) fun plus s₁ _ _ hplus => ?_
        cases plus with
        | false => exact .pure (by simpa [Optionally] using hplus)
        | true =>
            refine .ask fun ahead _ => ?_
            cases ahead with
            | true =>
                refine .bind (at_bound hr hwhole false false) fun b s₂ part _ hb =>
                  .pure ⟨parts ++ [part], ?_, by simp [hplus]⟩
                simpa using List.rel_append hparts (.cons hb .nil)
            | false => exact .pure ⟨parts, hparts, by simp [hplus]⟩
  · rintro ⟨bounds, plus⟩ mid _ _ ⟨parts, hparts, rfl⟩
    exact .pure ⟨parts, List.forall₂_map_left_iff.mpr hparts, by simp⟩

omit [r.Advances] in
/-- A plus sign adds a bound, or it is the last. -/
theorem added_of_plus {bounds : List Bound} {plus : Bool} {after : Input}
    (hplus : Ahead.punct ['+'] s.rest = true) (h : r.addedBounds s = .ok ((bounds, plus), after)) :
    bounds ≠ [] ∨ plus = true := by
  unfold addedBounds at h
  obtain ⟨⟨found, last⟩, mid, hiterate, h⟩ := bind_eq_ok h
  cases h
  have hkept := iterate_keeps (Q := fun found : List Bound × Bool => found.1 ≠ [] ∨ found.2 = true)
    ?_ ?_ hiterate
  · simpa using hkept
  · rintro ⟨bounds, plus⟩ s b after hbounds h
    cases plus with
    | true => cases h
    | false =>
        obtain ⟨plus, s₁, -, h⟩ := bind_eq_ok h
        cases plus with
        | false => cases h
        | true =>
            obtain ⟨ahead, s₂, -, h⟩ := bind_eq_ok h
            cases ahead with
            | true =>
                obtain ⟨b, s₃, -, h⟩ := bind_eq_ok h
                cases h
                exact .inl (List.cons_ne_nil _ _)
            | false =>
                cases h
                exact .inr rfl
  · intro found mid h
    obtain ⟨plus, s₁, hplus', h⟩ := bind_eq_ok h
    obtain rfl := eq_true_of_punct? hplus hplus'
    obtain ⟨ahead, s₂, -, h⟩ := bind_eq_ok h
    cases ahead with
    | true =>
        obtain ⟨b, s₃, -, h⟩ := bind_eq_ok h
        cases h
        exact ⟨_, rfl, .inl (List.cons_ne_nil _ _)⟩
    | false =>
        cases h
        exact ⟨_, rfl, .inr rfl⟩

omit [r.Advances] in
theorem isTrait_of_lifetime {allowCapture allowConst : Bool} {b : Bound} {after : Input}
    (hlifetime : Ahead.lifetime s.rest = true)
    (h : r.bound allowCapture allowConst s = .ok (b, after)) : b.isTrait = false := by
  unfold bound at h
  rw [ask_bind hlifetime] at h
  obtain ⟨n, s₁, -, h⟩ := bind_eq_ok h
  cases h
  rfl

omit [r.Advances] in
/-- Bounds that begin with a lifetime are more than one, as one of them is a trait. -/
theorem many_of_lifetime {bounds : List Bound} {start : Option Position} {allowPlus : Bool}
    {after : Input} (hlifetime : Ahead.lifetime s.rest = true)
    (h : r.objectBounds start allowPlus s = .ok (bounds, after)) : 1 < bounds.length := by
  have htail {b : Bound} {bounds : List Bound} {found : Option (List Bound × Bool)}
      {s mid : Input} (h : (do
        let plus ← if allowPlus then punct? ['+'] else pure false
        let more ← ask boundAhead
        return some (b :: bounds, plus && more) : Parser _) s = .ok (found, mid)) :
      ∃ more, found = some (b :: bounds, more) := by
    cases allowPlus with
    | true =>
        obtain ⟨plus, s₁, -, h⟩ := bind_eq_ok h
        cases h
        exact ⟨_, rfl⟩
    | false =>
        cases h
        exact ⟨_, rfl⟩
  obtain ⟨found, mid, hlist, h⟩ := bind_eq_ok h
  unfold boundList at hlist
  obtain ⟨⟨last, more⟩, mid', hiterate, hlist⟩ := bind_eq_ok hlist
  cases hlist
  have hkept := iterate_keeps
    (Q := fun found : List Bound × Bool => ∃ b, found.1.getLast? = some b ∧ b.isTrait = false)
    ?_ ?_ hiterate
  · obtain ⟨b, hb, hbound⟩ := hkept
    split at h
    · rename_i htrait
      cases h
      match last, hb with
      | [c], hb =>
          obtain rfl : c = b := Option.some.inj hb
          simp [hbound] at htrait
      | c :: c' :: more, _ => simp
    · cases h
  · rintro ⟨bounds, more⟩ s c after ⟨b, hb, hbound⟩ h
    cases more with
    | false => cases h
    | true =>
        obtain ⟨b', s₁, -, h⟩ := bind_eq_ok h
        obtain ⟨more, hfound⟩ := htail h
        cases hfound
        exact ⟨b, by rw [List.getLast?_cons, hb]; rfl, hbound⟩
  · intro found mid h
    obtain ⟨b, s₁, hb, h⟩ := bind_eq_ok h
    obtain ⟨more, rfl⟩ := htail h
    exact ⟨_, rfl, b, rfl, isTrait_of_lifetime hlifetime hb⟩

/-! ## Trait objects -/

theorem at_dynType (hr : r.Keeps whole) (hwhole : ∀ a ∈ whole, a.Sound) (allowPlus : Bool) :
    (r.dynType allowPlus).At whole TypeExpr.GivenAs s := by
  unfold dynType
  refine .here fun start => ?_
  refine .bind (at_word "dyn") fun _ s₁ _ _ hdyn => ?_
  refine .bind (at_punct? ['*']) fun star s₂ _ _ hstar => ?_
  refine .bind (at_objectBounds hr hwhole start allowPlus) fun bounds s₃ _ _ hbounds => .pure ?_
  obtain ⟨parts, last, hparts, rfl⟩ := hbounds
  cases star with
  | true => exact TypeExpr.givenAs_plain keptFor_hole
  | false =>
      have hobject := TypeExpr.givenAs_plain (keptFor_object last hparts)
      simpa [hdyn, hstar] using hobject

theorem at_implType (hr : r.Keeps whole) (hwhole : ∀ a ∈ whole, a.Sound) (allowPlus : Bool) :
    (r.implType allowPlus).At whole TypeExpr.GivenAs s := by
  unfold implType
  refine .here fun start => ?_
  refine .bind (at_word "impl") fun _ s₁ _ _ himpl => ?_
  refine .bind (at_boundList hr hwhole allowPlus true true) fun bounds s₂ _ _ hbounds => ?_
  obtain ⟨parts, last, hparts, rfl⟩ := hbounds
  split
  · have himplementation := TypeExpr.givenAs_plain (keptFor_implementation last hparts)
    exact .pure (by simpa [himpl] using himplementation)
  · exact at_failFrom _ _

/-- A type that begins with a lifetime is bounds. -/
theorem at_lifetimeType (hr : r.Keeps whole) (hwhole : ∀ a ∈ whole, a.Sound)
    (hlifetime : Ahead.lifetime s.rest = true) (start : Option Position) (allowPlus : Bool) :
    (r.objectBounds start allowPlus).At whole
      (fun bounds given => KeptFor .type (objectLayout (bounds.map Bound.layout)) given) s := by
  intro bounds after hread hstray hwithin
  obtain ⟨given, hpassed, parts, last, hparts, rfl⟩ :=
    at_objectBounds hr hwhole start allowPlus hread hstray hwithin
  have hmany := many_of_lifetime hlifetime hread
  have hlength := hparts.length_eq
  rw [List.length_map] at hlength
  exact ⟨_, hpassed, keptFor_bareObject last (.inr (.inl (hlength ▸ hmany))) hparts⟩

end Rules

/-! ## Types that begin with a path -/

/-- A path with what is bound before it, as a trait. -/
theorem keptFor_boundPath {outer : Option Doc} {outerGiven : List Lexeme}
    (houter : BinderGivenAs outer outerGiven) {p : Path} (hp : p.GivenAs given) :
    KeptFor .trait (outer.getD .empty ++ p.layout false) (outerGiven ++ given) := by
  have htrait := keptFor_trait houter.leads false nofun hp
  exact htrait

theorem BinderGivenAs.maybeBinder {outer : Option Doc} (h : BinderGivenAs outer given) :
    MaybeBinder given := by
  cases outer with
  | none => exact .inl (h.none rfl)
  | some d => exact .inr (h.some rfl)

theorem keptFor_bound (h : KeptFor .trait d given) : KeptFor .bound d given := fun hprintable => by
  obtain ⟨said, hprints, hprinted⟩ := h hprintable
  exact ⟨said, hprints, .traitBound hprinted⟩

theorem keptFor_pathType (h : KeptFor .path d given) : KeptFor .type d given := fun hprintable => by
  obtain ⟨said, hprints, hprinted⟩ := h hprintable
  exact ⟨said, hprints, .pathType hprinted⟩

/-- The first token of a type in angle brackets is no name. -/
theorem not_anyName_of_angle {trees : List Tree} {rest : List Lexeme}
    (h : Tree.lexemesAll trees = given ++ rest) (hhead : given.head? = some (.mark '<')) :
    Ahead.anyName trees = false := by
  match trees with
  | .name n p :: more =>
      cases given with
      | nil => cases hhead
      | cons a given =>
          cases hhead
          cases h
  | [] | .lifetime _ _ :: _ | .punct _ _ _ :: _ | .literal _ _ :: _ | .group _ _ _ _ :: _ => rfl

/-- Bounds that are a type by themselves, of which this is the first. -/
theorem TypeExpr.givenAs_bounds {first : Doc} (hfirst : KeptFor .trait first given)
    (bounds : List Bound) {parts : List (List Lexeme)} (plus : Bool)
    (hparts : List.Forall₂ (KeptFor .bound) (bounds.map Bound.layout) parts)
    (hbare : IsBare plus (given :: parts)) :
    TypeExpr.GivenAs ⟨if bounds.isEmpty && !plus then .bound first else .other,
        objectLayout (first :: bounds.map Bound.layout)⟩
      (given ++ (parts.flatMap (.mark '+' :: ·) ++ if plus then [.mark '+'] else [])) where
  kept := by
    have hobject := keptFor_bareObject plus hbare (.cons (keptFor_bound hfirst) hparts)
    rwa [listed_cons] at hobject
  path p hform := by
    dsimp only at hform
    split at hform <;> cases hform
  bound e hform := by
    dsimp only at hform
    split at hform
    · rename_i halone
      obtain ⟨rfl, rfl⟩ : bounds = [] ∧ plus = false := by simpa using halone
      cases hparts
      cases hform
      exact ⟨given, hfirst, .inl (by simp)⟩
    · cases hform

namespace Rules

variable {r : Rules} [r.Advances] {s : Input}

omit [r.Advances] in
/-- An invocation from after its path. -/
theorem at_invocation (path : Doc) : (invocation path).At whole
    (fun found given => ∃ d content, found.1 = invocationLayout path none d content
      ∧ given = .mark '!' :: .opening d :: (Tree.lexemesAll content ++ [.closing d])) s := by
  unfold invocation
  refine .bind (at_punct ['!']) fun _ s₁ _ _ hbang => ?_
  refine .bind at_anyGroup fun found s₂ _ _ hgroup => .pure ⟨found.1, found.2, rfl, ?_⟩
  simp [hbang, hgroup]

theorem at_pathType (hr : r.Keeps whole) (hwhole : ∀ a ∈ whole, a.Sound) {outer : Option Doc}
    {outerGiven : List Lexeme} (houter : BinderGivenAs outer outerGiven)
    (hname : outer.isSome = true → Ahead.anyName s.rest = true) (allowPlus : Bool) :
    (r.pathType outer allowPlus).At whole
      (fun t more => TypeExpr.GivenAs t (outerGiven ++ more)) s := by
  unfold pathType
  refine .within fun hwithin => ?_
  refine .bind (at_qualifiedPath hr hwhole) fun q s₁ pathGiven hpassed hq => ?_
  by_cases hqualifier : q.qualifier.isSome = true
  · -- nothing is bound before a type in angle brackets, as that is no name
    have hnot := not_anyName_of_angle hpassed (hq.head hqualifier)
    obtain rfl : outer = none := by
      cases outer with
      | none => rfl
      | some d => exact absurd (hname rfl) (by simp [hnot])
    rw [if_pos hqualifier, houter.none rfl]
    exact .pure (by simpa using TypeExpr.givenAs_plain (keptFor_pathType hq.kept))
  · rw [if_neg hqualifier]
    have hp := hq.path (by simpa using hqualifier)
    have hlayout : q.layout false = q.path.layout false := by
      simp [QualifiedPath.layout, Option.not_isSome_iff_eq_none.mp hqualifier]
    refine .ask fun bang _ => ?_
    by_cases hbang : (q.isPlain && bang) = true
    · rw [if_pos hbang, hlayout]
      have hplain : q.path.isPlain = true := by
        simp only [QualifiedPath.isPlain, Bool.and_eq_true] at hbang
        exact hbang.1.2
      refine .bind ((at_invocation (q.path.layout false)).beside hwithin hpassed)
        fun found s₂ _ _ hfound => .pure (TypeExpr.givenAs_plain fun hprintable => ?_)
      obtain ⟨⟨d, content, hfound, rfl⟩, hinside⟩ := hfound
      rw [hp.eq_names hplain] at hinside ⊢
      rw [hfound] at hprintable ⊢
      obtain ⟨said, hprints, hprinted⟩ :=
        hr.leaves.invocation q.path d content hplain hinside hprintable
      exact ⟨said, hprints, by simpa using .invocation houter.maybeBinder hprinted⟩
    · rw [if_neg hbang]
      refine .ask fun plus hplus => ?_
      by_cases hbounds : (outer.isSome || allowPlus && plus) = true
      · rw [if_pos hbounds, hlayout]
        have hfirst := keptFor_boundPath houter hp
        have hhead (plus : Bool) {parts : List (List Lexeme)} (hsome : outer.isSome = true) :
            IsBare plus ((outerGiven ++ pathGiven) :: parts) := by
          obtain ⟨bound, hbound⟩ := houter.some hsome
          exact .inr (.inr (.inl (by rw [listed_cons, hbound]; rfl)))
        cases allowPlus with
        | true =>
            refine .bind ((at_addedBounds hr hwhole).and (.of_result
              (Q := fun found => outer.isSome = true ∨ found.1 ≠ [] ∨ found.2 = true) ?_)) ?_
            · rintro ⟨bounds, last⟩ after hread
              obtain hsome | hplus' := Bool.or_eq_true_iff.mp hbounds
              · exact .inl hsome
              · rw [← hplus] at hplus'
                exact .inr (added_of_plus (by simpa using hplus') hread)
            · rintro ⟨bounds, last⟩ s₂ _ _ ⟨⟨parts, hparts, rfl⟩, hbare⟩
              have hbare : IsBare last ((outerGiven ++ pathGiven) :: parts) := by
                obtain hsome | hne | hlast := hbare
                · exact hhead last hsome
                · cases parts with
                  | nil => exact absurd (by simpa using List.forall₂_nil_right_iff.mp hparts) hne
                  | cons => exact .inr (.inl (by simp))
                · exact .inl hlast
              refine .pure ?_
              simpa using TypeExpr.givenAs_bounds hfirst bounds last hparts hbare
        | false =>
            have hsome : outer.isSome = true := by simpa using hbounds
            have ht := TypeExpr.givenAs_bounds hfirst [] false .nil (hhead false hsome)
            exact .pure (by simpa using ht)
      · rw [if_neg hbounds]
        obtain rfl : outer = none := by cases outer <;> simp_all
        rw [houter.none rfl]
        refine .pure ⟨by simpa using keptFor_pathType hq.kept, fun p hform => ?_, fun d hform => ?_⟩
        · cases hform
          exact ⟨hlayout, by simpa using hp⟩
        · cases hform

end Rules

/-! ## Types around others -/

/-- A type in brackets. -/
theorem keptFor_slice {t : Doc} (ht : KeptFor .type t given) :
    KeptFor .type (.word "[" ++ t ++ .empty ++ .word "]")
      (.opening .bracket :: (given ++ [.closing .bracket])) := fun hprintable => by
  simp only [Doc.printable_append, Doc.printable_word, Doc.printable_empty, Bool.true_and,
    Bool.and_true] at hprintable
  obtain ⟨said, hprints, hprinted⟩ := ht hprintable
  have hleads := (hprints.enclosed Doc.spells_openingBracket Doc.spells_closingBracket rfl
    (by decide)).congr (e := .word "[" ++ t ++ .empty ++ .word "]")
      (fun rest => by simp [Doc.piecesBefore_append, Doc.piecesBefore])
      ((Doc.solid_word "]").after (Doc.word_ne_empty "]") _)
  exact ⟨_, hleads.prints, .slice hprinted⟩

theorem spells_pointer (mutable : Bool) (opened : List Delimiter) :
    SpellsAnywhere opened (if mutable then "*mut " else "*const ")
      [.mark '*', .word (if mutable then "mut" else "const")] opened := fun _ _ hbegins hread => by
  cases mutable with
  | true =>
      exact (spells_wordBlank (w := "mut") (by decide +kernel) opened hbegins hread).mark
        (c := '*') (by decide)
  | false =>
      exact (spells_wordBlank (w := "const") (by decide +kernel) opened hbegins hread).mark
        (c := '*') (by decide)

/-- A type behind a pointer. -/
theorem keptFor_pointer (mutable : Bool) {t : Doc} (ht : KeptFor .type t given) :
    KeptFor .type (.word (if mutable then "*mut " else "*const ") ++ t)
      (.mark '*' :: .word (if mutable then "mut" else "const") :: given) := fun hprintable => by
  rw [Doc.printable_append, Doc.printable_word, Bool.true_and] at hprintable
  obtain ⟨said, hprints, hprinted⟩ := ht hprintable
  exact ⟨_, (Doc.leads_word (spells_pointer mutable)).append_prints hprints,
    .pointer mutable hprinted⟩

/-- A type behind a reference, for a lifetime perhaps, and perhaps one that may change things. -/
theorem keptFor_reference (region : Option Name) (mutable : Bool) {text words : String}
    (htext : ∀ opened, SpellsAnywhere opened text (region.toList.map .lifetime) opened)
    (hwords : ∀ opened, SpellsAnywhere opened words (maybeWord mutable "mut") opened)
    {t : Doc} (ht : KeptFor .type t given) :
    KeptFor .type (.word ("&" ++ text ++ words) ++ t)
      (.mark '&' :: (region.toList.map .lifetime ++ (maybeWord mutable "mut" ++ given))) :=
  fun hprintable => by
    rw [Doc.printable_append, Doc.printable_word, Bool.true_and] at hprintable
    obtain ⟨said, hprints, hprinted⟩ := ht hprintable
    have hspells (opened : List Delimiter) :=
      ((spells_mark (c := '&') (by decide) opened).append (htext opened) fun _ _ =>
        begins_any _).append (hwords opened) fun _ _ => begins_any _
    refine ⟨_, (Doc.leads_word hspells).append_prints hprints, ?_⟩
    simpa using Part.Printed.reference region mutable hprinted

theorem spells_semicolon (opened : List Delimiter) :
    SpellsAnywhere opened "; " [.mark ';'] opened :=
  fun _ _ _ hread => (hread.blank (.inl rfl)).mark (by decide)

/-- A type before a length, in brackets. -/
theorem keptFor_array {t : Doc} (ht : KeptFor .type t given) {e : Doc} {length : List Lexeme}
    (he : KeptFor .value e length) :
    KeptFor .type (.word "[" ++ t ++ (.word "; " ++ e) ++ .word "]")
      (.opening .bracket :: (given ++ .mark ';' :: (length ++ [.closing .bracket]))) :=
  fun hprintable => by
    simp only [Doc.printable_append, Doc.printable_word, Bool.true_and, Bool.and_true,
      Bool.and_eq_true] at hprintable
    obtain ⟨said, hprints, hprinted⟩ := ht hprintable.1
    obtain ⟨length', hlength, hlengthPrinted⟩ := he hprintable.2
    have hafter := (Doc.leads_word spells_semicolon).append_prints hlength
    have hstarts : (Doc.word "; " ++ e).Starts :=
      ((Doc.heads_word (by decide) rfl).append _).starts
    have hleads := ((hprints.append hafter hstarts).enclosed Doc.spells_openingBracket
      Doc.spells_closingBracket rfl (by decide)).congr
        (e := .word "[" ++ t ++ (.word "; " ++ e) ++ .word "]")
        (fun rest => by simp [Doc.piecesBefore_append])
        ((Doc.solid_word "]").after (Doc.word_ne_empty "]") _)
    refine ⟨_, hleads.prints, ?_⟩
    simpa using Part.Printed.array hprinted hlengthPrinted

namespace Rules

variable {r : Rules} [r.Advances] {s : Input}

omit [r.Advances] in
theorem at_builtInType : builtInType.At whole
    (fun t given => ∀ front, TypeExpr.GivenAs t (front ++ given)) s := by
  unfold builtInType
  refine .bind at_any fun _ s₁ _ _ _ => ?_
  refine .bind at_any fun _ s₂ _ _ _ => ?_
  refine .bind at_any fun _ s₃ _ _ _ => .pure fun front => ?_
  exact TypeExpr.givenAs_plain keptFor_hole

theorem at_bracketType (hr : r.Keeps whole) : r.bracketType.At whole TypeExpr.GivenAs s := by
  unfold bracketType
  refine .mono (.group (R := fun t given =>
    TypeExpr.GivenAs t (.opening .bracket :: (given ++ [.closing .bracket]))) fun inner => ?_) ?_
  · refine .within fun hwithin => ?_
    refine .bind (hr.type true inner) fun t s₁ typeGiven hpassed ht => ?_
    have hmid := hwithin.passed hpassed
    refine .bind (at_punct? [';']) fun semicolon s₂ semicolonGiven hsemicolon hgiven => ?_
    cases semicolon with
    | true =>
        refine .bind ((hr.leaves.length s₂).beside hmid hsemicolon) fun e s₃ length _ he => .pure ?_
        obtain ⟨hlength, hinside⟩ := he
        rw [hgiven] at hinside ⊢
        have harray := keptFor_array ht.kept (hlength hinside)
        simpa using TypeExpr.givenAs_plain harray
    | false =>
        refine .pure ?_
        rw [hgiven]
        simpa using TypeExpr.givenAs_plain (keptFor_slice ht.kept)
  · rintro t _ ⟨inside, ht, rfl⟩
    exact ht

omit [r.Advances] in
theorem at_pointerMutability : pointerMutability.At whole
    (fun mutable given => given = [.word (if mutable then "mut" else "const")]) s := by
  unfold pointerMutability
  refine .bind (at_word? "const") fun const s₁ _ _ hconst => ?_
  cases const with
  | true => exact .pure (by simp [hconst, maybeWord])
  | false =>
      refine .bind (at_word? "mut") fun mutable s₂ _ _ hmutable => ?_
      cases mutable with
      | true => exact .pure (by simp [hconst, hmutable, maybeWord])
      | false => exact at_failExpected _

theorem at_pointerType (hr : r.Keeps whole) : r.pointerType.At whole TypeExpr.GivenAs s := by
  unfold pointerType
  refine .bind (at_punct ['*']) fun _ s₁ _ _ hstar => ?_
  refine .bind at_pointerMutability fun mutable s₂ _ _ hmutable => ?_
  refine .bind (hr.type false s₂) fun t s₃ given _ ht => .pure (TypeExpr.givenAs_plain ?_)
  rw [hstar, hmutable, List.append_nil]
  exact keptFor_pointer mutable ht.kept

theorem at_referenceType (hr : r.Keeps whole) (hwhole : ∀ a ∈ whole, a.Sound) :
    r.referenceType.At whole TypeExpr.GivenAs s := by
  unfold referenceType
  refine .bind (at_punct ['&']) fun _ s₁ _ _ hand => ?_
  refine .ask fun lifetime _ => ?_
  have hend (region : Option Name) {text : String}
      (htext : ∀ opened, SpellsAnywhere opened text (region.toList.map .lifetime) opened)
      (s : Input) : At whole (fun t more => TypeExpr.GivenAs t
        (.mark '&' :: (region.toList.map .lifetime ++ more))) (do
          let mutable ← spacedWord "mut"
          return .plain (.word ("&" ++ text ++ mutable) ++ (← r.type false).layout)
            : Parser TypeExpr) s := by
    refine .bind (at_spacedWord "mut" (by decide +kernel)) fun words s₁ _ _ hwords => ?_
    obtain ⟨mutable, rfl, hspells⟩ := hwords
    refine .bind (hr.type false s₁) fun t s₂ given _ ht => .pure (TypeExpr.givenAs_plain ?_)
    rw [List.append_nil]
    exact keptFor_reference region mutable htext hspells ht.kept
  split
  · refine .bind (at_soundLifetime hwhole) fun n s₂ _ _ hn => ?_
    have htext (opened : List Delimiter) : SpellsAnywhere opened (lifetimeText n ++ " ")
        ((some n).toList.map .lifetime) opened :=
      (spells_lifetime hn.1 opened).append_of_head (spells_blank opened) rfl (by decide)
    refine (hend (some n) htext s₂).mono fun t more ht => ?_
    simpa [hand, hn.2] using ht
  · refine (hend none spells_empty s₁).mono fun t more ht => ?_
    simpa [hand] using ht

end Rules

/-! ## Types in parentheses -/

/-- Types in parentheses with commas between them. -/
theorem keptFor_tuple {types : List TypeExpr} {parts : List (List Lexeme)} (last : Bool)
    (h : List.Forall₂ TypeExpr.GivenAs types parts) (hlast : parts.length = 1 → last = true) :
    KeptFor .type (.tupled (types.map TypeExpr.layout))
      (.opening .parenthesis :: (listed ',' last parts ++ [.closing .parenthesis])) := by
  intro hprintable
  rw [Doc.printable_tupled] at hprintable
  have hdocs : List.Forall₂ (KeptFor .type) (types.map TypeExpr.layout) parts := by
    rw [List.forall₂_map_left_iff]
    exact h.imp fun _ _ ht => ht.kept
  obtain ⟨said, hprints, hprinted⟩ := exists_of_keptFor hdocs hprintable
  refine ⟨_, (Doc.leads_tupled hprints).prints, ?_⟩
  have htuple := Part.Printed.tuple last hprinted hlast
  rw [hprinted.length_eq] at htuple
  split at htuple <;> rename_i hone <;> simpa [hone] using htuple

theorem keptFor_parenthesised (h : KeptFor .type d given) : KeptFor .type (parenthesised d)
    (.opening .parenthesis :: (given ++ [.closing .parenthesis])) := fun hprintable => by
  simp only [parenthesised, Doc.printable_append, Doc.printable_word, Bool.true_and,
    Bool.and_true] at hprintable
  obtain ⟨said, hprints, hprinted⟩ := h hprintable
  have hall := hprints.enclosed Doc.spells_openingParenthesis Doc.spells_closingParenthesis rfl
    (by decide)
  exact ⟨_, hall.prints, .parenthesised hprinted⟩

/-- What the inside of parentheses is read as goes with the tokens between them. -/
def Rules.Parenthesised.GivenAs (p : Rules.Parenthesised) (given : List Lexeme) : Prop :=
  match p with
  | .done t => t.GivenAs (.opening .parenthesis :: (given ++ [.closing .parenthesis]))
  | .maybeBound d => KeptFor .trait d given
  | .single t => t.GivenAs given

namespace Rules

variable {r : Rules} [r.Advances] {s : Input}

theorem at_parenthesisedInside (hr : r.Keeps whole) (hwhole : ∀ a ∈ whole, a.Sound) :
    r.parenthesisedInside.At whole Parenthesised.GivenAs s := by
  unfold parenthesisedInside
  refine .ask fun done _ => ?_
  split
  · exact .pure (TypeExpr.givenAs_plain (keptFor_tuple false .nil nofun))
  · refine .ask fun lifetime hlifetime => ?_
    split
    · rename_i hyes
      refine .here fun start => ?_
      refine .bind (at_lifetimeType hr hwhole (hlifetime.trans hyes) start true)
        fun bounds s₁ given _ hbounds => .pure (TypeExpr.givenAs_plain ?_)
      rw [List.append_nil]
      exact keptFor_parenthesised hbounds
    · refine .ask fun maybe _ => ?_
      split
      · refine .bind (at_traitBound hr hwhole false) fun d s₁ given _ hd => .pure ?_
        rw [List.append_nil]
        exact hd
      · refine .bind (hr.type true s) fun first s₁ given _ hfirst => ?_
        refine .bind (at_punct? [',']) fun comma s₂ _ _ hcomma => ?_
        cases comma with
        | false =>
            refine .pure ?_
            simpa [hcomma, Parenthesised.GivenAs] using hfirst
        | true =>
            refine .bind (at_commaTerminated (hr.type true)) fun more s₃ _ _ hmore => .pure ?_
            obtain ⟨parts, last, hparts, rfl⟩ := hmore
            cases hparts with
            | nil =>
                have htuple := keptFor_tuple true (.cons hfirst .nil) fun _ => rfl
                simpa [hcomma, listed, Parenthesised.GivenAs] using TypeExpr.givenAs_plain htuple
            | cons hsecond hmore =>
                have htuple := keptFor_tuple last (.cons hfirst (.cons hsecond hmore)) (by simp)
                simpa [hcomma, listed, Parenthesised.GivenAs] using TypeExpr.givenAs_plain htuple

/-- Reads the bounds after a first one in parentheses. -/
def extendedType (r : Rules) (first : Doc) : Parser TypeExpr := do
  let bounds ← collect do
    if ← punct? ['+'] then return some (← r.bound false false).layout else return none
  return ⟨if bounds.isEmpty then .bound first else .other,
    objectLayout (parenthesised first :: bounds)⟩

/-- The tokens of a bound in parentheses: the bound itself, or once more in parentheses, and then a
plus sign follows. -/
def Inside (s : Input) (inner given : List Lexeme) : Prop :=
  given = inner ∨ (given = .opening .parenthesis :: (inner ++ [.closing .parenthesis])
    ∧ Ahead.punct ['+'] s.rest = true)

theorem keptFor_inside {first : Doc} {inner : List Lexeme} (hfirst : KeptFor .trait first inner)
    (hinside : Inside s inner given) : KeptFor .bound (parenthesised first)
      (.opening .parenthesis :: (given ++ [.closing .parenthesis])) := fun hprintable => by
  simp only [parenthesised, Doc.printable_append, Doc.printable_word, Bool.true_and,
    Bool.and_true] at hprintable
  obtain ⟨said, hprints, hprinted⟩ := hfirst hprintable
  have hall := hprints.enclosed Doc.spells_openingParenthesis Doc.spells_closingParenthesis rfl
    (by decide)
  refine ⟨_, hall.prints, ?_⟩
  obtain rfl | ⟨rfl, -⟩ := hinside
  · exact .parenthesisedBound hprinted
  · simpa using Part.Printed.doubledBound hprinted

theorem at_extendedType (hr : r.Keeps whole) (hwhole : ∀ a ∈ whole, a.Sound) {first : Doc}
    {inner : List Lexeme} (hfirst : KeptFor .trait first inner) (hinside : Inside s inner given) :
    (r.extendedType first).At whole (fun t more => TypeExpr.GivenAs t
      (.opening .parenthesis :: (given ++ .closing .parenthesis :: more))) s := by
  unfold extendedType
  refine .bind ((at_collect (R := fun d given => ∃ part, KeptFor .bound d part
    ∧ given = [.mark '+'] ++ part) fun s => ?_).and (.of_result
      (Q := fun bounds => Ahead.punct ['+'] s.rest = true → bounds ≠ []) ?_)) ?_
  · refine .bind (at_punct? ['+']) fun plus s₁ _ _ hplus => ?_
    cases plus with
    | true =>
        refine .bind (at_bound hr hwhole false false) fun b s₂ part _ hb => .pure ?_
        exact ⟨part, hb, by simp [hplus]⟩
    | false => exact .pure (by simpa [Optionally] using hplus)
  · intro bounds after hread hplus
    refine ne_nil_of_collect (fun mid hstep => ?_) hread
    obtain ⟨found, s₁, hfound, hstep⟩ := bind_eq_ok hstep
    obtain rfl := eq_true_of_punct? hplus hfound
    obtain ⟨b, s₂, -, hstep⟩ := bind_eq_ok hstep
    cases hstep
  · rintro bounds s₁ _ _ ⟨⟨parts, hparts, rfl⟩, hplus⟩
    obtain ⟨bare, hbare, hflatten⟩ := forall₂_prefixed hparts
    have hobject := keptFor_bareObject false
      (.inr (.inr (.inr (by rw [listed_cons]; rfl)))) (.cons (keptFor_inside hfirst hinside) hbare)
    refine .pure ⟨?_, ?_, ?_⟩
    · rw [listed_cons] at hobject
      simpa [hflatten] using hobject
    · intro p hform
      dsimp only at hform
      split at hform <;> cases hform
    · intro e hform
      dsimp only at hform
      split at hform
      · rename_i halone
        obtain rfl : bounds = [] := by simpa using halone
        cases hform
        cases hparts
        refine ⟨inner, hfirst, .inr ?_⟩
        obtain rfl | ⟨-, hahead⟩ := hinside
        · simp
        · exact absurd rfl (hplus hahead)
      · cases hform

theorem at_parenthesisedType (hr : r.Keeps whole) (hwhole : ∀ a ∈ whole, a.Sound)
    (allowPlus : Bool) : (r.parenthesisedType allowPlus).At whole TypeExpr.GivenAs s := by
  unfold parenthesisedType
  refine @At.bind _ _ _ _ _ _ _ _ (.group fun inner => at_parenthesisedInside hr hwhole)
    (fun p => ?_) fun p s₁ _ _ hp => ?_
  · cases p with
    | done t => infer_instance
    | maybeBound d => infer_instance
    | single t => exact .andThen fun plus => by split <;> infer_instance
  · obtain ⟨inside, hp, rfl⟩ := hp
    cases p with
    | done t => exact .pure (by simpa [Parenthesised.GivenAs] using hp)
    | maybeBound d =>
        refine (at_extendedType hr hwhole hp (.inl rfl)).mono fun t more ht => ?_
        simpa using ht
    | single t =>
        change t.GivenAs inside at hp
        refine @At.ask _ _ _ _ _ _ fun plus hplus => ?_
        dsimp only
        split
        · rename_i p hform hextends
          obtain ⟨-, rfl⟩ := Bool.and_eq_true_iff.mp hextends
          have hnone : LeadsFor .binder ((none : Option Doc).getD .empty) [] := fun _ =>
            ⟨[], Doc.leads_empty, .noBinder⟩
          have htrait := keptFor_trait hnone false (fun h => by cases h) (hp.path p hform).2
          refine (at_extendedType hr hwhole htrait (.inl rfl)).mono fun t more ht => ?_
          simpa using ht
        · rename_i d hform hextends
          obtain ⟨-, rfl⟩ := Bool.and_eq_true_iff.mp hextends
          obtain ⟨inner, hinner, hgiven⟩ := hp.bound d hform
          refine (at_extendedType hr hwhole hinner (hgiven.imp_right fun h => ⟨h, hplus⟩)).mono
            fun t more ht => ?_
          simpa using ht
        · have ht := TypeExpr.givenAs_plain (keptFor_parenthesised hp.kept)
          exact .pure (by simpa using ht)

end Rules

end Fieldwise.Grammar
