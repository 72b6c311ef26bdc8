import Fieldwise.Proofs.Grammar.Given
import Fieldwise.Proofs.Grammar.Types
import Fieldwise.Proofs.Layout.Documents

set_option autoImplicit false
set_option synthInstance.maxSize 1000000

/-! # What is kept of a path prints the tokens it was read from

A path, an argument or a bound is kept as a document, and the document prints the tokens it was read
from in the way of `Part.Printed` (`Doc.KeptFor`). Each reader of `Grammar/Path.lean` keeps such a
document if the readers of the types, arguments and parameters inside of it do (`Rules.Keeps`). What
is not looked into is assumed to be printed as its own tokens, wherever it stands in the text
(`Rules.PrintsLeaves`): literals, the lengths of arrays, blocks, attributes and invocations.
-/

namespace Fieldwise.Grammar

open Fieldwise.Token Fieldwise.Layout Fieldwise.Grammar.Parser

/-! ## Documents and the tokens they are kept for -/

/-- A document prints a part that is given as these tokens, if it can be printed. -/
def KeptFor (part : Part) (d : Doc) (given : List Lexeme) : Prop :=
  d.printable = true → ∃ said, d.Prints said ∧ part.Printed given said

/-- A document prints a part that is given as these tokens, whatever follows it. -/
def LeadsFor (part : Part) (d : Doc) (given : List Lexeme) : Prop :=
  d.printable = true → ∃ said, d.Leads said ∧ part.Printed given said

variable {whole given more : List Lexeme} {part : Part} {d e : Doc}

theorem keptFor_hole : KeptFor part .hole given := fun h => by cases h

/-- Documents that are kept for the items of a list print the items. -/
theorem exists_of_keptFor {docs : List Doc} {parts : List (List Lexeme)}
    (h : List.Forall₂ (KeptFor part) docs parts) (hprintable : docs.all Doc.printable = true) :
    ∃ said, List.Forall₂ Doc.Prints docs said ∧ List.Forall₂ part.Printed parts said := by
  induction h with
  | nil => exact ⟨[], .nil, .nil⟩
  | cons hd _ ih =>
      rw [List.all_cons, Bool.and_eq_true] at hprintable
      obtain ⟨item, hprints, hprinted⟩ := hd hprintable.1
      obtain ⟨items, hall, hallPrinted⟩ := ih hprintable.2
      exact ⟨item :: items, .cons hprints hall, .cons hprinted hallPrinted⟩

/-! ## Paths -/

/-- What was read of a name with its arguments goes with tokens that begin with the name: it prints
them, and without arguments they are the name alone, or the name and brackets around none. -/
structure Segment.GivenAs (s : Segment) (given : List Lexeme) : Prop where
  name : s.name.Lexical
  head : given.head? = some (.name s.name)
  kept : KeptFor .segment (s.layout false) given
  absent : s.arguments.isAbsent = true → given = [.name s.name]
  empty : s.arguments.isEmpty = true →
    ∃ brackets, given = .name s.name :: emptyBrackets brackets

/-- What was read of a path goes with the tokens of its names, of which there are some. -/
def Path.GivenAs (p : Path) (given : List Lexeme) : Prop :=
  p.segments ≠ [] ∧ ∃ parts, List.Forall₂ Segment.GivenAs p.segments parts
    ∧ given = maybeColons p.leading ++ colons.intercalate parts

/-- The tokens of a path without arguments. -/
def Path.names (p : Path) : List Lexeme :=
  maybeColons p.leading ++ colons.intercalate (p.segments.map fun s => [.name s.name])

/-- **A path of names alone is given as its names.** -/
theorem Path.GivenAs.eq_names {p : Path} (h : p.GivenAs given) (hplain : p.isPlain = true) :
    given = p.names := by
  obtain ⟨leading, segments⟩ := p
  obtain ⟨-, parts, hparts, rfl⟩ := h
  have habsent : ∀ s ∈ segments, s.arguments.isAbsent = true := List.all_eq_true.mp hplain
  have hsame : parts = segments.map fun s => [.name s.name] := by
    change List.Forall₂ Segment.GivenAs segments parts at hparts
    clear hplain
    induction hparts with
    | nil => rfl
    | cons hfirst _ ih =>
        obtain ⟨hs, hmore⟩ := List.forall_mem_cons.mp habsent
        rw [List.map_cons, ← ih hmore, hfirst.absent hs]
  rw [hsame]
  rfl

theorem spells_colons (opened : List Delimiter) : SpellsAnywhere opened "::" colons opened :=
  fun _ _ _ hread => (hread.mark (by decide)).mark (by decide)

theorem leads_maybeColons (leading : Bool) :
    (if leading then Doc.word "::" else .empty).Leads (maybeColons leading) := by
  cases leading with
  | true => exact Doc.leads_word spells_colons
  | false => exact Doc.leads_empty

/-- Names are printed with colons between them, each with its arguments. -/
theorem Segment.prints_separated {segments : List Segment} {parts : List (List Lexeme)}
    (h : List.Forall₂ Segment.GivenAs segments parts)
    (hprintable : (Doc.separated (.word "::")
      (segments.map fun s => s.layout false)).printable = true) :
    ∃ said, (Doc.separated (.word "::") (segments.map fun s => s.layout false)).Prints
      (colons.intercalate said) ∧ List.Forall₂ Part.segment.Printed parts said := by
  have hkept : List.Forall₂ (KeptFor .segment) (segments.map fun s => s.layout false) parts := by
    rw [List.forall₂_map_left_iff]
    exact h.imp fun _ _ hs => hs.kept
  rw [Doc.printable_separated rfl] at hprintable
  obtain ⟨said, hprints, hprinted⟩ := exists_of_keptFor hkept hprintable
  exact ⟨said, Doc.prints_separated spells_colons rfl (by decide) hprints, hprinted⟩

/-- A path is printed as its names. -/
theorem Path.GivenAs.keptFor {p : Path} (h : p.GivenAs given) :
    KeptFor .path (p.layout false) given := fun hprintable => by
  obtain ⟨leading, segments⟩ := p
  obtain ⟨-, parts, hparts, rfl⟩ := h
  rw [Path.layout, Doc.printable_append, Bool.and_eq_true] at hprintable
  obtain ⟨said, hprints, hprinted⟩ := Segment.prints_separated hparts hprintable.2
  exact ⟨_, (leads_maybeColons leading).append_prints hprints, .path leading hprinted⟩

/-! ## Generic arguments -/

/-- The document that an argument is kept as. -/
def GenericArgument.layout : GenericArgument → Doc
  | .lifetime d | .other d => d

/-- Whether an argument is a lifetime. -/
def GenericArgument.isLifetime : GenericArgument → Bool
  | .lifetime _ => true
  | .other _ => false

/-- What was read of an argument goes with tokens that its document prints. -/
def GenericArgument.GivenAs (a : GenericArgument) (given : List Lexeme) : Prop :=
  KeptFor (.argument a.isLifetime) a.layout given

/-- Arguments are printed by their documents, each as an argument of its kind. -/
theorem exists_printedArguments {items : List GenericArgument} {parts : List (List Lexeme)}
    (h : List.Forall₂ GenericArgument.GivenAs items parts) {lifetimes others : List Doc}
    (hcollect : GenericArgument.collect items = .angle lifetimes others)
    (hlifetimes : lifetimes.all Doc.printable = true)
    (hothers : others.all Doc.printable = true) :
    ∃ printed : List PrintedArgument,
      List.Forall₂ (fun g i => (Part.argument i.isLifetime).Printed g i.said) parts printed
      ∧ List.Forall₂ Doc.Prints lifetimes
        ((printed.filter PrintedArgument.isLifetime).map PrintedArgument.said)
      ∧ List.Forall₂ Doc.Prints others
        ((printed.filter fun i => !i.isLifetime).map PrintedArgument.said) := by
  induction h generalizing lifetimes others with
  | nil =>
      cases hcollect
      exact ⟨[], .nil, .nil, .nil⟩
  | @cons a part _ _ ha _ ih =>
      cases a with
      | lifetime d =>
          cases hcollect
          simp only [List.filterMap_cons, List.all_cons, Bool.and_eq_true] at hlifetimes
          obtain ⟨said, hprints, hprinted⟩ := ha hlifetimes.1
          obtain ⟨printed, hall, hfirst, hmore⟩ := ih rfl hlifetimes.2 hothers
          exact ⟨⟨true, said⟩ :: printed, .cons hprinted hall, .cons hprints hfirst, hmore⟩
      | other d =>
          cases hcollect
          simp only [List.filterMap_cons, List.all_cons, Bool.and_eq_true] at hothers
          obtain ⟨said, hprints, hprinted⟩ := ha hothers.1
          obtain ⟨printed, hall, hfirst, hmore⟩ := ih rfl hlifetimes hothers.2
          exact ⟨⟨false, said⟩ :: printed, .cons hprinted hall, hfirst, .cons hprints hmore⟩

/-- A name alone. -/
theorem prints_name {n : Name} (hn : n.Lexical) : (Doc.word n.written).Prints [.name n] :=
  Doc.prints_word fun opened => (spells_name hn opened).of_names

/-- A name without arguments. -/
theorem Segment.givenAs_none {n : Name} (hn : n.Lexical) :
    Segment.GivenAs ⟨n, .none⟩ [.name n] where
  name := hn
  head := rfl
  kept _ := ⟨[.name n], prints_name hn, .name n⟩
  absent _ := rfl
  empty _ := ⟨none, rfl⟩

/-- Names without arguments are printed as they are given. -/
theorem Segment.prints_plain {segments : List Segment} {parts : List (List Lexeme)}
    (h : List.Forall₂ Segment.GivenAs segments parts)
    (habsent : ∀ s ∈ segments, s.arguments.isAbsent = true) :
    List.Forall₂ Doc.Prints (segments.map fun s => s.layout false) parts
      ∧ List.Forall₂ Part.segment.Printed parts parts := by
  induction h with
  | nil => exact ⟨.nil, .nil⟩
  | @cons s _ _ _ hfirst _ ih =>
      obtain ⟨hs, hmore⟩ := List.forall_mem_cons.mp habsent
      obtain ⟨hprints, hprinted⟩ := ih hmore
      obtain rfl := hfirst.absent hs
      have hname : (s.layout false).Prints [.name s.name] := by
        obtain ⟨n, arguments⟩ := s
        cases arguments with
        | none => exact prints_name hfirst.name
        | angle | call => cases hs
      exact ⟨.cons hname hprints, .cons (.name s.name) hprinted⟩

/-- **A path of names alone is printed as it was given.** -/
theorem Path.GivenAs.prints_plain {p : Path} (h : p.GivenAs given) (hplain : p.isPlain = true) :
    (p.layout false).Prints given ∧ Part.path.Printed given given := by
  obtain ⟨leading, segments⟩ := p
  obtain ⟨-, parts, hparts, rfl⟩ := h
  obtain ⟨hprints, hprinted⟩ := Segment.prints_plain hparts (List.all_eq_true.mp hplain)
  exact ⟨(leads_maybeColons leading).append_prints
    (Doc.prints_separated spells_colons rfl (by decide) hprints), .path leading hprinted⟩

theorem printable_angle (lifetimes others : List Doc) :
    ((Arguments.angle lifetimes others).layout false).printable
      = (lifetimes.all Doc.printable && others.all Doc.printable) := by
  rw [Arguments.layout]
  split
  · rename_i hempty
    obtain ⟨rfl, rfl⟩ : lifetimes = [] ∧ others = [] := by simpa using hempty
    rfl
  · rw [Doc.printable_bracketed, List.all_append]

/-- Arguments in angle brackets are printed with lifetimes first. -/
theorem leads_angle {lifetimes others : List Doc} {printed : List PrintedArgument}
    (hlifetimes : List.Forall₂ Doc.Prints lifetimes
      ((printed.filter PrintedArgument.isLifetime).map PrintedArgument.said))
    (hothers : List.Forall₂ Doc.Prints others
      ((printed.filter fun i => !i.isLifetime).map PrintedArgument.said)) :
    ((Arguments.angle lifetimes others).layout false).Leads (angled printed)
      ∧ ((Arguments.angle lifetimes others).layout false).Starts := by
  have hempty : (lifetimes.isEmpty && others.isEmpty) = printed.isEmpty := by
    cases printed with
    | nil =>
        cases hlifetimes
        cases hothers
        rfl
    | cons i printed =>
        cases hi : i.isLifetime
        · simp only [List.filter_cons, hi] at hothers
          cases hothers
          simp
        · simp only [List.filter_cons, hi] at hlifetimes
          cases hlifetimes
          simp
  rw [Arguments.layout, hempty, angled]
  split
  · exact ⟨Doc.leads_empty, Doc.starts_empty⟩
  · exact ⟨Doc.leads_bracketed encloses_angle (List.rel_append hlifetimes hothers),
      (Doc.heads_bracketed (by decide) rfl _ _).starts⟩

/-- A name with arguments in angle brackets is printed with lifetimes first. -/
theorem Segment.givenAs_angle {n : Name} (hn : n.Lexical) {items : List GenericArgument}
    {parts : List (List Lexeme)} (h : List.Forall₂ GenericArgument.GivenAs items parts)
    (before last : Bool) : Segment.GivenAs ⟨n, GenericArgument.collect items⟩
      (.name n :: (maybeColons before ++ .mark '<' :: (listed ',' last parts ++ [.mark '>']))) where
  name := hn
  head := rfl
  kept hprintable := by
    obtain ⟨lifetimes, others, hcollect⟩ :
      ∃ lifetimes others, GenericArgument.collect items = .angle lifetimes others := ⟨_, _, rfl⟩
    rw [hcollect] at hprintable ⊢
    rw [Segment.layout, Doc.printable_append, Doc.printable_word, Bool.true_and, printable_angle,
      Bool.and_eq_true] at hprintable
    obtain ⟨printed, hprinted, hfirst, hmore⟩ :=
      exists_printedArguments h hcollect hprintable.1 hprintable.2
    obtain ⟨hleads, hstarts⟩ := leads_angle hfirst hmore
    exact ⟨_, (prints_name hn).append hleads.prints hstarts, .angle n before last hprinted⟩
  absent h := by cases h
  empty hempty := by
    cases h with
    | nil => exact ⟨some before, rfl⟩
    | @cons a _ _ _ _ _ => cases a <;> simp [GenericArgument.collect, Arguments.isEmpty] at hempty

/-! ## What the rules keep -/

/-- The parts of a type that are not looked into are printed as the tokens they are read from,
where these stand in a whole text: a literal, the length of an array after its semicolon, a block,
attributes, and the invocation of a rule set. -/
structure Rules.PrintsLeaves (r : Rules) (whole : List Lexeme) : Prop where
  literal : ∀ l, Lexeme.literal l ∈ whole → l.kind ≠ .unwritten →
    ∀ opened, Spells PartsWords opened l.text [.literal l] opened
  length : ∀ s, (r.expr true).At whole
    (fun e given => .mark ';' :: given <:+: whole → KeptFor .value e.layout given) s
  block : ∀ s, r.block.At whole (fun b given => KeptFor .value (Expr.block none b).layout given) s
  attributes : ∀ s, r.outerAttributes.At whole (fun attributes given => given ≠ [] →
    LeadsFor .value (Attribute.layoutAll false attributes) given) s
  invocation : ∀ (path : Path) (d : Delimiter) (content : List Tree), path.isPlain = true →
    path.names ++ .mark '!' :: .opening d :: (Tree.lexemesAll content ++ [.closing d]) <:+: whole →
      KeptFor .value (invocationLayout (path.layout false) none d content)
        (path.names ++ .mark '!' :: .opening d :: (Tree.lexemesAll content ++ [.closing d]))

/-- What was read of a type goes with tokens: it prints them, and so does a path or a bound that it
is by itself. -/
structure TypeExpr.GivenAs (t : TypeExpr) (given : List Lexeme) : Prop where
  kept : KeptFor .type t.layout given
  path : ∀ p, t.form = .path p → t.layout = p.layout false ∧ p.GivenAs given
  bound : ∀ d, t.form = .bound d → ∃ inner, KeptFor .trait d inner
    ∧ (given = inner ∨ given = .opening .parenthesis :: (inner ++ [.closing .parenthesis]))

/-- What a binder binds goes with tokens, of which there are none without one. -/
structure BinderGivenAs (binder : Option Doc) (given : List Lexeme) : Prop where
  leads : LeadsFor .binder (binder.getD .empty) given
  none : binder = none → given = []
  some : binder.isSome = true →
    ∃ bound, given = .word "for" :: .mark '<' :: (bound ++ [.mark '>'])

/-- The rules inside of a type keep documents that print what they are read from. -/
structure Rules.Keeps (r : Rules) (whole : List Lexeme) : Prop where
  leaves : r.PrintsLeaves whole
  type : ∀ allowPlus s, (r.type allowPlus).At whole TypeExpr.GivenAs s
  argument : ∀ s, r.argument.At whole GenericArgument.GivenAs s
  binder : ∀ s, r.binder.At whole BinderGivenAs s

namespace Rules

variable {r : Rules} [r.Advances] {s : Input}

theorem at_angleArguments (hr : r.Keeps whole) : r.angleArguments.At whole
    (fun arguments given => ∃ items parts last, List.Forall₂ GenericArgument.GivenAs items parts
      ∧ arguments = GenericArgument.collect items
      ∧ given = .mark '<' :: (listed ',' last parts ++ [.mark '>'])) s := by
  unfold angleArguments
  refine .bind (at_punct ['<']) fun _ s₁ _ _ hopen => ?_
  refine .bind (at_separatedBefore ',' hr.argument) fun items s₂ _ _ hitems => ?_
  refine .bind (at_punct ['>']) fun _ s₃ _ _ hclose => .pure ?_
  obtain ⟨parts, last, hparts, rfl⟩ := hitems
  exact ⟨items, parts, last, hparts, rfl, by simp [hopen, hclose]⟩

section Names

variable (hwhole : ∀ a ∈ whole, a.Sound)
include hwhole

/-- A name that is read is one that source text can hold. -/
theorem at_soundName : anyName.At whole (fun n given => n.Lexical ∧ given = [.name n]) s :=
  at_anyName.inside.mono fun n _ ⟨hgiven, hinside⟩ => by
    subst hgiven
    exact ⟨hwhole (.name n) (hinside.subset (List.mem_singleton_self _)), rfl⟩

theorem at_soundIdentifier :
    identifier.At whole (fun n given => n.Lexical ∧ given = [.name n]) s :=
  at_identifier.inside.mono fun n _ ⟨hgiven, hinside⟩ => by
    subst hgiven
    exact ⟨hwhole (.name n) (hinside.subset (List.mem_singleton_self _)), rfl⟩

theorem at_soundLifetime :
    lifetime.At whole (fun n given => n.Lexical ∧ given = [.lifetime n]) s :=
  at_lifetime.inside.mono fun n _ ⟨hgiven, hinside⟩ => by
    subst hgiven
    exact ⟨hwhole (.lifetime n) (hinside.subset (List.mem_singleton_self _)), rfl⟩

end Names

theorem at_segmentAfter (hr : r.Keeps whole) {n : Name} (hn : n.Lexical) :
    (r.segmentAfter n).At whole (fun g given => g.GivenAs (.name n :: given)) s := by
  unfold segmentAfter
  refine .ask fun angle _ => ?_
  split
  · refine .bind (at_punct? [':', ':']) fun before s₁ _ _ hbefore => ?_
    refine .bind (at_angleArguments hr) fun arguments s₂ _ _ harguments => .pure ?_
    obtain ⟨items, parts, last, hparts, rfl, rfl⟩ := harguments
    rw [hbefore, List.append_nil]
    exact Segment.givenAs_angle hn hparts before last
  · exact .pure (Segment.givenAs_none hn)

theorem at_segment (hr : r.Keeps whole) (hwhole : ∀ a ∈ whole, a.Sound) :
    (r.segment false).At whole Segment.GivenAs s := by
  unfold segment
  refine .ask fun word _ => ?_
  split
  · refine .bind (at_soundName hwhole) fun n s₁ _ _ hn => .pure ?_
    rw [hn.2]
    exact Segment.givenAs_none hn.1
  · refine .ask fun self _ => ?_
    split
    · refine .bind (at_soundName hwhole) fun n s₁ _ _ hn => ?_
      rw [hn.2]
      exact at_segmentAfter hr hn.1
    · refine .bind (at_soundIdentifier hwhole) fun n s₁ _ _ hn => ?_
      rw [hn.2]
      exact at_segmentAfter hr hn.1

theorem at_moreSegments (hr : r.Keeps whole) (hwhole : ∀ a ∈ whole, a.Sound) :
    (r.moreSegments false).At whole (fun segments given => ∃ parts,
      List.Forall₂ Segment.GivenAs segments parts ∧ given = parts.flatMap (colons ++ ·)) s := by
  unfold moreSegments
  refine (at_collect (R := fun g given => ∃ part, g.GivenAs part ∧ given = colons ++ part)
    fun s => ?_).mono ?_
  · refine .ask fun more _ => ?_
    split
    · refine .bind (at_punct [':', ':']) fun _ s₁ _ _ hcolons => ?_
      refine .bind (at_segment hr hwhole) fun g s₂ part _ hg => .pure ⟨part, hg, ?_⟩
      simp [hcolons, colons]
    · exact .pure rfl
  · rintro segments _ ⟨parts, hparts, rfl⟩
    exact forall₂_prefixed hparts

theorem at_path (hr : r.Keeps whole) (hwhole : ∀ a ∈ whole, a.Sound) :
    (r.path false).At whole Path.GivenAs s := by
  unfold path
  refine .bind (at_punct? [':', ':']) fun leading s₁ _ _ hleading => ?_
  refine .bind (at_segment hr hwhole) fun first s₂ part _ hfirst => ?_
  refine .bind (at_moreSegments hr hwhole) fun more s₃ _ _ hmore => .pure ?_
  obtain ⟨parts, hparts, rfl⟩ := hmore
  refine ⟨nofun, part :: parts, .cons hfirst hparts, ?_⟩
  rw [hleading, Doc.intercalate_cons_flatMap, List.append_nil]
  rfl

end Rules

theorem trimmed_self (said : List Lexeme) : Trimmed said said := by
  simpa using Trimmed.nil.append said

theorem spells_lifetime {n : Name} (hn : n.Lexical) (opened : List Delimiter) :
    Spells PartsNames opened (lifetimeText n) [.lifetime n] opened := fun _ _ hbegins hread => by
  have hlifetime := hread.lifetime hn hbegins
  rw [lifetimeText, String.toList_append]
  exact hlifetime

/-- A word and a blank. -/
theorem spells_wordBlank {w : String} (hw : (Name.plain w).Lexical) (opened : List Delimiter) :
    SpellsAnywhere opened (w ++ " ") [.word w] opened := spells_nameBlank hw opened

theorem prints_lifetime {n : Name} (hn : n.Lexical) :
    (Doc.word (lifetimeText n)).Prints [.lifetime n] :=
  Doc.prints_word fun opened => (spells_lifetime hn opened).of_names

/-! ## Calls -/

theorem spells_arrow (opened : List Delimiter) :
    SpellsAnywhere opened " -> " [.mark '-', .mark '>'] opened := fun _ _ _ hread =>
  (((hread.blank (.inl rfl)).mark (by decide)).mark (by decide)).blank (.inl rfl)

theorem printable_callLayout (inputs : List Doc) (result : Doc) :
    (callLayout inputs result).printable = (inputs.all Doc.printable && result.printable) := by
  have hlast : Doc.lastComma.printable = true := rfl
  simp [callLayout, Doc.zeroGap, Doc.printable_commaItems hlast]

/-- Argument types in parentheses, and a result. -/
theorem prints_callLayout {inputs : List Doc} {result : Doc} {items : List (List Lexeme)}
    {after : List Lexeme} (hinputs : List.Forall₂ Doc.Prints inputs items)
    (hresult : result.Prints after) :
    (callLayout inputs result).Prints
      (.opening .parenthesis :: (commas items ++ .closing .parenthesis :: after))
      ∧ (callLayout inputs result).Starts := by
  have hall := (Doc.leads_items encloses_parenthesis hinputs).append_prints hresult
  have hheads : (Doc.word "(" ++ (Doc.zeroGap ++ .commaItems .lastComma inputs).outdentLast
      ++ .word ")" ++ result).Heads :=
    (((Doc.heads_word (by decide) rfl).append _).append _).append _
  have hprints := hall.group .consistent indentStep
  simp only [List.cons_append, List.append_assoc] at hprints
  exact ⟨hprints, Doc.starts_group hheads.starts hall.solid .consistent indentStep⟩

/-- A name with argument types in parentheses. -/
theorem Segment.givenAs_call {n : Name} (hn : n.Lexical) {inputs : List TypeExpr}
    {parts : List (List Lexeme)} (hinputs : List.Forall₂ TypeExpr.GivenAs inputs parts)
    {result : Option TypeExpr} {after : List Lexeme}
    (hresult : KeptFor .result (resultLayout result) after) (brackets : Option Bool)
    (before last : Bool) :
    Segment.GivenAs ⟨n, .call (callLayout (inputs.map TypeExpr.layout) (resultLayout result))⟩
      (.name n :: (emptyBrackets brackets ++ (maybeColons before ++ .opening .parenthesis
        :: (listed ',' last parts ++ .closing .parenthesis :: after)))) where
  name := hn
  head := rfl
  kept hprintable := by
    rw [Segment.layout, Doc.printable_append, Doc.printable_word, Bool.true_and, Arguments.layout,
      printable_callLayout, Bool.and_eq_true] at hprintable
    have hdocs : List.Forall₂ (KeptFor .type) (inputs.map TypeExpr.layout) parts := by
      rw [List.forall₂_map_left_iff]
      exact hinputs.imp fun _ _ ht => ht.kept
    obtain ⟨items, hitems, hprinted⟩ := exists_of_keptFor hdocs hprintable.1
    obtain ⟨said, hsaid, hresult⟩ := hresult hprintable.2
    obtain ⟨hprints, hstarts⟩ := prints_callLayout hitems hsaid
    exact ⟨_, (prints_name hn).append hprints hstarts,
      .call n brackets before last hprinted hresult⟩
  absent h := by cases h
  empty h := by cases h

/-! ## Values -/

/-- What a literal is read from: its token, perhaps after a minus sign, or a truth value. -/
inductive LiteralGiven : Expr → List Lexeme → Prop
  | token (l : Literal) : LiteralGiven (literalExpr l) [.literal l]
  | negative (l : Literal) (hwritten : l.kind ≠ .unwritten) :
      LiteralGiven (.plain (literalKind l.kind) (.word ("-" ++ l.text))) [.mark '-', .literal l]
  | truth (n : Name) : LiteralGiven (.plain .scalar (.word n.written)) [.name n]

theorem at_literal {s : Input} : literal.At whole LiteralGiven s := by
  unfold literal
  refine .get ?_
  split
  · rename_i l p rest hrest
    refine .bind (at_skip 1) fun _ mid _ _ hgiven => .pure ?_
    simp only [hgiven, hrest, List.take_succ_cons, List.take_zero]
    exact .token l
  · rename_i joint p l p' rest hrest
    refine .ask fun ahead hahead => ?_
    split
    · refine .bind (at_skip 2) fun _ mid _ _ hgiven => .pure ?_
      simp only [hgiven, hrest, List.take_succ_cons, List.take_zero]
      refine .negative l fun hkind => ?_
      obtain ⟨kind, text⟩ := l
      cases hkind
      rw [hrest] at hahead
      simp_all [Ahead.literal]
    · exact at_failHere _
  · rename_i n p rest hrest
    refine .ask fun ahead _ => ?_
    split
    · refine .bind (at_skip 1) fun _ mid _ _ hgiven => .pure ?_
      simp only [hgiven, hrest, List.take_succ_cons, List.take_zero]
      exact .truth n
    · exact at_failHere _
  · exact at_failHere _

/-- A literal is printed as itself. -/
theorem LiteralGiven.keptFor {r : Rules} (hr : r.PrintsLeaves whole)
    (hwhole : ∀ a ∈ whole, a.Sound) {e : Expr} (h : LiteralGiven e given)
    (hinside : ∀ a ∈ given, a ∈ whole) : KeptFor .value e.layout given := fun hprintable => by
  cases h with
  | token l =>
      by_cases hkind : l.kind = .unwritten
      · simp [literalExpr, Expr.plain, hkind, Doc.printable] at hprintable
      · simp only [literalExpr, Expr.plain, if_neg hkind]
        exact ⟨_, Doc.prints_word (hr.literal l (hinside _ (by simp)) hkind),
          .value (trimmed_self _)⟩
  | negative l hwritten =>
      have hspells := hr.literal l (hinside _ (by simp)) hwritten
      have hminus (opened : List Delimiter) :
          Spells PartsWords opened ("-" ++ l.text) [.mark '-', .literal l] opened :=
        (spells_mark (c := '-') (by decide) opened).append (hspells opened) fun _ _ =>
          begins_any _
      exact ⟨_, Doc.prints_word hminus, .value (trimmed_self _)⟩
  | truth n =>
      have hn : n.Lexical := hwhole (.name n) (hinside _ (by simp))
      exact ⟨_, prints_name hn, .value (trimmed_self _)⟩

namespace Rules

variable {r : Rules} [r.Advances] {s : Input}

omit [r.Advances] in
theorem at_constantArgument (hr : r.PrintsLeaves whole) (hwhole : ∀ a ∈ whole, a.Sound) :
    r.constantArgument.At whole (KeptFor .value) s := by
  unfold constantArgument
  refine .ask fun literal _ => ?_
  split
  · refine .bind at_literal.inside fun e s₁ _ _ he => .pure ?_
    rw [List.append_nil]
    exact he.1.keptFor hr hwhole fun a ha => he.2.subset ha
  · refine .ask fun name _ => ?_
    split
    · refine .bind (at_soundIdentifier hwhole) fun n s₁ _ _ hn => .pure fun _ => ?_
      rw [hn.2]
      exact ⟨_, prints_name hn.1, .value (trimmed_self _)⟩
    · refine .ask fun block _ => ?_
      split
      · refine .bind (hr.block s) fun b s₁ _ _ hb => .pure ?_
        rwa [List.append_nil]
      · exact at_failExpected _

theorem at_resultType (hr : r.Keeps whole) (allowPlus : Bool) : (r.resultType allowPlus).At whole
    (fun result given => KeptFor .result (resultLayout result) given) s := by
  unfold resultType
  refine .bind (at_punct? ['-', '>']) fun arrow s₁ _ _ harrow => ?_
  split
  · refine .bind (hr.type allowPlus s₁) fun t s₂ _ _ ht => .pure fun hprintable => ?_
    rw [resultLayout, Doc.printable_append, Doc.printable_word, Bool.true_and] at hprintable
    obtain ⟨said, hprints, hprinted⟩ := ht.kept hprintable
    refine ⟨_, (Doc.leads_word spells_arrow).append_prints hprints, ?_⟩
    simpa [*] using Part.Printed.result hprinted
  · refine .pure fun _ => ⟨_, Doc.prints_empty, ?_⟩
    simpa [*] using Part.Printed.noResult

theorem at_callArguments (hr : r.Keeps whole) : r.callArguments.At whole
    (fun arguments given => ∃ inputs parts last result after,
      List.Forall₂ TypeExpr.GivenAs inputs parts
        ∧ KeptFor .result (resultLayout result) after
        ∧ arguments = .call (callLayout (inputs.map TypeExpr.layout) (resultLayout result))
        ∧ given = .opening .parenthesis
          :: (listed ',' last parts ++ .closing .parenthesis :: after)) s := by
  unfold callArguments
  refine .bind (.group fun inner => at_commaTerminated (hr.type true))
    fun inputs s₁ _ _ hinputs => ?_
  refine .bind (at_resultType hr false) fun result s₂ after _ hresult => .pure ?_
  obtain ⟨_, ⟨parts, last, hparts, rfl⟩, rfl⟩ := hinputs
  exact ⟨inputs, parts, last, result, after, hparts, hresult, rfl, by simp⟩

end Rules

/-! ## Qualified paths -/

/-- What was read of a path that may begin with a type goes with tokens, the first of which says
whether it does. -/
structure QualifiedPath.GivenAs (q : QualifiedPath) (given : List Lexeme) : Prop where
  kept : KeptFor .path (q.layout false) given
  path : q.qualifier = none → q.path.GivenAs given
  head : q.qualifier.isSome = true → given.head? = some (.mark '<')

theorem spells_as (opened : List Delimiter) : SpellsAnywhere opened " as " [.word "as"] opened :=
  fun _ _ hbegins hread =>
    (spells_wordBlank (w := "as") (by decide +kernel) opened hbegins hread).blank (.inl rfl)

theorem spells_angleColons (opened : List Delimiter) :
    SpellsAnywhere opened ">::" (.mark '>' :: colons) opened := fun _ _ _ hread =>
  (spells_colons opened (begins_any _) hread).mark (by decide)

namespace Rules

variable {r : Rules} [r.Advances] {s : Input}

theorem at_collectSegments (hr : r.Keeps whole) (hwhole : ∀ a ∈ whole, a.Sound) :
    (qualifiedPath.collectSegments r false).At whole (fun segments given => ∃ parts,
      List.Forall₂ Segment.GivenAs segments parts ∧ given = colons.intercalate parts) s := by
  unfold qualifiedPath.collectSegments
  refine .bind (R := fun found given => (∃ parts,
      List.Forall₂ Segment.GivenAs found.1.reverse parts
        ∧ given = if found.2 then parts.flatMap (· ++ colons) else colons.intercalate parts)
      ∧ found.2 = false) (.stopped ?_ ?_ (at_iterate ?_ ⟨[], .nil, rfl⟩)) ?_
  · rintro ⟨segments, more⟩ s after h
    cases more with
    | false => rfl
    | true =>
        obtain ⟨_, _, _, h⟩ := bind_eq_ok h
        obtain ⟨_, _, _, h⟩ := bind_eq_ok h
        cases h
  · rintro ⟨segments, more⟩ s
    cases more with
    | false => exact .pure rfl
    | true =>
        refine .bind (at_segment hr hwhole) fun g s₁ part _ hg => ?_
        refine .bind (at_punct? [':', ':']) fun more s₂ _ _ _ => .pure fun hnil => ?_
        have hhead := hg.head
        simp_all
  · rintro ⟨segments, more⟩ given s ⟨parts, hparts, rfl⟩
    cases more with
    | false => exact .pure rfl
    | true =>
        refine .bind (at_segment hr hwhole) fun g s₁ part _ hg => ?_
        refine .bind (at_punct? [':', ':']) fun more s₂ _ _ hmore => .pure ⟨parts ++ [part], ?_, ?_⟩
        · simpa using List.rel_append hparts (.cons hg .nil)
        · have hlast := Doc.flatMap_append_intercalate colons parts part
          cases more <;> simp_all [colons]
  · rintro ⟨segments, more⟩ mid _ _ ⟨⟨parts, hparts, rfl⟩, hmore⟩
    obtain rfl : more = false := hmore
    exact .pure ⟨parts, hparts, by simp⟩

/-- A path that begins with a type in angle brackets. -/
theorem QualifiedPath.givenAs_qualified {self : TypeExpr} {selfGiven : List Lexeme}
    (hself : self.GivenAs selfGiven) {trait : Doc} {traitGiven : List Lexeme}
    (htrait : KeptFor .cast trait traitGiven) (hstarts : trait.Starts) {segments : List Segment}
    {parts : List (List Lexeme)} (hparts : List.Forall₂ Segment.GivenAs segments parts) :
    QualifiedPath.GivenAs
      ⟨some (.word "<" ++ self.layout ++ trait ++ .word ">::"), ⟨false, segments⟩⟩
      (.mark '<' :: (selfGiven ++ (traitGiven ++ .mark '>' :: (colons
        ++ colons.intercalate parts)))) where
  kept hprintable := by
    simp only [QualifiedPath.layout, Path.layout, Doc.printable_append, Doc.printable_word,
      Bool.true_and, Bool.and_true, Bool.and_eq_true] at hprintable
    obtain ⟨⟨hselfPrintable, htraitPrintable⟩, -, hnames⟩ := hprintable
    obtain ⟨self', hself, hselfPrinted⟩ := hself.kept hselfPrintable
    obtain ⟨trait', htrait, htraitPrinted⟩ := htrait htraitPrintable
    obtain ⟨said, hsaid, hprinted⟩ := Segment.prints_separated hparts hnames
    have hopening := Doc.leads_word (spells_mark (c := '<') (by decide))
    have hclosing := Doc.leads_word spells_angleColons
    have hqualifier := ((hopening.append_prints hself).append htrait hstarts).append_leads hclosing
      (Doc.heads_word (by decide) rfl)
    have hall := hqualifier.append_prints ((leads_maybeColons false).append_prints hsaid)
    refine ⟨_, hall, ?_⟩
    simpa [maybeColons] using Part.Printed.qualified hselfPrinted htraitPrinted hprinted
  path h := by cases h
  head _ := rfl

theorem at_qualifiedPath (hr : r.Keeps whole) (hwhole : ∀ a ∈ whole, a.Sound) :
    (r.qualifiedPath false).At whole QualifiedPath.GivenAs s := by
  unfold qualifiedPath
  refine .bind (at_punct? ['<']) fun angle s₁ _ _ hangle => ?_
  split
  · rename_i hyes
    rw [hangle, if_pos hyes]
    refine .bind (hr.type true s₁) fun self s₂ selfGiven _ hself => ?_
    refine .bind (at_word? "as") fun as s₃ _ _ has => ?_
    have hafter {trait : Doc} {traitGiven : List Lexeme} (htrait : KeptFor .cast trait traitGiven)
        (hstarts : trait.Starts) (s : Input) : At whole
          (fun q more => QualifiedPath.GivenAs q
            (.mark '<' :: (selfGiven ++ (traitGiven ++ more)))) (do
          punct ['>']
          punct [':', ':']
          let segments ← qualifiedPath.collectSegments r false
          return ⟨some (.word "<" ++ self.layout ++ trait ++ .word ">::"),
            ⟨false, segments⟩⟩) s := by
      refine .bind (at_punct ['>']) fun _ s₁ _ _ hclose => ?_
      refine .bind (at_punct [':', ':']) fun _ s₂ _ _ hcolons => ?_
      refine .bind (at_collectSegments hr hwhole) fun segments s₃ _ _ hsegments => .pure ?_
      obtain ⟨parts, hparts, rfl⟩ := hsegments
      have hall := QualifiedPath.givenAs_qualified hself htrait hstarts hparts
      simpa [hclose, hcolons, colons] using hall
    split
    · rename_i hyes
      rw [has, hyes]
      refine .bind (at_path hr hwhole) fun p s₄ part _ hp => ?_
      have hstarts : (Doc.word " as " ++ p.layout false).Starts :=
        ((Doc.heads_word (by decide) rfl).append _).starts
      have htrait : KeptFor .cast (.word " as " ++ p.layout false) (.word "as" :: part) := by
        intro hprintable
        rw [Doc.printable_append, Doc.printable_word, Bool.true_and] at hprintable
        obtain ⟨said, hprints, hprinted⟩ := hp.keptFor hprintable
        exact ⟨_, (Doc.leads_word spells_as).append_prints hprints, .cast hprinted⟩
      exact hafter htrait hstarts s₄
    · rename_i hno
      rw [has, Bool.eq_false_iff.mpr hno]
      exact hafter (fun _ => ⟨_, Doc.prints_empty, .noCast⟩) Doc.starts_empty s₃
  · rename_i hno
    rw [hangle, if_neg hno]
    refine .bind (at_path hr hwhole) fun p s₂ part _ hp => .pure ?_
    rw [List.append_nil]
    exact ⟨hp.keptFor, fun _ => hp, nofun⟩

end Rules

end Fieldwise.Grammar
