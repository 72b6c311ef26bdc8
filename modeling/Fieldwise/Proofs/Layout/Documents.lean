import Fieldwise.Proofs.Layout.Printing

set_option autoImplicit false

/-! # Documents made of others

What a document says follows from what its parts say, wherever it stands in the end: the end of a
group drops an optional gap, and a group of nothing but a gap vanishes, so a part must not end in
the first nor be the second (`Doc.Solid`). `Doc.Prints` puts this beside what the document prints
as; `Doc.Leads` is for parts that end in a mark or a blank, and may stand before any other. There is
one lemma for each way in which documents are put together.
-/

namespace Fieldwise.Layout

open Fieldwise.Token

variable {ok ok' : Char → Prop} {opened mid inner : List Delimiter} {rest : List Piece}
  {said more : List Lexeme}

/-! ## Words -/

/-- A word that is spelled before any text. -/
abbrev SpellsAnywhere (opened : List Delimiter) (word : String) (said : List Lexeme)
    (inner : List Delimiter) : Prop := Spells (fun _ => True) opened word said inner

theorem begins_any (text : List Char) : Begins (fun _ => True) text := fun _ _ => trivial

theorem opens_any (pieces : List Piece) : Opens (fun _ => True) pieces := fun _ _ _ => trivial

theorem opens_names (h : Opens PartsWords rest) : Opens PartsNames rest :=
  fun p c hc => (h p c hc).1

theorem Spells.of_names {word : String} (h : Spells PartsNames opened word said inner) :
    Spells PartsWords opened word said inner := fun _ _ hbegins hread =>
  h (fun c hc => (hbegins c hc).1) hread

/-- A word made of two is spelled as they are, if the second may follow the first. -/
theorem Spells.append {first second : String} (hfirst : Spells ok opened first said mid)
    (hsecond : Spells ok' mid second more inner)
    (hparts : ∀ text, Begins ok' text → Begins ok (second.toList ++ text)) :
    Spells ok' opened (first ++ second) (said ++ more) inner := fun text found hbegins hread => by
  rw [String.toList_append, List.append_assoc, List.append_assoc]
  exact hfirst (hparts text hbegins) (hsecond hbegins hread)

/-- A word made of two whose second part begins with this character. -/
theorem Spells.append_of_head {first second : String} {c : Char} {tail : List Char}
    (hfirst : Spells ok opened first said mid) (hsecond : Spells ok' mid second more inner)
    (hhead : second.toList = c :: tail) (hc : ok c) :
    Spells ok' opened (first ++ second) (said ++ more) inner :=
  hfirst.append hsecond fun text _ => by
    rw [hhead]
    exact begins_cons hc _

theorem spells_empty (opened : List Delimiter) : SpellsAnywhere opened "" [] opened :=
  fun _ _ _ hread => hread

theorem spells_blank (opened : List Delimiter) : SpellsAnywhere opened " " [] opened :=
  fun _ _ _ hread => hread.blank (.inl rfl)

theorem spells_mark {c : Char} (hc : c ∈ plainMarks) (opened : List Delimiter) :
    SpellsAnywhere opened (String.singleton c) [.mark c] opened := fun _ _ _ hread => by
  rw [String.toList_singleton]
  exact hread.mark hc

theorem spells_name {n : Name} (hn : n.Lexical) (opened : List Delimiter) :
    Spells PartsNames opened n.written [.name n] opened := fun _ _ hbegins hread =>
  hread.name hn hbegins

/-- A name and a blank. -/
theorem spells_nameBlank {n : Name} (hn : n.Lexical) (opened : List Delimiter) :
    SpellsAnywhere opened (n.written ++ " ") [.name n] opened :=
  (spells_name hn opened).append_of_head (spells_blank opened) rfl (by decide)

/-! ## Documents that can be printed -/

namespace Doc

@[simp] theorem printable_append (d e : Doc) :
    (d ++ e).printable = (d.printable && e.printable) := by
  change (append d e).printable = _
  unfold append
  split <;> simp [printable]

@[simp] theorem printable_empty : Doc.empty.printable = true := rfl

@[simp] theorem printable_word (text : String) : (word text).printable = true := rfl

@[simp] theorem printable_gap (g : Gap) : (gap g).printable = true := rfl

theorem printable_dropOptional (d : Doc) : d.dropOptional.printable = d.printable := by
  induction d with
  | space g =>
      unfold dropOptional
      split <;> rfl
  | cat d e _ ih => rw [dropOptional, printable_append, ih, printable]
  | empty => rfl
  | text words => rfl
  | box breaks shift content => rfl
  | wall => rfl
  | hole => rfl

@[simp] theorem printable_group (breaks : Breaks) (shift : Int) (d : Doc) :
    (group breaks shift d).printable = d.printable := by
  unfold group
  split
  · rfl
  · exact printable_dropOptional d

@[simp] theorem printable_stack (shift : Int) (d : Doc) :
    (stack shift d).printable = d.printable := printable_group _ _ d

@[simp] theorem printable_fill (shift : Int) (d : Doc) :
    (fill shift d).printable = d.printable := printable_group _ _ d

@[simp] theorem printable_shiftLast (shift : Int) (d : Doc) :
    (d.shiftLast shift).printable = d.printable := by
  induction d with
  | cat d e _ ih => rw [shiftLast, printable, ih, printable]
  | space g => rfl
  | empty => rfl
  | text words => rfl
  | box breaks shift content => rfl
  | wall => rfl
  | hole => rfl

@[simp] theorem printable_outdentLast (d : Doc) : d.outdentLast.printable = d.printable :=
  printable_shiftLast _ d

/-- Documents one after another can be printed where each of them can. -/
@[simp] theorem printable_concat (docs : List Doc) :
    (concat docs).printable = docs.all printable := by
  induction docs with
  | nil => rfl
  | cons d rest ih => rw [concat, printable_append, ih, List.all_cons]

theorem printable_separated {separator : Doc} (h : separator.printable = true)
    (docs : List Doc) : (separated separator docs).printable = docs.all printable := by
  induction docs with
  | nil => rfl
  | cons d rest ih =>
      cases rest with
      | nil => simp [separated]
      | cons e more => rw [separated, printable_append, printable_append, ih, h] <;> simp

theorem printable_commaItems {last : Doc} (h : last.printable = true) (docs : List Doc) :
    (commaItems last docs).printable = docs.all printable := by
  induction docs with
  | nil => rfl
  | cons d rest ih =>
      cases rest with
      | nil => simp [commaItems, h]
      | cons e more =>
          rw [commaItems, printable_append, printable_append, printable_append, ih] <;>
            simp [spaceGap]

/-- Items between brackets can be printed where each of them can. -/
@[simp] theorem printable_bracketed (opening closing : String) (docs : List Doc) :
    (bracketed opening closing docs).printable = docs.all printable := by
  have hlast : lastComma.printable = true := rfl
  simp [bracketed, zeroGap, printable_commaItems hlast]

@[simp] theorem printable_tupled (docs : List Doc) :
    (tupled docs).printable = docs.all printable := by
  unfold tupled
  split <;> simp [zeroGap]

theorem printable_introduced {first between : Doc} (hfirst : first.printable = true)
    (hbetween : between.printable = true) (docs : List Doc) :
    (introduced first between docs).printable = docs.all printable := by
  cases docs with
  | nil => rfl
  | cons d rest => simp [introduced, hfirst, hbetween, Function.comp_def]

end Doc

/-! ## Solid documents -/

namespace Doc

/-- A document that is no gap, and ends with none that vanishes at the end of a group. -/
structure Solid (d : Doc) : Prop where
  firm : d.Firm
  gap : ∀ g, d ≠ .gap g

theorem solid_empty : Doc.empty.Solid := ⟨fun _ => rfl, nofun⟩

@[simp] theorem solid_word (text : String) : (word text).Solid := ⟨firm_word text, nofun⟩

/-- Documents in a row are solid where the last is, unless it is empty. -/
theorem Solid.after {e : Doc} (he : e.Solid) (hne : e ≠ .empty) (d : Doc) : (d ++ e).Solid := by
  refine ⟨he.firm.append d hne, fun g => ?_⟩
  cases hd : d with
  | empty => exact he.gap g
  | _ =>
      rw [← hd, append_eq_cat (by simp [hd]) hne]
      nofun

theorem Solid.append {d e : Doc} (hd : d.Solid) (he : e.Solid) : (d ++ e).Solid := by
  by_cases hne : e = .empty
  · subst hne
    cases d <;> exact hd
  · exact he.after hne d

theorem solid_group (breaks : Breaks) (shift : Int) (d : Doc) : (group breaks shift d).Solid := by
  unfold group
  split
  · exact solid_empty
  · exact ⟨fun _ => rfl, nofun⟩

theorem piecesBefore_group_of_solid {d : Doc} (h : d.Solid) (breaks : Breaks) (shift : Int)
    (rest : List Piece) : (group breaks shift d).piecesBefore rest
      = .enter breaks shift :: d.piecesBefore (.leave :: rest) := by
  unfold group
  split
  · exact absurd rfl (h.gap _)
  · exact congrArg _ (h.firm _)

end Doc

/-! ## What documents say -/

namespace Doc

/-- A solid document that prints as lexemes. -/
structure Prints (d : Doc) (said : List Lexeme) : Prop where
  printsAs : d.PrintsAs said
  solid : d.Solid

/-- A solid document that prints as lexemes whatever follows it. -/
structure Leads (d : Doc) (said : List Lexeme) : Prop where
  yields : ∀ ⦃opened : List Delimiter⦄ ⦃rest : List Piece⦄ ⦃after : List Lexeme⦄,
    Yields opened rest after → Yields opened (d.piecesBefore rest) (said ++ after)
  solid : d.Solid

/-- What a document prints may follow a word. -/
def Starts (d : Doc) : Prop :=
  ∀ ⦃rest : List Piece⦄, Opens PartsWords rest → Opens PartsWords (d.piecesBefore rest)

/-- What a document prints may follow a word, and it prints something. -/
def Heads (d : Doc) : Prop := ∀ rest, Opens PartsWords (d.piecesBefore rest)

variable {d e : Doc}

theorem heads_word {c : Char} (hc : PartsWords c) {word : String} {tail : List Char}
    (hword : word.toList = c :: tail) : (Doc.word word).Heads := opens_word hc hword

theorem Heads.append (h : d.Heads) (e : Doc) : (d ++ e).Heads := fun rest => by
  rw [piecesBefore_append]
  exact h _

theorem heads_gap {g : Gap} (hg : g.Adds none) (h : d.Heads) : (gap g ++ d).Heads := fun rest => by
  rw [piecesBefore_append]
  exact opens_gap hg rfl (h rest)

theorem Heads.starts (h : d.Heads) : d.Starts := fun rest _ => h rest

theorem starts_empty : Doc.empty.Starts := fun _ h => h

theorem Starts.append (hd : d.Starts) (he : e.Starts) : (d ++ e).Starts := fun rest h => by
  rw [piecesBefore_append]
  exact hd (he h)

theorem starts_group (h : d.Starts) (hd : d.Solid) (breaks : Breaks) (shift : Int) :
    (group breaks shift d).Starts := fun rest hrest => by
  rw [piecesBefore_group_of_solid hd]
  exact fun p => by
    obtain ⟨q, hrun⟩ := run_enter breaks shift (d.piecesBefore (.leave :: rest)) p
    rw [hrun]
    exact h (opens_leave hrest) q

theorem Leads.prints (h : d.Leads said) : d.Prints said := ⟨fun _ _ _ hrest _ => h.yields hrest,
  h.solid⟩

theorem leads_empty : Doc.empty.Leads [] := ⟨fun _ _ _ h => h, solid_empty⟩

theorem prints_empty : Doc.empty.Prints [] := leads_empty.prints

theorem leads_word {word : String} (h : ∀ opened, SpellsAnywhere opened word said opened) :
    (Doc.word word).Leads said :=
  ⟨fun opened rest _ hrest => yields_word (h opened) (opens_any rest) hrest, solid_word word⟩

theorem prints_word {word : String} (h : ∀ opened, Spells PartsWords opened word said opened) :
    (Doc.word word).Prints said :=
  ⟨fun opened _ _ hrest hopens => yields_word (h opened) hopens hrest, solid_word word⟩

theorem Leads.append (hd : d.Leads said) (he : e.Leads more) : (d ++ e).Leads (said ++ more) where
  yields opened rest after hrest := by
    rw [piecesBefore_append, List.append_assoc]
    exact hd.yields (he.yields hrest)
  solid := hd.solid.append he.solid

theorem Leads.append_prints (hd : d.Leads said) (he : e.Prints more) :
    (d ++ e).Prints (said ++ more) where
  printsAs opened rest after hrest hopens := by
    rw [piecesBefore_append, List.append_assoc]
    exact hd.yields (he.printsAs hrest hopens)
  solid := hd.solid.append he.solid

/-- A gap in front of a document. -/
theorem Leads.after_gap (h : d.Leads said) (hne : d ≠ .empty) {g : Gap} (hg : g.Adds none) :
    (gap g ++ d).Leads said where
  yields opened rest after hrest := by
    rw [piecesBefore_append]
    exact yields_gap hg (h.yields hrest)
  solid := h.solid.after hne _

theorem Prints.append (hd : d.Prints said) (he : e.Prints more) (hstarts : e.Starts) :
    (d ++ e).Prints (said ++ more) where
  printsAs opened rest after hrest hopens := by
    rw [piecesBefore_append, List.append_assoc]
    exact hd.printsAs (he.printsAs hrest hopens) (hstarts hopens)
  solid := hd.solid.append he.solid

theorem Prints.append_leads (hd : d.Prints said) (he : e.Leads more) (hheads : e.Heads) :
    (d ++ e).Leads (said ++ more) where
  yields opened rest after hrest := by
    rw [piecesBefore_append, List.append_assoc]
    exact hd.printsAs (he.yields hrest) (hheads rest)
  solid := hd.solid.append he.solid

theorem Prints.group (h : d.Prints said) (breaks : Breaks) (shift : Int) :
    (group breaks shift d).Prints said where
  printsAs opened rest after hrest hopens := by
    rw [piecesBefore_group_of_solid h.solid]
    exact yields_enter (h.printsAs (yields_leave hrest) (opens_leave hopens)) breaks shift
  solid := solid_group breaks shift d

/-- Documents of the same pieces print the same. -/
theorem Leads.congr (h : d.Leads said) (hpieces : ∀ rest, e.piecesBefore rest = d.piecesBefore rest)
    (he : e.Solid) : e.Leads said where
  yields opened rest after hrest := by
    rw [hpieces]
    exact h.yields hrest
  solid := he

/-! ## Brackets -/

/-- A document between two words that are read as brackets. -/
theorem Prints.enclosed {opening closing : String} {before behind : List Lexeme}
    {inner : List Delimiter → List Delimiter}
    (hopening : ∀ opened, SpellsAnywhere opened opening before (inner opened))
    (hclosing : ∀ opened, SpellsAnywhere (inner opened) closing behind opened)
    {c : Char} {tail : List Char} (hhead : closing.toList = c :: tail) (hc : PartsWords c)
    (h : d.Prints said) :
    (Doc.word opening ++ d ++ Doc.word closing).Leads (before ++ (said ++ behind)) where
  yields opened rest after hrest := by
    simp only [piecesBefore_append, piecesBefore_word, List.append_assoc]
    exact yields_word (hopening opened) (opens_any _)
      (h.printsAs (yields_word (hclosing opened) (opens_any _) hrest) (opens_word hc hhead _))
  solid := (solid_word closing).after (word_ne_empty closing) _

theorem spells_openingParenthesis (opened : List Delimiter) :
    SpellsAnywhere opened "(" [.opening .parenthesis] (.parenthesis :: opened) :=
  fun _ _ _ hread => hread.opening

theorem spells_closingParenthesis (opened : List Delimiter) :
    SpellsAnywhere (.parenthesis :: opened) ")" [.closing .parenthesis] opened :=
  fun _ _ _ hread => hread.closing .parenthesis

theorem spells_openingBracket (opened : List Delimiter) :
    SpellsAnywhere opened "[" [.opening .bracket] (.bracket :: opened) :=
  fun _ _ _ hread => hread.opening

theorem spells_closingBracket (opened : List Delimiter) :
    SpellsAnywhere (.bracket :: opened) "]" [.closing .bracket] opened :=
  fun _ _ _ hread => hread.closing .bracket

/-! ## Lists -/

variable {docs : List Doc} {items : List (List Lexeme)}

theorem forall_printsAs (h : List.Forall₂ Prints docs items) : List.Forall₂ PrintsAs docs items :=
  h.imp fun _ _ hd => hd.printsAs

/-- Documents with a word between any two, which begins with this character. -/
theorem prints_separated {separator : String} {between : List Lexeme} {c : Char} {tail : List Char}
    (hspells : ∀ opened, SpellsAnywhere opened separator between opened)
    (hhead : separator.toList = c :: tail) (hc : PartsWords c)
    (h : List.Forall₂ Prints docs items) :
    (separated (.word separator) docs).Prints (between.intercalate items) := by
  induction h with
  | nil => exact prints_empty
  | cons hd hmore ih =>
      cases hmore with
      | nil => simpa [separated] using hd
      | cons he hmore =>
          have hall := (hd.append_leads (leads_word hspells) (heads_word hc hhead)).append_prints ih
          simpa [separated] using hall

/-- Items between brackets, of which there may be none. -/
theorem leads_bracketed {opening closing : String} {before : List Lexeme} {b : Lexeme}
    {inner : List Delimiter → List Delimiter}
    (hmarks : ∀ opened, Encloses opened (inner opened) opening closing before b)
    (h : List.Forall₂ Prints docs items) :
    (bracketed opening closing docs).Leads
      (before ++ ([.mark ','].intercalate items ++ [b])) where
  yields opened rest after hrest := by
    cases h with
    | nil =>
        have hclose : Yields (inner opened) (.word closing :: rest) (b :: after) :=
          yields_word (hmarks opened).spells_closing (opens_any rest) hrest
        have hall := yields_word (hmarks opened).first (opens_any _) hclose
        simp only [List.intercalate_nil, List.nil_append, List.append_assoc, List.singleton_append]
        exact hall
    | cons hd hmore =>
        simpa using yields_bracketed (hmarks opened) (forall_printsAs (.cons hd hmore))
          (List.cons_ne_nil _ _) hrest
  solid := (solid_word closing).after (word_ne_empty closing) _

/-- The same without a group around the items. -/
theorem leads_items {opening closing : String} {before : List Lexeme} {b : Lexeme}
    {inner : List Delimiter → List Delimiter}
    (hmarks : ∀ opened, Encloses opened (inner opened) opening closing before b)
    (h : List.Forall₂ Prints docs items) :
    (word opening ++ (zeroGap ++ commaItems lastComma docs).outdentLast ++ word closing).Leads
      (before ++ ([.mark ','].intercalate items ++ [b])) where
  yields opened rest after hrest := by
    simp only [piecesBefore_append, piecesBefore_word]
    cases h with
    | nil =>
        have hclose : Yields (inner opened) (.word closing :: rest) (b :: after) :=
          yields_word (hmarks opened).spells_closing (opens_any rest) hrest
        have hall := yields_word (hmarks opened).first (opens_any _)
          (yields_gap (g := { shift := -indentStep }) adds_none hclose)
        simp only [List.intercalate_nil, List.nil_append, List.append_assoc, List.singleton_append]
        exact hall
    | cons hd hmore =>
        rw [outdentLast_commaItems (List.cons_ne_nil _ _), piecesBefore_append, zeroGap,
          piecesBefore_gap]
        have hitems := yields_items (hmarks opened).closes (forall_printsAs (.cons hd hmore))
          (List.cons_ne_nil _ _) (closes_word (hmarks opened).last hrest)
          ((hmarks opened).opens_closing rest)
        have hall := yields_word (hmarks opened).first (opens_any _) hitems
        simpa using hall
  solid := (solid_word closing).after (word_ne_empty closing) _

theorem heads_bracketed {opening : String} {c : Char} {tail : List Char} (hc : PartsWords c)
    (hhead : opening.toList = c :: tail) (closing : String) (docs : List Doc) :
    (bracketed opening closing docs).Heads := ((heads_word hc hhead).append _).append _

/-- The pieces of a group whose last gap goes back one step. -/
theorem piecesBefore_stack_gap {g : Gap} (hd : d ≠ .empty) (hg : g.optional = false)
    (rest : List Piece) : (stack indentStep (d ++ gap g).outdentLast).piecesBefore rest
      = .enter .consistent indentStep :: d.piecesBefore
        (.gap { g with shift := g.shift + -indentStep } :: .leave :: rest) := by
  let shifted : Gap := { g with shift := g.shift + -indentStep }
  have hshift : (gap g).shiftLast (-indentStep) = gap shifted := rfl
  have hfirm : (gap shifted).Firm := firm_gap hg
  rw [outdentLast, shiftLast_append _ (gap_ne_empty g), hshift, stack,
    piecesBefore_group hd (gap_ne_empty _) hfirm]
  rfl

/-- Items between parentheses, where a single one has a comma after it. -/
theorem leads_tupled (h : List.Forall₂ Prints docs items) :
    (tupled docs).Leads (.opening .parenthesis :: ([.mark ','].intercalate items
      ++ if items.length = 1 then [.mark ',', .closing .parenthesis]
        else [.closing .parenthesis])) := by
  have hmany := leads_bracketed encloses_parenthesis h
  cases h with
  | nil => exact hmany
  | cons hd hmore =>
      cases hmore with
      | cons he hmore => simpa [tupled] using hmany
      | nil =>
          refine ⟨fun opened rest after hrest => ?_, (solid_word ")").after (word_ne_empty ")") _⟩
          have hclose := yields_word (spells_closingParenthesis opened) (opens_any rest) hrest
          have hcomma := yields_word (spells_mark (c := ',') (by decide) _) (opens_any _)
            (yields_gap (g := { shift := -indentStep }) adds_none (yields_leave hclose))
          have hitem := yields_enter (yields_gap (g := {}) adds_none
            (hd.printsAs hcomma (opens_word (by decide) rfl _))) .consistent indentStep
          have hall := yields_word (spells_openingParenthesis opened) (opens_any _) hitem
          simp only [tupled, piecesBefore_append, zeroGap,
            piecesBefore_stack_gap (d := gap {} ++ _ ++ word ",") (g := {}) (by simp) rfl]
          simpa using hall

/-- Documents each of which comes after another one, which may follow any word. -/
theorem prints_concat {between : Doc} {mark : List Lexeme} (hbetween : between.Leads mark)
    (hheads : between.Heads) (h : List.Forall₂ Prints docs items) :
    (concat (docs.map fun d => between ++ d)).Prints (items.flatMap (mark ++ ·))
      ∧ (concat (docs.map fun d => between ++ d)).Starts := by
  induction h with
  | nil => exact ⟨prints_empty, starts_empty⟩
  | cons hd hmore ih =>
      obtain ⟨hprints, hstarts⟩ := ih
      rw [List.map_cons, concat, List.flatMap_cons]
      exact ⟨(hbetween.append_prints hd).append hprints hstarts,
        ((hheads.append _).append _).starts⟩

theorem intercalate_cons_flatMap {α : Type} (separator first : List α) (items : List (List α)) :
    separator.intercalate (first :: items) = first ++ items.flatMap (separator ++ ·) := by
  induction items generalizing first with
  | nil => simp
  | cons item items ih => simp [ih]

/-- Items with a separator after each, and one more. -/
theorem flatMap_append_intercalate {α : Type} (separator : List α) (items : List (List α))
    (item : List α) : items.flatMap (· ++ separator) ++ item
      = separator.intercalate (items ++ [item]) := by
  induction items with
  | nil => simp
  | cons first items ih => cases items <;> simp_all

theorem intercalate_append_last {α : Type} (separator : List α) (items : List (List α))
    (item more : List α) : separator.intercalate (items ++ [item]) ++ more
      = separator.intercalate (items ++ [item ++ more]) := by
  rw [← flatMap_append_intercalate, ← flatMap_append_intercalate, List.append_assoc]

/-- Documents after one word, with another between any two. -/
theorem prints_introduced {first between : Doc} {before mark : List Lexeme}
    (hfirst : first.Leads before) (hbetween : between.Leads mark) (hheads : between.Heads)
    (hne : docs ≠ []) (h : List.Forall₂ Prints docs items) :
    (introduced first between docs).Prints (before ++ mark.intercalate items) := by
  cases h with
  | nil => exact absurd rfl hne
  | cons hd hmore =>
      obtain ⟨hprints, hstarts⟩ := prints_concat hbetween hheads hmore
      rw [intercalate_cons_flatMap, ← List.append_assoc]
      exact (hfirst.append_prints hd).append hprints hstarts

theorem starts_introduced {first : Doc} (h : first.Heads) (between : Doc) (docs : List Doc) :
    (introduced first between docs).Starts := by
  cases docs with
  | nil => exact starts_empty
  | cons d docs => exact ((h.append _).append _).starts

/-- Items with a comma and a gap after each are printed in order. -/
theorem yields_commaItems_before (h : List.Forall₂ PrintsAs docs items)
    {after : List Lexeme} (hrest : Yields opened rest after) :
    Yields opened ((commaItems (word "," ++ spaceGap) docs).piecesBefore rest)
      (items.flatMap (· ++ [.mark ',']) ++ after) := by
  have hcomma {rest : List Piece} {after : List Lexeme} (h : Yields opened rest after) :
      Yields opened (.word "," :: .gap { blanks := 1 } :: rest) (.mark ',' :: after) :=
    yields_word (spells_mark (c := ',') (by decide) opened) (opens_any _) (yields_gap adds_none h)
  have hopens (rest : List Piece) : Opens PartsWords (.word "," :: rest) :=
    opens_word (by decide) rfl rest
  induction h with
  | nil => exact hrest
  | cons hd hmore ih =>
      cases hmore with
      | nil => simpa [commaItems, piecesBefore_append, spaceGap] using hd (hcomma hrest) (hopens _)
      | cons he hmore =>
          simpa [commaItems, piecesBefore_append, spaceGap] using hd (hcomma ih) (hopens _)

end Doc

end Fieldwise.Layout
