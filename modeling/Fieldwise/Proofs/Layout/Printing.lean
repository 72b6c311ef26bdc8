import Fieldwise.Layout.Doc
import Fieldwise.Proofs.Token.Lexemes
import Mathlib.Data.List.Forall2

set_option autoImplicit false

/-! # What a document says

However the printer breaks its lines, a document says the same. `Yields` states it of pieces: the
text that is printed, from any state of the printer, reads as given lexemes, where commas before
closing marks do not count. `Doc.PrintsAs` states it of a document wherever it stands. The lemmas
take the pieces one by one: a word brings its lexemes (`yields_word`), a gap and the borders of a
group bring none, and the gap after the last item of a list at most a comma (`yields_lastComma`).
-/

namespace Fieldwise.Token

open Fieldwise.Text

theorem Trimmed.append {found said : List Lexeme} (h : Trimmed found said)
    (before : List Lexeme) : Trimmed (before ++ found) (before ++ said) := by
  induction before with
  | nil => exact h
  | cons a before ih => exact .keep a ih

/-- A text is empty or begins with a character of a kind. -/
def Begins (ok : Char → Prop) (text : List Char) : Prop := ∀ c, text.head? = some c → ok c

theorem begins_cons {ok : Char → Prop} {c : Char} (hc : ok c) (text : List Char) :
    Begins ok (c :: text) := fun x hx => by
  cases hx
  exact hc

/-- A character goes on with no name that stands before it. -/
def PartsNames (c : Char) : Prop := isNameContinue c = false ∧ c ∉ literalMarks

/-- A character goes on with no name and no number that stands before it. -/
def PartsWords (c : Char) : Prop := PartsNames c ∧ c ≠ '.'

instance : DecidablePred PartsNames := fun c =>
  inferInstanceAs (Decidable (isNameContinue c = false ∧ c ∉ literalMarks))

instance : DecidablePred PartsWords := fun c =>
  inferInstanceAs (Decidable (PartsNames c ∧ c ≠ '.'))

/-- A kind of characters that has those a printer adds. -/
class Parting (ok : Char → Prop) : Prop where
  blank : ok ' '
  newline : ok '\n'
  comma : ok ','

instance : Parting PartsNames where
  blank := by decide
  newline := by decide
  comma := by decide

instance : Parting PartsWords where
  blank := by decide
  newline := by decide
  comma := by decide

end Fieldwise.Token

namespace Fieldwise.Layout

open Fieldwise.Token

/-- Pieces print as lexemes where these brackets are open, whatever the state of the printer. -/
def Yields (opened : List Delimiter) (pieces : List Piece) (said : List Lexeme) : Prop :=
  ∀ p : Printer, ∃ found, Reads opened (p.run pieces) found ∧ Trimmed found said

/-- What pieces print begins with a character of a kind, whatever the state of the printer. -/
def Opens (ok : Char → Prop) (pieces : List Piece) : Prop :=
  ∀ p : Printer, Begins ok (p.run pieces)

/-- A document prints as lexemes wherever it stands, unless what follows goes on with its last
word. -/
def Doc.PrintsAs (d : Doc) (said : List Lexeme) : Prop :=
  ∀ ⦃opened : List Delimiter⦄ ⦃rest : List Piece⦄ ⦃after : List Lexeme⦄,
    Yields opened rest after → Opens PartsWords rest →
      Yields opened (d.piecesBefore rest) (said ++ after)

variable {ok : Char → Prop} {opened inner : List Delimiter} {rest : List Piece}
  {said after : List Lexeme}

theorem yields_nil : Yields [] [] [] := fun _ => ⟨[], reads_nil, .nil⟩

/-! ## Words -/

/-- A word is spelled by lexemes before a text of a kind. The first brackets are open before it,
the others after it. -/
def Spells (ok : Char → Prop) (opened : List Delimiter) (word : String) (said : List Lexeme)
    (inner : List Delimiter) : Prop :=
  ∀ ⦃text : List Char⦄ ⦃found : List Lexeme⦄, Begins ok text → Reads inner text found →
    Reads opened (word.toList ++ text) (said ++ found)

theorem yields_word {word : String} (h : Spells ok opened word said inner)
    (hopens : Opens ok rest) (hrest : Yields inner rest after) :
    Yields opened (.word word :: rest) (said ++ after) := fun p => by
  let q : Printer := { p with room := p.room - word.utf8ByteSize, owed := 0 }
  obtain ⟨found, hread, htrim⟩ := hrest q
  have hword := (h (hopens q) hread).blanks p.owed
  rw [← List.append_assoc] at hword
  exact ⟨said ++ found, hword, htrim.append said⟩

theorem opens_word [hok : Parting ok] {c : Char} (hc : ok c) {word : String} {more : List Char}
    (hword : word.toList = c :: more) (rest : List Piece) : Opens ok (.word word :: rest) :=
  fun p => by
    rw [Printer.run, hword]
    cases p.owed with
    | zero => exact begins_cons hc _
    | succ n => exact begins_cons hok.blank _

/-! ## Groups -/

theorem run_enter (breaks : Breaks) (shift : Int) (rest : List Piece) (p : Printer) :
    ∃ q : Printer, p.run (.enter breaks shift :: rest) = q.run rest := by
  rw [Printer.run]
  split
  · exact ⟨_, rfl⟩
  · exact ⟨_, rfl⟩

theorem run_leave (rest : List Piece) (p : Printer) :
    ∃ q : Printer, p.run (.leave :: rest) = q.run rest := by
  rw [Printer.run]
  split
  · exact ⟨_, rfl⟩
  · exact ⟨_, rfl⟩
  · exact ⟨_, rfl⟩

theorem yields_enter (h : Yields opened rest after) (breaks : Breaks) (shift : Int) :
    Yields opened (.enter breaks shift :: rest) after := fun p => by
  obtain ⟨q, hrun⟩ := run_enter breaks shift rest p
  rw [hrun]
  exact h q

theorem yields_leave (h : Yields opened rest after) : Yields opened (.leave :: rest) after :=
  fun p => by
    obtain ⟨q, hrun⟩ := run_leave rest p
    rw [hrun]
    exact h q

theorem opens_leave (h : Opens ok rest) : Opens ok (.leave :: rest) := fun p => by
  obtain ⟨q, hrun⟩ := run_leave rest p
  rw [hrun]
  exact h q

/-! ## Gaps -/

/-- A gap that adds no mark but blanks and a newline, and perhaps this one before the newline. -/
structure Gap.Adds (g : Gap) (mark : Option Char) : Prop where
  before : g.before = mark
  after : g.after = ""
  inline : g.inline = none

theorem adds_none {blanks : Nat} {force : Option Force} {shift : Int} :
    Gap.Adds { blanks, force, shift } none := ⟨rfl, rfl, rfl⟩

/-- A gap prints nothing, or it ends the line. -/
theorem run_gap {g : Gap} {mark : Option Char} (hg : g.Adds mark) (rest : List Piece)
    (p : Printer) :
    ∃ q : Printer, p.run (.gap g :: rest) = q.run rest
      ∨ p.run (.gap g :: rest)
        = (mark.elim [] fun c => Printer.blanks p.owed ++ [c]) ++ '\n' :: q.run rest := by
  rw [Printer.run]
  split
  · rw [hg.inline]
    exact ⟨_, Or.inl rfl⟩
  · refine ⟨p.newLine g, Or.inr ?_⟩
    rw [Printer.lineBreak, hg.before, hg.after]
    cases mark <;> simp

theorem yields_gap {g : Gap} (hg : g.Adds none) (h : Yields opened rest after) :
    Yields opened (.gap g :: rest) after := fun p => by
  obtain ⟨q, hrun | hrun⟩ := run_gap hg rest p
  · rw [hrun]
    exact h q
  · obtain ⟨found, hread, htrim⟩ := h q
    rw [hrun]
    exact ⟨found, hread.blank (Or.inr rfl), htrim⟩

theorem opens_gap [hok : Parting ok] {g : Gap} {mark : Option Char} (hg : g.Adds mark)
    (hmark : mark.all (· == ',') = true) (h : Opens ok rest) :
    Opens ok (.gap g :: rest) := fun p => by
  obtain ⟨q, hrun | hrun⟩ := run_gap hg rest p
  · rw [hrun]
    exact h q
  · rw [hrun]
    cases mark with
    | none => exact begins_cons hok.newline _
    | some c =>
        obtain rfl := eq_of_beq hmark
        cases p.owed with
        | zero => exact begins_cons hok.comma _
        | succ n => exact begins_cons hok.blank _

/-- Pieces print a closing mark first of all, and then these lexemes. -/
def Closes (opened : List Delimiter) (a : Lexeme) (pieces : List Piece) (after : List Lexeme) :
    Prop :=
  ∀ p : Printer, ∃ found, Reads opened (p.run pieces) (a :: found) ∧ Trimmed found after

theorem closes_word {a : Lexeme} {word : String}
    (hword : ∀ {text : List Char} {found : List Lexeme}, Reads inner text found →
      Reads opened (word.toList ++ text) (a :: found))
    (h : Yields inner rest after) : Closes opened a (.word word :: rest) after := fun p => by
  let q : Printer := { p with room := p.room - word.utf8ByteSize, owed := 0 }
  obtain ⟨found, hread, htrim⟩ := h q
  have hprinted := (hword hread).blanks p.owed
  rw [← List.append_assoc] at hprinted
  exact ⟨found, hprinted, htrim⟩

theorem closes_leave {a : Lexeme} (h : Closes opened a rest after) :
    Closes opened a (.leave :: rest) after := fun p => by
  obtain ⟨q, hrun⟩ := run_leave rest p
  rw [hrun]
  exact h q

/-- **The gap after the last item of a list** adds at most a comma before the mark that closes
the list. -/
theorem yields_lastComma {g : Gap} (hg : g.Adds (some ',')) {a : Lexeme} (ha : a.Closes)
    (h : Closes opened a rest after) : Yields opened (.gap g :: rest) (a :: after) := fun p => by
  obtain ⟨q, hrun | hrun⟩ := run_gap hg rest p
  · obtain ⟨found, hread, htrim⟩ := h q
    exact ⟨a :: found, hrun ▸ hread, .keep a htrim⟩
  · obtain ⟨found, hread, htrim⟩ := h q
    refine ⟨.mark ',' :: a :: found, ?_, .comma ha htrim⟩
    have hcomma := ((hread.blank (Or.inr rfl)).mark (c := ',') (by decide)).blanks p.owed
    rw [hrun, Option.elim_some, List.append_assoc]
    exact hcomma

/-! ## The pieces of documents -/

namespace Doc

@[simp] theorem append_eq_empty {d e : Doc} : d ++ e = .empty ↔ d = .empty ∧ e = .empty := by
  change append d e = .empty ↔ _
  unfold append
  split <;> simp_all

@[simp] theorem word_ne_empty (text : String) : word text ≠ .empty := nofun

@[simp] theorem gap_ne_empty (g : Gap) : gap g ≠ .empty := nofun

@[simp] theorem piecesBefore_word (text : String) (rest : List Piece) :
    (word text).piecesBefore rest = .word text :: rest := rfl

@[simp] theorem piecesBefore_gap (g : Gap) (rest : List Piece) :
    (gap g).piecesBefore rest = .gap g :: rest := rfl

/-- A document that ends with no gap which vanishes at the end of a group. -/
def Firm (d : Doc) : Prop := ∀ rest, d.dropOptional.piecesBefore rest = d.piecesBefore rest

@[simp] theorem firm_word (text : String) : (word text).Firm := fun _ => rfl

theorem firm_gap {g : Gap} (hg : g.optional = false) : (gap g).Firm := fun rest => by
  simp [gap, dropOptional, hg]

theorem append_eq_cat {d e : Doc} (hd : d ≠ .empty) (he : e ≠ .empty) : d ++ e = .cat d e := by
  change append d e = _
  unfold append
  split <;> simp_all

theorem Firm.append (d : Doc) {e : Doc} (he : e.Firm) (hne : e ≠ .empty) : (d ++ e).Firm := by
  intro rest
  cases hd : d with
  | empty => exact he rest
  | _ =>
      rw [← hd, append_eq_cat (by simp [hd]) hne, dropOptional, piecesBefore_append, he]
      rfl

/-- The pieces of a group of two documents. -/
theorem piecesBefore_group {d e : Doc} (hd : d ≠ .empty) (he : e ≠ .empty) (hfirm : e.Firm)
    (breaks : Breaks) (shift : Int) (rest : List Piece) :
    (group breaks shift (d ++ e)).piecesBefore rest
      = .enter breaks shift :: d.piecesBefore (e.piecesBefore (.leave :: rest)) := by
  rw [append_eq_cat hd he, group, piecesBefore, dropOptional, piecesBefore_append, hfirm]
  nofun

theorem shiftLast_append (d : Doc) {e : Doc} (he : e ≠ .empty) (shift : Int) :
    (d ++ e).shiftLast shift = d ++ e.shiftLast shift := by
  have hshifted : e.shiftLast shift ≠ .empty := by
    cases e with
    | empty => exact absurd rfl he
    | _ => nofun
  cases hd : d with
  | empty => rfl
  | _ =>
      rw [← hd, append_eq_cat (by simp [hd]) he, append_eq_cat (by simp [hd]) hshifted, shiftLast]

/-! ## Lists of items -/

variable {last : Doc} {docs : List Doc}

theorem commaItems_ne_empty (hlast : last ≠ .empty) (hdocs : docs ≠ []) :
    commaItems last docs ≠ .empty := by
  cases docs with
  | nil => exact absurd rfl hdocs
  | cons d rest =>
      cases rest with
      | nil => simp [commaItems, hlast]
      | cons e more => simp [commaItems]

theorem firm_commaItems (hlast : last ≠ .empty) (hfirm : last.Firm) (hdocs : docs ≠ []) :
    (commaItems last docs).Firm := by
  induction docs with
  | nil => exact absurd rfl hdocs
  | cons d rest ih =>
      cases rest with
      | nil => exact hfirm.append d hlast
      | cons e more =>
          have hne : e :: more ≠ [] := List.cons_ne_nil e more
          exact (ih hne).append _ (commaItems_ne_empty hlast hne)

theorem shiftLast_commaItems (hlast : last ≠ .empty) (shift : Int) (hdocs : docs ≠ []) :
    (commaItems last docs).shiftLast shift = commaItems (last.shiftLast shift) docs := by
  induction docs with
  | nil => exact absurd rfl hdocs
  | cons d rest ih =>
      cases rest with
      | nil => exact shiftLast_append d hlast shift
      | cons e more =>
          have hne : e :: more ≠ [] := List.cons_ne_nil e more
          rw [commaItems, shiftLast_append _ (commaItems_ne_empty hlast hne), ih hne]
          · rfl
          · nofun

/-- The gap before the mark that closes a list. -/
def closingGap : Gap := { before := some ',', shift := -indentStep }

theorem adds_closingGap : closingGap.Adds (some ',') := ⟨rfl, rfl, rfl⟩

/-- The gap after the last item of a list goes back one step. -/
theorem outdentLast_commaItems (hdocs : docs ≠ []) :
    (zeroGap ++ commaItems lastComma docs).outdentLast
      = zeroGap ++ commaItems (gap closingGap) docs := by
  have hlast : lastComma ≠ .empty := gap_ne_empty _
  rw [outdentLast, shiftLast_append _ (commaItems_ne_empty hlast hdocs),
    shiftLast_commaItems hlast _ hdocs]
  rfl

theorem piecesBefore_bracketed (opening closing : String) (hdocs : docs ≠ [])
    (rest : List Piece) :
    (bracketed opening closing docs).piecesBefore rest
      = .word opening :: .enter .consistent indentStep :: .gap {}
        :: (commaItems (gap closingGap) docs).piecesBefore (.leave :: .word closing :: rest) := by
  have hgap : gap closingGap ≠ .empty := gap_ne_empty _
  rw [bracketed, outdentLast_commaItems hdocs, piecesBefore_append, piecesBefore_append, stack,
    zeroGap, piecesBefore_group (gap_ne_empty _) (commaItems_ne_empty hgap hdocs)
      (firm_commaItems hgap (firm_gap rfl) hdocs)]
  rfl

theorem bracketed_ne_empty (opening closing : String) (docs : List Doc) :
    bracketed opening closing docs ≠ .empty := by
  simp [bracketed]

theorem firm_bracketed (opening closing : String) (docs : List Doc) :
    (bracketed opening closing docs).Firm :=
  (firm_word closing).append _ (word_ne_empty closing)

end Doc

/-- Items of a list are printed in order, with commas between them. -/
theorem yields_commaItems {g : Gap} {docs : List Doc} {items : List (List Lexeme)}
    (hdocs : List.Forall₂ Doc.PrintsAs docs items) (hne : docs ≠ [])
    (hrest : Yields opened (.gap g :: rest) after) (hopens : Opens PartsWords (.gap g :: rest)) :
    Yields opened ((Doc.commaItems (.gap g) docs).piecesBefore rest)
      ([.mark ','].intercalate items ++ after) := by
  induction hdocs with
  | nil => exact absurd rfl hne
  | cons hd hmore ih =>
      cases hmore with
      | nil =>
          rw [Doc.commaItems, Doc.piecesBefore_append]
          simpa using hd hrest hopens
      | cons he hmore =>
          have hcomma : Spells (fun _ => True) opened "," [.mark ','] opened :=
            fun _ _ _ hread => hread.mark (by decide)
          have hall := hd (yields_word hcomma (fun _ _ _ => trivial)
            (yields_gap (g := { blanks := 1 }) adds_none (ih (List.cons_ne_nil _ _))))
            (opens_word (by decide) rfl _)
          simp only [Doc.commaItems, Doc.piecesBefore_append, Doc.spaceGap]
          simpa using hall

/-- Two words are read as an opening and a closing mark, between which these brackets are open. -/
structure Encloses (opened inner : List Delimiter) (opening closing : String)
    (before : List Lexeme) (b : Lexeme) : Prop where
  first : Spells (fun _ => True) opened opening before inner
  last : ∀ {text : List Char} {found : List Lexeme}, Reads opened text found →
    Reads inner (closing.toList ++ text) (b :: found)
  closes : b.Closes
  parts : ∃ c more, closing.toList = c :: more ∧ PartsWords c

theorem encloses_angle (opened : List Delimiter) :
    Encloses opened opened "<" ">" [.mark '<'] (.mark '>') where
  first _ _ _ h := h.mark (by decide)
  last h := h.mark (by decide)
  closes := rfl
  parts := ⟨'>', [], rfl, by decide⟩

theorem encloses_parenthesis (opened : List Delimiter) :
    Encloses opened (.parenthesis :: opened) "(" ")" [.opening .parenthesis]
      (.closing .parenthesis) where
  first _ _ _ h := h.opening
  last h := h.closing .parenthesis
  closes := trivial
  parts := ⟨')', [], rfl, by decide⟩

/-- Items of a list, up to the mark that closes it. -/
theorem yields_items {b : Lexeme} (hb : b.Closes) {docs : List Doc} {items : List (List Lexeme)}
    (hdocs : List.Forall₂ Doc.PrintsAs docs items) (hne : docs ≠ [])
    (hrest : Closes opened b rest after) (hopens : Opens PartsWords rest) :
    Yields opened (.gap {} :: (Doc.commaItems (.gap Doc.closingGap) docs).piecesBefore rest)
      ([.mark ','].intercalate items ++ b :: after) :=
  yields_gap adds_none (yields_commaItems hdocs hne (yields_lastComma Doc.adds_closingGap hb hrest)
    (opens_gap Doc.adds_closingGap rfl hopens))

theorem Encloses.spells_closing {opening closing : String} {before : List Lexeme} {b : Lexeme}
    (h : Encloses opened inner opening closing before b) :
    Spells (fun _ => True) inner closing [b] opened := fun _ _ _ hread => h.last hread

theorem Encloses.opens_closing {opening closing : String} {before : List Lexeme} {b : Lexeme}
    (h : Encloses opened inner opening closing before b) (rest : List Piece) :
    Opens PartsWords (.word closing :: rest) := by
  obtain ⟨c, more, hclosing, hc⟩ := h.parts
  exact opens_word hc hclosing rest

/-- **A list between brackets** says its items, whether it is printed on one line or on many. -/
theorem yields_bracketed {opening closing : String} {before : List Lexeme} {b : Lexeme}
    (hmarks : Encloses opened inner opening closing before b) {docs : List Doc}
    {items : List (List Lexeme)} (hdocs : List.Forall₂ Doc.PrintsAs docs items) (hne : docs ≠ [])
    (hrest : Yields opened rest after) :
    Yields opened ((Doc.bracketed opening closing docs).piecesBefore rest)
      (before ++ ([.mark ','].intercalate items ++ b :: after)) := by
  rw [Doc.piecesBefore_bracketed opening closing hne]
  exact yields_word hmarks.first (fun _ _ _ => trivial)
    (yields_enter (yields_items hmarks.closes hdocs hne
      (closes_leave (closes_word hmarks.last hrest)) (opens_leave (hmarks.opens_closing rest))) _ _)

end Fieldwise.Layout
