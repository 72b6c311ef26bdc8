import Fieldwise.Proofs.Token.Literals

set_option autoImplicit false

/-! # What a text says, token by token

The tokens of a text without their places are its lexemes (`lexemesOf`). `Reads` says which lexemes
a piece of text gives from its first character to the end of the whole text, whatever was read
before it; there is one lemma for each kind of token that may stand in front. Commas that stand
before a closing mark say nothing: `Trimmed` compares two lists of lexemes without them.
-/

namespace Fieldwise.Token

open Fieldwise.Text

/-! ## Lexemes -/

/-- A token without its place. A group gives its two brackets. -/
inductive Lexeme
  | name (n : Name)
  | lifetime (n : Name)
  | mark (c : Char)
  | literal (l : Literal)
  | opening (d : Delimiter)
  | closing (d : Delimiter)
  deriving DecidableEq, Repr

/-- A plain word. -/
def Lexeme.word (text : String) : Lexeme := .name (.plain text)

mutual

/-- The lexemes of a tree. -/
def Tree.lexemes : Tree → List Lexeme
  | .name n _ => [.name n]
  | .lifetime n _ => [.lifetime n]
  | .punct mark _ _ => [.mark mark]
  | .literal l _ => [.literal l]
  | .group d content _ _ => .opening d :: (lexemesAll content ++ [.closing d])

/-- The lexemes of a list of trees. -/
def Tree.lexemesAll : List Tree → List Lexeme
  | [] => []
  | t :: rest => t.lexemes ++ lexemesAll rest

end

/-- The lexemes of a text, or the place where no token can be read. -/
def lexemesOf (text : String) : Except Position (List Lexeme) :=
  (lex text.toList).map Tree.lexemesAll

theorem Tree.lexemesAll_append (first second : List Tree) :
    lexemesAll (first ++ second) = lexemesAll first ++ lexemesAll second := by
  induction first with
  | nil => rfl
  | cons t rest ih => simp [lexemesAll, ih]

/-- A name or a lifetime is one that source text can hold. -/
def Lexeme.Sound : Lexeme → Prop
  | .name n | .lifetime n => n.Lexical
  | _ => True

theorem Tree.mem_lexemesAll {trees : List Tree} {a : Lexeme} :
    a ∈ lexemesAll trees ↔ ∃ t ∈ trees, a ∈ t.lexemes := by
  induction trees with
  | nil => simp [lexemesAll]
  | cons t rest ih => simp [lexemesAll, ih]

theorem Tree.Lexical.sound {t : Tree} (h : t.Lexical) : ∀ a ∈ t.lexemes, a.Sound := by
  induction h with
  | name hn p => simpa [Tree.lexemes, Lexeme.Sound] using hn
  | lifetime hn p => simpa [Tree.lexemes, Lexeme.Sound] using hn
  | punct mark joint p => simp [Tree.lexemes, Lexeme.Sound]
  | literal l p => simp [Tree.lexemes, Lexeme.Sound]
  | group d _ opening closing ih =>
      intro a ha
      simp only [Tree.lexemes, List.mem_cons, List.mem_append, List.not_mem_nil, or_false] at ha
      obtain rfl | hinside | rfl := ha
      · trivial
      · obtain ⟨t, ht, ha⟩ := Tree.mem_lexemesAll.mp hinside
        exact ih t ht a ha
      · trivial

/-- The names of a text are names that source text can hold. -/
theorem Lexeme.sound_of_lexemesOf {text : String} {given : List Lexeme}
    (h : lexemesOf text = .ok given) : ∀ a ∈ given, a.Sound := by
  unfold lexemesOf at h
  cases hlex : lex text.toList with
  | error place =>
      rw [hlex] at h
      cases h
  | ok trees =>
      rw [hlex] at h
      cases h
      intro a ha
      obtain ⟨t, ht, ha⟩ := Tree.mem_lexemesAll.mp ha
      exact (forall_lexical_of_lex hlex t ht).sound a ha

/-- Whether a lexeme ends a list of items: a closing bracket, or the mark that is one. -/
def Lexeme.Closes : Lexeme → Prop
  | .closing _ => True
  | .mark c => c = '>'
  | _ => False

/-- The second list is the first without commas that stand right before a closing mark. -/
inductive Trimmed : List Lexeme → List Lexeme → Prop
  | nil : Trimmed [] []
  | keep (a : Lexeme) {found said : List Lexeme} (h : Trimmed found said) :
      Trimmed (a :: found) (a :: said)
  | comma {a : Lexeme} (ha : a.Closes) {found said : List Lexeme} (h : Trimmed found said) :
      Trimmed (.mark ',' :: a :: found) (a :: said)

/-! ## Reading to the end -/

/-- The lexemes that have been read: those before the open groups, and the trees done in the
innermost. -/
def pending : List Tree → List OpenGroup → List Lexeme
  | done, [] => Tree.lexemesAll done.reverse
  | done, g :: outer =>
    pending g.before outer ++ .opening g.delimiter :: Tree.lexemesAll done.reverse

theorem pending_append (trees done : List Tree) (groups : List OpenGroup) :
    pending (trees.reverse ++ done) groups = pending done groups ++ Tree.lexemesAll trees := by
  cases groups with
  | nil => simp [pending, Tree.lexemesAll_append]
  | cons g outer => simp [pending, Tree.lexemesAll_append]

theorem pending_cons (t : Tree) (done : List Tree) (groups : List OpenGroup) :
    pending (t :: done) groups = pending done groups ++ t.lexemes := by
  have happend := pending_append [t] done groups
  simpa [Tree.lexemesAll] using happend

/-- A text reads as lexemes from its first character to the end, wherever it stands after what
leaves these brackets open. It begins with no comment. -/
structure Reads (opened : List Delimiter) (text : List Char) (found : List Lexeme) : Prop where
  slash : text.head? ≠ some '/'
  lexFrom : ∀ {k : Nat} (p : Position) (done : List Tree) {groups : List OpenGroup},
    text.length < k → groups.map OpenGroup.delimiter = opened →
      ∃ trees, lexFrom k ⟨text, p⟩ done groups = .ok trees
        ∧ Tree.lexemesAll trees = pending done groups ++ found

/-- The end of a text, where no bracket is open. -/
theorem reads_nil : Reads [] [] [] where
  slash := by simp
  lexFrom p done groups hk hgroups := by
    obtain rfl := List.map_eq_nil_iff.mp hgroups
    exact ⟨done.reverse, lexFrom_nil (by omega) p done, by simp [pending]⟩

/-! ## Blanks -/

namespace Source

theorem length_skipLine (p : Position) (text : List Char) :
    (skipLine p text).text.length ≤ text.length := by
  induction text generalizing p with
  | nil => exact Nat.le_refl _
  | cons c rest ih =>
      rw [skipLine]
      split
      · exact Nat.le_refl _
      · exact Nat.le_trans (ih _) (Nat.le_succ _)

theorem length_skipBlock {depth : Nat} {p : Position} {text : List Char} {after : Source}
    (h : skipBlock depth p text = some after) : after.text.length < text.length := by
  fun_induction skipBlock depth p text with
  | case1 depth p rest ih =>
      have hrest := ih h
      simp only [List.length_cons]
      omega
  | case2 depth p rest next hdepth =>
      cases h
      simp only [List.length_cons]
      omega
  | case3 depth p rest next hdepth ih =>
      have hrest := ih h
      simp only [List.length_cons]
      omega
  | case4 depth p c rest _ _ ih =>
      have hrest := ih h
      simp only [List.length_cons]
      omega
  | case5 => cases h

theorem length_skipLine_of_starts {text : List Char} (h : startsLineComment text = true)
    (p : Position) : (skipLine p text).text.length < text.length := by
  cases text with
  | nil => cases h
  | cons c rest =>
      have hc : c ≠ '\n' := by
        rintro rfl
        cases h
      rw [skipLine, if_neg hc, List.length_cons]
      exact Nat.lt_succ_of_le (length_skipLine _ rest)

/-- More steps than there are characters skip no more. -/
theorem skipBlank_succ {n : Nat} {s : Source} (h : s.text.length ≤ n) :
    skipBlank (n + 1) s = skipBlank n s := by
  induction n generalizing s with
  | zero =>
      obtain ⟨text, p⟩ := s
      obtain rfl := List.length_eq_zero_iff.mp (Nat.le_zero.mp h)
      rfl
  | succ n ih =>
      rw [skipBlank]
      conv => rhs; rw [skipBlank]
      split
      · rename_i hline
        have hlength := length_skipLine_of_starts hline s.place
        exact ih (by omega)
      · split
        · split
          · rename_i after hblock
            have hlength := length_skipBlock hblock
            exact ih (by omega)
          · rfl
        · split
          · rename_i c rest htext
            split
            · rw [htext, List.length_cons] at h
              exact ih (by simpa using h)
            · rfl
          · rfl

end Source

/-- Reading goes on from where blanks and comments end. -/
theorem lexFrom_congr {n : Nat} {s s' : Source}
    (h : Source.skipBlank (n + 1) s = Source.skipBlank (n + 1) s') (done : List Tree)
    (groups : List OpenGroup) : lexFrom (n + 1) s done groups = lexFrom (n + 1) s' done groups := by
  simp only [lexFrom, h]

theorem lexFrom_blank {c : Char} {text : List Char} (hc : isTokenBlank c = true) (hslash : c ≠ '/')
    {k : Nat} (hk : text.length < k) (p : Position) (done : List Tree)
    (groups : List OpenGroup) :
    lexFrom (k + 1) ⟨c :: text, p⟩ done groups
      = lexFrom (k + 1) ⟨text, p.next c⟩ done groups := by
  refine lexFrom_congr ?_ done groups
  have hline : Source.startsLineComment (c :: text) = false := by
    unfold Source.startsLineComment
    split
    all_goals first
      | rfl
      | exact absurd (List.cons.inj (by assumption)).1 hslash
  have hblock : Source.startsBlockComment (c :: text) = false := by
    unfold Source.startsBlockComment
    split
    all_goals first
      | rfl
      | exact absurd (List.cons.inj (by assumption)).1 hslash
  have henough : Source.skipBlank (k + 1) ⟨text, p.next c⟩ = Source.skipBlank k ⟨text, p.next c⟩ :=
    Source.skipBlank_succ (Nat.le_of_lt hk)
  rw [henough, Source.skipBlank]
  simp [hline, hblock, hc]

/-! ## Brackets and marks -/

theorem beginsToken_of_isDigit {c : Char} (h : c.isDigit = true) : BeginsToken c := by
  have hrange := isDigit_iff.mp h
  have hne {x : Char} (hx : x.isDigit = false) : c ≠ x := ne_of_isDigit h hx
  refine ⟨hne (by decide), ?_, ?_, ?_⟩
  · have hblank : (c == ' ') = false := by simpa using hne (by decide)
    simp only [isTokenBlank, isBlank, show c.toNat < 128 by omega, if_true, hblank,
      Bool.false_or, Bool.or_eq_false_iff, Bool.and_eq_false_iff, decide_eq_false_iff_not,
      beq_eq_false_iff_ne]
    omega
  · unfold Delimiter.ofOpening?
    split
    all_goals first
      | rfl
      | exact absurd rfl (hne (by decide))
  · unfold Delimiter.ofClosing?
    split
    all_goals first
      | rfl
      | exact absurd rfl (hne (by decide))

/-- The marks that stand for themselves, whatever follows. -/
def plainMarks : List Char :=
  ['~', '!', '@', '#', '$', '%', '^', '&', '*', '-', '=', '+', '|', ';', ':', ',', '<', '.', '>',
   '?']

/-- A plain mark begins a token, and is that token. -/
theorem scanToken_mark {c : Char} (hc : c ∈ plainMarks) :
    BeginsToken c ∧ ∀ text p, Source.scanToken ⟨c :: text, p⟩
      = some (.punct c (Source.startsMark text) p, ⟨text, p.next c⟩) := by
  simp only [plainMarks, List.mem_cons, List.not_mem_nil, or_false] at hc
  rcases hc with rfl | rfl | rfl | rfl | rfl | rfl | rfl | rfl | rfl | rfl | rfl | rfl | rfl | rfl |
    rfl | rfl | rfl | rfl | rfl | rfl
  all_goals
    refine ⟨⟨by decide, by decide, rfl, rfl⟩, fun text p => ?_⟩
    rw [Source.scanToken]
    rfl

theorem scanUnwritten_eq_none {text : List Char} (hslash : text.head? ≠ some '/') (c : Char) :
    scanUnwritten (c :: text) = none := by
  cases text with
  | nil => simp [scanUnwritten, unwrittenText]
  | cons x more =>
      have hx : ¬ '/' = x := fun heq => hslash (by rw [← heq]; rfl)
      simp [scanUnwritten, unwrittenText, hx]

theorem lexFrom_opening (d : Delimiter) {text : List Char} (hslash : text.head? ≠ some '/')
    (n : Nat) (p : Position) (done : List Tree) (groups : List OpenGroup) :
    lexFrom (n + 1) ⟨d.opening :: text, p⟩ done groups
      = lexFrom n ⟨text, p.next d.opening⟩ [] (⟨d, p, done⟩ :: groups) := by
  have hskip : Source.skipBlank (n + 1) ⟨d.opening :: text, p⟩ = ⟨d.opening :: text, p⟩ := by
    cases d <;> rfl
  have hdoc : Source.docComment ⟨d.opening :: text, p⟩ = none := by cases d <;> rfl
  have hopen : Delimiter.ofOpening? d.opening = some d := by cases d <;> rfl
  simp only [lexFrom, hskip, hdoc, scanUnwritten_eq_none hslash, hopen]

theorem lexFrom_closing {d : Delimiter} {g : OpenGroup} (hg : g.delimiter = d) (n : Nat)
    (text : List Char) (p : Position) (done : List Tree) (outer : List OpenGroup) :
    lexFrom (n + 1) ⟨d.closing :: text, p⟩ done (g :: outer)
      = lexFrom n ⟨text, p.next d.closing⟩ (.group d done.reverse g.place p :: g.before) outer := by
  have hskip : Source.skipBlank (n + 1) ⟨d.closing :: text, p⟩ = ⟨d.closing :: text, p⟩ := by
    cases d <;> rfl
  have hdoc : Source.docComment ⟨d.closing :: text, p⟩ = none := by cases d <;> rfl
  have hunwritten : scanUnwritten (d.closing :: text) = none := by cases d <;> rfl
  have hopen : Delimiter.ofOpening? d.closing = none := by cases d <;> rfl
  have hclose : Delimiter.ofClosing? d.closing = some d := by cases d <;> rfl
  simp only [lexFrom, hskip, hdoc, hunwritten, hopen, hclose, hg, if_true]

/-- An apostrophe and a name are no character, unless another apostrophe follows. -/
theorem Source.scanLiteral_apostrophe {n : Name} (hn : n.Lexical) {rest : List Char}
    (hrest : EndsName rest) : scanLiteral ('\'' :: (n.written.toList ++ rest)) = none := by
  have hquoted : scanQuoted .text (n.written.toList ++ rest) = none := by
    rcases hn.written_cases hrest with ⟨c, text, htext, -, hc, htail⟩ | ⟨c, text, htext, -, hc⟩
    · rw [htext]
      have hescape : c ≠ '\\' := ne_of_isNameStart hc (by decide)
      have hclose := htail.head?_ne (by decide : '\'' ∈ literalMarks)
      unfold scanQuoted
      split
      · exact absurd (List.cons.inj (by assumption)).1 hescape
      · exact absurd (List.cons.inj (by assumption)).1 hescape
      · exact absurd (List.cons.inj (by assumption)).1 hescape
      · exact absurd (List.cons.inj (by assumption)).1 hescape
      · rename_i heq
        cases heq
        cases text with
        | nil => rfl
        | cons x text =>
            have hx : x ≠ '\'' := by simpa using hclose
            simp [hx]
      · rfl
    · rw [htext]
      rfl
  have hchar : scanChar ('\'' :: (n.written.toList ++ rest)) = none := hquoted
  simp only [scanLiteral, hchar]
  rfl

namespace Reads

variable {opened : List Delimiter} {text : List Char} {found : List Lexeme}

/-- Blanks before a text do not change what it reads as. -/
theorem blank (h : Reads opened text found) {c : Char} (hc : c = ' ' ∨ c = '\n') :
    Reads opened (c :: text) found where
  slash := by rcases hc with rfl | rfl <;> simp
  lexFrom p done groups hk hgroups := by
    rename_i k
    rw [List.length_cons] at hk
    obtain ⟨m, rfl⟩ : ∃ m, k = m + 1 := ⟨k - 1, by omega⟩
    obtain ⟨trees, hread, htrees⟩ := h.lexFrom (p.next c) done (k := m + 1) (by omega) hgroups
    refine ⟨trees, ?_, htrees⟩
    rw [lexFrom_blank _ _ (by omega), hread]
    · rcases hc with rfl | rfl <;> decide
    · rcases hc with rfl | rfl <;> decide

theorem blanks (h : Reads opened text found) (n : Nat) :
    Reads opened (List.replicate n ' ' ++ text) found := by
  induction n with
  | zero => exact h
  | succ n ih => exact ih.blank (Or.inl rfl)

/-! ## Tokens -/

/-- A token in front of a text. -/
theorem token (h : Reads opened text found) {c : Char} {more : List Char} {a : Lexeme}
    (hc : BeginsToken c)
    (htoken : ∀ p, ∃ tree after, Source.scanToken ⟨c :: (more ++ text), p⟩ = some (tree, after)
      ∧ after.text = text ∧ tree.lexemes = [a]) :
    Reads opened (c :: (more ++ text)) (a :: found) where
  slash := by simpa using hc.slash
  lexFrom p done groups hk hgroups := by
    rename_i k
    rw [List.length_cons, List.length_append] at hk
    obtain ⟨m, rfl⟩ : ∃ m, k = m + 1 := ⟨k - 1, by omega⟩
    obtain ⟨tree, ⟨_, q⟩, hscan, rfl, htree⟩ := htoken p
    obtain ⟨trees, hread, htrees⟩ := h.lexFrom q (tree :: done) (k := m) (by omega) hgroups
    refine ⟨trees, ?_, ?_⟩
    · rw [hc.lexFrom hscan, hread]
    · rw [htrees, pending_cons, htree, List.append_assoc, List.singleton_append]

/-- A name in front of a text that ends it. -/
theorem name (h : Reads opened text found) {n : Name} (hn : n.Lexical) (hend : EndsName text) :
    Reads opened (n.written.toList ++ text) (.name n :: found) := by
  obtain ⟨c, more, hwritten, hc⟩ := hn.written_head []
  rw [List.append_nil] at hwritten
  have hscan := Source.scanToken_name hn hend
  rw [hwritten] at hscan ⊢
  exact h.token (beginsToken_of_isNameStart hc) fun p => ⟨_, _, hscan p, rfl, rfl⟩

/-- A lifetime in front of a text that ends its name. -/
theorem lifetime (h : Reads opened text found) {n : Name} (hn : n.Lexical)
    (hend : EndsName text) :
    Reads opened ('\'' :: (n.written.toList ++ text)) (.lifetime n :: found) := by
  have hliteral := Source.scanLiteral_apostrophe hn hend
  have hname := Source.scanAnyName_name hn hend
  have hstarts : Source.startsLiteral (n.written.toList ++ text) = false := by
    rcases hn.written_cases hend with ⟨c, tail, htext, -, hc, htail⟩ | ⟨c, tail, htext, -, hc⟩
    · rw [htext, Source.startsLiteral_plain c htail]
    · rw [htext, Source.startsLiteral_raw tail hc]
  have hlifetime : Source.scanLifetime (n.written.toList ++ text) = some (n, text) := by
    rw [Source.scanLifetime, hname]
    cases text with
    | nil => rfl
    | cons c text =>
        have hmarks := (hend c rfl).2
        simp only [literalMarks, List.mem_cons, List.not_mem_nil, or_false, not_or] at hmarks
        simp [hmarks]
  refine h.token ⟨by decide, by decide, rfl, rfl⟩ fun p => ?_
  simp only [Source.scanToken, hliteral, hlifetime, hstarts]
  exact ⟨_, _, rfl, rfl, rfl⟩

/-- The literal of a text in front of another that ends it. -/
theorem quoted (h : Reads opened text found) (value : String) (hend : EndsName text) :
    Reads opened ((quote value).toList ++ text)
      (.literal ⟨.string value, quote value⟩ :: found) := by
  have hscan := scanLiteral_quote value hend
  rw [toList_quote] at hscan ⊢
  refine h.token ⟨by decide, by decide, rfl, rfl⟩ fun p => ?_
  simp only [List.cons_append] at hscan
  simp only [Source.scanToken, hscan]
  exact ⟨_, _, rfl, rfl, rfl⟩

/-- A number in front of a text that ends it. -/
theorem number (h : Reads opened text found) (n : Nat) (hend : EndsName text)
    (hpoint : text.head? ≠ some '.') :
    Reads opened ((toString n).toList ++ text)
      (.literal ⟨.integer false, toString n⟩ :: found) := by
  have hscan := scanLiteral_toString n hend hpoint
  cases hdigits : (toString n).toList with
  | nil =>
      rw [Nat.toString_eq_ofList_toDigits, String.toList_ofList] at hdigits
      exact absurd hdigits Nat.toDigits_ne_nil
  | cons c more =>
      have hc : c ∈ Nat.toDigits 10 n := by
        rw [Nat.toString_eq_ofList_toDigits, String.toList_ofList] at hdigits
        simp [hdigits]
      have hdigit := Nat.isDigit_of_mem_toDigits (by decide) (by decide) hc
      rw [hdigits, List.cons_append] at hscan
      refine h.token (beginsToken_of_isDigit hdigit) fun p => ?_
      simp only [Source.scanToken, hscan]
      exact ⟨_, _, rfl, rfl, rfl⟩

/-- A mark in front of a text. -/
theorem mark (h : Reads opened text found) {c : Char} (hc : c ∈ plainMarks) :
    Reads opened (c :: text) (.mark c :: found) := by
  obtain ⟨hbegins, hmark⟩ := scanToken_mark hc
  have hscan (p : Position) : ∃ tree after, Source.scanToken ⟨c :: ([] ++ text), p⟩
      = some (tree, after) ∧ after.text = text ∧ tree.lexemes = [.mark c] :=
    ⟨_, _, hmark text p, rfl, rfl⟩
  exact h.token hbegins hscan

/-- An opening bracket in front of a text. -/
theorem opening {d : Delimiter} (h : Reads (d :: opened) text found) :
    Reads opened (d.opening :: text) (.opening d :: found) where
  slash := by cases d <;> simp [Delimiter.opening]
  lexFrom p done groups hk hgroups := by
    rename_i k
    rw [List.length_cons] at hk
    obtain ⟨m, rfl⟩ : ∃ m, k = m + 1 := ⟨k - 1, by omega⟩
    have hinner : (⟨d, p, done⟩ :: groups : List OpenGroup).map OpenGroup.delimiter
        = d :: opened := by simp [hgroups]
    obtain ⟨trees, hread, htrees⟩ := h.lexFrom (p.next d.opening) [] (k := m) (by omega) hinner
    refine ⟨trees, ?_, ?_⟩
    · rw [lexFrom_opening d h.slash, hread]
    · rw [htrees]
      simp [pending, Tree.lexemesAll]

/-- A closing bracket in front of a text. -/
theorem closing (h : Reads opened text found) (d : Delimiter) :
    Reads (d :: opened) (d.closing :: text) (.closing d :: found) where
  slash := by cases d <;> simp [Delimiter.closing]
  lexFrom p done groups hk hgroups := by
    rename_i k
    rw [List.length_cons] at hk
    obtain ⟨m, rfl⟩ : ∃ m, k = m + 1 := ⟨k - 1, by omega⟩
    obtain ⟨g, outer, rfl, hg, houter⟩ := List.map_eq_cons_iff.mp hgroups
    obtain ⟨trees, hread, htrees⟩ := h.lexFrom (p.next d.closing)
      (.group d done.reverse g.place p :: g.before) (k := m) (by omega) houter
    refine ⟨trees, ?_, ?_⟩
    · rw [lexFrom_closing hg, hread]
    · rw [htrees, pending_cons, pending, hg]
      simp [Tree.lexemes]

end Reads

/-! ## Comments -/

namespace Source

theorem skipLine_append {line : List Char} (hline : '\n' ∉ line) (rest : List Char)
    (p : Position) : skipLine p (line ++ '\n' :: rest) = ⟨'\n' :: rest, p.after line⟩ := by
  induction line generalizing p with
  | nil => rfl
  | cons c line ih =>
      rw [List.mem_cons, not_or] at hline
      rw [List.cons_append, skipLine, if_neg (Ne.symm hline.1), ih hline.2]
      rfl

theorem lineText_append {line : List Char} (hline : ∀ c ∈ line, c ≠ '\n' ∧ c ≠ '\r')
    (rest : List Char) : lineText (line ++ '\n' :: rest) = line := by
  induction line with
  | nil => rfl
  | cons c line ih =>
      obtain ⟨⟨hnewline, hreturn⟩, hmore⟩ := List.forall_mem_cons.mp hline
      rw [List.cons_append, lineText, ih hmore]
      · exact fun _ heq => absurd heq hreturn
      · exact fun heq => absurd heq hnewline

theorem returnsPaired_of_forall {line : List Char} (hline : ∀ c ∈ line, c ≠ '\n' ∧ c ≠ '\r') :
    returnsPaired line = true := by
  induction line with
  | nil => rfl
  | cons c line ih =>
      obtain ⟨⟨-, hreturn⟩, hmore⟩ := List.forall_mem_cons.mp hline
      rw [returnsPaired, ih hmore]
      · exact fun _ heq => absurd heq hreturn
      · exact fun heq => absurd heq hreturn

end Source

/-- A line that is a comment is passed over. -/
theorem lexFrom_comment {line rest : List Char} (hline : '\n' ∉ line)
    (hstart : Source.startsLineComment (line ++ '\n' :: rest) = true) {k : Nat}
    (hk : (line ++ '\n' :: rest).length ≤ k) (p : Position) (done : List Tree)
    (groups : List OpenGroup) :
    lexFrom (k + 1) ⟨line ++ '\n' :: rest, p⟩ done groups
      = lexFrom (k + 1) ⟨'\n' :: rest, p.after line⟩ done groups := by
  refine lexFrom_congr ?_ done groups
  rw [List.length_append] at hk
  have henough : Source.skipBlank (k + 1) ⟨'\n' :: rest, p.after line⟩
      = Source.skipBlank k ⟨'\n' :: rest, p.after line⟩ :=
    Source.skipBlank_succ (by dsimp only; omega)
  rw [henough, Source.skipBlank, if_pos hstart, Source.skipLine_append hline]

/-- The lexemes of a documentation comment. -/
def docLexemes (text : String) : List Lexeme :=
  [.mark '#', .opening .bracket, .name (.plain "doc"), .mark '=',
   .literal ⟨.string text, quote text⟩, .closing .bracket]

/-- A line that is a documentation comment is read as its attribute. -/
theorem lexFrom_docLine {line : List Char} (hline : ∀ c ∈ line, c ≠ '\n' ∧ c ≠ '\r')
    (hslash : line.head? ≠ some '/') (rest : List Char) (k : Nat) (p : Position)
    (done : List Tree) (groups : List OpenGroup) :
    ∃ q, lexFrom (k + 1) ⟨'/' :: '/' :: '/' :: (line ++ '\n' :: rest), p⟩ done groups
      = lexFrom k ⟨'\n' :: rest, q⟩ ((Source.docAttribute line false p).reverse ++ done)
        groups := by
  -- a fourth slash would make it a comment of the other kind
  obtain ⟨x, more, hfront, hx⟩ : ∃ x more, line ++ '\n' :: rest = x :: more ∧ x ≠ '/' := by
    cases line with
    | nil => exact ⟨_, _, rfl, by decide⟩
    | cons x line => exact ⟨x, _, rfl, by simpa using hslash⟩
  have hskip : Source.skipBlank (k + 1) ⟨'/' :: '/' :: '/' :: (line ++ '\n' :: rest), p⟩
      = ⟨'/' :: '/' :: '/' :: (line ++ '\n' :: rest), p⟩ := by
    have hblank : isTokenBlank '/' = false := by decide
    rw [hfront]
    simp [Source.skipBlank, Source.startsLineComment, Source.startsBlockComment, hx, hblank]
  have hnewline : '\n' ∉ '/' :: '/' :: '/' :: line := by
    simpa using fun h => (hline _ h).1 rfl
  have hend := Source.skipLine_append hnewline rest p
  simp only [List.cons_append] at hend
  have hdoc : Source.docComment ⟨'/' :: '/' :: '/' :: (line ++ '\n' :: rest), p⟩
      = some (line, false, ⟨'\n' :: rest, p.after ('/' :: '/' :: '/' :: line)⟩) := by
    have htext := Source.lineText_append hline rest
    have hpaired := Source.returnsPaired_of_forall hline
    simp only [Source.docComment, hend]
    rw [hfront] at htext ⊢
    simp [hx, htext, hpaired]
  refine ⟨p.after ('/' :: '/' :: '/' :: line), ?_⟩
  simp only [lexFrom, hskip, hdoc]

theorem lexemesAll_docAttribute (line : List Char) (p : Position) :
    Tree.lexemesAll (Source.docAttribute line false p) = docLexemes (String.ofList line) := rfl

/-- **A file with a comment above its documentation** reads as the documentation and what is said
after it. -/
theorem lexemesOf_commented {header line rest : List Char} {found : List Lexeme} {text : String}
    (htext : text.toList = '/' :: '/' :: ' ' :: (header ++ '\n' :: '/' :: '/' :: '/'
      :: (line ++ '\n' :: rest)))
    (hheader : '\n' ∉ header) (hline : ∀ c ∈ line, c ≠ '\n' ∧ c ≠ '\r')
    (hslash : line.head? ≠ some '/') (h : Reads [] rest found) :
    lexemesOf text = .ok (docLexemes (String.ofList line) ++ found) := by
  let doc := '/' :: '/' :: '/' :: (line ++ '\n' :: rest)
  have hall : text.toList = ('/' :: '/' :: ' ' :: header) ++ '\n' :: doc := by
    rw [htext]
    rfl
  have hlex : lex text.toList = lexFrom (text.toList.length + 1) ⟨text.toList, .start⟩ [] [] := by
    rw [htext]
    simp [lex, dropByteOrderMark, Source.moveTo, textBefore, Position.after]
  have hnewline : '\n' ∉ '/' :: '/' :: ' ' :: header := by simpa using hheader
  have hlength : rest.length + 2 < text.toList.length ∧ doc.length < text.toList.length := by
    rw [hall]
    simp [doc]
    omega
  obtain ⟨q, hdoc⟩ := lexFrom_docLine hline hslash rest text.toList.length
    ((Position.start.after ('/' :: '/' :: ' ' :: header)).next '\n') [] []
  have hgroups : ([] : List OpenGroup).map OpenGroup.delimiter = [] := rfl
  obtain ⟨trees, hread, htrees⟩ := (h.blank (Or.inr rfl)).lexFrom q
    ((Source.docAttribute line false _).reverse ++ []) (k := text.toList.length)
    (by rw [List.length_cons]; omega) hgroups
  have hresult : lex text.toList = .ok trees := by
    rw [hlex]
    conv => lhs; arg 2; rw [hall]
    rw [lexFrom_comment hnewline rfl (hall ▸ Nat.le_refl _),
      lexFrom_blank (by decide) (by decide) hlength.2, hdoc, hread]
  rw [lexemesOf, hresult, Except.map, htrees, pending_append, lexemesAll_docAttribute]
  rfl

end Fieldwise.Token
