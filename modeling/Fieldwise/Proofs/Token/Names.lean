import Fieldwise.Token.Lexer

set_option autoImplicit false

/-! # Names as tokens

A name that source text can hold is a word, and for a raw name not one of five words
(`Name.Lexical`). Written down, before what cannot belong to a name, it is read back as one token
(`Source.scanToken_name`): no part of it is taken for a blank, a comment, a mark or a literal. So a
path of names is read as its names with the marks between them (`lexFrom_path`). Conversely every
name that is read from a text is one that source text can hold (`lexical_of_lex`).
-/

namespace Fieldwise.Text

/-! ## The first character of a name -/

/-- No range of one table meets a range of the other. -/
def Ranges.disjoint (a b : Ranges) : Bool :=
  a.all fun (first, last) => b.all fun (low, high) => last < low || high < first

theorem Ranges.has_eq_false_of_disjoint {a b : Ranges} (h : a.disjoint b = true) {c : Char}
    (ha : a.has c = true) : b.has c = false := by
  obtain ⟨⟨first, last⟩, hmem, hin⟩ := List.any_eq_true.mp ha
  refine List.any_eq_false.mpr ?_
  rintro ⟨low, high⟩ hmem' hin'
  have hapart := List.all_eq_true.mp (List.all_eq_true.mp h _ hmem) _ hmem'
  simp only [Bool.or_eq_true, Bool.and_eq_true, decide_eq_true_eq] at hapart hin hin'
  omega

/-- The characters beyond ASCII that separate tokens, and the byte order mark. -/
def separatorRanges : Ranges := blankRanges ++ [(0x200e, 0x200f), (0xfeff, 0xfeff)]

theorem nameStartRanges_disjoint : nameStartRanges.disjoint separatorRanges = true := by
  decide +kernel

theorem separatorRanges_of_isNameStart {c : Char} (h : isNameStart c = true)
    (hc : ¬ c.toNat < 128) : separatorRanges.has c = false := by
  simp only [isNameStart, hc, if_false] at h
  exact Ranges.has_eq_false_of_disjoint nameStartRanges_disjoint h

theorem toNat_of_isNameStart {c : Char} (h : isNameStart c = true) (hc : c.toNat < 128) :
    65 ≤ c.toNat ∧ c.toNat ≤ 90 ∨ 97 ≤ c.toNat ∧ c.toNat ≤ 122 ∨ c.toNat = 95 := by
  unfold isNameStart at h
  delta Char.isAlpha Char.isUpper Char.isLower at h
  simp only [hc, if_true, Bool.or_eq_true, beq_iff_eq, Bool.and_eq_true, decide_eq_true_eq,
    ge_iff_le, UInt32.le_iff_toNat_le] at h
  rcases h with (h | h) | rfl
  · exact Or.inl h
  · exact Or.inr (Or.inl h)
  · exact Or.inr (Or.inr rfl)

theorem ne_of_isNameStart {c x : Char} (h : isNameStart c = true) (hx : isNameStart x = false) :
    c ≠ x := by
  rintro rfl
  rw [h] at hx
  cases hx

theorem ne_of_isNameContinue {c x : Char} (h : isNameContinue c = true)
    (hx : isNameContinue x = false) : c ≠ x := by
  rintro rfl
  rw [h] at hx
  cases hx

theorem isTokenBlank_of_isNameStart {c : Char} (h : isNameStart c = true) :
    isTokenBlank c = false := by
  by_cases hc : c.toNat < 128
  · have hletter := toNat_of_isNameStart h hc
    have hblank : (c == ' ') = false := by
      simpa using ne_of_isNameStart h (by decide : isNameStart ' ' = false)
    simp only [isTokenBlank, isBlank, hc, if_true, hblank, Bool.false_or, Bool.or_eq_false_iff,
      Bool.and_eq_false_iff, decide_eq_false_iff_not, beq_eq_false_iff_ne]
    omega
  · have hapart := separatorRanges_of_isNameStart h hc
    simp only [separatorRanges, Ranges.has, List.any_append, Bool.or_eq_false_iff, List.any_cons,
      List.any_nil, Bool.and_eq_false_iff, decide_eq_false_iff_not] at hapart
    simp only [isTokenBlank, isBlank, hc, if_false, Ranges.has, hapart.1, Bool.false_or,
      Bool.or_eq_false_iff, beq_eq_false_iff_ne]
    omega

theorem toNat_ne_byteOrderMark {c : Char} (h : isNameStart c = true) : c.toNat ≠ 0xfeff := by
  intro hc
  have hapart := separatorRanges_of_isNameStart h (by omega)
  simp only [separatorRanges, Ranges.has, List.any_append, Bool.or_eq_false_iff, List.any_cons,
    List.any_nil, Bool.and_eq_false_iff, decide_eq_false_iff_not] at hapart
  omega

/-- No name begins with a digit, so a digit in base 16 that begins one is worth ten or more. -/
theorem not_digit_of_isNameStart {c : Char} (h : isNameStart c = true) :
    ¬ (48 ≤ c.toNat ∧ c.toNat ≤ 57) := by
  rintro ⟨hlow, hhigh⟩
  have hletter := toNat_of_isNameStart h (by omega)
  omega

end Fieldwise.Text

namespace Fieldwise.Token

open Fieldwise.Text

/-! ## Names that source text can hold -/

/-- The words that cannot be raw names. -/
def neverRaw : List String := ["_", "super", "self", "Self", "crate"]

/-- A word: a character that may begin a name, and characters that may continue one. -/
def IsWord : List Char → Prop
  | [] => False
  | c :: rest => isNameStart c = true ∧ ∀ x ∈ rest, isNameContinue x = true

/-- A name that source text can hold. -/
structure Name.Lexical (n : Name) : Prop where
  word : IsWord n.text.toList
  raw : n.raw = true → n.text ∉ neverRaw

instance : DecidablePred IsWord
  | [] => inferInstanceAs (Decidable False)
  | c :: rest =>
    -- by `List.all`, since characters are finitely many and could all be run through instead
    decidable_of_iff (isNameStart c = true ∧ rest.all isNameContinue = true)
      (and_congr_right' List.all_eq_true)

instance (n : Name) : Decidable n.Lexical :=
  decidable_of_iff (IsWord n.text.toList ∧ (n.raw = true → n.text ∉ neverRaw))
    ⟨fun h => ⟨h.1, h.2⟩, fun h => ⟨h.word, h.raw⟩⟩

/-- The marks that make a literal of letters before them. -/
def literalMarks : List Char := ['"', '\'', '#']

/-- Nothing of a text belongs to a name that stands before it: it is empty or goes on with a
character that neither continues the name nor makes a literal of it. -/
def EndsName (text : List Char) : Prop :=
  ∀ c, text.head? = some c → isNameContinue c = false ∧ c ∉ literalMarks

theorem endsName_nil : EndsName [] := fun c hc => by cases hc

theorem endsName_cons {c : Char} (h : isNameContinue c = false ∧ c ∉ literalMarks)
    (rest : List Char) : EndsName (c :: rest) := fun x hx => by
  cases hx
  exact h

/-- What may follow the first character of a name: more characters of the name, and then its
end. -/
def NameTail (text : List Char) : Prop :=
  ∃ word rest, text = word ++ rest ∧ (∀ x ∈ word, isNameContinue x = true) ∧ EndsName rest

theorem NameTail.head {c : Char} {text : List Char} (h : NameTail (c :: text)) :
    isNameContinue c = true ∧ NameTail text
      ∨ isNameContinue c = false ∧ c ∉ literalMarks := by
  obtain ⟨word, rest, htext, hword, hrest⟩ := h
  cases word with
  | nil => exact Or.inr (hrest c (by rw [← List.nil_append rest, ← htext]; rfl))
  | cons x word =>
      obtain ⟨rfl, rfl⟩ := List.cons.inj htext
      exact Or.inl ⟨hword c (by simp), word, rest, rfl, fun y hy => hword y (by simp [hy]), hrest⟩

theorem isNameContinue_of_literalMarks : ∀ x ∈ literalMarks, isNameContinue x = false := by
  have hmarks : (literalMarks.all fun x => !isNameContinue x) = true := by decide
  intro x hx
  simpa using List.all_eq_true.mp hmarks x hx

theorem NameTail.head_ne {c x : Char} {text : List Char} (h : NameTail (c :: text))
    (hx : x ∈ literalMarks) : c ≠ x := by
  rintro rfl
  rcases h.head with ⟨hc, -⟩ | ⟨-, hc⟩
  · exact ne_of_isNameContinue hc (isNameContinue_of_literalMarks c hx) rfl
  · exact hc hx

theorem NameTail.head?_ne {x : Char} {text : List Char} (h : NameTail text)
    (hx : x ∈ literalMarks) : text.head? ≠ some x := by
  cases text with
  | nil => simp
  | cons c rest => simpa using h.head_ne hx

theorem NameTail.tail {c : Char} {text : List Char} (h : NameTail (c :: text))
    (hc : isNameContinue c = true) : NameTail text := by
  rcases h.head with ⟨-, htail⟩ | ⟨hend, -⟩
  · exact htail
  · rw [hc] at hend
    cases hend

/-! ## No literal begins like a name -/

theorem NameTail.rawString_eq_none (kind : StringKind) {text : List Char} (h : NameTail text) :
    rawString kind text = none := by
  have hquote : text.head? ≠ some '"' := h.head?_ne (by decide)
  have hmark : text.head? ≠ some '#' := h.head?_ne (by decide)
  cases text with
  | nil => rfl
  | cons c rest =>
      have hc : (c == '#') = false := by simpa using hmark
      simp only [rawString, List.takeWhile_cons, hc, Bool.false_eq_true, if_false, List.length_nil,
        List.drop_zero]
      split
      · simp_all
      · rfl

theorem scanString_eq_none {c : Char} {text : List Char} (hc : isNameStart c = true)
    (h : NameTail text) : scanString (c :: text) = none := by
  unfold scanString
  split
  -- after `r`, `br` and `cr` a raw string would need its marks, after `b` and `c` a quotation mark
  · rename_i heq
    exact absurd (List.cons.inj heq).1 (ne_of_isNameStart hc (by decide))
  · rename_i heq
    obtain ⟨rfl, rfl⟩ := List.cons.inj heq
    simp [h.rawString_eq_none]
  · rename_i heq
    obtain ⟨rfl, rfl⟩ := List.cons.inj heq
    exact absurd rfl (h.head_ne (by decide))
  · rename_i heq
    obtain ⟨rfl, rfl⟩ := List.cons.inj heq
    simp [(h.tail (by decide)).rawString_eq_none]
  · rename_i heq
    obtain ⟨rfl, rfl⟩ := List.cons.inj heq
    exact absurd rfl (h.head_ne (by decide))
  · rename_i heq
    obtain ⟨rfl, rfl⟩ := List.cons.inj heq
    simp [(h.tail (by decide)).rawString_eq_none]
  · rfl

theorem scanChar_eq_none {c : Char} {text : List Char} (hc : isNameStart c = true)
    (h : text.head? ≠ some '\'') : scanChar (c :: text) = none := by
  unfold scanChar
  split
  · rename_i heq
    obtain ⟨rfl, rfl⟩ := List.cons.inj heq
    simp at h
  · rename_i heq
    exact absurd (List.cons.inj heq).1 (ne_of_isNameStart hc (by decide))
  · rfl

theorem isDecimal_of_isNameStart {c : Char} (h : isNameStart c = true) : isDecimal c = false := by
  have hdigit := not_digit_of_isNameStart h
  simp only [isDecimal, Bool.and_eq_false_iff, decide_eq_false_iff_not, Char.le_def,
    UInt32.le_iff_toNat_le]
  show ¬ 48 ≤ c.toNat ∨ ¬ c.toNat ≤ 57
  omega

theorem hexValue?_of_isNameStart {c : Char} (h : isNameStart c = true) {d : Nat}
    (hd : hexValue? c = some d) : 10 ≤ d := by
  have hdigit := not_digit_of_isNameStart h
  unfold hexValue? at hd
  simp only [Char.le_def, UInt32.le_iff_toNat_le] at hd
  split at hd
  · rename_i hin
    exact absurd hin hdigit
  · split at hd
    · rename_i hin
      have hlow : 97 ≤ c.toNat := hin.1
      cases hd
      omega
    · split at hd
      · rename_i hin
        have hlow : 65 ≤ c.toNat := hin.1
        cases hd
        omega
      · cases hd

theorem scanFloat_eq_none {c : Char} (text : List Char) (hc : isNameStart c = true) :
    scanFloat (c :: text) = none := by
  simp [scanFloat, scanFloatDigits, isDecimal_of_isNameStart hc]

theorem scanInteger_eq_none {c : Char} (text : List Char) (hc : isNameStart c = true) :
    scanInteger (c :: text) = none := by
  have hdigits : scanIntegerDigits (c :: text) = none := by
    unfold scanIntegerDigits
    split
    · rename_i heq
      exact absurd (List.cons.inj heq).1 (ne_of_isNameStart hc (by decide))
    · rename_i heq
      exact absurd (List.cons.inj heq).1 (ne_of_isNameStart hc (by decide))
    · rename_i heq
      exact absurd (List.cons.inj heq).1 (ne_of_isNameStart hc (by decide))
    · rw [scanDigits]
      simp only [isDecimal_of_isNameStart hc, Bool.false_eq_true, if_false, true_and]
      split
      · rfl
      · cases hd : hexValue? c with
        | none => rfl
        | some d =>
            have hten := hexValue?_of_isNameStart hc hd
            simp [Nat.not_lt.mpr hten]
  simp [scanInteger, hdigits]

/-- No literal is found at a name that is not raw. -/
theorem scanLiteral_plain {c : Char} {text : List Char} (hc : isNameStart c = true)
    (h : NameTail text) : scanLiteral (c :: text) = none := by
  have hquote : text.head? ≠ some '\'' := h.head?_ne (by decide)
  simp [scanLiteral, scanString_eq_none hc h, scanChar_eq_none hc hquote,
    scanFloat_eq_none text hc, scanInteger_eq_none text hc]

/-- No literal is found at a raw name. -/
theorem scanLiteral_raw {c : Char} (text : List Char) (hc : isNameStart c = true) :
    scanLiteral ('r' :: '#' :: c :: text) = none := by
  have hr : isNameStart 'r' = true := by decide
  have hmark : (c == '#') = false := by simpa using ne_of_isNameStart hc (by decide)
  have hquote : c ≠ '"' := ne_of_isNameStart hc (by decide)
  have hstring : scanString ('r' :: '#' :: c :: text) = none := by
    simp only [scanString, rawString, List.takeWhile_cons, hmark]
    simp [hquote]
  have hchar : scanChar ('r' :: '#' :: c :: text) = none := scanChar_eq_none hr (by simp)
  simp [scanLiteral, hstring, hchar, scanFloat_eq_none _ hr, scanInteger_eq_none _ hr]

/-! ## One name -/

theorem takeWhile_append_endsName {word rest : List Char}
    (hword : ∀ x ∈ word, isNameContinue x = true) (hrest : EndsName rest) :
    (word ++ rest).takeWhile isNameContinue = word
      ∧ (word ++ rest).dropWhile isNameContinue = rest := by
  have hend : rest.takeWhile isNameContinue = [] ∧ rest.dropWhile isNameContinue = rest := by
    cases rest with
    | nil => simp
    | cons c more => simp [(hrest c rfl).1]
  rw [List.takeWhile_append_of_pos hword, List.dropWhile_append_of_pos hword, hend.1, hend.2]
  simp

theorem scanName_word {word rest : List Char} (hword : IsWord word) (hrest : EndsName rest) :
    scanName (word ++ rest) = some (word, rest) := by
  cases word with
  | nil => exact hword.elim
  | cons c word =>
      obtain ⟨htake, hdrop⟩ := takeWhile_append_endsName hword.2 hrest
      simp [scanName, hword.1, htake, hdrop]

/-- A name as it is written, and what follows it, begins with a character that may begin a name. -/
theorem Name.Lexical.written_cases {n : Name} (hn : n.Lexical) {rest : List Char}
    (hrest : EndsName rest) :
    (∃ c text, n.written.toList ++ rest = c :: text ∧ n.raw = false ∧ isNameStart c = true
        ∧ NameTail text)
      ∨ ∃ c text, n.written.toList ++ rest = 'r' :: '#' :: c :: text ∧ n.raw = true
        ∧ isNameStart c = true := by
  obtain ⟨raw, text⟩ := n
  have hword := hn.word
  cases htext : text.toList with
  | nil => simp [htext, IsWord] at hword
  | cons c word =>
      simp only [htext, IsWord] at hword
      cases raw with
      | false =>
          refine Or.inl ⟨c, word ++ rest, ?_, rfl, hword.1, word, rest, rfl, hword.2, hrest⟩
          simp [Name.written, htext]
      | true =>
          refine Or.inr ⟨c, word ++ rest, ?_, rfl, hword.1⟩
          simp [Name.written, htext]

theorem Name.Lexical.written_head {n : Name} (hn : n.Lexical) (rest : List Char) :
    ∃ c text, n.written.toList ++ rest = c :: text ∧ isNameStart c = true := by
  obtain ⟨c, text, htext, hc⟩ : ∃ c text, n.written.toList = c :: text ∧ isNameStart c = true := by
    rcases hn.written_cases endsName_nil with ⟨c, text, htext, -, hc, -⟩ | ⟨c, text, htext, -, -⟩
    · rw [List.append_nil] at htext
      exact ⟨c, text, htext, hc⟩
    · rw [List.append_nil] at htext
      exact ⟨'r', '#' :: c :: text, htext, by decide⟩
  exact ⟨c, text ++ rest, by rw [htext, List.cons_append], hc⟩

theorem Name.Lexical.length_written {n : Name} (hn : n.Lexical) : 0 < n.written.toList.length := by
  obtain ⟨c, text, htext, -⟩ := hn.written_head []
  rw [List.append_nil] at htext
  simp [htext]

namespace Source

theorem scanAnyName_name {n : Name} (hn : n.Lexical) {rest : List Char} (hrest : EndsName rest) :
    scanAnyName (n.written.toList ++ rest) = some (n, rest) := by
  have hscan := scanName_word hn.word hrest
  rcases hn.written_cases hrest with ⟨c, text, htext, hraw, hc, htail⟩ | ⟨c, text, htext, hraw, hc⟩
  · have hwritten : n.written.toList ++ rest = n.text.toList ++ rest := by
      simp [Name.written, hraw]
    unfold scanAnyName
    split
    · -- a number sign would have to follow the first letter
      rename_i heq
      rw [htext] at heq
      obtain ⟨rfl, rfl⟩ := List.cons.inj heq
      exact absurd rfl (htail.head_ne (by decide))
    · rw [hwritten, hscan]
      show some (Name.plain (String.ofList n.text.toList), rest) = some (n, rest)
      rw [String.ofList_toList, Name.plain, ← hraw]
  · have hwritten : n.written.toList ++ rest = 'r' :: '#' :: (n.text.toList ++ rest) := by
      simp [Name.written, hraw]
    have hallowed := hn.raw hraw
    simp only [neverRaw, List.mem_cons, List.not_mem_nil, or_false, not_or] at hallowed
    rw [hwritten]
    simp [scanAnyName, hscan, hallowed, ← hraw]

theorem startsLiteral_plain (c : Char) {text : List Char} (h : NameTail text) :
    startsLiteral (c :: text) = false := by
  unfold startsLiteral
  split
  -- every literal has a mark that does not follow a letter of a name, in second or third place
  all_goals first
    | rfl
    | (rename_i heq
       obtain ⟨rfl, rfl⟩ := List.cons.inj heq
       first
         | exact absurd rfl (h.head_ne (by decide))
         | exact absurd rfl ((h.tail (by decide)).head_ne (by decide)))

theorem startsLiteral_raw {c : Char} (text : List Char) (hc : isNameStart c = true) :
    startsLiteral ('r' :: '#' :: c :: text) = false := by
  have hmark : c ≠ '#' := ne_of_isNameStart hc (by decide)
  have hquote : c ≠ '"' := ne_of_isNameStart hc (by decide)
  unfold startsLiteral
  split
  all_goals simp_all

theorem startsMark_eq_false {c : Char} (text : List Char) (hc : isNameStart c = true) :
    startsMark (c :: text) = false := by
  have hnone : (marks.all fun x => !isNameStart x) = true := by decide
  have hmark : c ∉ marks := by
    intro hmem
    have hnot := List.all_eq_true.mp hnone c hmem
    simp [hc] at hnot
  unfold startsMark
  split
  · rfl
  · rfl
  · rename_i heq
    obtain ⟨rfl, rfl⟩ := List.cons.inj heq
    simpa using hmark
  · rfl

/-- **A name is read back as one token**, where what follows it ends a name. -/
theorem scanToken_name {n : Name} (hn : n.Lexical) {rest : List Char} (hrest : EndsName rest)
    (p : Position) :
    scanToken ⟨n.written.toList ++ rest, p⟩
      = some (.name n p, ⟨rest, p.after n.written.toList⟩) := by
  have hname := scanAnyName_name hn hrest
  rcases hn.written_cases hrest with ⟨c, text, htext, -, hc, htail⟩ | ⟨c, text, htext, -, hc⟩
  · have hquote : c ≠ '\'' := ne_of_isNameStart hc (by decide)
    rw [htext] at hname ⊢
    simp [scanToken, scanLiteral_plain hc htail, startsMark_eq_false text hc,
      startsLiteral_plain c htail, hname]
  · have hmark := startsMark_eq_false ('#' :: c :: text) (by decide : isNameStart 'r' = true)
    rw [htext] at hname ⊢
    simp [scanToken, scanLiteral_raw text hc, hmark, startsLiteral_raw text hc, hname]

end Source

/-! ## Token by token -/

/-- A character that begins no blank, no comment and no bracket. -/
structure BeginsToken (c : Char) : Prop where
  slash : c ≠ '/'
  blank : isTokenBlank c = false
  opening : Delimiter.ofOpening? c = none
  closing : Delimiter.ofClosing? c = none

theorem beginsToken_colon : BeginsToken ':' where
  slash := by decide
  blank := by decide
  opening := rfl
  closing := rfl

theorem beginsToken_of_isNameStart {c : Char} (h : isNameStart c = true) : BeginsToken c where
  slash := ne_of_isNameStart h (by decide)
  blank := isTokenBlank_of_isNameStart h
  opening := by
    unfold Delimiter.ofOpening?
    split
    all_goals first
      | rfl
      | exact absurd h (by decide)
  closing := by
    unfold Delimiter.ofClosing?
    split
    all_goals first
      | rfl
      | exact absurd h (by decide)

namespace BeginsToken

variable {c : Char} {text : List Char}

theorem skipBlank (h : BeginsToken c) (n : Nat) (p : Position) :
    Source.skipBlank n ⟨c :: text, p⟩ = ⟨c :: text, p⟩ := by
  cases n with
  | zero => rfl
  | succ n =>
      have hline : Source.startsLineComment (c :: text) = false := by
        unfold Source.startsLineComment
        split
        all_goals first
          | rfl
          | exact absurd (List.cons.inj (by assumption)).1 h.slash
      have hblock : Source.startsBlockComment (c :: text) = false := by
        unfold Source.startsBlockComment
        split
        all_goals first
          | rfl
          | exact absurd (List.cons.inj (by assumption)).1 h.slash
      simp [Source.skipBlank, hline, hblock, h.blank]

theorem docComment (h : BeginsToken c) (p : Position) :
    Source.docComment ⟨c :: text, p⟩ = none := by
  simp only [Source.docComment]
  split
  all_goals first
    | rfl
    | exact absurd (List.cons.inj (by assumption)).1 h.slash

theorem scanUnwritten (h : BeginsToken c) : scanUnwritten (c :: text) = none := by
  have hparenthesis : c ≠ '(' := by
    rintro rfl
    cases h.opening
  simp [Token.scanUnwritten, unwrittenText, hparenthesis.symm]

/-- One step of reading: the token at the front. -/
theorem lexFrom (h : BeginsToken c) {n : Nat} {p : Position} {tree : Tree} {after : Source}
    (htoken : Source.scanToken ⟨c :: text, p⟩ = some (tree, after)) (done : List Tree)
    (groups : List OpenGroup) :
    lexFrom (n + 1) ⟨c :: text, p⟩ done groups = Token.lexFrom n after (tree :: done) groups := by
  simp only [Token.lexFrom, h.skipBlank, h.docComment, h.scanUnwritten, h.opening, h.closing,
    htoken]

end BeginsToken

theorem lexFrom_nil {n : Nat} (hn : 0 < n) (p : Position) (done : List Tree) :
    lexFrom n ⟨[], p⟩ done [] = .ok done.reverse := by
  obtain ⟨m, rfl⟩ : ∃ m, n = m + 1 := ⟨n - 1, by omega⟩
  rfl

/-- A colon is a mark, joint to another mark that follows. -/
theorem scanToken_colon (text : List Char) (p : Position) :
    Source.scanToken ⟨':' :: text, p⟩
      = some (.punct ':' (Source.startsMark text) p, ⟨text, p.next ':'⟩) := by
  have hliteral : scanLiteral (':' :: text) = none := rfl
  simp only [Source.scanToken, hliteral]
  rfl

theorem lexFrom_name {n : Name} (hn : n.Lexical) {rest : List Char} (hrest : EndsName rest)
    (k : Nat) (p : Position) (done : List Tree) (groups : List OpenGroup) :
    lexFrom (k + 1) ⟨n.written.toList ++ rest, p⟩ done groups
      = lexFrom k ⟨rest, p.after n.written.toList⟩ (.name n p :: done) groups := by
  have htoken := Source.scanToken_name hn hrest p
  obtain ⟨c, text, htext, hc⟩ := hn.written_head rest
  rw [htext] at htoken ⊢
  exact (beginsToken_of_isNameStart hc).lexFrom htoken done groups

/-! ## Paths of names -/

/-- Names as they are written after another name of a path. -/
def pathText : List Name → List Char
  | [] => []
  | n :: more => ':' :: ':' :: (n.written.toList ++ pathText more)

/-- The tokens of names after another name of a path. -/
def pathTrees : Position → List Name → List Tree
  | _, [] => []
  | p, n :: more =>
    let place := (p.next ':').next ':'
    .punct ':' true p :: .punct ':' false (p.next ':') :: .name n place
      :: pathTrees (place.after n.written.toList) more

theorem endsName_pathText (names : List Name) : EndsName (pathText names) := by
  cases names with
  | nil => exact endsName_nil
  | cons n more => exact endsName_cons (by decide) _

theorem startsMark_name {n : Name} (hn : n.Lexical) (rest : List Char) :
    Source.startsMark (n.written.toList ++ rest) = false := by
  obtain ⟨c, text, htext, hc⟩ := hn.written_head rest
  rw [htext]
  exact Source.startsMark_eq_false text hc

/-- **A path of names is read as its names**, with the marks between them. -/
theorem lexFrom_path {names : List Name} (hnames : ∀ n ∈ names, n.Lexical) {k : Nat}
    (hk : (pathText names).length < k) (p : Position) (done : List Tree) :
    lexFrom k ⟨pathText names, p⟩ done [] = .ok (done.reverse ++ pathTrees p names) := by
  induction names generalizing k p done with
  | nil =>
      rw [pathText, lexFrom_nil (by omega), pathTrees, List.append_nil]
  | cons n more ih =>
      have hn : n.Lexical := hnames n (by simp)
      have hrest := endsName_pathText more
      have hlength := hn.length_written
      simp only [pathText, List.length_cons, List.length_append] at hk
      obtain ⟨m, rfl⟩ : ∃ m, k = m + 1 + 1 + 1 := ⟨k - 3, by omega⟩
      -- two marks and the name are one step each
      rw [pathText, beginsToken_colon.lexFrom (scanToken_colon _ _),
        beginsToken_colon.lexFrom (scanToken_colon _ _), startsMark_name hn,
        lexFrom_name hn hrest, ih (fun x hx => hnames x (by simp [hx])) (by omega), pathTrees]
      simp [Source.startsMark, Source.marks]

theorem dropByteOrderMark_name {n : Name} (hn : n.Lexical) (rest : List Char) :
    dropByteOrderMark (n.written.toList ++ rest) = n.written.toList ++ rest := by
  obtain ⟨c, text, htext, hc⟩ := hn.written_head rest
  rw [htext]
  simp [dropByteOrderMark, toNat_ne_byteOrderMark hc]

/-- A name with names after it, as a whole text. -/
theorem lex_path {n : Name} (hn : n.Lexical) {names : List Name}
    (hnames : ∀ n ∈ names, n.Lexical) :
    lex (n.written.toList ++ pathText names)
      = .ok (.name n .start :: pathTrees (Position.start.after n.written.toList) names) := by
  have hrest := endsName_pathText names
  have hstart : Source.moveTo ⟨n.written.toList ++ pathText names, .start⟩
      (n.written.toList ++ pathText names) = ⟨n.written.toList ++ pathText names, .start⟩ := by
    simp [Source.moveTo, textBefore, Position.after]
  have hlength := hn.length_written
  have hfuel : (pathText names).length < (n.written.toList ++ pathText names).length := by
    rw [List.length_append]
    omega
  rw [lex, dropByteOrderMark_name hn, hstart, lexFrom_name hn hrest, lexFrom_path hnames hfuel]
  rfl

/-! ## Only such names are read -/

/-- A tree that is a name only if source text can hold it. -/
def Tree.NameLexical : Tree → Prop
  | .name n _ => n.Lexical
  | _ => True

/-- A tree all of whose names, those of lifetimes and inside of groups too, are names that source
text can hold. -/
inductive Tree.Lexical : Tree → Prop
  | name {n : Name} (hn : n.Lexical) (p : Position) : Lexical (.name n p)
  | lifetime {n : Name} (hn : n.Lexical) (p : Position) : Lexical (.lifetime n p)
  | punct (mark : Char) (joint : Bool) (p : Position) : Lexical (.punct mark joint p)
  | literal (l : Literal) (p : Position) : Lexical (.literal l p)
  | group (d : Delimiter) {content : List Tree} (hcontent : ∀ t ∈ content, Lexical t)
      (opening closing : Position) : Lexical (.group d content opening closing)

theorem Tree.Lexical.nameLexical {t : Tree} (h : t.Lexical) : t.NameLexical := by
  cases h with
  | name hn _ => exact hn
  | _ => trivial

theorem isWord_of_scanName {text word rest : List Char} (h : scanName text = some (word, rest)) :
    IsWord word := by
  cases text with
  | nil => cases h
  | cons c text =>
      simp only [scanName] at h
      split at h
      · rename_i hc
        obtain ⟨rfl, -⟩ := Prod.mk.inj (Option.some.inj h)
        exact ⟨hc, fun x hx => List.all_eq_true.mp List.all_takeWhile x hx⟩
      · cases h

theorem lexical_of_scanAnyName {text rest : List Char} {n : Name}
    (h : Source.scanAnyName text = some (n, rest)) : n.Lexical := by
  unfold Source.scanAnyName at h
  split at h
  · obtain ⟨⟨word, after⟩, hscan, hname⟩ := Option.bind_eq_some_iff.mp h
    simp only at hname
    split at hname
    · cases hname
    · rename_i hallowed
      obtain ⟨rfl, -⟩ := Prod.mk.inj (Option.some.inj hname)
      refine ⟨by simpa using isWord_of_scanName hscan, fun _ => ?_⟩
      simpa [neverRaw] using hallowed
  · obtain ⟨⟨word, after⟩, hscan, hname⟩ := Option.map_eq_some_iff.mp h
    obtain ⟨rfl, -⟩ := Prod.mk.inj hname
    exact ⟨by simpa [Name.plain] using isWord_of_scanName hscan, fun hraw => by cases hraw⟩

theorem lexical_of_scanToken {s after : Source} {tree : Tree}
    (h : s.scanToken = some (tree, after)) : tree.Lexical := by
  unfold Source.scanToken at h
  split at h
  · obtain ⟨rfl, -⟩ := Prod.mk.inj (Option.some.inj h)
    exact .literal _ _
  · split at h
    · obtain ⟨⟨name, rest⟩, hname, htree⟩ := Option.map_eq_some_iff.mp h
      simp only at htree
      split at htree
      · obtain ⟨rfl, -⟩ := Prod.mk.inj htree
        exact .punct _ _ _
      · obtain ⟨rfl, -⟩ := Prod.mk.inj htree
        exact .lifetime (lexical_of_scanAnyName (Option.eq_some_of_filter_eq_some hname)) _
    · split at h
      · obtain ⟨rfl, -⟩ := Prod.mk.inj (Option.some.inj h)
        exact .punct _ _ _
      · split at h
        · cases h
        · obtain ⟨⟨name, rest⟩, hname, htree⟩ := Option.map_eq_some_iff.mp h
          obtain ⟨rfl, -⟩ := Prod.mk.inj htree
          exact .name (lexical_of_scanAnyName hname) _
    · cases h

theorem lexical_doc : (Name.plain "doc").Lexical := by decide +kernel

theorem lexical_crate : (Name.plain "crate").Lexical := by decide +kernel

theorem lexical_of_docAttribute {text : List Char} {inner : Bool} {p : Position} {tree : Tree}
    (h : tree ∈ Source.docAttribute text inner p) : tree.Lexical := by
  have hbody : ∀ t ∈ [Tree.name (.plain "doc") p, .punct '=' false p,
      .literal ⟨.string (String.ofList text), quote (String.ofList text)⟩ p], t.Lexical := by
    rintro t (_ | ⟨_, _ | ⟨_, _ | ⟨_, _ | _⟩⟩⟩)
    · exact .name lexical_doc p
    · exact .punct _ _ _
    · exact .literal _ _
  cases inner <;> simp only [Source.docAttribute, if_true, Bool.false_eq_true, if_false,
    List.mem_cons, List.not_mem_nil, or_false] at h
  · rcases h with rfl | rfl
    · exact .punct _ _ _
    · exact .group _ hbody _ _
  · rcases h with rfl | rfl | rfl
    · exact .punct _ _ _
    · exact .punct _ _ _
    · exact .group _ hbody _ _

theorem lexical_of_lexFrom {n : Nat} {s : Source} {done trees : List Tree}
    {groups : List OpenGroup} (h : lexFrom n s done groups = .ok trees)
    (hdone : ∀ t ∈ done, t.Lexical) (hgroups : ∀ g ∈ groups, ∀ t ∈ g.before, t.Lexical) :
    ∀ t ∈ trees, t.Lexical := by
  induction n generalizing s done groups with
  | zero => cases h
  | succ n ih =>
      simp only [lexFrom] at h
      split at h
      · -- a documentation comment stands for trees of its own
        refine ih h (fun t ht => ?_) hgroups
        rcases List.mem_append.mp ht with hdoc | hold
        · exact lexical_of_docAttribute (List.mem_reverse.mp hdoc)
        · exact hdone t hold
      · split at h
        · -- the end of the text
          split at h
          · cases h
            exact fun t ht => hdone t (List.mem_reverse.mp ht)
          · cases h
        · split at h
          · exact ih h (List.forall_mem_cons.mpr ⟨.literal _ _, hdone⟩) hgroups
          · split at h
            · -- an opening bracket puts what is done aside, a closing one makes it a content
              exact ih h (fun t ht => by cases ht) (List.forall_mem_cons.mpr ⟨hdone, hgroups⟩)
            · split at h
              · split at h
                · cases h
                · obtain ⟨hinner, houter⟩ := List.forall_mem_cons.mp hgroups
                  split at h
                  · have hcontent : ∀ t ∈ done.reverse, t.Lexical := fun t ht =>
                      hdone t (List.mem_reverse.mp ht)
                    exact ih h
                      (List.forall_mem_cons.mpr ⟨.group _ hcontent _ _, hinner⟩) houter
                  · cases h
              · split at h
                · rename_i htoken
                  exact ih h (List.forall_mem_cons.mpr ⟨lexical_of_scanToken htoken, hdone⟩) hgroups
                · cases h

/-- **Every name in the trees of a text is one that source text can hold**, at every depth. -/
theorem forall_lexical_of_lex {text : List Char} {trees : List Tree}
    (h : lex text = .ok trees) : ∀ t ∈ trees, t.Lexical :=
  lexical_of_lexFrom h (fun t ht => by cases ht) (fun g hg => by cases hg)

/-- Every name that is read from a text is one that source text can hold. -/
theorem lexical_of_lex {text : List Char} {trees : List Tree} (h : lex text = .ok trees) :
    ∀ t ∈ trees, t.NameLexical :=
  fun t ht => (forall_lexical_of_lex h t ht).nameLexical

end Fieldwise.Token
