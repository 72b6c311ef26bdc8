import Fieldwise.Proofs.Token.Names

set_option autoImplicit false

/-! # Literals as tokens

A text that is written as a string literal is read back as that text, whatever characters it is
made of (`scanLiteral_quote`): every character is written in a way that one step of the reader
undoes, its number in base 16 included (`unicodeEscape_toDigits`). A number in decimal digits is
read back as a whole number (`scanLiteral_toString`).
-/

namespace Fieldwise.Token

open Fieldwise.Text

/-! ## Characters by their number -/

theorem hexValue?_digitChar : ∀ d < 16, hexValue? (Nat.digitChar d) = some d := by decide

/-- The digits of a number are read as the number. -/
theorem unicodeEscape_toDigits (n : Nat) (rest : List Char)
    (h : (Nat.toDigits 16 n).length ≤ 6) :
    unicodeEscape 0 0 (Nat.toDigits 16 n ++ rest)
      = unicodeEscape (Nat.toDigits 16 n).length n rest := by
  induction n using Nat.strongRecOn generalizing rest with
  | ind n ih =>
      have hdigits := Nat.toDigits_eq_if (b := 16) (n := n) (by decide)
      split at hdigits
      · rename_i hlt
        rw [hdigits]
        simp [unicodeEscape, hexValue?_digitChar n hlt]
      · -- the last digit comes after those of the quotient
        rw [hdigits, List.length_append, List.length_singleton] at h
        have hvalue := hexValue?_digitChar (n % 16) (Nat.mod_lt _ (by decide))
        rw [hdigits, List.append_assoc, ih (n / 16) (by omega) _ (by omega), List.length_append,
          List.length_singleton, List.singleton_append, unicodeEscape, hvalue]
        dsimp only
        rw [if_neg (by omega), Nat.div_add_mod]

theorem length_toDigits_char (c : Char) : (Nat.toDigits 16 c.toNat).length ≤ 6 := by
  rw [Nat.length_toDigits_le_iff (by decide) (by decide)]
  have hvalid : c.toNat.isValidChar := c.valid
  rcases hvalid with hlow | ⟨-, hhigh⟩ <;> omega

/-- A character by its number is read as the character. -/
theorem cookedStep_numberEscape (c : Char) (rest : List Char) :
    cookedStep .text (numberEscape c ++ rest) = some ([c], rest) := by
  have hlength := length_toDigits_char c
  have hpos : 0 < (Nat.toDigits 16 c.toNat).length := Nat.length_toDigits_pos
  have hbrace : hexValue? '\x7d' = none := by decide
  have hread : unicodeEscape 0 0 (Nat.toDigits 16 c.toNat ++ '\x7d' :: rest) = some (c, rest) := by
    rw [unicodeEscape_toDigits _ _ hlength, unicodeEscape, hbrace]
    dsimp only
    rw [if_neg (by omega), if_neg (by decide), if_pos ⟨rfl, c.valid⟩, Char.ofNat_toNat]
  have htext : numberEscape c ++ rest
      = '\\' :: 'u' :: '\x7b' :: (Nat.toDigits 16 c.toNat ++ '\x7d' :: rest) := by
    simp [numberEscape]
  simp [htext, cookedStep, hread]

/-! ## String literals -/

/-- A piece of a string literal that one step reads as a character, whatever follows. -/
structure Writes (piece : List Char) (c : Char) : Prop where
  front : ∃ x more, piece = x :: more ∧ x ≠ '"'
  step : ∀ rest, cookedStep .text (piece ++ rest) = some ([c], rest)

theorem writes_escapeChar (c : Char) : Writes (escapeChar c) c := by
  -- five characters have an escape of their own, the others have a number or stand for themselves
  unfold escapeChar
  repeat' split
  all_goals first
    | exact ⟨⟨_, _, rfl, by decide⟩, cookedStep_numberEscape c⟩
    | (subst c; exact ⟨⟨_, _, rfl, by decide⟩, fun _ => rfl⟩)
    | (refine ⟨⟨_, _, rfl, by assumption⟩, fun rest => ?_⟩
       unfold cookedStep
       simp_all)

/-- The inside of a literal begins with a piece for the first character. -/
theorem quoteBody_cons (c : Char) (text : List Char) :
    ∃ piece, quoteBody (c :: text) = piece ++ quoteBody text ∧ Writes piece c := by
  rw [quoteBody]
  split
  · rename_i hzero
    obtain rfl : c = Char.ofNat 0 := by rw [← hzero, Char.ofNat_toNat]
    refine ⟨_, rfl, ?_⟩
    split <;> exact ⟨⟨_, _, rfl, by decide⟩, fun _ => rfl⟩
  · exact ⟨_, rfl, writes_escapeChar c⟩

theorem Writes.cooked {piece : List Char} {c : Char} (h : Writes piece c) (n : Nat)
    (rest : List Char) :
    cooked .text (n + 1) (piece ++ rest)
      = (Token.cooked .text n rest).map fun (values, after) => (c :: values, after) := by
  obtain ⟨x, more, rfl, hx⟩ := h.front
  have hstep := h.step rest
  rw [List.cons_append] at hstep ⊢
  rw [Token.cooked]
  · rw [hstep]
    dsimp only
    cases Token.cooked .text n rest <;> rfl
  · intro after heq
    exact hx (List.cons.inj heq).1

/-- **The inside of a literal is read as the text it was made of.** -/
theorem cooked_quoteBody (text rest : List Char) {n : Nat} (hn : (quoteBody text).length < n) :
    cooked .text n (quoteBody text ++ '"' :: rest) = some (text, rest) := by
  induction text generalizing n with
  | nil =>
      obtain ⟨m, rfl⟩ : ∃ m, n = m + 1 := ⟨n - 1, by omega⟩
      rfl
  | cons c text ih =>
      obtain ⟨piece, hpiece, hwrites⟩ := quoteBody_cons c text
      have hlength : 0 < piece.length := by
        obtain ⟨x, more, rfl, -⟩ := hwrites.front
        exact Nat.succ_pos _
      rw [hpiece, List.length_append] at hn
      obtain ⟨m, rfl⟩ : ∃ m, n = m + 1 := ⟨n - 1, by omega⟩
      rw [hpiece, List.append_assoc, hwrites.cooked, ih (by omega)]
      rfl

theorem EndsName.not_isNameStart {c : Char} {rest : List Char} (h : EndsName (c :: rest)) :
    isNameStart c = false := by
  cases hc : isNameStart c with
  | false => rfl
  | true =>
      have hcontinue := (h c rfl).1
      rw [isNameContinue_of_isNameStart hc] at hcontinue
      cases hcontinue

theorem EndsName.dropSuffix {rest : List Char} (h : EndsName rest) : dropSuffix rest = rest := by
  cases rest with
  | nil => rfl
  | cons c rest => simp [Token.dropSuffix, scanName, h.not_isNameStart]

theorem textBefore_append (text rest : List Char) : textBefore (text ++ rest) rest = text := by
  simp [textBefore]

theorem toList_quote (text : String) :
    (quote text).toList = '"' :: (quoteBody text.toList ++ ['"']) := by
  rw [quote, String.toList_ofList, List.cons_append]

/-- **The literal of a text is read back as that text**, where what follows it ends a name. -/
theorem scanLiteral_quote (text : String) {rest : List Char} (hrest : EndsName rest) :
    scanLiteral ((quote text).toList ++ rest)
      = some (⟨.string text, quote text⟩, rest) := by
  have hlength : (quoteBody text.toList).length
      < (quoteBody text.toList ++ '"' :: rest).length + 1 := by
    rw [List.length_append]
    omega
  have hbody := cooked_quoteBody text.toList rest hlength
  have hstring : scanString ((quote text).toList ++ rest) = some (.text, text.toList, rest) := by
    rw [toList_quote, List.cons_append, List.append_assoc, List.singleton_append]
    simp only [scanString, hbody, Option.map_some, hrest.dropSuffix]
  simp [scanLiteral, hstring, textBefore_append]

/-! ## Whole numbers -/

/-- A character that may continue a name, as the digits do, does not end one. -/
theorem EndsName.head_ne {c x : Char} {rest : List Char} (h : EndsName (c :: rest))
    (hx : isNameContinue x = true) : c ≠ x := by
  rintro rfl
  rw [(h c rfl).1] at hx
  cases hx

theorem isDigit_iff {c : Char} : c.isDigit = true ↔ 48 ≤ c.toNat ∧ c.toNat ≤ 57 := by
  simp only [Char.isDigit, Bool.and_eq_true, decide_eq_true_eq, ge_iff_le,
    UInt32.le_iff_toNat_le]
  rfl

theorem isDecimal_eq_isDigit (c : Char) : isDecimal c = c.isDigit := by
  rw [Bool.eq_iff_iff, isDigit_iff, isDecimal]
  simp only [Bool.and_eq_true, decide_eq_true_eq, Char.le_def, UInt32.le_iff_toNat_le]
  rfl

theorem EndsName.isDecimalPart {c : Char} {rest : List Char} (h : EndsName (c :: rest)) :
    isDecimalPart c = false := by
  have hpart : ∀ x, Token.isDecimalPart x = true → isNameContinue x = true := by
    intro x hx
    rcases Bool.or_eq_true_iff.mp hx with hdigit | hline
    · rw [isDecimal_eq_isDigit] at hdigit
      have hrange := isDigit_iff.mp hdigit
      simp [isNameContinue, show x.toNat < 128 by omega, Char.isAlphanum, hdigit]
    · rw [eq_of_beq hline]
      decide
  cases hc : Token.isDecimalPart c with
  | false => rfl
  | true => exact absurd rfl (h.head_ne (hpart c hc))

theorem ten_le_of_hexValue? {c : Char} {d : Nat} (hc : isDecimal c = false)
    (hd : hexValue? c = some d) : 10 ≤ d := by
  unfold hexValue? at hd
  split at hd
  · rename_i hdecimal
    simp [isDecimal, hdecimal] at hc
  · simp only [Char.le_def, UInt32.le_iff_toNat_le] at hd
    split at hd
    · rename_i hin
      have hlow : 97 ≤ c.toNat := hin.1
      cases hd
      omega
    · split at hd
      · rename_i hin
        have hlow : 65 ≤ c.toNat := hin.1
        cases hd
        omega
      · cases hd

section Numerals

variable {c : Char} {digits rest : List Char}

theorem ne_of_isDigit {x : Char} (hc : c.isDigit = true) (hx : x.isDigit = false) : c ≠ x := by
  rintro rfl
  rw [hc] at hx
  cases hx

theorem scanString_digit (hc : c.isDigit = true) (text : List Char) :
    scanString (c :: text) = none := by
  unfold scanString
  split
  all_goals first
    | rfl
    | exact absurd (List.cons.inj (by assumption)).1 (ne_of_isDigit hc (by decide))

theorem scanChar_digit (hc : c.isDigit = true) (text : List Char) :
    scanChar (c :: text) = none := by
  unfold scanChar
  split
  all_goals first
    | rfl
    | exact absurd (List.cons.inj (by assumption)).1 (ne_of_isDigit hc (by decide))

theorem dropWhile_digits (hdigits : ∀ x ∈ digits, x.isDigit = true) (hrest : EndsName rest) :
    (digits ++ rest).dropWhile isDecimalPart = rest := by
  have hparts : ∀ x ∈ digits, isDecimalPart x = true := fun x hx => by
    simp [isDecimalPart, isDecimal_eq_isDigit, hdigits x hx]
  rw [List.dropWhile_append_of_pos hparts]
  cases rest with
  | nil => rfl
  | cons x rest => simp [hrest.isDecimalPart]

/-- Digits are no float without a point or an exponent after them. -/
theorem scanFloat_digits (hc : c.isDigit = true) (hdigits : ∀ x ∈ digits, x.isDigit = true)
    (hrest : EndsName rest) (hpoint : rest.head? ≠ some '.') :
    scanFloat (c :: (digits ++ rest)) = none := by
  have hdecimal : isDecimal c = true := by rw [isDecimal_eq_isDigit, hc]
  have hfraction : scanFloatDigits (c :: (digits ++ rest)) = none := by
    simp only [scanFloatDigits, hdecimal, Bool.not_true, Bool.false_eq_true, if_false,
      dropWhile_digits hdigits hrest]
    split
    · simp at hpoint
    · exact absurd rfl (hrest.head_ne (by decide))
    · exact absurd rfl (hrest.head_ne (by decide))
    · rfl
  rw [scanFloat, hfraction]
  rfl

theorem scanDigits_digits (hdigits : ∀ x ∈ digits, x.isDigit = true) (hrest : EndsName rest) :
    scanDigits 10 false (digits ++ rest) = some rest := by
  induction digits with
  | nil =>
      cases rest with
      | nil => rfl
      | cons x rest =>
          have hline : x ≠ '_' := hrest.head_ne (by decide)
          have hdecimal : isDecimal x = false := (Bool.or_eq_false_iff.mp hrest.isDecimalPart).1
          rw [List.nil_append, scanDigits]
          simp only [hdecimal, Bool.false_eq_true, if_false, hline]
          cases hd : hexValue? x with
          | none => rfl
          | some d => simp [Nat.not_lt.mpr (ten_le_of_hexValue? hdecimal hd)]
  | cons x digits ih =>
      have hx := hdigits x (by simp)
      have hrange := isDigit_iff.mp hx
      rw [List.cons_append, scanDigits, isDecimal_eq_isDigit, if_pos hx, if_pos (by omega),
        ih fun y hy => hdigits y (by simp [hy])]

/-- After the first digit of a number comes no letter. -/
theorem head?_digits_ne (hdigits : ∀ x ∈ digits, x.isDigit = true) (hrest : EndsName rest)
    {x : Char} (hx : isNameContinue x = true) (hdigit : x.isDigit = false) :
    (digits ++ rest).head? ≠ some x := by
  cases digits with
  | nil =>
      cases rest with
      | nil => simp
      | cons y rest => simpa using hrest.head_ne hx
  | cons y digits => simpa using ne_of_isDigit (hdigits y (by simp)) hdigit

theorem scanInteger_digits (hc : c.isDigit = true) (hdigits : ∀ x ∈ digits, x.isDigit = true)
    (hrest : EndsName rest) : scanInteger (c :: (digits ++ rest)) = some (false, rest) := by
  have hend : scanIntegerDigits (c :: (digits ++ rest)) = some rest := by
    have hletter {x : Char} (hx : isNameContinue x = true) (hdigit : x.isDigit = false) :=
      head?_digits_ne hdigits hrest hx hdigit
    unfold scanIntegerDigits
    split
    · rename_i heq
      exact absurd (congrArg List.head? (List.cons.inj heq).2) (hletter (by decide) (by decide))
    · rename_i heq
      exact absurd (congrArg List.head? (List.cons.inj heq).2) (hletter (by decide) (by decide))
    · rename_i heq
      exact absurd (congrArg List.head? (List.cons.inj heq).2) (hletter (by decide) (by decide))
    · have hrange := isDigit_iff.mp hc
      rw [scanDigits, isDecimal_eq_isDigit, if_pos hc, if_pos (by omega),
        scanDigits_digits hdigits hrest]
  have hword : wordEnds rest = true := by
    cases rest with
    | nil => rfl
    | cons x rest => simp [wordEnds, (hrest x rfl).1]
  simp [scanInteger, hend, scanNumberEnd, hrest.dropSuffix, hword]

/-- **A number is read back as a whole number**, where what follows it neither goes on with the
number nor makes a fraction of it. -/
theorem scanLiteral_toString (n : Nat) (hrest : EndsName rest) (hpoint : rest.head? ≠ some '.') :
    scanLiteral ((toString n).toList ++ rest) = some (⟨.integer false, toString n⟩, rest) := by
  have hlist : (toString n).toList = Nat.toDigits 10 n := by
    rw [Nat.toString_eq_ofList_toDigits, String.toList_ofList]
  have hbefore := textBefore_append (toString n).toList rest
  have hdigits : ∀ c ∈ (toString n).toList, c.isDigit = true := fun c hc =>
    Nat.isDigit_of_mem_toDigits (by decide) (by decide) (hlist ▸ hc)
  cases htext : (toString n).toList with
  | nil => exact absurd (hlist.symm.trans htext) Nat.toDigits_ne_nil
  | cons c digits =>
      rw [htext] at hbefore hdigits
      obtain ⟨hc, hmore⟩ := List.forall_mem_cons.mp hdigits
      have hvalue : String.ofList (c :: digits) = toString n := by
        rw [← htext, String.ofList_toList]
      rw [List.cons_append] at hbefore ⊢
      simp [scanLiteral, scanString_digit hc, scanChar_digit hc,
        scanFloat_digits hc hmore hrest hpoint, scanInteger_digits hc hmore hrest, hbefore, hvalue]

end Numerals

end Fieldwise.Token
