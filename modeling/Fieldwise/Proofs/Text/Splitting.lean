import Mathlib.Data.List.Basic
import Fieldwise.Text.Split

set_option autoImplicit false

/-! # Splitting and joining

Splitting at a separator undoes joining with it (`splitText_intercalate`), and joining undoes
splitting (`intercalate_splitText`). Texts that are ended by a separator each give the pieces of all
of them, and an empty piece after the last (`splitText_join_ended`); a text without a separator is
one piece. Taking the beginning of a text off undoes putting it in front
(`afterStart?_eq_some_iff`). -/

namespace Fieldwise.Text

/-! ## Pieces -/

theorem pieces_of_not_mem {separator : Char} {text : List Char} (h : separator ∉ text) :
    pieces separator text = [text] := by
  induction text with
  | nil => rfl
  | cons c rest ih =>
      have hc : c ≠ separator := fun heq => h (by simp [heq])
      rw [pieces, if_neg hc, ih fun hrest => h (by simp [hrest])]

theorem pieces_ne_nil {separator : Char} (text : List Char) : pieces separator text ≠ [] := by
  cases text with
  | nil => simp [pieces]
  | cons c rest =>
      rw [pieces]
      split
      · simp
      · split <;> simp

/-- The pieces of two texts with a separator between them are those of both. -/
theorem pieces_append_separator {separator : Char} (text rest : List Char) :
    pieces separator (text ++ separator :: rest)
      = pieces separator text ++ pieces separator rest := by
  induction text with
  | nil => simp [pieces]
  | cons c more ih =>
      rw [List.cons_append, pieces, ih, pieces]
      by_cases hc : c = separator
      · rw [if_pos hc, if_pos hc, List.cons_append]
      · rw [if_neg hc, if_neg hc]
        cases hpieces : pieces separator more with
        | nil => exact absurd hpieces (pieces_ne_nil more)
        | cons first others => rfl

/-- What stands before the first separator is the first piece. -/
theorem pieces_append {separator : Char} {text : List Char} (h : separator ∉ text)
    (rest : List Char) :
    pieces separator (text ++ separator :: rest) = text :: pieces separator rest := by
  rw [pieces_append_separator, pieces_of_not_mem h, List.singleton_append]

theorem not_mem_of_mem_pieces {separator : Char} {text piece : List Char}
    (h : piece ∈ pieces separator text) : separator ∉ piece := by
  induction text generalizing piece with
  | nil =>
      rw [List.mem_singleton.mp h]
      simp
  | cons c rest ih =>
      rw [pieces] at h
      split at h
      · rcases List.mem_cons.mp h with rfl | hrest
        · simp
        · exact ih hrest
      · rename_i hc
        split at h
        · exact absurd (by assumption) (pieces_ne_nil rest)
        · rename_i first more hpieces
          rcases List.mem_cons.mp h with rfl | hmore
          · have hfirst : separator ∉ first := ih (by simp [hpieces])
            simpa [hfirst] using Ne.symm hc
          · exact ih (by simp [hpieces, hmore])

/-- Between the separators stands what they were taken from. -/
theorem intercalate_pieces (separator : Char) (text : List Char) :
    [separator].intercalate (pieces separator text) = text := by
  induction text with
  | nil => rfl
  | cons c rest ih =>
      obtain ⟨first, more, hpieces⟩ := List.exists_cons_of_ne_nil (pieces_ne_nil rest)
      rw [hpieces] at ih
      rw [pieces]
      split
      · rename_i hc
        rw [hpieces, List.intercalate_cons_cons, ih, hc]
        rfl
      · -- any other character makes the first piece longer
        rw [hpieces]
        cases more with
        | nil => simpa using ih
        | cons next others =>
            rw [List.intercalate_cons_cons] at ih ⊢
            exact congrArg (c :: ·) ih

/-! ## Texts -/

/-- Texts that were joined are split into the same texts again. -/
theorem splitText_intercalate {separator : Char} {texts : List String} (h : texts ≠ [])
    (hseparator : ∀ text ∈ texts, separator ∉ text.toList) :
    splitText separator ((String.singleton separator).intercalate texts) = texts := by
  unfold splitText
  induction texts with
  | nil => exact absurd rfl h
  | cons text rest ih =>
      have htext := hseparator text (by simp)
      cases rest with
      | nil => simp [pieces_of_not_mem htext]
      | cons next more =>
          have hlist : ((String.singleton separator).intercalate (text :: next :: more)).toList
              = text.toList ++ separator
                :: ((String.singleton separator).intercalate (next :: more)).toList := by
            simp [String.intercalate_cons_cons]
          rw [hlist, pieces_append htext, List.map_cons, String.ofList_toList,
            ih (by simp) fun t ht => hseparator t (by simp [ht])]

/-- Joined texts hold nothing but what they and the separator hold. -/
theorem mem_intercalate {separator : String} {texts : List String} {c : Char}
    (h : c ∈ (separator.intercalate texts).toList) :
    c ∈ separator.toList ∨ ∃ text ∈ texts, c ∈ text.toList := by
  induction texts with
  | nil => simp at h
  | cons text rest ih =>
      cases rest with
      | nil =>
          rw [String.intercalate_singleton] at h
          exact .inr ⟨text, by simp, h⟩
      | cons next more =>
          rw [String.intercalate_cons_cons, String.toList_append, String.toList_append,
            List.mem_append, List.mem_append] at h
          rcases h with (htext | hseparator) | hmore
          · exact .inr ⟨text, by simp, htext⟩
          · exact .inl hseparator
          · rcases ih hmore with hseparator | ⟨found, hfound, hc⟩
            · exact .inl hseparator
            · exact .inr ⟨found, by simp [hfound], hc⟩

/-- A text that was split is joined to the same text again. -/
theorem intercalate_splitText (separator : Char) (text : String) :
    (String.singleton separator).intercalate (splitText separator text) = text := by
  have hlists : (splitText separator text).map String.toList = pieces separator text.toList := by
    simp [splitText, Function.comp_def]
  rw [← String.toList_inj, String.toList_intercalate, hlists, String.toList_singleton,
    intercalate_pieces]

theorem splitText_of_not_mem {separator : Char} {text : String} (h : separator ∉ text.toList) :
    splitText separator text = [text] := by
  rw [splitText, pieces_of_not_mem h, List.map_singleton, String.ofList_toList]

/-- There is one piece more than there are separators. -/
theorem length_splitText (separator : Char) (text : String) :
    (splitText separator text).length = text.toList.count separator + 1 := by
  rw [splitText, List.length_map]
  induction text.toList with
  | nil => rfl
  | cons c rest ih =>
      rw [pieces, List.count_cons]
      obtain ⟨first, more, hpieces⟩ := List.exists_cons_of_ne_nil (pieces_ne_nil rest)
      by_cases hc : c = separator
      · simp [hc, ih]
      · rw [hpieces] at ih ⊢
        simpa [hc] using ih

/-- **Texts that are ended by a separator** give the pieces of each, and nothing follows the last.
-/
theorem splitText_join_ended (separator : Char) (texts : List String) :
    splitText separator (String.join (texts.map (· ++ String.singleton separator)))
      = texts.flatMap (splitText separator) ++ [""] := by
  unfold splitText
  induction texts with
  | nil => rfl
  | cons text rest ih =>
      have hlist : (String.join ((text :: rest).map (· ++ String.singleton separator))).toList
          = text.toList ++ separator
            :: (String.join (rest.map (· ++ String.singleton separator))).toList := by
        simp
      rw [hlist, pieces_append_separator, List.map_append, ih, List.flatMap_cons,
        List.append_assoc]

/-- Lines, which hold no separator, are told apart. -/
theorem splitText_join_lines {separator : Char} {lines : List String}
    (h : ∀ line ∈ lines, separator ∉ line.toList) :
    splitText separator (String.join (lines.map (· ++ String.singleton separator)))
      = lines ++ [""] := by
  rw [splitText_join_ended]
  congr 1
  induction lines with
  | nil => rfl
  | cons line rest ih =>
      rw [List.flatMap_cons, splitText_of_not_mem (h line (by simp)),
        ih fun l hl => h l (by simp [hl]), List.singleton_append]

/-! ## What stands after a beginning -/

theorem dropStart_eq_some_iff {start text rest : List Char} :
    afterStart?.dropStart start text = some rest ↔ text = start ++ rest := by
  induction start generalizing text with
  | nil => simp [afterStart?.dropStart]
  | cons a start ih =>
      cases text with
      | nil => simp [afterStart?.dropStart]
      | cons b text =>
          rw [afterStart?.dropStart, List.cons_append, List.cons.injEq]
          by_cases hab : a = b
          · rw [if_pos hab, ih]
            exact ⟨fun h => ⟨hab.symm, h⟩, And.right⟩
          · rw [if_neg hab]
            exact ⟨fun h => (by cases h), fun h => absurd h.1.symm hab⟩

/-- The rest of a text after its beginning is what the beginning stands before. -/
theorem afterStart?_eq_some_iff {start text rest : String} :
    afterStart? start text = some rest ↔ text = start ++ rest := by
  rw [afterStart?, Option.map_eq_some_iff, ← String.toList_inj, String.toList_append]
  constructor
  · rintro ⟨found, hfound, rfl⟩
    rw [String.toList_ofList]
    exact dropStart_eq_some_iff.mp hfound
  · intro h
    exact ⟨rest.toList, dropStart_eq_some_iff.mpr h, String.ofList_toList⟩

end Fieldwise.Text
