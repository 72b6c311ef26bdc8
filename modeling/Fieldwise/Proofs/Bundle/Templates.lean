import Fieldwise.Bundle.Source
import Fieldwise.Proofs.Pass.Accounting

set_option autoImplicit false

/-! # What templates say

A template is read back by `fill`, which knows nothing of how it was made: two braces give one, a
placeholder takes the next value, and any other brace is an error. Names and labels are arbitrary
texts, so that their doubled braces stand next to the braces of the template itself and to the
placeholders. `fill_doubleBraces` and `fill_fieldTemplate` say that no brace is paired across such
a seam; with them `templates_say` says that the body of every generated function gives the summary
of a value, for exactly as many values as there are fields.
-/

namespace Fieldwise

/-! ## Filling piece by piece -/

theorem fill_cons (r : Rendering) {c : Char} (hopen : c ≠ '\x7b') (hclose : c ≠ '\x7d')
    (rest : List Char) (values : List String) :
    fill r (c :: rest) values = (fill r rest values).map (c :: ·) := by
  rw [fill.eq_def]
  split <;> simp_all

/-- **A text with doubled braces gives itself**, whatever follows it. -/
theorem fill_doubleBraces (r : Rendering) (text rest : List Char) (values : List String) :
    fill r (doubleBraces text ++ rest) values = (fill r rest values).map (text ++ ·) := by
  -- each character gives a pair of braces or a character that is none, so that the reader is
  -- between two of them whenever it comes to the next
  induction text with
  | nil => simp [doubleBraces]
  | cons c text ih =>
      by_cases hopen : c = '\x7b'
      · subst hopen
        show fill r ('\x7b' :: '\x7b' :: (doubleBraces text ++ rest)) values = _
        rw [fill, ih, Option.map_map]
        rfl
      · by_cases hclose : c = '\x7d'
        · subst hclose
          show fill r ('\x7d' :: '\x7d' :: (doubleBraces text ++ rest)) values = _
          rw [fill, ih, Option.map_map]
          rfl
        · have hbare : doubleBraces (c :: text) = c :: doubleBraces text := by
            simp [doubleBraces, hopen, hclose]
          rw [hbare, List.cons_append, fill_cons r hopen hclose, ih, Option.map_map]
          rfl

/-- A placeholder takes the next value, and there has to be one. -/
theorem fill_placeholder (r : Rendering) (rest : List Char) (values : List String) :
    fill r (r.placeholder.toList ++ rest) values
      = match values with
        | [] => none
        | value :: more => (fill r rest more).map (value.toList ++ ·) := by
  cases r with
  | display =>
      show fill .display ('\x7b' :: '\x7d' :: rest) values = _
      cases values with
      | nil => rfl
      | cons value more => rw [fill, if_pos rfl]
  | debug =>
      show fill .debug ('\x7b' :: ':' :: '?' :: '\x7d' :: rest) values = _
      cases values with
      | nil => rfl
      | cons value more => rw [fill, if_pos rfl]

/-- What a summary holds between its braces for one field. -/
def fieldSummary (label value : String) : List Char :=
  label.toList ++ ['=', '\''] ++ value.toList ++ ['\'', ',']

theorem fill_fieldTemplate (r : Rendering) (label : String) (rest : List Char)
    (values : List String) :
    fill r (fieldTemplate r label ++ rest) values
      = match values with
        | [] => none
        | value :: more => (fill r rest more).map (fieldSummary label value ++ ·) := by
  -- the parts in the order in which they are read
  have hsplit : fieldTemplate r label ++ rest
      = doubleBraces label.toList
        ++ ('=' :: '\'' :: (r.placeholder.toList ++ ('\'' :: ',' :: rest))) := by
    simp [fieldTemplate]
  rw [hsplit, fill_doubleBraces, fill_cons r (by decide) (by decide),
    fill_cons r (by decide) (by decide), fill_placeholder]
  cases values with
  | nil => rfl
  | cons value more =>
      dsimp only
      rw [fill_cons r (by decide) (by decide), fill_cons r (by decide) (by decide)]
      simp only [Option.map_map]
      congr 1
      funext text
      simp [fieldSummary]

/-! ## Whole templates -/

theorem toList_summary (name : String) (fields : List (String × String)) :
    (summary name fields).toList
      = name.toList ++ '\x7b' :: (fields.flatMap fun f => fieldSummary f.1 f.2) ++ ['\x7d'] := by
  simp [summary, String.toList_join, fieldSummary, List.flatMap_map]

/-- The fields of a template take as many values as there are fields. -/
theorem fill_fields (r : Rendering) (labels values : List String) :
    fill r (labels.flatMap (fieldTemplate r) ++ ['\x7d', '\x7d']) values
      = if values.length = labels.length then
          some (((labels.zip values).flatMap fun f => fieldSummary f.1 f.2) ++ ['\x7d'])
        else none := by
  -- each field takes one value, so labels and values come to their ends together
  induction labels generalizing values with
  | nil =>
      cases values with
      | nil => rfl
      | cons value more => rfl
  | cons label labels ih =>
      rw [List.flatMap_cons, List.append_assoc, fill_fieldTemplate]
      cases values with
      | nil => rfl
      | cons value more =>
          dsimp only
          rw [ih]
          by_cases hlength : more.length = labels.length
          · simp [hlength]
          · simp [hlength]

theorem fill_template (r : Rendering) (name : String) (labels values : List String) :
    fill r (template name labels r).toList values
      = if values.length = labels.length then some (summary name (labels.zip values)).toList
        else none := by
  have hsplit : (template name labels r).toList
      = doubleBraces name.toList
        ++ ('\x7b' :: '\x7b' :: (labels.flatMap (fieldTemplate r) ++ ['\x7d', '\x7d'])) := by
    simp [template]
  rw [hsplit, fill_doubleBraces, fill, fill_fields]
  by_cases hlength : values.length = labels.length
  · simp [hlength, toList_summary]
  · simp [hlength]

theorem emptySummary_eq (name : String) : emptySummary name = summary name [] := by
  apply String.toList_inj.mp
  simp [emptySummary, toList_summary]

/-! ## The bodies of generated functions -/

/-- What the body of a function gives for the texts of some values. A fixed text takes none. -/
def PrintedBody.filled (r : Rendering) : PrintedBody → List String → Option (List Char)
  | .fixed text, [] => some text.toList
  | .fixed _, _ :: _ => none
  | .formatted template _, values => fill r template.toList values

/-- The body of a function is a template of its fields, or the fixed text if it has none. -/
theorem TextFunction.body_of_printed {f : TextFunction} {r : Rendering} {p : PrintedFunction}
    (h : f.printed r = .ok (.ok p)) :
    (f.fields = [] ∧ p.body = .fixed (emptySummary f.simpleName))
      ∨ ∃ accessors, p.body = .formatted (template f.simpleName f.fields r) accessors := by
  unfold TextFunction.printed at h
  split at h
  · cases h
  · split at h
    · rename_i hnone
      cases h
      exact .inl ⟨List.isEmpty_iff.mp hnone, rfl⟩
    · split at h
      · cases h
      · cases h
      · cases h
        exact .inr ⟨_, rfl⟩

/-- **The generated text is the summary.** A template for any name and labels takes exactly one
value for each label, is never an error for so many values, and gives the summary; the text for no
fields is the summary of none. The body of a generated function gives the summary likewise,
whichever of the two it is made of. -/
theorem templates_say (r : Rendering) (values : List String) :
    (∀ (name : String) (labels : List String),
      fill r (template name labels r).toList values
        = if values.length = labels.length then some (summary name (labels.zip values)).toList
          else none)
      ∧ (∀ name : String, emptySummary name = summary name [])
      ∧ ∀ (f : TextFunction) (p : PrintedFunction), f.printed r = .ok (.ok p) →
          p.body.filled r values
            = if values.length = f.fields.length then
                some (summary f.simpleName (f.fields.zip values)).toList
              else none := by
  refine ⟨fun name labels => fill_template r name labels values, emptySummary_eq, ?_⟩
  intro f p hprinted
  rcases TextFunction.body_of_printed hprinted with ⟨hnone, hbody⟩ | ⟨accessors, hbody⟩
  · rw [hbody, hnone, emptySummary_eq]
    cases values with
    | nil => rfl
    | cons value more => rfl
  · rw [hbody]
    exact fill_template r f.simpleName f.fields values

/-- A function for a type whose name is full of braces. -/
def bracedFunction : TextFunction where
  declaration := "model::Odd"
  typePath := "crate::model::Odd"
  simpleName := "\x7d\x7b\x7b"
  fields := ["type"]

/-- The body of that function takes one value, whose own braces are left alone. -/
theorem bracedFunction_says :
    ∃ p, bracedFunction.printed .debug = .ok (.ok p)
      ∧ p.body.filled .debug ["\x7b:?"]
        = some "\x7d\x7b\x7b\x7btype='\x7b:?',\x7d".toList := by
  obtain ⟨read, hprinted, hok⟩ : ∃ read, bracedFunction.printed .debug = .ok read
      ∧ read.isOk = true := exists_ok_of_view (by decide +kernel)
  cases read with
  | error reason => cases hok
  | ok p =>
      refine ⟨p, hprinted, ?_⟩
      rw [(templates_say .debug ["\x7b:?"]).2.2 bracedFunction p hprinted]
      decide

end Fieldwise
