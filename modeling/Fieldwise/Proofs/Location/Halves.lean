import Fieldwise.Proofs.Location.Joining

set_option autoImplicit false

/-! # The two halves of a location

A location that ends in a name falls into its parent and this name, which is its file name
(`Location.fileName?_of_name`). Both are parts of its text (`Location.text_of_parent?`,
`Location.exists_text_of_name`). A bare name has a parent too, the location without text, and
nothing else does (`Location.text_parent?_iff`): whatever stands before the name, be it a dot, a
slash or slashes after a dot, the parent has a text if there is a slash at all
(`Location.slash_mem_iff`). -/

namespace Fieldwise.Location

variable {l p : Location} {name : String} {init : List String}

/-- **The last step of a location that ends in a name** is the name. -/
theorem fileName?_of_name (helements : l.elements = init ++ [name]) (hname : IsName name) :
    l.fileName? = some name := by
  obtain ⟨hfront, hparts⟩ := elements_of_frontAndBody (text_of_name helements hname.idle).1
  obtain ⟨inner, hbody, -⟩ := hfront.exists_inner hname.idle (hparts.symm.trans helements)
  have hstep : stepOf name = .name name := if_neg hname.parent
  have hlast : l.components.getLast? = some (.name name) := by
    unfold components
    dsimp only
    rw [hbody, List.filter_append, List.filter_cons_of_pos (by simp [hname.idle]), List.map_append,
      ← List.append_assoc, List.filter_nil, List.map_singleton, hstep, List.getLast?_concat]
  rw [fileName?, hlast]

/-- A location has a slash if something stands before its last element. -/
theorem slash_mem_iff (helements : l.elements = init ++ [name]) :
    '/' ∈ l.text.toList ↔ init ≠ [] := by
  have hlength := Text.length_splitText '/' l.text
  rw [← elements, helements, List.length_append, List.length_singleton] at hlength
  rw [← List.count_pos_iff, ← List.length_pos_iff]
  omega

/-- A location that ends in a name has it at the end of its text. -/
theorem exists_text_of_name (helements : l.elements = init ++ [name]) :
    ∃ front, l.text = front ++ name := by
  have hwhole : (ofNames (init ++ [name])).text = l.text := by
    rw [← helements]
    exact Text.intercalate_splitText '/' l.text
  by_cases hnil : init = []
  · refine ⟨"", ?_⟩
    rw [← hwhole, hnil]
    simp
  · exact ⟨(ofNames init).text ++ "/", by rw [← hwhole, text_ofNames_concat hnil]⟩

/-- What is put together from a front and the first of some elements is the beginning of what all of
them spell. -/
theorem text_ofParts {front kept rest : List String} (hrest : rest ≠ []) :
    ∃ back, (ofNames (front ++ (kept ++ rest))).text = (ofParts front kept).text ++ back := by
  unfold ofParts
  split
  · obtain ⟨next, more, rfl⟩ := List.exists_cons_of_ne_nil hrest
    refine ⟨(ofNames (next :: more)).text, ?_⟩
    rw [List.nil_append, List.singleton_append, text_ofNames_cons "" (by simp), String.empty_append]
  · rw [← List.append_assoc]
    by_cases hnil : front ++ kept = []
    · exact ⟨(ofNames rest).text, by simp [hnil]⟩
    · refine ⟨"/" ++ (ofNames rest).text, ?_⟩
      rw [ofNames, String.intercalate_append_of_ne_nil hnil hrest, ← String.append_assoc]
      rfl

/-- The text of a location begins with that of its parent. -/
theorem text_of_parent? (helements : l.elements = init ++ [name]) (hname : isIdle name = false)
    (hparent : l.parent? = some p) : ∃ back, l.text = p.text ++ back := by
  obtain ⟨front, inner, -, rfl, hparts⟩ := parent?_eq_ofParts helements hname
  obtain rfl := Option.some.inj (hparent.symm.trans hparts)
  have hsplit : trimIdle inner ++ inner.rtakeWhile isIdle = inner :=
    List.rdropWhile_append_rtakeWhile
  have hwhole : l.text
      = (ofNames (front ++ (trimIdle inner ++ (inner.rtakeWhile isIdle ++ [name])))).text := by
    rw [← List.append_assoc, ← List.append_assoc, List.append_assoc front, hsplit, ← helements]
    exact (Text.intercalate_splitText '/' l.text).symm
  rw [hwhole]
  exact text_ofParts (by simp)

/-- **Only a bare name has a parent without text.** -/
theorem text_parent?_iff (helements : l.elements = init ++ [name]) (hname : isIdle name = false)
    (hparent : l.parent? = some p) : p.text = "" ↔ init = [] := by
  obtain ⟨front, inner, hfront, rfl, hparts⟩ := parent?_eq_ofParts helements hname
  obtain rfl := Option.some.inj (hparent.symm.trans hparts)
  constructor
  · intro htext
    have hslash : ∀ e ∈ inner, '/' ∉ e.toList := fun e he =>
      slash_of_mem_elements (by rw [helements]; simp [he])
    obtain ⟨rfl, hnil⟩ := eq_nil_of_ofParts hfront hslash htext
    cases hfront with
    | none hrelative hdot =>
        -- the first element could only be idle, so it would have been a front
        cases inner with
        | nil => rfl
        | cons first more =>
            have hidle : isIdle first = true := List.rdropWhile_eq_nil_iff.mp hnil first (by simp)
            have hhead : l.elements.head? = some first := by rw [helements]; rfl
            rcases Bool.or_eq_true_iff.mp hidle with hempty | hone
            · rw [beq_iff_eq.mp hempty] at hhead
              exact absurd hhead (head?_elements (text_of_name helements hname).1 hrelative)
            · rw [beq_iff_eq.mp hone] at hhead
              exact absurd hhead hdot
  · intro hnil
    obtain ⟨rfl, rfl⟩ := List.append_eq_nil_iff.mp hnil
    rfl

end Fieldwise.Location
