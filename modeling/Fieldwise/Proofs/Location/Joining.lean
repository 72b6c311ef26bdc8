import Fieldwise.Proofs.Location.Ancestors

set_option autoImplicit false

/-! # Locations that were joined

Joining adds to the text of a location. So a joined location has the steps of both, one after the
other (`Location.join_spec`), and if what was joined last is a name, the parent of the whole has the
steps that come before it (`Location.parent?_of_name`). This holds whatever stands in the texts, be
it dots, slashes one after another, or nothing. If there is a name before the last, the parent has
the very text that was joined to (`Location.parent?_child`).
-/

namespace Fieldwise

namespace Location

variable {l p inner : Location} {name : String}

theorem elements_slash (front back : String) :
    elements ⟨front ++ "/" ++ back⟩ = elements ⟨front⟩ ++ elements ⟨back⟩ := by
  have htext : (front ++ "/" ++ back).toList = front.toList ++ '/' :: back.toList := by
    simp
  unfold elements Text.splitText
  rw [htext, Text.pieces_append_separator, List.map_append]

/-- A text before another decides whether a location is absolute. -/
theorem isAbsolute_append_of_ne_empty {front : String} (h : front ≠ "") (back : String) :
    isAbsolute ⟨front ++ back⟩ = isAbsolute ⟨front⟩ := by
  have hfront : front.toList ≠ [] := fun hnil => h (String.toList_eq_nil_iff.mp hnil)
  have hfirst : (front ++ back).toList.head? = front.toList.head? := by
    rw [String.toList_append, List.head?_append_of_ne_nil _ hfront]
  rw [isAbsolute, isAbsolute, hfirst]

/-- A text that ends in a slash is another one before it. -/
theorem exists_of_ends_in_slash {text : String} (h : text.toList.getLast? = some '/') :
    ∃ front, text = front ++ "/" := by
  obtain ⟨init, hinit⟩ := List.getLast?_eq_some_iff.mp h
  refine ⟨String.ofList init, ?_⟩
  apply String.ext
  simp [hinit]

/-- **A joined location** starts where the location starts. It ends in the elements of what was
joined, and those before lead where the location leads. -/
theorem join_spec (h : inner.isAbsolute = false) :
    (l.join inner).isAbsolute = l.isAbsolute ∧ ∃ init,
      (l.join inner).elements = init ++ inner.elements
        ∧ init.filter (fun e => !isIdle e) = l.steps := by
  obtain ⟨text⟩ := l
  unfold join
  rw [if_neg (by simp [h])]
  dsimp only
  by_cases hempty : text = ""
  · subst hempty
    have hinner : (⟨"" ++ inner.text⟩ : Location) = inner := by simp
    rw [if_pos (by decide), hinner, h]
    exact ⟨rfl, [], rfl, rfl⟩
  · by_cases hslash : text.toList.getLast? = some '/'
    · obtain ⟨front, rfl⟩ := exists_of_ends_in_slash hslash
      have hsteps : steps ⟨front ++ "/"⟩ = (elements ⟨front⟩).filter fun e => !isIdle e := by
        have helements := elements_slash front ""
        rw [String.append_empty] at helements
        rw [steps, helements, List.filter_append]
        exact List.append_nil _
      rw [if_pos (by rw [hslash]; rfl), elements_slash, hsteps,
        isAbsolute_append_of_ne_empty hempty]
      exact ⟨rfl, _, rfl, rfl⟩
    · have hlast : text.toList.getLast?.all (· == '/') = false := by
        cases hlast : text.toList.getLast? with
        | none =>
            have hnil := List.getLast?_eq_none_iff.mp hlast
            exact absurd (String.toList_eq_nil_iff.mp hnil) hempty
        | some c =>
            rw [hlast] at hslash
            simpa using hslash
      rw [hlast, if_neg (by decide), elements_slash, String.append_assoc,
        isAbsolute_append_of_ne_empty hempty]
      exact ⟨rfl, _, rfl, rfl⟩

/-- A name is a location of one element. -/
theorem elements_of_name (h : IsName name) : elements ⟨name⟩ = [name] := by
  rw [← ofNames_singleton]
  exact elements_of_slashless (by simp) (by simpa using h.slash)

theorem isAbsolute_of_name (h : IsName name) : isAbsolute ⟨name⟩ = false := by
  rw [← ofNames_singleton]
  exact isAbsolute_ofNames (by simpa using h)

/-- A location that a name was joined to ends in the name. -/
theorem elements_child (l : Location) (h : IsName name) :
    ∃ init, (l.child name).elements = init ++ [name] := by
  obtain ⟨-, init, hjoined, -⟩ := join_spec (l := l) (isAbsolute_of_name h)
  rw [elements_of_name h] at hjoined
  exact ⟨init, hjoined⟩

/-- So does one whose last step was changed into the name. -/
theorem elements_withFileName (l : Location) (h : IsName name) :
    ∃ init, (l.withFileName name).elements = init ++ [name] := by
  unfold withFileName
  split <;> exact elements_child _ h

/-- A location that a name was joined to holds nothing but what the two hold, and a slash. -/
theorem not_mem_child {c : Char} (hname : IsName name) (hc : c ∉ l.text.toList) (hslash : c ≠ '/')
    (hnot : c ∉ name.toList) : c ∉ (l.child name).text.toList := by
  unfold child join
  rw [if_neg (by simp [isAbsolute_of_name hname])]
  split <;> simp [hc, hslash, hnot]

/-! ## The parent -/

/-- A list of elements that ends in a name is not shortened at its end. -/
theorem trimIdle_concat (init : List String) (hname : isIdle name = false) :
    trimIdle (init ++ [name]) = init ++ [name] := by
  rw [trimIdle, List.reverse_concat, List.dropWhile_cons_of_neg (by simp [hname]),
    ← List.reverse_concat, List.reverse_reverse]

/-- Leaving out idle elements at the end leaves out no step. -/
theorem filter_trimIdle (elements : List String) :
    (trimIdle elements).filter (fun e => !isIdle e) = elements.filter fun e => !isIdle e := by
  have hsplit : trimIdle elements ++ elements.rtakeWhile isIdle = elements :=
    List.rdropWhile_append_rtakeWhile
  have hidle : (elements.rtakeWhile isIdle).filter (fun e => !isIdle e) = [] := by
    rw [List.filter_eq_nil_iff]
    intro e he
    simp [List.mem_rtakeWhile_imp he]
  nth_rewrite 2 [← hsplit]
  rw [List.filter_append, hidle, List.append_nil]

/-- Elements of which those at the end that are idle were left out do not end in an idle one. -/
theorem isIdle_of_getLast?_trimIdle {elements : List String}
    (h : (trimIdle elements).getLast? = some name) : isIdle name = false := by
  have hused : elements.rdropWhile isIdle ≠ [] := by
    intro hnil
    rw [trimIdle, ← List.rdropWhile, hnil] at h
    cases h
  have hkept := List.rdropWhile_last_not isIdle elements hused
  rw [(List.getLast_eq_iff_getLast?_eq_some hused).mpr h] at hkept
  simpa using hkept

/-- A location put together from parts has no text only if it was put together from nothing. -/
theorem eq_nil_of_ofParts {front inner : List String} (hfront : IsFront l front)
    (hslash : ∀ e ∈ inner, '/' ∉ e.toList) (h : (ofParts front (trimIdle inner)).text = "") :
    front = [] ∧ trimIdle inner = [] := by
  have hroot : ¬ (front = [""] ∧ trimIdle inner = []) := by
    rintro ⟨rfl, hinner⟩
    rw [hinner] at h
    simp [ofParts] at h
  have hparts : ofParts front (trimIdle inner) = ofNames (front ++ trimIdle inner) := by
    unfold ofParts
    split
    · exact absurd ⟨rfl, by assumption⟩ hroot
    · rfl
  by_cases hnil : front ++ trimIdle inner = []
  · exact List.append_eq_nil_iff.mp hnil
  · have hkept : ∀ e ∈ front ++ trimIdle inner, '/' ∉ e.toList := by
      intro e he
      rcases List.mem_append.mp he with he | he
      · cases hfront <;> simp_all
      · exact hslash e ((trimIdle_isPrefix inner).subset he)
    have hempty : ofNames (front ++ trimIdle inner) = ⟨""⟩ := by
      rw [← hparts, ← h]
    -- so all its elements are one empty element, which is neither the root nor the last of a body
    have helements : front ++ trimIdle inner = [""] := by
      rw [← elements_of_slashless hnil hkept, hempty]
      rfl
    rcases List.append_eq_singleton_iff.mp helements with ⟨-, hinner⟩ | hboth
    · have hlast : (trimIdle inner).getLast? = some "" := by rw [hinner]; rfl
      have hidle := isIdle_of_getLast?_trimIdle hlast
      cases hidle
    · exact absurd hboth hroot

/-- The last element of a front is idle. -/
theorem IsFront.isIdle_of_getLast? {front : List String} (h : IsFront l front)
    (hlast : front.getLast? = some name) : isIdle name = true := by
  cases h with
  | root _ =>
      cases hlast
      rfl
  | dot _ =>
      cases hlast
      rfl
  | none _ => cases hlast

/-- A list that ends in a name and begins with a front has a body that ends in the name. -/
theorem IsFront.exists_inner {front body init : List String} (h : IsFront l front)
    (hname : isIdle name = false) (hparts : front ++ body = init ++ [name]) :
    ∃ inner, body = inner ++ [name] ∧ init = front ++ inner := by
  rcases List.append_eq_append_iff.mp hparts with ⟨inner, hinit, hbody⟩ | ⟨rest, hfront, hrest⟩
  · exact ⟨inner, hbody, hinit⟩
  · rcases List.append_eq_singleton_iff.mp hrest.symm with ⟨rfl, rfl⟩ | ⟨rfl, rfl⟩
    · exact ⟨[], rfl, by simpa using hfront.symm⟩
    · have hidle : isIdle name = true := h.isIdle_of_getLast? (by rw [hfront]; simp)
      rw [hname] at hidle
      cases hidle

/-- A location that ends in a name has a text, which does not end in a slash. -/
theorem text_of_name {init : List String} (helements : l.elements = init ++ [name])
    (hname : isIdle name = false) : l.text ≠ "" ∧ l.text.toList.getLast? ≠ some '/' := by
  have hlast : l.elements.getLast? ≠ some "" := by
    rw [helements, List.getLast?_concat]
    rintro ⟨rfl⟩
    cases hname
  obtain ⟨text⟩ := l
  constructor
  · rintro rfl
    exact hlast rfl
  · intro hslash
    obtain ⟨front, rfl⟩ := exists_of_ends_in_slash hslash
    have hsplit := elements_slash front ""
    rw [String.append_empty] at hsplit
    rw [hsplit] at hlast
    exact hlast (List.getLast?_concat)

/-- The parent of a location that ends in a name is put together from what comes before the name. -/
theorem parent?_eq_ofParts {init : List String} (helements : l.elements = init ++ [name])
    (hname : isIdle name = false) :
    ∃ front inner, IsFront l front ∧ init = front ++ inner
      ∧ l.parent? = some (ofParts front (trimIdle inner)) := by
  obtain ⟨hfront, hparts⟩ := elements_of_frontAndBody (text_of_name helements hname).1
  unfold parent?
  dsimp only
  generalize l.frontAndBody.1 = front at *
  generalize l.frontAndBody.2.1 = first at *
  generalize l.frontAndBody.2.2 = body at *
  obtain ⟨inner, rfl, rfl⟩ := hfront.exists_inner hname (hparts.symm.trans helements)
  refine ⟨front, inner, hfront, rfl, ?_⟩
  rw [trimIdle_concat inner hname]
  split
  · rename_i hnil
    simp at hnil
  · rename_i hnil _
    simp at hnil
  · rw [List.dropLast_concat]

/-- **The parent of a location that ends in a name** has the steps that come before the name. It
starts where the location starts; if it has no text, the location is the name in the place where
relative locations start. -/
theorem parent?_of_name {init : List String} (helements : l.elements = init ++ [name])
    (hname : isIdle name = false) :
    ∃ p, l.parent? = some p ∧ p.steps = init.filter (fun e => !isIdle e)
      ∧ (p.text ≠ "" → p.isAbsolute = l.isAbsolute) ∧ (p.text = "" → l.isAbsolute = false) := by
  obtain ⟨front, inner, hfront, rfl, hparent⟩ := parent?_eq_ofParts helements hname
  have htext : l.text ≠ "" := (text_of_name helements hname).1
  have hsteps : (front ++ inner).filter (fun e => !isIdle e)
      = (trimIdle inner).filter fun e => !isIdle e := by
    rw [List.filter_append, hfront.filter, List.nil_append, filter_trimIdle]
  have hslash : ∀ e ∈ inner, '/' ∉ e.toList := fun e he =>
    slash_of_mem_elements (by rw [helements]; simp [he])
  refine ⟨ofParts front (trimIdle inner), hparent, ?_⟩
  rw [hsteps]
  by_cases hempty : (ofParts front (trimIdle inner)).text = ""
  · obtain ⟨rfl, hnil⟩ := eq_nil_of_ofParts hfront hslash hempty
    have hrelative : l.isAbsolute = false := by
      cases hfront with
      | none hrelative => exact hrelative
    rw [hnil]
    exact ⟨rfl, fun htext => absurd rfl htext, fun _ => hrelative⟩
  · have hkept : ∀ e ∈ trimIdle inner, '/' ∉ e.toList := fun e he =>
      hslash e ((trimIdle_isPrefix inner).subset he)
    have hfirst : front = [] → (trimIdle inner).head? ≠ some "" := by
      rintro rfl hfirst
      obtain ⟨rest, hrest⟩ := List.head?_eq_some_iff.mp hfirst
      cases hfront with
      | none hrelative =>
          refine head?_elements htext hrelative ?_
          obtain ⟨more, hmore⟩ := trimIdle_isPrefix inner
          rw [helements, ← hmore, hrest]
          rfl
    obtain ⟨habsolute, hfiltered⟩ := ofParts_spec hfront hkept hfirst hempty
    exact ⟨hfiltered, fun _ => habsolute, fun hnone => absurd hnone hempty⟩

/-- What is in a location that ends in a name has it for its parent, with the same text. -/
theorem parent?_child {last : String} {init : List String} (helements : l.elements = init ++ [last])
    (hlast : isIdle last = false) (hname : IsName name) : (l.child name).parent? = some l := by
  obtain ⟨htext, hslash⟩ := text_of_name helements hlast
  have hjoined : l.child name = ⟨l.text ++ "/" ++ name⟩ := by
    rw [child, join, if_neg (by simp [isAbsolute_of_name hname]), if_neg]
    intro hall
    cases hend : l.text.toList.getLast? with
    | none => exact htext (String.toList_eq_nil_iff.mp (List.getLast?_eq_none_iff.mp hend))
    | some c =>
        rw [hend] at hall hslash
        exact hslash (congrArg some (by simpa using hall))
  have hwhole : (l.child name).elements = l.elements ++ [name] := by
    rw [hjoined, elements_slash, elements_of_name hname]
  obtain ⟨front, inner, hfront, hinit, hparent⟩ := parent?_eq_ofParts hwhole hname.idle
  -- what comes before the name ends in a name as well, so nothing at its end is left out
  obtain ⟨more, rfl, -⟩ := hfront.exists_inner hlast (hinit.symm.trans helements)
  have hparts : ofParts front (more ++ [last]) = ofNames l.elements := by
    rw [hinit]
    unfold ofParts
    split
    · rename_i hnil
      simp at hnil
    · rfl
  rw [hparent, trimIdle_concat more hlast, hparts, ofNames]
  exact congrArg some (congrArg mk (Text.intercalate_splitText '/' l.text))

end Location

end Fieldwise
