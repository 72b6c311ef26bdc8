import Mathlib.Data.List.DropRight
import Fieldwise.Proofs.Location.Names

set_option autoImplicit false

/-! # What a location lies in

The parent of a location starts where the location starts, and its steps are the first of those of
the location (`Location.parent?_spec`). So are those of all its ancestors
(`Location.mem_ancestors`).
-/

namespace Fieldwise

namespace Location

variable {l p : Location}

/-- The elements of a location that lead somewhere. -/
def steps (l : Location) : List String := l.elements.filter fun e => !isIdle e

theorem slash_of_mem_elements {element : String} (h : element ∈ l.elements) :
    '/' ∉ element.toList := by
  obtain ⟨piece, hpiece, rfl⟩ := List.mem_map.mp h
  rw [String.toList_ofList]
  exact Text.not_mem_of_mem_pieces hpiece

/-- A location is absolute if nothing stands before its first slash. -/
theorem isAbsolute_iff : l.isAbsolute = true ↔ ∃ rest, rest ≠ [] ∧ l.elements = "" :: rest := by
  unfold isAbsolute elements Text.splitText
  cases l.text.toList with
  | nil => simp [Text.pieces]
  | cons c rest =>
      rw [Text.pieces]
      split
      · rename_i hc
        simp [hc, Text.pieces_ne_nil]
      · rename_i hc
        split
        · simp [hc]
        · simp [hc]

theorem text_of_elements (h : l.elements = [""]) : l.text = "" := by
  unfold elements Text.splitText at h
  rw [← String.toList_eq_nil_iff]
  cases hlist : l.text.toList with
  | nil => rfl
  | cons c rest =>
      rw [hlist, Text.pieces] at h
      split at h
      · simp [Text.pieces_ne_nil] at h
      · split at h <;> simp at h

/-- Only the location without text has an empty first element and is not absolute. -/
theorem head?_elements (h : l.text ≠ "") (hrelative : l.isAbsolute = false) :
    l.elements.head? ≠ some "" := by
  intro hfirst
  obtain ⟨rest, helements⟩ := List.head?_eq_some_iff.mp hfirst
  by_cases hrest : rest = []
  · exact h (text_of_elements (hrest ▸ helements))
  · have habsolute := isAbsolute_iff.mpr ⟨rest, hrest, helements⟩
    rw [hrelative] at habsolute
    cases habsolute

/-- The front of a location: it tells whether the location is absolute, and no step is part of it.
A location without a front does not begin with a dot. -/
inductive IsFront (l : Location) : List String → Prop
  | root (h : l.isAbsolute = true) : IsFront l [""]
  | dot (h : l.isAbsolute = false) : IsFront l ["."]
  | none (h : l.isAbsolute = false) (hdot : l.elements.head? ≠ some ".") : IsFront l []

theorem IsFront.filter {front : List String} (h : IsFront l front) :
    front.filter (fun e => !isIdle e) = [] := by
  cases h <;> rfl

/-- A location with a text is its front and its body. -/
theorem elements_of_frontAndBody (h : l.text ≠ "") :
    IsFront l l.frontAndBody.1 ∧ l.elements = l.frontAndBody.1 ++ l.frontAndBody.2.2 := by
  unfold frontAndBody
  split
  · rename_i rest helements
    split
    · rename_i habsolute
      exact ⟨.root habsolute, helements⟩
    · rename_i hrelative
      have hfirst : l.elements.head? = some "" := by rw [helements]; rfl
      exact absurd hfirst (head?_elements h (Bool.eq_false_iff.mpr hrelative))
  · rename_i rest helements
    refine ⟨.dot (Bool.eq_false_iff.mpr fun habsolute => ?_), helements⟩
    obtain ⟨more, -, hfirst⟩ := isAbsolute_iff.mp habsolute
    rw [helements] at hfirst
    simp at hfirst
  · rename_i hfirst hdot
    refine ⟨.none (Bool.eq_false_iff.mpr fun habsolute => ?_) fun hhead => ?_, rfl⟩
    · obtain ⟨more, -, helements⟩ := isAbsolute_iff.mp habsolute
      exact hfirst more helements
    · obtain ⟨more, helements⟩ := List.head?_eq_some_iff.mp hhead
      exact hdot more helements

theorem trimIdle_isPrefix (elements : List String) : trimIdle elements <+: elements :=
  List.rdropWhile_prefix isIdle elements

/-- A location that is put together from a front and some elements has the steps of these. -/
theorem ofParts_spec {front body : List String} (hfront : IsFront l front)
    (hbody : ∀ e ∈ body, '/' ∉ e.toList) (hempty : front = [] → body.head? ≠ some "")
    (htext : (ofParts front body).text ≠ "") :
    (ofParts front body).isAbsolute = l.isAbsolute
      ∧ (ofParts front body).steps = body.filter fun e => !isIdle e := by
  by_cases hroot : front = [""] ∧ body = []
  · obtain ⟨hslash, rfl⟩ := hroot
    cases hfront with
    | root habsolute =>
        rw [habsolute]
        exact ⟨rfl, rfl⟩
    | dot hrelative => simp at hslash
    | none hrelative => simp at hslash
  · have hparts : ofParts front body = ofNames (front ++ body) := by
      unfold ofParts
      split
      · exact absurd ⟨rfl, rfl⟩ hroot
      · rfl
    rw [hparts] at htext ⊢
    have hnil : front ++ body ≠ [] := by
      intro hnil
      rw [hnil] at htext
      exact htext rfl
    have hslash : ∀ e ∈ front ++ body, '/' ∉ e.toList := by
      intro e he
      rcases List.mem_append.mp he with he | he
      · cases hfront <;> simp_all
      · exact hbody e he
    have helements := elements_of_slashless hnil hslash
    constructor
    · rw [Bool.eq_iff_iff, isAbsolute_iff, helements]
      cases hfront with
      | root habsolute =>
          have hrest : body ≠ [] := fun hbody => hroot ⟨rfl, hbody⟩
          simp [habsolute, hrest]
      | dot hrelative => simp [hrelative]
      | none hrelative =>
          simp only [hrelative, Bool.false_eq_true, iff_false, not_exists, not_and]
          intro rest hrest heq
          exact hempty rfl (by simpa using congrArg List.head? heq)
    · rw [steps, helements, List.filter_append, hfront.filter, List.nil_append]

/-- **The parent of a location** starts where the location starts, and its steps are the first of
those of the location. -/
theorem parent?_spec (h : l.parent? = some p) (htext : p.text ≠ "") :
    p.isAbsolute = l.isAbsolute ∧ p.steps <+: l.steps := by
  have hl : l.text ≠ "" := by
    intro hempty
    obtain ⟨text⟩ := l
    obtain rfl : text = "" := hempty
    cases h
  obtain ⟨hfront, helements⟩ := elements_of_frontAndBody hl
  unfold parent? at h
  dsimp only at h
  generalize l.frontAndBody.1 = front at *
  generalize l.frontAndBody.2.1 = first at *
  generalize l.frontAndBody.2.2 = body at *
  split at h
  · cases h
    exact absurd rfl htext
  · cases h
  · cases h
    have hinit : (trimIdle body).dropLast <+: trimIdle body := List.dropLast_prefix _
    have hkept : trimIdle (trimIdle body).dropLast <+: body :=
      (trimIdle_isPrefix _).trans (hinit.trans (trimIdle_isPrefix body))
    have hslash : ∀ e ∈ trimIdle (trimIdle body).dropLast, '/' ∉ e.toList := fun e he =>
      slash_of_mem_elements (by rw [helements]; simp [hkept.subset he])
    have hfirst : front = [] →
        (trimIdle (trimIdle body).dropLast).head? ≠ some "" := by
      rintro rfl hfirst
      rw [List.nil_append] at helements
      obtain ⟨rest, hrest⟩ := List.head?_eq_some_iff.mp hfirst
      cases hfront with
      | none hrelative =>
          refine head?_elements hl hrelative ?_
          obtain ⟨more, hmore⟩ := hkept
          rw [helements, ← hmore, hrest]
          rfl
    obtain ⟨habsolute, hsteps⟩ := ofParts_spec hfront hslash hfirst htext
    refine ⟨habsolute, ?_⟩
    rw [hsteps, steps, helements, List.filter_append, hfront.filter, List.nil_append]
    exact hkept.filter _

/-- The location without text has no ancestors. -/
theorem text_of_mem_ancestorsUpTo {m : Location} {n : Nat} (h : m ∈ ancestorsUpTo n l) :
    l.text ≠ "" := by
  intro hempty
  cases n with
  | zero => cases h
  | succ n =>
      rw [ancestorsUpTo, if_pos hempty] at h
      cases h

theorem mem_ancestorsUpTo {m : Location} {n : Nat} (h : m ∈ ancestorsUpTo n l) :
    m.isAbsolute = l.isAbsolute ∧ m.steps <+: l.steps := by
  induction n generalizing l with
  | zero => cases h
  | succ n ih =>
      have htext := text_of_mem_ancestorsUpTo h
      rw [ancestorsUpTo, if_neg htext] at h
      rcases List.mem_cons.mp h with rfl | houter
      · exact ⟨rfl, List.prefix_rfl⟩
      · split at houter
        · rename_i p hparent
          obtain ⟨habsolute, hsteps⟩ := ih houter
          obtain ⟨hsame, hfirst⟩ := parent?_spec hparent (text_of_mem_ancestorsUpTo houter)
          exact ⟨habsolute.trans hsame, hsteps.trans hfirst⟩
        · cases houter

/-- **What a location lies in** starts where the location starts, and its steps are the first of
those of the location. -/
theorem mem_ancestors {m : Location} (h : m ∈ l.ancestors) :
    m.isAbsolute = l.isAbsolute ∧ m.steps <+: l.steps :=
  mem_ancestorsUpTo h

/-- A location with a text is the first of its own ancestors. -/
theorem head?_ancestors (h : l.text ≠ "") : l.ancestors.head? = some l := by
  rw [ancestors, ancestorsUpTo, if_neg h]
  rfl

end Location

end Fieldwise
