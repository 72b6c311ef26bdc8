import Fieldwise.Location
import Fieldwise.Proofs.Text.Splitting

set_option autoImplicit false

/-! # Locations made of names

`Location.ofNames` puts slashes between names. Taking such a location apart gives the names back,
as its elements and as its steps; its parent lacks the last name, and its ancestors are the
locations of its beginnings.
-/

namespace Fieldwise

/-- A text that can name a step of a location: it holds no slash, and is neither idle nor the way
back. -/
structure IsName (text : String) : Prop where
  slash : '/' ∉ text.toList
  idle : Location.isIdle text = false
  parent : text ≠ ".."

theorem IsName.ne_empty {text : String} (h : IsName text) : text ≠ "" := by
  rintro rfl
  cases h.idle

theorem IsName.ne_dot {text : String} (h : IsName text) : text ≠ "." := by
  rintro rfl
  cases h.idle

namespace Location

theorem sameAs_iff {a b : Location} : a.sameAs b = true ↔ a.components = b.components := by
  rw [sameAs, beq_iff_eq]

/-- The location of names with slashes between them. -/
def ofNames (names : List String) : Location := ⟨"/".intercalate names⟩

theorem ofNames_singleton (name : String) : ofNames [name] = ⟨name⟩ := by
  simp [ofNames]

@[simp] theorem text_ofNames_singleton (name : String) : (ofNames [name]).text = name := by
  rw [ofNames_singleton]

theorem text_ofNames_cons (name : String) {names : List String} (h : names ≠ []) :
    (ofNames (name :: names)).text = name ++ "/" ++ (ofNames names).text := by
  obtain ⟨next, more, rfl⟩ := List.exists_cons_of_ne_nil h
  exact String.intercalate_cons_cons

theorem text_ofNames_concat {names : List String} (h : names ≠ []) (name : String) :
    (ofNames (names ++ [name])).text = (ofNames names).text ++ "/" ++ name := by
  induction names with
  | nil => exact absurd rfl h
  | cons first rest ih =>
      by_cases hrest : rest = []
      · subst hrest
        rw [List.singleton_append, text_ofNames_cons first (by simp)]
        simp
      · rw [List.cons_append, text_ofNames_cons first (by simp), ih hrest,
          text_ofNames_cons first hrest]
        simp only [String.append_assoc]

variable {names : List String}

theorem text_ofNames_ne_empty (h : names ≠ []) (hnames : ∀ n ∈ names, IsName n) :
    (ofNames names).text ≠ "" := by
  obtain ⟨name, rest, rfl⟩ := List.exists_cons_of_ne_nil h
  by_cases hrest : rest = []
  · subst hrest
    simpa using (hnames name (by simp)).ne_empty
  · rw [text_ofNames_cons name hrest]
    intro hempty
    simpa using congrArg String.length hempty

/-- The text of a location made of names holds nothing but slashes and the texts of the names. -/
theorem mem_text_ofNames {c : Char} (h : c ∈ (ofNames names).text.toList) :
    c = '/' ∨ ∃ n ∈ names, c ∈ n.toList := by
  rcases Text.mem_intercalate h with hslash | hname
  · exact .inl (by simpa using hslash)
  · exact .inr hname

/-- What stands between the slashes of a location that was put together from texts without slashes
are these texts. -/
theorem elements_of_slashless (h : names ≠ []) (hslash : ∀ n ∈ names, '/' ∉ n.toList) :
    (ofNames names).elements = names :=
  Text.splitText_intercalate h hslash

/-- **The elements of a location made of names are the names.** -/
theorem elements_ofNames (h : names ≠ []) (hnames : ∀ n ∈ names, IsName n) :
    (ofNames names).elements = names :=
  elements_of_slashless h fun n hn => (hnames n hn).slash

theorem isAbsolute_ofNames (hnames : ∀ n ∈ names, IsName n) :
    (ofNames names).isAbsolute = false := by
  cases names with
  | nil => rfl
  | cons name rest =>
      have hname := hnames name (by simp)
      cases hlist : name.toList with
      | nil =>
          exact absurd (String.toList_eq_nil_iff.mp hlist) hname.ne_empty
      | cons c more =>
          have hc : c ≠ '/' := fun heq => hname.slash (by simp [hlist, heq])
          by_cases hrest : rest = []
          · subst hrest
            simp [isAbsolute, hlist, hc]
          · simp [isAbsolute, text_ofNames_cons name hrest, hlist, hc]

/-- A location made of names has no front, and its body is the names. -/
theorem frontAndBody_ofNames (h : names ≠ []) (hnames : ∀ n ∈ names, IsName n) :
    (ofNames names).frontAndBody = ([], [], names) := by
  obtain ⟨name, rest, rfl⟩ := List.exists_cons_of_ne_nil h
  have hname := hnames name (by simp)
  unfold frontAndBody
  rw [elements_ofNames h hnames]
  split
  · rename_i heq
    exact absurd (List.cons.inj heq).1 hname.ne_empty
  · rename_i heq
    exact absurd (List.cons.inj heq).1 hname.ne_dot
  · rfl

/-- **The steps of a location made of names are the names.** -/
theorem components_ofNames (h : names ≠ []) (hnames : ∀ n ∈ names, IsName n) :
    (ofNames names).components = names.map .name := by
  have hkept : names.filter (fun e => !isIdle e) = names :=
    List.filter_eq_self.mpr fun n hn => by simp [(hnames n hn).idle]
  have hsteps : names.map stepOf = names.map .name :=
    List.map_congr_left fun n hn => if_neg (hnames n hn).parent
  simp only [components, frontAndBody_ofNames h hnames, List.nil_append, hkept, hsteps]

/-- No names are left out where the idle elements at the end are. -/
theorem trimIdle_names (hnames : ∀ n ∈ names, IsName n) : trimIdle names = names := by
  have hkept : names.reverse.dropWhile isIdle = names.reverse := by
    cases hlist : names.reverse with
    | nil => rfl
    | cons n rest =>
        have hn : n ∈ names := by
          rw [← List.mem_reverse, hlist]
          simp
        rw [List.dropWhile_cons_of_neg (by simp [(hnames n hn).idle])]
  rw [trimIdle, hkept, List.reverse_reverse]

theorem parent?_ofNames {name : String} (hnames : ∀ n ∈ names ++ [name], IsName n) :
    (ofNames (names ++ [name])).parent? = some (ofNames names) := by
  have hinit : ∀ n ∈ names, IsName n := fun n hn => hnames n (by simp [hn])
  unfold parent?
  rw [frontAndBody_ofNames (by simp) hnames]
  dsimp only
  rw [trimIdle_names hnames]
  split
  · rename_i hnil _
    simp at hnil
  · rename_i hnil _
    simp at hnil
  · rw [List.dropLast_concat, trimIdle_names hinit]
    rfl

/-- **The ancestors of a location made of names** are the location and those of its parent. -/
theorem ancestors_ofNames {name : String} (hnames : ∀ n ∈ names ++ [name], IsName n) :
    (ofNames (names ++ [name])).ancestors
      = ofNames (names ++ [name]) :: (ofNames names).ancestors := by
  have hinit : ∀ n ∈ names, IsName n := fun n hn => hnames n (by simp [hn])
  have htext := text_ofNames_ne_empty (by simp) hnames
  rw [ancestors, elements_ofNames (by simp) hnames, List.length_append, List.length_singleton,
    ancestorsUpTo, if_neg htext, parent?_ofNames hnames]
  by_cases hnil : names = []
  · subst hnil
    rfl
  · rw [ancestors, elements_ofNames hnil hinit]

/-- A location made of names does not end in a slash. -/
theorem getLast?_ofNames (h : names ≠ []) (hnames : ∀ n ∈ names, IsName n) :
    (ofNames names).text.toList.getLast?.all (· == '/') = false := by
  obtain ⟨init, last, rfl⟩ : ∃ init last, names = init ++ [last] :=
    ⟨_, _, (List.dropLast_append_getLast h).symm⟩
  have hlast := hnames last (by simp)
  have hnonempty : last.toList ≠ [] := fun hnil =>
    hlast.ne_empty (String.toList_eq_nil_iff.mp hnil)
  have hend : (ofNames (init ++ [last])).text.toList.getLast? = last.toList.getLast? := by
    by_cases hinit : init = []
    · subst hinit
      simp
    · rw [text_ofNames_concat hinit, String.toList_append,
        List.getLast?_append_of_ne_nil _ hnonempty]
  rw [hend, List.getLast?_eq_some_getLast hnonempty, Option.all_some, beq_eq_false_iff_ne]
  exact fun hslash => hlast.slash (hslash ▸ List.getLast_mem hnonempty)

/-- A name inside of a location made of names. -/
theorem child_ofNames {name : String} (hnames : ∀ n ∈ names, IsName n) (hname : IsName name) :
    (ofNames names).child name = ofNames (names ++ [name]) := by
  have hsingle : (ofNames [name]).isAbsolute = false := isAbsolute_ofNames (by simpa using hname)
  have hrelative : Location.isAbsolute ⟨name⟩ = false := by
    simpa [isAbsolute] using hsingle
  unfold child join
  rw [hrelative, if_neg Bool.false_ne_true]
  by_cases hnil : names = []
  · subst hnil
    simp [ofNames]
  · rw [getLast?_ofNames hnil hnames, if_neg Bool.false_ne_true, ← text_ofNames_concat hnil]

end Location

end Fieldwise
