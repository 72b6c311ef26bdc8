import Mathlib.Data.List.Induction
import Fieldwise.FileTree.Change
import Fieldwise.Proofs.Location.Names

set_option autoImplicit false

/-! # Making directories

What a directory lies in is a staircase of places (`stairs`). A location made of names leads down
its stairs, if all of them are directories (`follow_of_built`). Making it makes those that are not
there and changes nothing else, if no file stands in the way (`makeDirectories_ofNames`).
-/

namespace Fieldwise.FileTree

/-! ## What stands where after a change -/

theorem lookup_filter_ne (entries : List (Place × Node)) (place q : Place) :
    (entries.filter fun e => e.1 != place).lookup q
      = if q = place then none else entries.lookup q := by
  induction entries with
  | nil => simp
  | cons e rest ih =>
      obtain ⟨found, node⟩ := e
      by_cases hfound : found = place
      · rw [List.filter_cons_of_neg (by simp [hfound]), ih]
        by_cases hq : q = place
        · rw [if_pos hq, if_pos hq]
        · have hne : (q == found) = false := beq_eq_false_iff_ne.mpr fun h => hq (h.trans hfound)
          rw [if_neg hq, if_neg hq, List.lookup_cons, hne]
      · rw [List.filter_cons_of_pos (by simp [hfound]), List.lookup_cons, List.lookup_cons, ih]
        by_cases hq : q = found
        · subst hq
          simp [hfound]
        · have hne : (q == found) = false := beq_eq_false_iff_ne.mpr hq
          rw [hne]

theorem get?_erase (t : FileTree) {place : Place} (hplace : place ≠ []) (q : Place) :
    (t.erase place).get? q = if q = place then none else t.get? q := by
  cases q with
  | nil =>
      rw [if_neg (Ne.symm hplace)]
      rfl
  | cons first rest => exact lookup_filter_ne t.entries place (first :: rest)

theorem get?_set (t : FileTree) {place : Place} (hplace : place ≠ []) (node : Node) (q : Place) :
    (t.set place node).get? q = if q = place then some node else t.get? q := by
  cases q with
  | nil =>
      rw [if_neg (Ne.symm hplace)]
      rfl
  | cons first rest =>
      show List.lookup (first :: rest) ((place, node) :: (t.erase place).entries) = _
      rw [List.lookup_cons]
      by_cases hq : first :: rest = place
      · simp [hq]
      · rw [beq_eq_false_iff_ne.mpr hq, if_neg hq]
        show (t.erase place).get? (first :: rest) = _
        rw [get?_erase t hplace, if_neg hq]

theorem isDirectoryAt_iff {t : FileTree} {place : Place} :
    t.isDirectoryAt place = true ↔ t.get? place = some .directory := by
  unfold isDirectoryAt
  cases t.get? place with
  | none => simp
  | some node => cases node <;> simp [Node.isDirectory]

/-- What stands at a place other than the root is an entry. -/
theorem mem_entries_of_get? {t : FileTree} {place : Place} {node : Node} (hplace : place ≠ [])
    (h : t.get? place = some node) : (place, node) ∈ t.entries := by
  obtain ⟨first, rest, rfl⟩ := List.exists_cons_of_ne_nil hplace
  obtain ⟨before, after, hentries, -⟩ := List.lookup_eq_some_iff.mp h
  simp [hentries]

/-! ## What a location leads to -/

section Asking

variable {t : FileTree} {start : Start} {place : Place} {l : Location}

theorem bind_eq_ok_iff {α β : Type} {x : Except FileError α} {f : α → Except FileError β} {b : β} :
    (x >>= f) = .ok b ↔ ∃ a, x = .ok a ∧ f a = .ok b := by
  cases x with
  | error reason => simp [bind, Except.bind]
  | ok a => simp [bind, Except.bind]

/-- What it means that a file system looks for a location. -/
theorem refusal?_eq_none_iff : refusal? start l = none
    ↔ Char.ofNat 0 ∉ l.text.toList ∧ l.text ≠ "" ∧ l.text.utf8ByteSize < locationLimit := by
  rw [← Nat.not_le]
  unfold refusal?
  split
  · simp_all
  · split
    · simp_all
    · split <;> simp_all

/-- It looks for every part of it as well. -/
theorem refusal?_of_part {other : Start} {part : Location} (front back : String)
    (h : refusal? start l = none) (hwhole : l.text = front ++ part.text ++ back)
    (htext : part.text ≠ "") : refusal? other part = none := by
  obtain ⟨hzero, -, hshort⟩ := refusal?_eq_none_iff.mp h
  rw [hwhole] at hzero hshort
  refine refusal?_eq_none_iff.mpr ⟨fun hmem => hzero (by simp [hmem]), htext, ?_⟩
  simp only [String.utf8ByteSize_append] at hshort
  omega

/-- What it means that a location leads to a place. -/
theorem resolve_eq_ok_iff : t.resolve start l = .ok place ↔ refusal? start l = none
    ∧ ∃ first, origin start l = .ok first ∧ t.follow start first l.elements = .ok place := by
  unfold resolve
  split
  · rename_i reason hrefusal
    simp [hrefusal]
  · rename_i hrefusal
    simp [hrefusal, bind_eq_ok_iff]

/-- What it means that a location names something. -/
theorem find_eq_ok_iff {node : Node} : t.find start l = .ok node
    ↔ ∃ place, t.resolve start l = .ok place ∧ t.get? place = some node := by
  unfold find
  rw [bind_eq_ok_iff]
  refine exists_congr fun place => and_congr_right fun _ => ?_
  cases t.get? place <;> simp

/-- What it means that a location names a file. -/
theorem isFile_iff : t.isFile start l = true ↔ ∃ content, t.find start l = .ok (.file content) := by
  unfold isFile
  split
  · rename_i content hfind
    simp [hfind]
  · rename_i hnot
    simpa using fun content => hnot content

/-- What it means that a text is read. -/
theorem readText_eq_ok_iff {text : String} : t.readText start l = .ok text
    ↔ ∃ content, t.find start l = .ok (.file content) ∧ String.fromUTF8? content = some text := by
  unfold readText
  rw [bind_eq_ok_iff]
  constructor
  · rintro ⟨node, hfind, hnode⟩
    cases node with
    | directory => cases hnode
    | file content =>
        refine ⟨content, hfind, ?_⟩
        dsimp only at hnode
        split at hnode
        · rename_i htext
          rw [htext, Except.ok.inj hnode]
        · cases hnode
  · rintro ⟨content, hfind, htext⟩
    exact ⟨_, hfind, by simp only [htext]⟩

theorem openDirectory_eq_ok_iff : t.openDirectory start l = .ok place
    ↔ t.resolve start l = .ok place ∧ t.get? place = some .directory := by
  unfold openDirectory
  rw [bind_eq_ok_iff, ← isDirectoryAt_iff]
  constructor
  · rintro ⟨found, hresolve, hfound⟩
    split at hfound
    · rename_i hdirectory
      cases hfound
      exact ⟨hresolve, hdirectory⟩
    · cases hfound
  · rintro ⟨hresolve, hdirectory⟩
    exact ⟨place, hresolve, if_pos hdirectory⟩

theorem isDirectory_iff :
    t.isDirectory start l = true ↔ ∃ place, t.openDirectory start l = .ok place := by
  have hfind : t.find start l = .ok .directory ↔ ∃ place, t.openDirectory start l = .ok place := by
    simp only [openDirectory_eq_ok_iff, find_eq_ok_iff]
  rw [← hfind, isDirectory]
  split <;> simp_all

end Asking

/-! ## Stairs -/

/-- The places on the way down from a place, without the first. -/
def stairs (place : Place) : List String → List Place
  | [] => []
  | name :: names => (place ++ [name]) :: stairs (place ++ [name]) names

theorem stairs_concat (place : Place) (names : List String) (name : String) :
    stairs place (names ++ [name]) = stairs place names ++ [place ++ (names ++ [name])] := by
  induction names generalizing place with
  | nil => rfl
  | cons first rest ih => simp [stairs, ih]

/-- All stairs are below the place, on the way to the last. -/
theorem exists_of_mem_stairs {place q : Place} {names : List String} (h : q ∈ stairs place names) :
    ∃ more, more ≠ [] ∧ more <+: names ∧ q = place ++ more := by
  induction names generalizing place with
  | nil => cases h
  | cons name rest ih =>
      rcases List.mem_cons.mp h with rfl | hrest
      · exact ⟨[name], by simp, by simp, rfl⟩
      · obtain ⟨more, -, hfirst, rfl⟩ := ih hrest
        exact ⟨name :: more, by simp, by simpa using hfirst, by simp⟩

/-- A tree with directories at some places, where the other tree may have none, and otherwise the
same as that. -/
structure Grown (t after : FileTree) (made : List Place) : Prop where
  current : after.current = t.current
  nodes : ∀ q, after.get? q = if q ∈ made then some .directory else t.get? q

/-- The places of a list are free for directories, or are directories. -/
def Clear (t : FileTree) (places : List Place) : Prop :=
  ∀ q ∈ places, t.get? q = none ∨ t.get? q = some .directory

/-- The places of a list are directories. -/
def Built (t : FileTree) (places : List Place) : Prop :=
  ∀ q ∈ places, t.get? q = some .directory

theorem Grown.built {t after : FileTree} {made : List Place} (h : Grown t after made) :
    after.Built made := by
  intro q hq
  rw [h.nodes, if_pos hq]

theorem grown_of_built {t : FileTree} {made : List Place} (h : t.Built made) : Grown t t made where
  current := rfl
  nodes q := by
    split
    · rename_i hq
      exact h q hq
    · rfl

theorem Grown.trans {t mid after : FileTree} {made more : List Place} (h : Grown t mid made)
    (hmore : Grown mid after more) : Grown t after (made ++ more) where
  current := hmore.current.trans h.current
  nodes q := by
    rw [hmore.nodes, h.nodes]
    by_cases hq : q ∈ more
    · simp [hq]
    · simp [hq]

theorem grown_set {t : FileTree} {place : Place} (hplace : place ≠ []) :
    Grown t (t.set place .directory) [place] where
  current := rfl
  nodes q := by
    rw [get?_set t hplace]
    simp

/-! ## Following names -/

/-- A text that a file system takes as a name. -/
structure FitsAsName (name : String) : Prop extends IsName name where
  zero : Char.ofNat 0 ∉ name.toList
  short : name.utf8ByteSize ≤ longestName

/-- Names that a file system takes as a location. -/
structure FitsAsNames (names : List String) : Prop where
  each : ∀ n ∈ names, FitsAsName n
  short : (Location.ofNames names).text.utf8ByteSize < locationLimit

namespace FitsAsNames

variable {names : List String} {name : String}

theorem isName (h : FitsAsNames names) : ∀ n ∈ names, IsName n :=
  fun n hn => (h.each n hn).toIsName

/-- Fewer names fit as well. -/
theorem init (h : FitsAsNames (names ++ [name])) : FitsAsNames names where
  each n hn := h.each n (by simp [hn])
  short := by
    by_cases hnil : names = []
    · subst hnil
      decide
    · have hshort := h.short
      rw [Location.text_ofNames_concat hnil, String.utf8ByteSize_append,
        String.utf8ByteSize_append] at hshort
      omega

/-- A single name fits as a location. -/
theorem singleton (h : FitsAsName name) : FitsAsNames [name] where
  each n hn := by
    rw [List.mem_singleton.mp hn]
    exact h
  short := by
    have hshort := h.short
    rw [Location.text_ofNames_singleton]
    exact Nat.lt_of_le_of_lt hshort (by decide)

theorem refusal?_eq_none (h : FitsAsNames names) (hnil : names ≠ []) (start : Start) :
    refusal? start (.ofNames names) = none := by
  have hzero : Char.ofNat 0 ∉ (Location.ofNames names).text.toList := by
    intro hmem
    rcases Location.mem_text_ofNames hmem with hslash | ⟨n, hn, hin⟩
    · exact absurd hslash (by decide)
    · exact (h.each n hn).zero hin
  exact refusal?_eq_none_iff.mpr ⟨hzero, Location.text_ofNames_ne_empty hnil h.isName, h.short⟩

end FitsAsNames

variable {t : FileTree} {start : Start} {place : Place} {names : List String} {name : String}

theorem step_there {node : Node} (hname : FitsAsName name)
    (hplace : t.get? place = some .directory) (hthere : t.get? (place ++ [name]) = some node) :
    t.step start place name = .ok (place ++ [name]) := by
  unfold step
  rw [if_neg (by simp [isDirectoryAt_iff.mpr hplace]), if_neg (by simp [hname.idle]),
    if_neg hname.parent, if_neg (Nat.not_lt.mpr hname.short), hthere]

theorem step_missing (hname : FitsAsName name) (hplace : t.get? place = some .directory)
    (hmissing : t.get? (place ++ [name]) = none) :
    t.step start place name = .error .notFound := by
  unfold step
  rw [if_neg (by simp [isDirectoryAt_iff.mpr hplace]), if_neg (by simp [hname.idle]),
    if_neg hname.parent, if_neg (Nat.not_lt.mpr hname.short), hmissing]

theorem follow_cons (t : FileTree) (start : Start) (place : Place) (name : String)
    (names : List String) : t.follow start place (name :: names)
      = (t.step start place name).bind fun next => t.follow start next names := rfl

/-- Names lead down stairs that are directories. -/
theorem follow_of_built (start : Start) (hnames : ∀ n ∈ names, FitsAsName n)
    (hplace : t.get? place = some .directory) (h : t.Built (stairs place names)) :
    t.follow start place names = .ok (place ++ names)
      ∧ t.get? (place ++ names) = some .directory := by
  induction names generalizing place with
  | nil =>
      rw [List.append_nil]
      exact ⟨rfl, hplace⟩
  | cons name rest ih =>
      have hfirst : t.get? (place ++ [name]) = some .directory := h _ (by simp [stairs])
      have hrest := ih (fun n hn => hnames n (by simp [hn])) hfirst
        fun q hq => h q (by simp [stairs, hq])
      rw [follow_cons, step_there (hnames name (by simp)) hplace hfirst]
      show t.follow start (place ++ [name]) rest = _ ∧ _
      simpa using hrest

/-- They lead nowhere if one of the stairs is missing. -/
theorem follow_of_clear (start : Start) (hnames : ∀ n ∈ names, FitsAsName n)
    (hplace : t.get? place = some .directory) (h : t.Clear (stairs place names))
    (hmissing : ¬ t.Built (stairs place names)) :
    t.follow start place names = .error .notFound := by
  induction names generalizing place with
  | nil => exact absurd (fun q hq => by cases hq) hmissing
  | cons name rest ih =>
      have hname := hnames name (by simp)
      rcases h (place ++ [name]) (by simp [stairs]) with hnone | hfirst
      · rw [follow_cons, step_missing hname hplace hnone]
        rfl
      · rw [follow_cons, step_there hname hplace hfirst]
        refine ih (fun n hn => hnames n (by simp [hn])) hfirst
          (fun q hq => h q (by simp [stairs, hq])) fun hbuilt => hmissing ?_
        intro q hq
        rcases List.mem_cons.mp hq with rfl | hq
        · exact hfirst
        · exact hbuilt q hq

theorem resolve_ofNames (h : FitsAsNames names) (hnil : names ≠ []) :
    t.resolve start (.ofNames names) = t.follow start start.place names := by
  unfold resolve
  rw [h.refusal?_eq_none hnil start, origin, Location.isAbsolute_ofNames h.isName,
    Location.elements_ofNames hnil h.isName]
  rfl

/-- The last name of a location is looked for in the directory that the others lead to. -/
theorem parentAndName_ofNames (h : FitsAsNames (names ++ [name])) :
    t.parentAndName start (.ofNames (names ++ [name]))
      = (t.follow start start.place names).bind fun place =>
        if !t.isDirectoryAt place then .error .notDirectory else .ok (place, some name) := by
  have hname : FitsAsName name := h.each name (by simp)
  have hused : ((names ++ [name]).reverse.dropWhile (· == "")).reverse = names ++ [name] := by
    rw [List.reverse_append, List.reverse_singleton, List.singleton_append,
      List.dropWhile_cons_of_neg (by simpa using hname.ne_empty)]
    simp
  have hdots : ¬ (name = "." ∨ name = "..") := by
    rintro (hdot | hdots)
    · exact hname.ne_dot hdot
    · exact hname.parent hdots
  unfold parentAndName
  rw [h.refusal?_eq_none (by simp) start]
  dsimp only
  rw [Location.elements_ofNames (by simp) h.isName, hused, List.getLast?_concat]
  dsimp only
  rw [if_neg hdots, origin, Location.isAbsolute_ofNames h.isName, List.dropLast_concat]
  simp only [if_neg (Nat.not_lt.mpr hname.short)]
  rfl

theorem openDirectory_ofNames (h : FitsAsNames names) (hnil : names ≠ [])
    (hplace : t.get? start.place = some .directory) (hbuilt : t.Built (stairs start.place names)) :
    t.openDirectory start (.ofNames names) = .ok (start.place ++ names) := by
  obtain ⟨hfollow, hend⟩ := follow_of_built start h.each hplace hbuilt
  exact openDirectory_eq_ok_iff.mpr ⟨(resolve_ofNames h hnil).trans hfollow, hend⟩

/-! ## Making directories -/

/-- A directory is made where it is not there and what it lies in is. -/
theorem makeDirectory_of_built (h : FitsAsNames (names ++ [name]))
    (hplace : t.get? start.place = some .directory) (hbuilt : t.Built (stairs start.place names)) :
    t.makeDirectory start (.ofNames (names ++ [name]))
      = match t.get? (start.place ++ (names ++ [name])) with
        | some _ => .error .alreadyThere
        | none => .ok (t.set (start.place ++ (names ++ [name])) .directory) := by
  obtain ⟨hfollow, hend⟩ := follow_of_built start h.init.each hplace hbuilt
  unfold makeDirectory
  rw [parentAndName_ofNames h, hfollow]
  show (Except.bind (if !t.isDirectoryAt (start.place ++ names) then _ else _) _) = _
  rw [isDirectoryAt_iff.mpr hend, if_neg (by decide), ← List.append_assoc]
  rfl

theorem makeDirectory_of_clear (h : FitsAsNames (names ++ [name]))
    (hplace : t.get? start.place = some .directory) (hclear : t.Clear (stairs start.place names))
    (hmissing : ¬ t.Built (stairs start.place names)) :
    t.makeDirectory start (.ofNames (names ++ [name])) = .error .notFound := by
  have hfollow := follow_of_clear start h.init.each hplace hclear hmissing
  unfold makeDirectory
  rw [parentAndName_ofNames h, hfollow]
  rfl

/-- The stairs are no longer than their last, so they do not meet a place beyond it. -/
theorem not_mem_stairs_concat (place : Place) (names : List String) (name : String) :
    place ++ (names ++ [name]) ∉ stairs place names := by
  intro h
  obtain ⟨more, -, hfirst, heq⟩ := exists_of_mem_stairs h
  have hlength := hfirst.length_le
  rw [← List.append_cancel_left heq, List.length_append, List.length_singleton] at hlength
  omega

/-- What stands above the stairs stays where it is when they are made. -/
theorem Grown.get?_start {after : FileTree} (h : Grown t after (stairs place names)) :
    after.get? place = t.get? place := by
  have hstart : place ∉ stairs place names := by
    intro hmem
    obtain ⟨more, hmore, -, heq⟩ := exists_of_mem_stairs hmem
    exact hmore (List.self_eq_append_right.mp heq)
  rw [h.nodes, if_neg hstart]

/-- A directory that may be there is made if it is not. -/
theorem makeUnlessThere_of_built (h : FitsAsNames (names ++ [name]))
    (hplace : t.get? start.place = some .directory) (hbuilt : t.Built (stairs start.place names))
    (hclear : t.Clear [start.place ++ (names ++ [name])]) :
    ∃ after, Change.makeUnlessThere start (.ofNames (names ++ [name])) t = .ok () after
      ∧ Grown t after [start.place ++ (names ++ [name])] := by
  have hmake := makeDirectory_of_built h hplace hbuilt
  unfold Change.makeUnlessThere
  rcases hclear _ (List.mem_singleton.mpr rfl) with hnone | hthere
  · rw [hnone] at hmake
    rw [hmake]
    exact ⟨_, rfl, grown_set (by simp)⟩
  · rw [hthere] at hmake
    have hall : t.Built (stairs start.place (names ++ [name])) := by
      rw [stairs_concat]
      intro q hq
      rcases List.mem_append.mp hq with hq | hq
      · exact hbuilt q hq
      · rw [List.mem_singleton.mp hq]
        exact hthere
    rw [hmake]
    dsimp only
    rw [isDirectory_iff.mpr ⟨_, openDirectory_ofNames h (by simp) hplace hall⟩]
    refine ⟨t, rfl, grown_of_built fun q hq => ?_⟩
    rw [List.mem_singleton.mp hq]
    exact hthere

/-- The outer directories are not tried where a directory is made or is there. -/
theorem makeChain_of_found {l : Location} {outer : List Location}
    (h : t.makeDirectory start l ≠ .error .notFound) :
    Change.makeChain start (l :: outer) t = Change.makeUnlessThere start l t := by
  unfold Change.makeChain Change.makeUnlessThere
  cases hmake : t.makeDirectory start l with
  | ok after => rfl
  | error reason =>
      cases reason
      case notFound => exact absurd hmake h
      all_goals rfl

/-- Where they are missing they are made first. -/
theorem makeChain_of_missing {l : Location} {outer : List Location} {mid : FileTree}
    (h : t.makeDirectory start l = .error .notFound)
    (houter : Change.makeChain start outer t = .ok () mid) :
    Change.makeChain start (l :: outer) t = Change.makeUnlessThere start l mid := by
  simp only [Change.makeChain, h, houter]

/-- **Making directories** makes those of the stairs that are not there and changes nothing else. -/
theorem makeDirectories_ofNames (h : FitsAsNames names)
    (hplace : t.get? start.place = some .directory) (hclear : t.Clear (stairs start.place names)) :
    ∃ after, Change.makeDirectories start (.ofNames names) t = .ok () after
      ∧ Grown t after (stairs start.place names) := by
  unfold Change.makeDirectories
  -- the list of ancestors grows with the names at their end
  induction names using List.reverseRecOn with
  | nil => exact ⟨t, rfl, grown_of_built fun q hq => by cases hq⟩
  | append_singleton names name ih =>
      rw [stairs_concat] at hclear ⊢
      have hinit : t.Clear (stairs start.place names) := fun q hq =>
        hclear q (List.mem_append_left _ hq)
      have hlast : t.Clear [start.place ++ (names ++ [name])] := fun q hq =>
        hclear q (List.mem_append_right _ hq)
      rw [Location.ancestors_ofNames h.isName]
      by_cases hbuilt : t.Built (stairs start.place names)
      · obtain ⟨after, hmake, hgrown⟩ := makeUnlessThere_of_built h hplace hbuilt hlast
        refine ⟨after, ?_, (grown_of_built hbuilt).trans hgrown⟩
        rw [makeChain_of_found, hmake]
        rw [makeDirectory_of_built h hplace hbuilt]
        split <;> simp
      · obtain ⟨mid, hmid, hgrown⟩ := ih h.init hinit
        rw [makeChain_of_missing (makeDirectory_of_clear h hplace hinit hbuilt) hmid]
        have hplaceMid : mid.get? start.place = some .directory := hgrown.get?_start.trans hplace
        have hlastMid : mid.Clear [start.place ++ (names ++ [name])] := by
          intro q hq
          rw [List.mem_singleton.mp hq, hgrown.nodes, if_neg (not_mem_stairs_concat _ _ _)]
          exact hlast _ (List.mem_singleton.mpr rfl)
        obtain ⟨after, hmake, hmore⟩ := makeUnlessThere_of_built h hplaceMid hgrown.built hlastMid
        exact ⟨after, hmake, hgrown.trans hmore⟩

/-! ## Files in a directory -/

/-- A name by itself is looked for in the directory where one starts. -/
theorem parentAndName_name (h : FitsAsName name) (hplace : t.get? start.place = some .directory) :
    t.parentAndName start ⟨name⟩ = .ok (start.place, some name) := by
  have hfits : FitsAsNames ([] ++ [name]) := .singleton h
  rw [← Location.ofNames_singleton, ← List.nil_append [name], parentAndName_ofNames hfits]
  show (if !t.isDirectoryAt start.place then _ else _) = _
  rw [isDirectoryAt_iff.mpr hplace]
  rfl

theorem not_ends_in_slash (h : FitsAsName name) : ¬ name.toList.getLast? = some '/' :=
  fun hlast => h.slash (List.mem_of_getLast? hlast)

theorem update_of_ok {f : FileTree → Except FileError FileTree} {after : FileTree}
    (h : f t = .ok after) : Change.update f t = .ok () after := by
  unfold Change.update
  rw [h]

/-- A file is opened where no directory stands, and is empty then. -/
theorem openFile_name (h : FitsAsName name) (hplace : t.get? start.place = some .directory)
    (hfree : t.get? (start.place ++ [name]) ≠ some .directory) :
    Change.openFile start ⟨name⟩ t
      = .ok (start.place ++ [name]) (t.set (start.place ++ [name]) (.file .empty)) := by
  have hwritable : t.writablePlace start ⟨name⟩ = .ok (start.place ++ [name]) := by
    unfold writablePlace
    rw [parentAndName_name h hplace]
    dsimp only [bind, Except.bind]
    rw [if_neg (not_ends_in_slash h)]
    split
    · exact absurd (by assumption) hfree
    · rfl
  simp only [Change.openFile, bind, EStateM.bind, Change.ask, hwritable]
  rfl

/-- A file is removed from its directory. -/
theorem removeFile_name {content : ByteArray} (h : FitsAsName name)
    (hplace : t.get? start.place = some .directory)
    (hthere : t.get? (start.place ++ [name]) = some (.file content)) :
    Change.removeFile start ⟨name⟩ t = .ok () (t.erase (start.place ++ [name])) := by
  apply update_of_ok
  rw [parentAndName_name h hplace]
  dsimp only [bind, Except.bind]
  rw [hthere]

/-- A file is renamed in its directory, where no directory has the other name. -/
theorem renameFile_name {renamed : String} {node : Node} (h : FitsAsName name)
    (hrenamed : FitsAsName renamed) (hplace : t.get? start.place = some .directory)
    (hthere : t.get? (start.place ++ [name]) = some node)
    (hfree : t.get? (start.place ++ [renamed]) ≠ some .directory) :
    Change.renameFile start ⟨name⟩ ⟨renamed⟩ t
      = .ok () ((t.erase (start.place ++ [name])).set (start.place ++ [renamed]) node) := by
  apply update_of_ok
  dsimp only
  rw [parentAndName_name h hplace, parentAndName_name hrenamed hplace]
  dsimp only [bind, Except.bind]
  rw [hthere]
  split
  · rename_i heq
    cases heq
  · exact absurd (by assumption) hfree
  · rename_i heq _
    cases heq
    rw [if_neg (not_ends_in_slash hrenamed)]

/-- It is not renamed where a directory has the other name. -/
theorem renameFile_blocked {renamed : String} {node : Node} (h : FitsAsName name)
    (hrenamed : FitsAsName renamed) (hplace : t.get? start.place = some .directory)
    (hthere : t.get? (start.place ++ [name]) = some node)
    (hblocked : t.get? (start.place ++ [renamed]) = some .directory) :
    Change.renameFile start ⟨name⟩ ⟨renamed⟩ t = .error .isDirectory t := by
  unfold Change.renameFile Change.update
  dsimp only
  rw [parentAndName_name h hplace, parentAndName_name hrenamed hplace]
  dsimp only [bind, Except.bind]
  rw [hthere, hblocked]

end Fieldwise.FileTree
