import Fieldwise.Discovery.Crate

set_option autoImplicit false

/-! # Comparing walks

Two walks through the same items can differ in the files they may enter, in the scope they start
from, or in the file they report. `Walker.Comparison` says what it takes to compare them: a relation
between walks that survives `andThen` (`Walk.Congruence`) holds of the walks through items as soon
as it holds of the walks through single types and of those into the files of modules.

Walks are ordered by how far they got (`Walk.Within`): a walk that had to stop is within every
walk, any other only within itself. With a greater depth a walk gets further
(`Walker.walkFile_within`), so the answer of a walk that did not stop is its answer at every
greater depth (`Walker.walkFile_eq_of_le`).
-/

namespace Fieldwise

open Token Grammar

namespace Walk

/-! ## One walk after another -/

@[simp] theorem nothing_andThen (next : Unit → Walk) : nothing.andThen next = next () := by
  unfold andThen nothing
  cases next () <;> rfl

@[simp] theorem failed_andThen (reason : SourceError) (events : List Event)
    (next : Unit → Walk) : (failed reason events).andThen next = .failed reason events := rfl

@[simp] theorem endless_andThen (next : Unit → Walk) : endless.andThen next = .endless := rfl

@[simp] theorem andThen_nothing (first : Walk) : (first.andThen fun _ => nothing) = first := by
  cases first <;> simp [andThen, nothing]

theorem andThen_assoc (first : Walk) (second third : Unit → Walk) :
    (first.andThen second).andThen third
      = first.andThen fun _ => (second ()).andThen third := by
  cases first with
  | found declarations events =>
      cases hs : second () with
      | found more after => cases ht : third () <;> simp [andThen, hs, ht]
      | failed reason after => simp [andThen, hs]
      | endless => simp [andThen, hs]
  | failed reason events => rfl
  | endless => rfl

/-- A relation between walks that joining walks keeps. -/
structure Congruence (R : Walk → Walk → Prop) : Prop where
  nothing : R .nothing .nothing
  andThen : ∀ {a a' : Walk} {b b' : Unit → Walk}, R a a' → R (b ()) (b' ()) →
    R (a.andThen b) (a'.andThen b')

/-! ## Looking at a part of a walk -/

/-- A walk in which the declarations are changed by `f`, and of the events only those that `p`
accepts are kept. -/
def seen (f : Declaration → Declaration) (p : Event → Bool) : Walk → Walk
  | .found declarations events => .found (declarations.map f) (events.filter p)
  | .failed reason events => .failed reason (events.filter p)
  | .endless => .endless

theorem seen_andThen (f : Declaration → Declaration) (p : Event → Bool) (first : Walk)
    (next : Unit → Walk) :
    (first.andThen next).seen f p = (first.seen f p).andThen fun _ => (next ()).seen f p := by
  cases first with
  | found declarations events => cases h : next () <;> simp [andThen, seen, h]
  | failed reason events => rfl
  | endless => rfl

/-! ## How far a walk got -/

/-- A walk did not get further than another: it had to stop, or it is the same. -/
def Within (a b : Walk) : Prop := a = .endless ∨ a = b

theorem Within.refl (a : Walk) : a.Within a := Or.inr rfl

theorem Within.endless (a : Walk) : Within .endless a := Or.inl rfl

theorem Within.eq_of_ne {a b : Walk} (h : a.Within b) (ha : a ≠ .endless) : a = b :=
  h.resolve_left ha

theorem Within.trans {a b c : Walk} (hab : a.Within b) (hbc : b.Within c) : a.Within c := by
  rcases hab with rfl | rfl
  · exact .endless c
  · exact hbc

theorem congruence_within : Congruence Within where
  nothing := .refl _
  andThen := by
    intro a a' b b' ha hb
    rcases ha with rfl | rfl
    · exact .endless _
    · cases a with
      | found declarations events =>
          rcases hb with hb | hb
          · exact Or.inl (by simp only [andThen, hb])
          · exact Or.inr (by simp only [andThen, hb])
      | failed reason events => exact .refl _
      | endless => exact .endless _

end Walk

/-! ## The modules among items -/

namespace Grammar

mutual

/-- The attributes of the modules in an item, at every depth. -/
def Item.moduleAttributes : Item → List (List Attribute)
  | .type _ => []
  | .submodule attributes _ none => [attributes]
  | .submodule attributes _ (some items) => attributes :: moduleAttributes items
  | .other => []

/-- The attributes of the modules among items, at every depth. -/
def moduleAttributes : List Item → List (List Attribute)
  | [] => []
  | item :: rest => item.moduleAttributes ++ moduleAttributes rest

end

end Grammar

namespace Walker

/-! ## One item -/

section Items

variable (w : Walker) (enter : Location → Scope → Walk) (file : Location) (scope : Scope)

/-- The scope inside a module that is written in place. -/
def innerScope (scope : Scope) (attributes : List Attribute) (name : Name) : Scope :=
  inlineScope scope (scope.package.child name.written) name (pathAttribute? attributes)

/-- The walk through a module without content, wherever its file is. -/
def walkNamed (attributes : List Attribute) (name : Name) : Walk :=
  w.walkOutside enter file scope (scope.package.child name.written) name
    (pathAttribute? attributes)

theorem walkItem_disabled {attributes : List Attribute} (name : Name)
    (content : Option (List Item)) (h : w.conditions.enables attributes = false) :
    w.walkItem enter file scope (.submodule attributes name content) = .nothing := by
  rw [walkItem]
  simp [h]

theorem walkItem_inline {attributes : List Attribute} (name : Name) (items : List Item)
    (h : w.conditions.enables attributes = true) :
    w.walkItem enter file scope (.submodule attributes name (some items))
      = w.walkItems enter file (innerScope scope attributes name) items := by
  rw [walkItem]
  simp [h, innerScope]

theorem walkItem_named {attributes : List Attribute} (name : Name)
    (h : w.conditions.enables attributes = true) :
    w.walkItem enter file scope (.submodule attributes name none)
      = w.walkNamed enter file scope attributes name := by
  rw [walkItem]
  simp [h, walkNamed]

theorem walkItem_other : w.walkItem enter file scope .other = .nothing := by rw [walkItem]

theorem walkItems_nil : w.walkItems enter file scope [] = .nothing := by rw [walkItems]

theorem walkItems_cons (item : Item) (rest : List Item) :
    w.walkItems enter file scope (item :: rest)
      = (w.walkItem enter file scope item).andThen
          fun _ => w.walkItems enter file scope rest := by
  rw [walkItems]

theorem walkItems_singleton (item : Item) :
    w.walkItems enter file scope [item] = w.walkItem enter file scope item := by
  rw [walkItems_cons, walkItems_nil, Walk.andThen_nothing]

theorem walkItems_append (items more : List Item) :
    w.walkItems enter file scope (items ++ more)
      = (w.walkItems enter file scope items).andThen
          fun _ => w.walkItems enter file scope more := by
  induction items with
  | nil => rw [List.nil_append, walkItems_nil, Walk.nothing_andThen]
  | cons item rest ih =>
      rw [List.cons_append, walkItems_cons, walkItems_cons, Walk.andThen_assoc, ih]

theorem walkSource_enabled {location : Location} {source : SourceFile}
    (hload : w.root.load location = .ok source)
    (h : w.conditions.enables source.attributes = true) :
    w.walkSource enter location scope
      = w.walkItems enter (w.base.join location) scope source.items := by
  simp only [walkSource, hload, h, if_true]

theorem walkSource_disabled {location : Location} {source : SourceFile}
    (hload : w.root.load location = .ok source)
    (h : w.conditions.enables source.attributes = false) :
    w.walkSource enter location scope
      = .found [] [.fileDisabled (w.base.join location).text] := by
  simp [walkSource, hload, h]

end Items

/-! ## Walks through the same items -/

section Comparison

variable {R : Walk → Walk → Prop} {w w' : Walker} {enter enter' : Location → Scope → Walk}
  {file file' : Location} {S : Scope → Scope → Prop} {P : List Attribute → Prop}

/-- What makes the walks through the same items comparable. Scopes related by `S` stay so inside
modules whose attributes satisfy `P`, and `R` holds of the walks through a single type and of the
walks into the file of a module. -/
structure Comparison (R : Walk → Walk → Prop) (w w' : Walker)
    (enter enter' : Location → Scope → Walk) (file file' : Location) (S : Scope → Scope → Prop)
    (P : List Attribute → Prop) : Prop where
  congruence : Walk.Congruence R
  conditions : w'.conditions = w.conditions
  type : ∀ {s s' : Scope} (t : TypeItem), S s s' →
    R (w.walkItem enter file s (.type t)) (w'.walkItem enter' file' s' (.type t))
  inner : ∀ {s s' : Scope} {attributes : List Attribute} (name : Name), S s s' → P attributes →
    S (innerScope s attributes name) (innerScope s' attributes name)
  named : ∀ {s s' : Scope} {attributes : List Attribute} (name : Name), S s s' → P attributes →
    R (w.walkNamed enter file s attributes name) (w'.walkNamed enter' file' s' attributes name)

mutual

theorem Comparison.walkItem (h : Comparison R w w' enter enter' file file' S P) (item : Item)
    (hP : ∀ attributes ∈ item.moduleAttributes, P attributes) {s s' : Scope} (hs : S s s') :
    R (w.walkItem enter file s item) (w'.walkItem enter' file' s' item) := by
  cases item with
  | type t => exact h.type t hs
  | submodule attributes name content =>
      cases he : w.conditions.enables attributes with
      | false =>
          have he' : w'.conditions.enables attributes = false := by rw [h.conditions]; exact he
          rw [walkItem_disabled w _ _ _ _ _ he, walkItem_disabled w' _ _ _ _ _ he']
          exact h.congruence.nothing
      | true =>
          have he' : w'.conditions.enables attributes = true := by rw [h.conditions]; exact he
          have hattributes : P attributes := by
            refine hP attributes ?_
            cases content <;> simp [Item.moduleAttributes]
          cases content with
          | none =>
              rw [walkItem_named w _ _ _ _ he, walkItem_named w' _ _ _ _ he']
              exact h.named name hs hattributes
          | some items =>
              rw [walkItem_inline w _ _ _ _ _ he, walkItem_inline w' _ _ _ _ _ he']
              refine h.walkItems items (fun a ha => hP a ?_) (h.inner name hs hattributes)
              rw [Item.moduleAttributes]
              exact List.mem_cons_of_mem _ ha
  | other =>
      rw [walkItem_other, walkItem_other]
      exact h.congruence.nothing

/-- **Comparing walks through items.** What holds of the walks through single types and into the
files of modules holds of the walks through items, at every depth of modules. -/
theorem Comparison.walkItems (h : Comparison R w w' enter enter' file file' S P)
    (items : List Item) (hP : ∀ attributes ∈ moduleAttributes items, P attributes) {s s' : Scope}
    (hs : S s s') : R (w.walkItems enter file s items) (w'.walkItems enter' file' s' items) := by
  cases items with
  | nil =>
      rw [walkItems_nil, walkItems_nil]
      exact h.congruence.nothing
  | cons item rest =>
      rw [walkItems_cons, walkItems_cons]
      rw [moduleAttributes] at hP
      refine h.congruence.andThen ?_ ?_
      · exact h.walkItem item (fun a ha => hP a (List.mem_append_left _ ha)) hs
      · exact h.walkItems rest (fun a ha => hP a (List.mem_append_right _ ha)) hs

end

end Comparison

/-! ## Greater depths -/

section Depth

variable (w : Walker) {enter enter' : Location → Scope → Walk}

/-- A walk through items gets at least as far as another if it does so in other files. -/
theorem comparison_within (h : ∀ l s, (enter l s).Within (enter' l s)) (file : Location) :
    Comparison Walk.Within w w enter enter' file file Eq fun _ => True where
  congruence := Walk.congruence_within
  conditions := rfl
  type := by
    rintro s _ t rfl
    rw [walkItem, walkItem]
    exact .refl _
  inner := by
    rintro s _ attributes name rfl -
    rfl
  named := by
    rintro s _ attributes name rfl -
    simp only [walkNamed, walkOutside]
    split
    · exact h _ _
    · exact .refl _

theorem walkItem_within (h : ∀ l s, (enter l s).Within (enter' l s)) (file : Location)
    (scope : Scope) (item : Item) :
    (w.walkItem enter file scope item).Within (w.walkItem enter' file scope item) :=
  (w.comparison_within h file).walkItem item (fun _ _ => trivial) rfl

theorem walkItems_within (h : ∀ l s, (enter l s).Within (enter' l s)) (file : Location)
    (scope : Scope) (items : List Item) :
    (w.walkItems enter file scope items).Within (w.walkItems enter' file scope items) :=
  (w.comparison_within h file).walkItems items (fun _ _ => trivial) rfl

theorem walkSource_within (h : ∀ l s, (enter l s).Within (enter' l s)) (location : Location)
    (scope : Scope) :
    (w.walkSource enter location scope).Within (w.walkSource enter' location scope) := by
  simp only [walkSource]
  split
  · exact .refl _
  · split
    · exact w.walkItems_within h _ _ _
    · exact .refl _

theorem walkFile_within_succ (depth : Nat) (location : Location) (scope : Scope) :
    (w.walkFile depth location scope).Within (w.walkFile (depth + 1) location scope) := by
  induction depth generalizing location scope with
  | zero => exact .endless _
  | succ depth ih => exact w.walkSource_within ih location scope

/-- **A greater depth gets further.** -/
theorem walkFile_within {depth depth' : Nat} (h : depth ≤ depth') (location : Location)
    (scope : Scope) :
    (w.walkFile depth location scope).Within (w.walkFile depth' location scope) := by
  induction h with
  | refl => exact .refl _
  | step _ ih => exact ih.trans (w.walkFile_within_succ _ location scope)

/-- The answer of a walk that did not have to stop is final. -/
theorem walkFile_eq_of_le {depth depth' : Nat} (h : depth ≤ depth') {location : Location}
    {scope : Scope} (hends : w.walkFile depth location scope ≠ .endless) :
    w.walkFile depth' location scope = w.walkFile depth location scope :=
  ((w.walkFile_within h location scope).eq_of_ne hends).symm

/-- A guarded walk gets at most as far as the walk that it guards. -/
theorem guardedWalk_within (depth : Nat) (trail : List Entrance) (location : Location)
    (scope : Scope) :
    (w.guardedWalk depth trail location scope).Within (w.walkFile depth location scope) := by
  induction depth generalizing trail location scope with
  | zero => exact .refl _
  | succ depth ih =>
      rw [guardedWalk]
      split
      · exact .endless _
      · exact w.walkSource_within (ih _) location scope

end Depth

end Walker

/-! ## Whole crates -/

/-- Findings in which the declarations are changed by `f`, and of the events only those that `p`
accepts are kept. -/
def Findings.seen (f : Declaration → Declaration) (p : Event → Bool) (findings : Findings) :
    Findings :=
  ⟨findings.result.map (List.map f), findings.events.filter p⟩

namespace Crate

/-- Everything that a crate with the given files declares, found by a walk that enters at most so
many files inside each other. -/
def declarationsIn (c : Crate) (root : SourceRoot) (depth : Nat) : Except Halt Findings :=
  c.conclude ((c.walker root).walkFile depth ⟨c.entry⟩ rootScope)

/-- The qualified names of what was found, if there was no fault. -/
def declaredNames : Except Halt Findings → Option (List String)
  | .ok ⟨.ok found, _⟩ => some (found.map Declaration.qualifiedName)
  | _ => none

theorem conclude_seen (c : Crate) (f : Declaration → Declaration) {p : Event → Bool}
    (hp : ∀ entry count, p (.crateScanned entry count) = true) (a : Walk) :
    (c.conclude a).map (Findings.seen f p) = c.conclude (a.seen f p) := by
  cases a with
  | found declarations events =>
      simp [conclude, Walk.seen, Except.map, Findings.seen, List.filter_append, hp]
  | failed reason events => rfl
  | endless => rfl

end Crate

end Fieldwise
