import Fieldwise.Proofs.Discovery.Walks
import Fieldwise.Proofs.FileTree.Directories
import Mathlib.Data.Fintype.BigOperators
import Mathlib.Data.Fintype.Option
import Mathlib.Data.Fintype.Pigeonhole
import Mathlib.Logic.Relation
import Mathlib.Tactic.Ring

set_option autoImplicit false

/-! # When discovery ends

The attribute `path` can lead a walk back to a file that is still open. Whether the walk then
goes on without end is decided by how the file is entered: the walk from a file depends on its
location and the directories where its modules are looked for, and on nothing else but names
(`Walker.Enters.of_entrance_eq`). So a walk has no end if and only if it enters some file again
in the same way while the file is open (`Walker.Recurs`):

* such a file is entered over and over (`Walker.Recurs.endless`);
* in a file tree there are fewer than `Crate.depthBound` ways to enter a file, because the
  location of a file has fewer than `FileTree.locationLimit` bytes, so that a walk that is
  stopped at this depth did repeat one (`FileTree.recurs_of_guardedWalk_endless`).

`Crate.declarations_ends_iff` puts the two together: the guarded walk gives the answer of the
unguarded one, and it gives one exactly when no file is entered again.
-/

namespace Fieldwise

open Token Grammar Relation

/-- Why a walk breaks off, if it does: for an error, or because its modules have no end. -/
def Walk.break? : Walk → Option (Option SourceError)
  | .found _ _ => none
  | .failed reason _ => some (some reason)
  | .endless => some none

theorem Walk.break?_eq_endless_iff {a : Walk} : a.break? = some none ↔ a = .endless := by
  cases a <;> simp [break?]

theorem Walk.break?_found_andThen (declarations : List Declaration) (events : List Event)
    (next : Unit → Walk) :
    ((found declarations events).andThen next).break? = (next ()).break? := by
  cases hnext : next () <;> simp [andThen, hnext, break?]

namespace Walker

/-! ## The files that a walk enters -/

/-- A file that is entered, and the module that it makes up. -/
structure Visit where
  location : Location
  scope : Scope

/-- How the file is entered. -/
def Visit.entrance (v : Visit) : Entrance := v.scope.entrance v.location

/-- The walk through an item comes to an end, and not with an error. -/
def Settles (w : Walker) (file : Location) (scope : Scope) (item : Item) : Prop :=
  ∃ depth declarations events,
    w.walkItem (w.walkFile depth) file scope item = .found declarations events

/-- The walk through items enters a file: that of a module among them, or of a module inside one
that is written in place. The walk gets there if it settles on all items before. -/
inductive Meets (w : Walker) (file : Location) : Scope → List Item → Visit → Prop
  | outside {scope : Scope} {attributes : List Attribute} {name : Name}
      {target directory : Location} (rest : List Item)
      (enabled : w.conditions.enables attributes = true)
      (located : w.root.locate? scope name.text (pathAttribute? attributes)
        = some (target, directory)) :
      Meets w file scope (.submodule attributes name none :: rest)
        ⟨target, scope.package.child name.written, directory, target.parent?.getD .empty⟩
  | inside {scope : Scope} {attributes : List Attribute} {name : Name} {items : List Item}
      {v : Visit} (rest : List Item) (enabled : w.conditions.enables attributes = true)
      (meets : Meets w file (innerScope scope attributes name) items v) :
      Meets w file scope (.submodule attributes name (some items) :: rest) v
  | later {scope : Scope} {item : Item} {rest : List Item} {v : Visit}
      (settles : w.Settles file scope item) (meets : Meets w file scope rest v) :
      Meets w file scope (item :: rest) v

/-- The walk through one file enters another. -/
def Enters (w : Walker) (a b : Visit) : Prop :=
  ∃ source, w.root.load a.location = .ok source ∧ w.conditions.enables source.attributes = true
    ∧ w.Meets (w.base.join a.location) a.scope source.items b

/-- The walk from a file enters some file again, in the same way, while it is open. -/
def Recurs (w : Walker) (a : Visit) : Prop :=
  ∃ b c, ReflTransGen w.Enters a b ∧ TransGen w.Enters b c ∧ b.entrance = c.entrance

/-! ## A walk that breaks off breaks off in a file that it enters -/

section Broken

variable {w : Walker} {enter : Location → Scope → Walk} {depth : Nat} {file : Location}
  {why : Option SourceError}

mutual

theorem meets_of_walkItem_break (hle : ∀ l s, (enter l s).Within (w.walkFile depth l s))
    (item : Item) (rest : List Item) (scope : Scope)
    (h : (w.walkItem enter file scope item).break? = some why) :
    ∃ v, w.Meets file scope (item :: rest) v ∧ (enter v.location v.scope).break? = some why := by
  cases item with
  | type t =>
      rw [walkItem] at h
      cases hd : t.declaration? w.conditions scope.package file <;>
        simp [hd, Walk.nothing, Walk.break?] at h
  | other => simp [walkItem_other, Walk.nothing, Walk.break?] at h
  | submodule attributes name content =>
      cases he : w.conditions.enables attributes with
      | false => simp [walkItem_disabled w _ _ _ _ _ he, Walk.nothing, Walk.break?] at h
      | true =>
          cases content with
          | none =>
              rw [walkItem_named w _ _ _ _ he, walkNamed, walkOutside] at h
              split at h
              · next target directory hl => exact ⟨_, .outside rest he hl, h⟩
              · simp [Walk.break?] at h
          | some items =>
              rw [walkItem_inline w _ _ _ _ _ he] at h
              obtain ⟨v, hv, hbreak⟩ := meets_of_walkItems_break hle items _ h
              exact ⟨v, .inside rest he hv, hbreak⟩

theorem meets_of_walkItems_break (hle : ∀ l s, (enter l s).Within (w.walkFile depth l s))
    (items : List Item) (scope : Scope)
    (h : (w.walkItems enter file scope items).break? = some why) :
    ∃ v, w.Meets file scope items v ∧ (enter v.location v.scope).break? = some why := by
  cases items with
  | nil => simp [walkItems_nil, Walk.nothing, Walk.break?] at h
  | cons item rest =>
      rw [walkItems_cons] at h
      cases hitem : w.walkItem enter file scope item with
      | endless =>
          rw [hitem, Walk.endless_andThen, ← hitem] at h
          exact meets_of_walkItem_break hle item rest scope h
      | failed reason events =>
          rw [hitem, Walk.failed_andThen, ← hitem] at h
          exact meets_of_walkItem_break hle item rest scope h
      | found declarations events =>
          have hrest : (w.walkItems enter file scope rest).break? = some why := by
            rw [hitem, Walk.break?_found_andThen] at h
            exact h
          obtain ⟨v, hv, hbreak⟩ := meets_of_walkItems_break hle rest scope hrest
          have hsame := (w.walkItem_within hle file scope item).eq_of_ne (by simp [hitem])
          exact ⟨v, .later ⟨depth, declarations, events, by rw [← hsame, hitem]⟩ hv, hbreak⟩

end

end Broken

variable {w : Walker}

/-- **Where a guarded walk breaks off:** at a file that is open, at one that gives no source file,
or in one that it enters. -/
theorem enters_of_guardedWalk_break {depth : Nat} {trail : List Entrance} {a : Visit}
    {why : Option SourceError}
    (h : (w.guardedWalk (depth + 1) trail a.location a.scope).break? = some why) :
    (a.entrance ∈ trail ∧ why = none)
      ∨ (∃ obstacle, w.root.load a.location = .error obstacle
        ∧ why = some (obstacle.error (w.base.join a.location)))
      ∨ ∃ b, w.Enters a b
        ∧ (w.guardedWalk depth (a.entrance :: trail) b.location b.scope).break? = some why := by
  rw [guardedWalk] at h
  split at h
  · next hmem => exact .inl ⟨hmem, (Option.some.inj h).symm⟩
  · rw [walkSource] at h
    cases hload : w.root.load a.location with
    | error obstacle =>
        rw [hload] at h
        exact .inr (.inl ⟨obstacle, rfl, (Option.some.inj h).symm⟩)
    | ok source =>
        cases he : w.conditions.enables source.attributes with
        | false => simp [hload, he, Walk.break?] at h
        | true =>
            simp only [hload, he, if_true] at h
            obtain ⟨b, hb, hbreak⟩ := meets_of_walkItems_break
              (w.guardedWalk_within depth _) source.items a.scope h
            exact .inr (.inr ⟨b, ⟨source, hload, he, hb⟩, hbreak⟩)

/-- A guarded walk that is stopped was stopped at a file that is open, or in one that it enters. -/
theorem enters_of_guardedWalk_endless {depth : Nat} {trail : List Entrance} {a : Visit}
    (h : w.guardedWalk (depth + 1) trail a.location a.scope = .endless) :
    a.entrance ∈ trail ∨ ∃ b, w.Enters a b
      ∧ w.guardedWalk depth (a.entrance :: trail) b.location b.scope = .endless := by
  have hbreak : (w.guardedWalk (depth + 1) trail a.location a.scope).break? = some none := by
    rw [h]
    rfl
  rcases enters_of_guardedWalk_break hbreak with ⟨hmem, -⟩ | ⟨_, -, hwhy⟩ | ⟨b, hab, hinner⟩
  · exact .inl hmem
  · cases hwhy
  · exact .inr ⟨b, hab, Walk.break?_eq_endless_iff.mp hinner⟩

/-! ## A walk is stopped wherever a file that it enters stops it -/

/-- Where the walk through an item settles, no depth makes it fail. -/
theorem Settles.endless_or_found {file : Location} {scope : Scope} {item : Item}
    (h : w.Settles file scope item) (depth : Nat) :
    w.walkItem (w.walkFile depth) file scope item = .endless
      ∨ ∃ declarations events,
        w.walkItem (w.walkFile depth) file scope item = .found declarations events := by
  obtain ⟨depth', declarations, events, hfound⟩ := h
  rcases Nat.le_total depth depth' with hle | hle
  · rcases w.walkItem_within (w.walkFile_within hle) file scope item with hend | heq
    · exact Or.inl hend
    · exact Or.inr ⟨declarations, events, by rw [heq, hfound]⟩
  · have heq := (w.walkItem_within (w.walkFile_within hle) file scope item).eq_of_ne
      (by simp [hfound])
    exact Or.inr ⟨declarations, events, by rw [← heq, hfound]⟩

theorem Meets.walkItems_endless {file : Location} {scope : Scope} {items : List Item} {v : Visit}
    (h : w.Meets file scope items v) {depth : Nat}
    (hend : w.walkFile depth v.location v.scope = .endless) :
    w.walkItems (w.walkFile depth) file scope items = .endless := by
  induction h with
  | outside rest enabled located =>
      rw [walkItems_cons, walkItem_named w _ _ _ _ enabled, walkNamed, walkOutside, located]
      simp only [hend, Walk.endless_andThen]
  | inside rest enabled _ ih =>
      rw [walkItems_cons, walkItem_inline w _ _ _ _ _ enabled, ih hend, Walk.endless_andThen]
  | later settles _ ih =>
      rw [walkItems_cons]
      rcases settles.endless_or_found depth with hitem | ⟨declarations, events, hitem⟩
      · rw [hitem, Walk.endless_andThen]
      · simp only [hitem, Walk.andThen, ih hend]

theorem Enters.walkFile_endless {a b : Visit} (h : w.Enters a b) {depth : Nat}
    (hend : w.walkFile depth b.location b.scope = .endless) :
    w.walkFile (depth + 1) a.location a.scope = .endless := by
  obtain ⟨source, hload, he, hmeets⟩ := h
  rw [walkFile, walkSource, hload]
  simp only [he, if_true]
  exact hmeets.walkItems_endless hend

/-! ## Names do not matter

A walk with other names for the packages finds, fails or is stopped all the same. -/

/-- Both walks find something, both fail, or both are stopped. -/
def Alike : Walk → Walk → Prop
  | .found _ _, .found _ _ => True
  | .failed _ _, .failed _ _ => True
  | .endless, .endless => True
  | _, _ => False

theorem Alike.refl (a : Walk) : Alike a a := by
  cases a <;> trivial

theorem Alike.found {a b : Walk} (h : Alike a b) {declarations : List Declaration}
    {events : List Event} (ha : a = .found declarations events) :
    ∃ declarations' events', b = .found declarations' events' := by
  subst ha
  cases b with
  | found declarations' events' => exact ⟨declarations', events', rfl⟩
  | failed reason events' => exact h.elim
  | endless => exact h.elim

theorem congruence_alike : Walk.Congruence Alike where
  nothing := trivial
  andThen := by
    intro a a' b b' ha hb
    cases a <;> cases a' <;> try exact ha.elim
    · simp only [Walk.andThen]
      generalize b () = next at hb ⊢
      generalize b' () = next' at hb ⊢
      cases next <;> cases next' <;> trivial
    · trivial
    · trivial

/-- Scopes that look for modules in the same places. -/
def SamePlaces (s s' : Scope) : Prop := s.directory = s'.directory ∧ s.pathBase = s'.pathBase

theorem SamePlaces.locate? {s s' : Scope} (h : SamePlaces s s') (name : String)
    (path : Option String) : w.root.locate? s name path = w.root.locate? s' name path := by
  simp only [SourceRoot.locate?, h.1, h.2]

theorem SamePlaces.innerScope {s s' : Scope} (h : SamePlaces s s') (attributes : List Attribute)
    (name : Name) :
    SamePlaces (innerScope s attributes name) (innerScope s' attributes name) := by
  simp only [SamePlaces, Walker.innerScope, inlineScope, h.1, h.2, and_self]

theorem comparison_alike {enter : Location → Scope → Walk}
    (h : ∀ l s s', SamePlaces s s' → Alike (enter l s) (enter l s')) (file : Location) :
    Comparison Alike w w enter enter file file SamePlaces fun _ => True where
  congruence := congruence_alike
  conditions := rfl
  type := by
    intro s s' t _
    rw [walkItem, walkItem]
    cases he : w.conditions.enables t.attributes <;> simp [TypeItem.declaration?, he, Alike.refl]
    trivial
  inner := fun name hs _ => hs.innerScope _ name
  named := by
    intro s s' attributes name hs _
    simp only [walkNamed, walkOutside, hs.locate?]
    split
    · exact h _ _ _ ⟨rfl, rfl⟩
    · trivial

theorem walkFile_alike (depth : Nat) (location : Location) {s s' : Scope}
    (hs : SamePlaces s s') :
    Alike (w.walkFile depth location s) (w.walkFile depth location s') := by
  induction depth generalizing location s s' with
  | zero => trivial
  | succ depth ih =>
      rw [walkFile, walkFile, walkSource, walkSource]
      split
      · exact Alike.refl _
      · split
        · exact (comparison_alike (fun l _ _ h => ih l h) _).walkItems _ (fun _ _ => trivial) hs
        · exact Alike.refl _

theorem Settles.of_samePlaces {file : Location} {s s' : Scope} {item : Item}
    (h : w.Settles file s item) (hs : SamePlaces s s') : w.Settles file s' item := by
  obtain ⟨depth, declarations, events, hfound⟩ := h
  have halike : Alike (w.walkItem (w.walkFile depth) file s item)
      (w.walkItem (w.walkFile depth) file s' item) :=
    (comparison_alike (fun l _ _ h => walkFile_alike depth l h) file).walkItem item
      (fun _ _ => trivial) hs
  obtain ⟨declarations', events', hfound'⟩ := halike.found hfound
  exact ⟨depth, declarations', events', hfound'⟩

theorem Meets.of_samePlaces {file : Location} {s s' : Scope} {items : List Item} {v : Visit}
    (h : w.Meets file s items v) (hs : SamePlaces s s') :
    ∃ v', w.Meets file s' items v' ∧ v'.entrance = v.entrance := by
  induction h generalizing s' with
  | outside rest enabled located =>
      rw [hs.locate?] at located
      exact ⟨_, .outside rest enabled located, rfl⟩
  | inside rest enabled _ ih =>
      obtain ⟨v', hmeets, heq⟩ := ih (hs.innerScope _ _)
      exact ⟨v', .inside rest enabled hmeets, heq⟩
  | later settles _ ih =>
      obtain ⟨v', hmeets, heq⟩ := ih hs
      exact ⟨v', .later (settles.of_samePlaces hs) hmeets, heq⟩

/-- From files that are entered in the same way, files are entered in the same ways. -/
theorem Enters.of_entrance_eq {a a' b : Visit} (h : w.Enters a b)
    (heq : a.entrance = a'.entrance) : ∃ b', w.Enters a' b' ∧ b'.entrance = b.entrance := by
  obtain ⟨source, hload, he, hmeets⟩ := h
  simp only [Visit.entrance, Scope.entrance, Entrance.mk.injEq] at heq
  obtain ⟨hlocation, hplaces⟩ := heq
  obtain ⟨b', hmeets', hb⟩ := hmeets.of_samePlaces hplaces
  rw [hlocation] at hload hmeets'
  exact ⟨b', ⟨source, hload, he, hmeets'⟩, hb⟩

/-! ## A file that is entered again -/

/-- On a loop of files, each enters one that is on a loop too. -/
theorem exists_enters_of_loop {a c : Visit} (h : TransGen w.Enters a c)
    (heq : a.entrance = c.entrance) :
    ∃ b, w.Enters a b ∧ ∃ d, TransGen w.Enters b d ∧ b.entrance = d.entrance := by
  obtain ⟨b, hab, hbc⟩ := TransGen.head'_iff.mp h
  obtain ⟨d, hcd, hbd⟩ := hab.of_entrance_eq heq
  exact ⟨b, hab, d, TransGen.tail' hbc hcd, hbd.symm⟩

theorem walkFile_endless_of_loop (depth : Nat) {a c : Visit} (h : TransGen w.Enters a c)
    (heq : a.entrance = c.entrance) : w.walkFile depth a.location a.scope = .endless := by
  induction depth generalizing a c with
  | zero => rfl
  | succ depth ih =>
      obtain ⟨b, hab, d, hbd, hentrance⟩ := exists_enters_of_loop h heq
      exact hab.walkFile_endless (ih hbd hentrance)

/-- **A walk that enters an open file again has no end.** -/
theorem Recurs.endless {a : Visit} (h : w.Recurs a) (depth : Nat) :
    w.walkFile depth a.location a.scope = .endless := by
  obtain ⟨b, c, hab, hbc, heq⟩ := h
  induction hab using ReflTransGen.head_induction_on generalizing depth with
  | refl => exact walkFile_endless_of_loop depth hbc heq
  | head hstep _ ih =>
      cases depth with
      | zero => rfl
      | succ depth => exact hstep.walkFile_endless (ih depth)

theorem Recurs.of_enters {a b : Visit} (hab : w.Enters a b) (h : w.Recurs b) : w.Recurs a := by
  obtain ⟨c, d, hbc, hcd, heq⟩ := h
  exact ⟨c, d, hbc.head hab, hcd, heq⟩

/-! ## A guarded walk that is stopped -/

/-- A chain of files, each entered from the one before. -/
def Chain (w : Walker) (length : Nat) (a : Visit) : Prop :=
  ∃ visit : Nat → Visit, visit 0 = a ∧ ∀ i < length, w.Enters (visit i) (visit (i + 1))

theorem Chain.cons {length : Nat} {a b : Visit} (hab : w.Enters a b) (h : w.Chain length b) :
    w.Chain (length + 1) a := by
  obtain ⟨visit, hfirst, hstep⟩ := h
  refine ⟨fun i => i.casesOn a visit, rfl, fun i hi => ?_⟩
  cases i with
  | zero =>
      show w.Enters a (visit 0)
      rw [hfirst]
      exact hab
  | succ i => exact hstep i (by omega)

/-- A guarded walk is stopped at an open file, by a file that it enters again, or by its depth. -/
theorem guardedWalk_endless_cases (depth : Nat) (trail : List Entrance) (a : Visit)
    (h : w.guardedWalk depth trail a.location a.scope = .endless) :
    (∃ b, ReflTransGen w.Enters a b ∧ b.entrance ∈ trail) ∨ w.Recurs a ∨ w.Chain depth a := by
  induction depth generalizing trail a with
  | zero => exact Or.inr (Or.inr ⟨fun _ => a, rfl, fun i hi => absurd hi (Nat.not_lt_zero i)⟩)
  | succ depth ih =>
      rcases enters_of_guardedWalk_endless h with hmem | ⟨b, hab, hend⟩
      · exact Or.inl ⟨a, .refl, hmem⟩
      · rcases ih (a.entrance :: trail) b hend with ⟨c, hbc, hmem⟩ | hrecurs | hchain
        · rcases List.mem_cons.mp hmem with heq | hmem
          · exact Or.inr (Or.inl ⟨a, c, .refl, TransGen.head' hab hbc, heq.symm⟩)
          · exact Or.inl ⟨c, hbc.head hab, hmem⟩
        · exact Or.inr (Or.inl (hrecurs.of_enters hab))
        · exact Or.inr (Or.inr (hchain.cons hab))

theorem reflTransGen_of_steps {visit : Nat → Visit} {length : Nat}
    (hstep : ∀ i < length, w.Enters (visit i) (visit (i + 1))) {i j : Nat} (hij : i ≤ j)
    (hj : j ≤ length) : ReflTransGen w.Enters (visit i) (visit j) := by
  induction j, hij using Nat.le_induction with
  | base => exact .refl
  | succ j _ ih => exact (ih (by omega)).tail (hstep j (by omega))

/-- A chain with more files than there are keys for entrances enters a file again. -/
theorem Chain.recurs {K : Type} [Fintype K] (key : Visit → K)
    (hkey : ∀ {a b v v' : Visit}, w.Enters a v → w.Enters b v' → key v = key v' →
      v.entrance = v'.entrance)
    {length : Nat} {a : Visit} (h : w.Chain length a) (hcard : Fintype.card K < length) :
    w.Recurs a := by
  obtain ⟨visit, rfl, hstep⟩ := h
  obtain ⟨i, j, hne, heq⟩ := Fintype.exists_ne_map_eq_of_card_lt
    (fun i : Fin length => key (visit (i + 1))) (by simpa using hcard)
  wlog hij : i < j generalizing i j
  · exact this j i hne.symm heq.symm (lt_of_le_of_ne (not_lt.mp hij) hne.symm)
  have hentrance := hkey (hstep i i.isLt) (hstep j j.isLt) heq
  have hij' : (i : Nat) + 1 ≤ j := hij
  refine ⟨visit (i + 1), visit (j + 1), ?_, ?_, hentrance⟩
  · exact reflTransGen_of_steps hstep (Nat.zero_le _) i.isLt
  · exact TransGen.tail' (reflTransGen_of_steps hstep hij' (Nat.le_of_lt j.isLt))
      (hstep j j.isLt)

end Walker

/-! ## How many ways there are to enter a file -/

namespace Location

/-- The first bytes of a location. -/
def bytes (m : Nat) (l : Location) : Fin m → Option (Fin 256) :=
  fun i => l.text.toByteArray.data[i.val]?.map fun b => ⟨b.toNat, b.toNat_lt⟩

theorem eq_of_bytes_eq {m : Nat} {l l' : Location} (hl : l.text.utf8ByteSize ≤ m)
    (hl' : l'.text.utf8ByteSize ≤ m) (h : l.bytes m = l'.bytes m) : l = l' := by
  have key : l.text.toByteArray.data = l'.text.toByteArray.data := by
    refine Array.ext_getElem? fun i => ?_
    by_cases hi : i < m
    · have hbyte := congrFun h ⟨i, hi⟩
      refine Option.map_injective (fun b c hbc => ?_) hbyte
      exact UInt8.toNat.inj (Fin.mk.inj hbc)
    · have hsize : l.text.toByteArray.data.size ≤ i := le_trans hl (not_lt.mp hi)
      have hsize' : l'.text.toByteArray.data.size ≤ i := le_trans hl' (not_lt.mp hi)
      rw [Array.getElem?_eq_none hsize, Array.getElem?_eq_none hsize']
  have htext : l.text = l'.text := String.toByteArray_inj.mp (ByteArray.ext key)
  cases l
  cases l'
  exact congrArg Location.mk htext

theorem isAbsolute_append (text : String) {extension : String}
    (h : Location.isAbsolute ⟨extension⟩ = false) :
    Location.isAbsolute ⟨text ++ extension⟩ = Location.isAbsolute ⟨text⟩ := by
  simp only [isAbsolute, String.toList_append] at h ⊢
  cases htext : text.toList with
  | nil => simpa using h
  | cons c rest => rfl

/-- A location is no longer than the same with more text at its end. -/
theorem utf8ByteSize_child_le (l : Location) (text : String) {extension : String}
    (h : Location.isAbsolute ⟨extension⟩ = false) :
    (l.child text).text.utf8ByteSize ≤ (l.child (text ++ extension)).text.utf8ByteSize := by
  simp only [child, join, isAbsolute_append text h]
  split
  · rw [String.utf8ByteSize_append]
    exact Nat.le_add_right _ _
  · split
    · simp only [String.utf8ByteSize_append]
      omega
    · simp only [String.utf8ByteSize_append]
      omega

/-- A directory is no longer than what is in it. -/
theorem utf8ByteSize_le_child (l : Location) {text : String}
    (h : Location.isAbsolute ⟨text⟩ = false) :
    l.text.utf8ByteSize ≤ (l.child text).text.utf8ByteSize := by
  simp only [child, join, h]
  split
  · simp_all
  · split <;> simp only [String.utf8ByteSize_append] <;> omega

end Location

/-- The file of a module is there, and the directory of the modules inside it is either the one
that the file is in or no longer than the location of the file. -/
theorem SourceRoot.locate?_spec {root : SourceRoot} {scope : Scope} {name : String}
    {path : Option String} {target directory : Location}
    (h : root.locate? scope name path = some (target, directory)) :
    root.isFile target = true ∧ (directory = target.parent?.getD .empty
      ∨ directory.text.utf8ByteSize ≤ target.text.utf8ByteSize) := by
  cases path with
  | some path =>
      simp only [locate?] at h
      split at h
      · next hfile =>
          simp only [Option.some.injEq, Prod.mk.injEq] at h
          obtain ⟨rfl, rfl⟩ := h
          exact ⟨hfile, Or.inl rfl⟩
      · simp at h
  | none =>
      simp only [locate?] at h
      split at h
      · next hfile =>
          simp only [Option.some.injEq, Prod.mk.injEq] at h
          obtain ⟨rfl, rfl⟩ := h
          exact ⟨hfile, Or.inr (Location.utf8ByteSize_child_le _ _ (by decide))⟩
      · split at h
        · next hfile =>
            simp only [Option.some.injEq, Prod.mk.injEq] at h
            obtain ⟨rfl, rfl⟩ := h
            exact ⟨hfile, Or.inr (Location.utf8ByteSize_le_child _ (by decide))⟩
        · simp at h

/-- What the files that a walk enters have in common. -/
theorem Walker.Meets.spec {w : Walker} {file : Location} {scope : Scope} {items : List Item}
    {v : Walker.Visit} (h : w.Meets file scope items v) :
    w.root.isFile v.location = true
      ∧ v.scope.pathBase = v.location.parent?.getD .empty
      ∧ (v.scope.directory = v.location.parent?.getD .empty
        ∨ v.scope.directory.text.utf8ByteSize ≤ v.location.text.utf8ByteSize) := by
  induction h with
  | outside rest enabled located =>
      obtain ⟨hfile, hdirectory⟩ := SourceRoot.locate?_spec located
      exact ⟨hfile, rfl, hdirectory⟩
  | inside rest enabled _ ih => exact ih
  | later settles _ ih => exact ih

namespace FileTree

theorem utf8ByteSize_lt_of_isFile {t : FileTree} {start : Start} {l : Location}
    (h : t.isFile start l = true) : l.text.utf8ByteSize < locationLimit := by
  obtain ⟨content, hfind⟩ := isFile_iff.mp h
  obtain ⟨place, hresolve, -⟩ := find_eq_ok_iff.mp hfind
  obtain ⟨hrefusal, -⟩ := resolve_eq_ok_iff.mp hresolve
  obtain ⟨-, -, hshort⟩ := refusal?_eq_none_iff.mp hrefusal
  exact hshort

/-- What tells the ways to enter a file of a file tree apart. -/
def entranceKey (m : Nat) (v : Walker.Visit) :
    (Fin m → Option (Fin 256)) × Option (Fin m → Option (Fin 256)) :=
  (v.location.bytes m,
    if v.scope.directory = v.location.parent?.getD .empty then none
    else some (v.scope.directory.bytes m))

variable {t : FileTree} {place : Place} {w : Walker}

theorem entrance_eq_of_key_eq {m : Nat} (hm : locationLimit = m + 1)
    (hroot : w.root = t.sourceRoot place) {a b v v' : Walker.Visit} (hv : w.Enters a v)
    (hv' : w.Enters b v') (h : entranceKey m v = entranceKey m v') :
    v.entrance = v'.entrance := by
  obtain ⟨_, _, _, hmeets⟩ := hv
  obtain ⟨_, _, _, hmeets'⟩ := hv'
  obtain ⟨hfile, hbase, hdirectory⟩ := hmeets.spec
  obtain ⟨hfile', hbase', hdirectory'⟩ := hmeets'.spec
  rw [hroot] at hfile hfile'
  have hsize := utf8ByteSize_lt_of_isFile hfile
  have hsize' := utf8ByteSize_lt_of_isFile hfile'
  obtain ⟨hbytes, hkey⟩ := Prod.mk.inj h
  have hlocation : v.location = v'.location :=
    Location.eq_of_bytes_eq (by omega) (by omega) hbytes
  have hplace : v.scope.directory = v'.scope.directory := by
    split at hkey
    · next hd =>
        split at hkey
        · next hd' => rw [hd, hd', hlocation]
        · simp at hkey
    · next hd =>
        split at hkey
        · simp at hkey
        · next hd' =>
            have hle := hdirectory.resolve_left hd
            have hle' := hdirectory'.resolve_left hd'
            exact Location.eq_of_bytes_eq (by omega) (by omega) (Option.some.inj hkey)
  simp only [Walker.Visit.entrance, Scope.entrance, hlocation, hplace, hbase, hbase']

/-- In a file tree there are fewer ways to enter a file than `Crate.depthBound`. -/
theorem card_entranceKey_lt {m : Nat} (hm : locationLimit = m + 1) :
    Fintype.card ((Fin m → Option (Fin 256)) × Option (Fin m → Option (Fin 256)))
      < Crate.depthBound := by
  unfold Crate.depthBound Crate.locationCount
  rw [hm]
  simp only [Fintype.card_prod, Fintype.card_option, Fintype.card_fun, Fintype.card_fin]
  have hpos : 0 < 257 ^ m := Nat.pow_pos (by decide)
  show 257 ^ m * (257 ^ m + 1) < 257 ^ m * 257 * (257 ^ m * 257)
  generalize 257 ^ m = n at hpos ⊢
  have hsum : n * (n + 1) = n * n + n := by ring
  have hbound : n * 257 * (n * 257) = 66049 * (n * n) := by ring
  have hle : n ≤ n * n := Nat.le_mul_self n
  omega

/-- **A guarded walk through a file tree that is stopped enters an open file again.** -/
theorem recurs_of_guardedWalk_endless (hroot : w.root = t.sourceRoot place) {a : Walker.Visit}
    (h : w.guardedWalk Crate.depthBound [] a.location a.scope = .endless) : w.Recurs a := by
  obtain ⟨m, hm⟩ : ∃ m, locationLimit = m + 1 := ⟨4095, rfl⟩
  rcases Walker.guardedWalk_endless_cases _ _ a h with ⟨b, _, hmem⟩ | hrecurs | hchain
  · simp at hmem
  · exact hrecurs
  · exact hchain.recurs (entranceKey m) (fun hv hv' => entrance_eq_of_key_eq hm hroot hv hv')
      (card_entranceKey_lt hm)

end FileTree

/-! ## Discovery -/

namespace Crate

/-- The entry file of a crate, as it is entered. -/
def entryVisit (c : Crate) : Walker.Visit := ⟨⟨c.entry⟩, rootScope⟩

/-- Everything that a crate declares, found by a walk that enters at most so many files inside
each other. -/
def declarationsUpTo (c : Crate) (t : FileTree) (depth : Nat) : Except Halt Findings :=
  match t.openDirectory t.ambient c.directory with
  | .error reason => .ok ⟨.error (.io c.directory reason), []⟩
  | .ok place => c.declarationsIn (t.sourceRoot place) depth

/-- The walk through a crate enters some file again, in the same way, while it is open. -/
def Recurs (c : Crate) (t : FileTree) : Prop :=
  ∃ place, t.openDirectory t.ambient c.directory = .ok place
    ∧ (c.walker (t.sourceRoot place)).Recurs c.entryVisit

theorem conclude_eq_ok_iff (c : Crate) (a : Walk) :
    (∃ findings, c.conclude a = .ok findings) ↔ a ≠ .endless := by
  cases a <;> simp [conclude]

variable {c : Crate} {t : FileTree}

theorem declarationsUpTo_eq_of_le {depth depth' : Nat} (hle : depth ≤ depth') {findings : Findings}
    (h : c.declarationsUpTo t depth = .ok findings) :
    c.declarationsUpTo t depth' = .ok findings := by
  cases hopen : t.openDirectory t.ambient c.directory with
  | error reason =>
      simp only [declarationsUpTo, hopen] at h ⊢
      exact h
  | ok place =>
      simp only [declarationsUpTo, declarationsIn, hopen] at h ⊢
      rw [Walker.walkFile_eq_of_le _ hle ((c.conclude_eq_ok_iff _).mp ⟨findings, h⟩), h]

/-- Without such a file the guarded walk gives the answer of the unguarded one. -/
theorem declarations_eq_of_not_recurs (h : ¬ c.Recurs t) {depth : Nat}
    (hdepth : depthBound ≤ depth) :
    ∃ findings, c.declarations t = .ok findings ∧ c.declarationsUpTo t depth = .ok findings := by
  cases hopen : t.openDirectory t.ambient c.directory with
  | error reason =>
      refine ⟨⟨.error (.io c.directory reason), []⟩, ?_, ?_⟩
      · simp only [declarations, hopen]
      · simp only [declarationsUpTo, hopen]
  | ok place =>
      have hne : (c.walker (t.sourceRoot place)).guardedWalk depthBound [] ⟨c.entry⟩ rootScope
          ≠ .endless := by
        intro hend
        exact h ⟨place, hopen,
          FileTree.recurs_of_guardedWalk_endless (a := c.entryVisit) rfl hend⟩
      have hsame := ((c.walker (t.sourceRoot place)).guardedWalk_within depthBound [] ⟨c.entry⟩
        rootScope).eq_of_ne hne
      obtain ⟨findings, hfindings⟩ := (c.conclude_eq_ok_iff _).mpr hne
      refine ⟨findings, by simp only [declarations, hopen, hfindings], ?_⟩
      simp only [declarationsUpTo, declarationsIn, hopen]
      rw [Walker.walkFile_eq_of_le _ hdepth (hsame ▸ hne), ← hsame, hfindings]

/-- With such a file no walk gives an answer, guarded or not. -/
theorem endlessModules_of_recurs (h : c.Recurs t) :
    c.declarations t = .error .endlessModules
      ∧ ∀ depth, c.declarationsUpTo t depth = .error .endlessModules := by
  obtain ⟨place, hopen, hrecurs⟩ := h
  have hend : ∀ depth, (c.walker (t.sourceRoot place)).walkFile depth ⟨c.entry⟩ rootScope
      = .endless := fun depth => hrecurs.endless depth
  constructor
  · have hguarded : (c.walker (t.sourceRoot place)).guardedWalk depthBound [] ⟨c.entry⟩ rootScope
        = .endless := by
      rcases (c.walker (t.sourceRoot place)).guardedWalk_within depthBound [] ⟨c.entry⟩ rootScope
        with hend' | heq
      · exact hend'
      · rw [heq, hend]
    simp only [declarations, hopen, hguarded, conclude]
  · intro depth
    simp only [declarationsUpTo, declarationsIn, hopen, hend depth, conclude]

/-- **Discovery ends exactly where no open file is entered again.** There is a depth at which the
walk through a crate is not stopped if and only if it enters no file again, in the same way, while
that file is open; and what `declarations` answers is what the walk answers at such a depth. -/
theorem declarations_ends_iff (c : Crate) (t : FileTree) :
    ((∃ depth findings, c.declarationsUpTo t depth = .ok findings) ↔ ¬ c.Recurs t)
      ∧ ∀ findings, c.declarations t = .ok findings
          ↔ ∃ depth, c.declarationsUpTo t depth = .ok findings := by
  by_cases h : c.Recurs t
  · obtain ⟨hguarded, hend⟩ := endlessModules_of_recurs h
    simp [hguarded, hend, h]
  · refine ⟨⟨fun _ => h, fun _ => ?_⟩, fun findings => ⟨fun hdecl => ?_, ?_⟩⟩
    · obtain ⟨findings, -, hwalk⟩ := declarations_eq_of_not_recurs h (Nat.le_refl _)
      exact ⟨_, findings, hwalk⟩
    · obtain ⟨findings', hdecl', hwalk⟩ := declarations_eq_of_not_recurs h (Nat.le_refl _)
      rw [hdecl'] at hdecl
      exact ⟨_, hdecl ▸ hwalk⟩
    · rintro ⟨depth, hwalk⟩
      obtain ⟨findings', hdecl, hwalk'⟩ :=
        declarations_eq_of_not_recurs h (Nat.le_max_right depth depthBound)
      rw [declarationsUpTo_eq_of_le (Nat.le_max_left depth depthBound) hwalk] at hwalk'
      rw [hdecl, ← hwalk']

/-- A directory whose only file names itself as the file of a module. -/
def selfNamingTree : FileTree where
  entries := [(["lib.rs"], .file "#[path = \"lib.rs\"] mod a;".toUTF8)]

/-- The crate with that file as its entry. -/
def selfNamingCrate : Crate := ⟨⟨"."⟩, "lib.rs", {}⟩

/-- The walk through a file that names itself is stopped at every depth. -/
theorem selfNaming_endless :
    ¬ ∃ depth findings, selfNamingCrate.declarationsUpTo selfNamingTree depth = .ok findings := by
  have hstopped : (match selfNamingCrate.declarations selfNamingTree with
      | .error .endlessModules => true
      | _ => false) = true := by decide +kernel
  have hrecurs : selfNamingCrate.Recurs selfNamingTree := by
    by_contra hnot
    obtain ⟨findings, hfound, -⟩ := declarations_eq_of_not_recurs hnot (Nat.le_refl _)
    simp [hfound] at hstopped
  rintro ⟨depth, findings, hfound⟩
  rw [(endlessModules_of_recurs hrecurs).2 depth] at hfound
  cases hfound

end Crate

end Fieldwise
