import Fieldwise.Proofs.Discovery.Walks

set_option autoImplicit false

/-! # A module in a file and the same module in place

A module can stand in a file of its own, `mod m;`, or in place, `mod m { .. }`. The two are walked
by different code: for a file the directory of the modules inside comes from where the file was
found and the start of the attribute `path` is the directory of the file, for a module in place
both are the directory named after the module; and the attributes inside the file are looked at
when it is entered, while those inside a module in place belong to the module.

Without the attribute `path` a walk never looks at where that attribute would start from, so the
scopes of the two walks may be told apart by it only (`Scope.Matches`). `walkFile_inlined` is the
comparison at one depth, and `Walker.walkItem_inlined` says that what is found, or the error, is the
same. What was a line of the file is another line of the file around it, so places are left out of
the comparison on both sides: the items may be moved (`moveItems`), and anchors are not looked at.
-/

namespace Fieldwise

open Token Grammar

/-! ## Items at other places -/

namespace Grammar

mutual

/-- An item whose types stand at other places. -/
def Item.move (f : Position → Position) : Item → Item
  | .type t => .type { t with place := f t.place }
  | .submodule attributes name none => .submodule attributes name none
  | .submodule attributes name (some items) => .submodule attributes name (some (moveItems f items))
  | .other => .other

/-- Items whose types stand at other places. -/
def moveItems (f : Position → Position) : List Item → List Item
  | [] => []
  | item :: rest => item.move f :: moveItems f rest

end

/-- A module in place with the inside of a file. -/
def inlined (f : Position → Position) (attributes : List Attribute) (name : Name)
    (source : SourceFile) : Item :=
  .submodule (attributes ++ source.attributes) name (some (moveItems f source.items))

/-- No module of a file is sent elsewhere by the attribute `path`, nor the file itself. -/
def SourceFile.PathFree (source : SourceFile) : Prop :=
  pathAttribute? source.attributes = none
    ∧ ∀ attributes ∈ moduleAttributes source.items, pathAttribute? attributes = none

instance (source : SourceFile) : Decidable source.PathFree :=
  inferInstanceAs (Decidable (_ ∧ ∀ _ ∈ _, _))

end Grammar

/-! ## What a walk comes to -/

/-- A declaration without the line it stands on. -/
def Declaration.withoutAnchor (d : Declaration) : Declaration := { d with anchor := none }

/-- What a walk found or why it failed, without the lines of what was found and without what was
said on the way. -/
def Walk.outcome (a : Walk) : Walk := a.seen Declaration.withoutAnchor fun _ => false

theorem Walk.outcome_andThen (first : Walk) (next : Unit → Walk) :
    (first.andThen next).outcome = first.outcome.andThen fun _ => (next ()).outcome :=
  seen_andThen _ _ first next

theorem Walk.congruence_outcome : Congruence fun a b => a.outcome = b.outcome where
  nothing := rfl
  andThen := by
    intro a a' b b' ha hb
    rw [outcome_andThen, outcome_andThen, ha, hb]

/-- Scopes of one module in which modules without the attribute `path` are found at the same
locations. -/
structure Scope.Matches (s s' : Scope) : Prop where
  package : s.package = s'.package
  directory : s.directory = s'.directory

/-! ## The attributes of a module in place -/

theorem enables_append (s : Conditions) (attributes more : List Attribute) :
    s.enables (attributes ++ more) = (s.enables attributes && s.enables more) := by
  rw [Conditions.enables, List.filter_append, List.all_append]
  rfl

theorem pathAttribute?_append {attributes more : List Attribute}
    (h : pathAttribute? attributes = none) :
    pathAttribute? (attributes ++ more) = pathAttribute? more := by
  simp only [pathAttribute?] at h ⊢
  rw [List.filter_append, List.findSome?_append, h, Option.none_or]

/-- A module without the attribute `path` is looked for in the directory of the module that it is
inside of. -/
theorem locate?_matches (root : SourceRoot) {s s' : Scope} (h : s.Matches s') (name : String) :
    root.locate? s name none = root.locate? s' name none := by
  simp only [SourceRoot.locate?, h.directory]

/-- The modules inside a module are looked for in the directory named after it, wherever its file
is. -/
theorem directory_of_locate? {root : SourceRoot} {scope : Scope} {name : String}
    {target directory : Location} (h : root.locate? scope name none = some (target, directory)) :
    directory = scope.directory.child name := by
  simp only [SourceRoot.locate?] at h
  split at h
  · simp only [Option.some.injEq, Prod.mk.injEq] at h
    exact h.2.symm
  · split at h
    · simp only [Option.some.injEq, Prod.mk.injEq] at h
      exact h.2.symm
    · cases h

namespace Walker

/-! ## Walks from matching scopes -/

section Matching

variable (w : Walker) (enter : Location → Scope → Walk)

theorem walkType_outcome (file file' : Location) {s s' : Scope} (h : s.package = s'.package)
    (t : TypeItem) (place : Position) :
    (w.walkItem enter file s (.type { t with place })).outcome
      = (w.walkItem enter file' s' (.type t)).outcome := by
  rw [walkItem, walkItem, h]
  cases he : w.conditions.enables t.attributes with
  | false => simp [TypeItem.declaration?, he]
  | true =>
      simp [TypeItem.declaration?, he, Walk.outcome, Walk.seen, Declaration.withoutAnchor]

/-- Without the attribute `path`, walks from matching scopes come to the same, whichever file
the items stand in. -/
theorem comparison_outcome (file file' : Location) :
    Comparison (fun a b => a.outcome = b.outcome) w w enter enter file file' Scope.Matches
      fun attributes => pathAttribute? attributes = none where
  congruence := Walk.congruence_outcome
  conditions := rfl
  type := fun t hs => w.walkType_outcome enter file file' hs.package t t.place
  inner := by
    intro s s' attributes name hs hnone
    simp only [innerScope, inlineScope, hnone]
    exact ⟨by rw [hs.package], by rw [hs.directory]⟩
  named := by
    intro s s' attributes name hs hnone
    simp only [walkNamed, walkOutside, hnone, locate?_matches w.root hs, hs.package]
    split
    · rfl
    · rfl

mutual

theorem walkItem_move (f : Position → Position) (file : Location) (item : Item) (scope : Scope) :
    (w.walkItem enter file scope (item.move f)).outcome
      = (w.walkItem enter file scope item).outcome := by
  cases item with
  | type t => exact w.walkType_outcome enter file file rfl t (f t.place)
  | submodule attributes name content =>
      cases content with
      | none => rw [Item.move]
      | some items =>
          rw [Item.move]
          cases he : w.conditions.enables attributes with
          | false => rw [walkItem_disabled w _ _ _ _ _ he, walkItem_disabled w _ _ _ _ _ he]
          | true =>
              rw [walkItem_inline w _ _ _ _ _ he, walkItem_inline w _ _ _ _ _ he]
              exact walkItems_move f file items _
  | other => rw [Item.move]

/-- Where items stand matters to anchors only. -/
theorem walkItems_move (f : Position → Position) (file : Location) (items : List Item)
    (scope : Scope) :
    (w.walkItems enter file scope (moveItems f items)).outcome
      = (w.walkItems enter file scope items).outcome := by
  cases items with
  | nil => rw [moveItems]
  | cons item rest =>
      rw [moveItems, walkItems_cons, walkItems_cons, Walk.outcome_andThen, Walk.outcome_andThen,
        walkItem_move f file item scope, walkItems_move f file rest scope]

end

end Matching

/-! ## Inlining -/

section Inlining

variable {w : Walker} {scope : Scope} {attributes : List Attribute} {name : Name}
  {target directory : Location} {source : SourceFile}

/-- **A file that is entered and its inside in place come to the same.** -/
theorem walkSource_inlined (enter : Location → Scope → Walk)
    (hnone : pathAttribute? attributes = none)
    (hlocate : w.root.locate? scope name.text none = some (target, directory))
    (hload : w.root.load target = .ok source) (hfree : source.PathFree) (file : Location)
    (f : Position → Position) :
    (w.walkItem enter file scope (inlined f attributes name source)).outcome
      = (w.walkItem (w.walkSource enter) file scope (.submodule attributes name none)).outcome := by
  cases ha : w.conditions.enables attributes with
  | false =>
      have hboth : w.conditions.enables (attributes ++ source.attributes) = false := by
        rw [enables_append, ha, Bool.false_and]
      rw [inlined, walkItem_disabled w _ _ _ _ _ hboth, walkItem_disabled w _ _ _ _ _ ha]
  | true =>
      have hnamed : w.walkNamed (w.walkSource enter) file scope attributes name
          = w.walkSource enter target
              ⟨scope.package.child name.written, directory, target.parent?.getD .empty⟩ := by
        simp only [walkNamed, walkOutside, hnone, hlocate]
      rw [walkItem_named w _ _ _ _ ha, hnamed]
      cases hs : w.conditions.enables source.attributes with
      | false =>
          -- the file is entered and found to be disabled; in place the module is disabled
          have hboth : w.conditions.enables (attributes ++ source.attributes) = false := by
            rw [enables_append, hs, Bool.and_false]
          rw [inlined, walkItem_disabled w _ _ _ _ _ hboth, walkSource_disabled w _ _ hload hs]
          rfl
      | true =>
          have hboth : w.conditions.enables (attributes ++ source.attributes) = true := by
            rw [enables_append, ha, hs, Bool.and_true]
          have hinner : innerScope scope (attributes ++ source.attributes) name
              = ⟨scope.package.child name.written, directory, directory⟩ := by
            simp only [innerScope, inlineScope, pathAttribute?_append hnone, hfree.1,
              directory_of_locate? hlocate]
          rw [inlined, walkItem_inline w _ _ _ _ _ hboth, hinner, walkItems_move,
            walkSource_enabled w _ _ hload hs]
          have hcompare := w.comparison_outcome enter file (w.base.join target)
          exact hcompare.walkItems source.items hfree.2 ⟨rfl, rfl⟩

/-- **Moving a module between a file and its place does not change what is found.** Let a module
without the attribute `path` be found in a file in which nothing carries that attribute either. If
the walk through the module ends, then the walk through the inside of the file, in the place of the
module, finds the same declarations in the same order or fails with the same error. -/
theorem walkItem_inlined (hnone : pathAttribute? attributes = none)
    (hlocate : w.root.locate? scope name.text none = some (target, directory))
    (hload : w.root.load target = .ok source) (hfree : source.PathFree) {depth : Nat}
    {file : Location}
    (hends : w.walkItem (w.walkFile depth) file scope (.submodule attributes name none) ≠ .endless)
    (f : Position → Position) :
    (w.walkItem (w.walkFile depth) file scope (inlined f attributes name source)).outcome
      = (w.walkItem (w.walkFile depth) file scope (.submodule attributes name none)).outcome := by
  -- in place there is one file less to enter, which a walk that ends does not notice
  have hdeeper : w.walkItem (w.walkFile depth) file scope (.submodule attributes name none)
      = w.walkItem (w.walkFile (depth + 1)) file scope (.submodule attributes name none) :=
    (w.walkItem_within (w.walkFile_within_succ depth) file scope _).eq_of_ne hends
  have hstep : w.walkFile (depth + 1) = w.walkSource (w.walkFile depth) := rfl
  rw [hdeeper, hstep]
  exact walkSource_inlined (w.walkFile depth) hnone hlocate hload hfree file f

/-- A directory with a module of a raw name in a file that has a condition and a module of its
own. -/
def nestedTree : FileTree where
  entries := [
    (["outer"], .directory),
    (["outer", "type.rs"], .file "#![cfg(unix)]\nstruct A; mod inner;".toUTF8),
    (["outer", "type"], .directory),
    (["outer", "type", "inner.rs"], .file "pub struct B(u8);".toUTF8)]

/-- A walk through that directory. -/
def nestedWalker : Walker := ⟨nestedTree.sourceRoot [], ⟨"src"⟩, { options := [("unix", none)] }⟩

/-- The module `outer`, with the module `r#type` inside it. -/
def nestedScope : Scope := ⟨⟨["outer"]⟩, ⟨"outer"⟩, ⟨"outer"⟩⟩

/-- The module `r#type` in a file of its own and in place: both types inside it are found. -/
theorem walkItem_inlined_nested :
    ∃ source, nestedWalker.root.load ⟨"outer/type.rs"⟩ = .ok source
      ∧ (match nestedWalker.walkItem (nestedWalker.walkFile 2) ⟨"src/lib.rs"⟩ nestedScope
            (.submodule [] ⟨true, "type"⟩ none) with
          | .found declarations _ => declarations.map Declaration.qualifiedName
          | _ => []) = ["outer::r#type::A", "outer::r#type::inner::B"]
      ∧ ∀ f, (nestedWalker.walkItem (nestedWalker.walkFile 2) ⟨"src/lib.rs"⟩ nestedScope
            (inlined f [] ⟨true, "type"⟩ source)).outcome
          = (nestedWalker.walkItem (nestedWalker.walkFile 2) ⟨"src/lib.rs"⟩ nestedScope
            (.submodule [] ⟨true, "type"⟩ none)).outcome := by
  have hfree : (match nestedWalker.root.load ⟨"outer/type.rs"⟩ with
      | .ok source => decide source.PathFree
      | .error _ => false) = true := by decide +kernel
  cases hload : nestedWalker.root.load ⟨"outer/type.rs"⟩ with
  | error obstacle => simp [hload] at hfree
  | ok source =>
      have hsource : source.PathFree := by simpa [hload] using hfree
      refine ⟨source, rfl, by decide +kernel, fun f => ?_⟩
      have hlocate : nestedWalker.root.locate? nestedScope (Name.text ⟨true, "type"⟩) none
          = some (⟨"outer/type.rs"⟩, ⟨"outer/type"⟩) := by decide +kernel
      have hends : nestedWalker.walkItem (nestedWalker.walkFile 2) ⟨"src/lib.rs"⟩ nestedScope
          (.submodule [] ⟨true, "type"⟩ none) ≠ .endless := by decide +kernel
      exact walkItem_inlined rfl hlocate hload hsource hends f

end Inlining

end Walker

end Fieldwise
