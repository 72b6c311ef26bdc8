import Fieldwise.Emission
import Fieldwise.Proofs.Location.Names
import Mathlib.Data.Finset.Card
import Mathlib.Data.Finset.Dedup

set_option autoImplicit false

/-! # The last text at a location stays

A shelf compares locations by their components, so one text can be found under many spellings of
its location. `Shelf.get?_insert` says what storing a text changes. From it, `Shelf.Holds` is an
invariant of a shelf and of all the bundles that were stored on it, one after the other: under each
location stands the text of the last of those bundles that goes there, and there are as many texts
as there are different locations among the bundles.
-/

namespace Fieldwise

/-- The text of a bundle, if it has one. -/
def Bundle.text? (b : Bundle) : Option String :=
  match b.render with
  | .ok (.ok text) => some text
  | _ => none

theorem Bundle.text?_of_render {b : Bundle} {text : String} (h : b.render = .ok (.ok text)) :
    b.text? = some text := by
  unfold Bundle.text?
  rw [h]

theorem Bundle.render_of_isSome {b : Bundle} (h : b.text?.isSome = true) :
    ∃ text, b.render = .ok (.ok text) := by
  unfold Bundle.text? at h
  split at h
  · rename_i text htext
    exact ⟨text, htext⟩
  · cases h

/-- The bundles of a list that go to a location, in order. -/
def bundlesAt (location : Location) (bundles : List Bundle) : List Bundle :=
  bundles.filter fun b => b.relativePath.components = location.components

theorem bundlesAt_concat (location : Location) (bundles : List Bundle) (b : Bundle) :
    bundlesAt location (bundles ++ [b])
      = bundlesAt location bundles
        ++ if b.relativePath.components = location.components then [b] else [] := by
  rw [bundlesAt, List.filter_append, List.filter_singleton, Bool.cond_decide, bundlesAt]

/-- The locations to which the bundles of a list go, each of them once. -/
def destinations (bundles : List Bundle) : Finset (List Component) :=
  (bundles.map fun b => b.relativePath.components).toFinset

namespace Shelf

/-- **Storing a text changes what is found at its location**, in all spellings, and nothing
else. -/
theorem get?_insert (s : Shelf) (l : Location) (text : String) (p : Location) :
    (s.insert l text).get? p = if l.components = p.components then some text else s.get? p := by
  have hlast : [(l, text)].find? (fun e => e.1.sameAs p)
      = if l.components = p.components then some (l, text) else none := by
    cases hsame : l.sameAs p <;> simp [hsame, ← Location.sameAs_iff]
  rw [get?, insert, List.find?_append, List.find?_filter, hlast]
  by_cases hlp : l.components = p.components
  · -- what was found at `p` was at `l` as well, and is gone
    have hgone : s.entries.find? (fun e => !e.1.sameAs l && e.1.sameAs p) = none := by
      rw [List.find?_eq_none]
      rintro e - he
      simp only [Bool.and_eq_true, Bool.not_eq_true', Location.sameAs_iff] at he
      have hsame : e.1.sameAs l = true := Location.sameAs_iff.mpr (he.2.trans hlp.symm)
      rw [hsame] at he
      cases he.1
    simp [hgone, hlp]
  · have hkept : (fun e : Location × String => !e.1.sameAs l && e.1.sameAs p)
        = fun e => e.1.sameAs p := by
      funext e
      rw [Bool.eq_iff_iff, Bool.and_eq_true, and_iff_right_iff_imp, Bool.not_eq_true',
        Bool.eq_false_iff, ne_eq]
      intro hp hl
      exact hlp ((Location.sameAs_iff.mp hl).symm.trans (Location.sameAs_iff.mp hp))
    simp [hkept, hlp, get?]

example : ((Shelf.insert {} ⟨"model/a.rs"⟩ "one").insert ⟨"model//./a.rs"⟩ "two").entries.length = 1
    ∧ ((Shelf.insert {} ⟨"model/a.rs"⟩ "one").insert ⟨"model//./a.rs"⟩ "two").get? ⟨"model/a.rs/"⟩
      = some "two" := by
  decide +kernel

/-- The components of the locations on a shelf. -/
def keys (s : Shelf) : List (List Component) := s.entries.map fun e => e.1.components

theorem keys_insert (s : Shelf) (l : Location) (text : String) :
    (s.insert l text).keys = (s.keys.filter fun c => c ≠ l.components) ++ [l.components] := by
  rw [keys, insert, List.map_append, keys, List.filter_map]
  congr 3
  funext e
  rw [Bool.eq_iff_iff]
  simp [← Location.sameAs_iff]

/-- What a shelf holds after some bundles were stored on it, one after the other. -/
structure Holds (s : Shelf) (bundles : List Bundle) : Prop where
  /-- All of them have a text. -/
  rendered : ∀ b ∈ bundles, ∃ text, b.render = .ok (.ok text)
  /-- The last one that goes to a location is found there. -/
  found : ∀ l, s.get? l = (bundlesAt l bundles).getLast?.bind Bundle.text?
  /-- No location has two texts. -/
  nodup : s.keys.Nodup
  keys : s.keys.toFinset = destinations bundles

theorem holds_empty : Holds {} [] where
  rendered b hb := by cases hb
  found _ := rfl
  nodup := .nil
  keys := rfl

theorem Holds.size_eq {s : Shelf} {bundles : List Bundle} (h : s.Holds bundles) :
    s.size = (destinations bundles).card := by
  rw [← h.keys, List.toFinset_card_of_nodup h.nodup, Shelf.keys, List.length_map, size]

/-- **One more bundle on a shelf.** -/
theorem Holds.insert {s : Shelf} {bundles : List Bundle} {b : Bundle} {text : String}
    (h : s.Holds bundles) (hrender : b.render = .ok (.ok text)) :
    (s.insert b.relativePath text).Holds (bundles ++ [b]) where
  rendered b' hb' := by
    rcases List.mem_append.mp hb' with hold | hnew
    · exact h.rendered b' hold
    · exact ⟨text, by rw [List.mem_singleton.mp hnew, hrender]⟩
  found l := by
    rw [get?_insert, bundlesAt_concat]
    split
    · rw [List.getLast?_concat, Option.bind_some, Bundle.text?_of_render hrender]
    · rw [List.append_nil, h.found]
  nodup := by
    rw [keys_insert, ← List.concat_eq_append, List.nodup_concat]
    exact ⟨by simp, h.nodup.filter _⟩
  keys := by
    ext c
    have hkeys : c ∈ s.keys ↔ c ∈ destinations bundles := by rw [← h.keys, List.mem_toFinset]
    simp only [destinations, List.mem_toFinset] at hkeys
    simp only [destinations, keys_insert, List.mem_toFinset, List.map_append, List.mem_append,
      List.mem_filter, hkeys, List.map_cons, List.map_nil, List.mem_singleton,
      decide_eq_true_eq]
    tauto

/-- All that storing a bundle on a shelf can do. -/
theorem emitter_cases {b : Bundle} {s : Shelf} {emission : Emission Shelf}
    (h : emitter b s = .ok emission) :
    (∃ reason, b.render = .ok (.error reason)
        ∧ emission = ⟨.error (.render reason), [], s⟩)
      ∨ ∃ text, b.render = .ok (.ok text)
        ∧ emission = ⟨.ok ⟨b.relativePath, b.functions.length⟩, [],
          s.insert b.relativePath text⟩ := by
  unfold emitter at h
  split at h
  · cases h
  · rename_i reason hrender
    cases h
    exact .inl ⟨reason, hrender, rfl⟩
  · rename_i text hrender
    cases h
    exact .inr ⟨text, hrender, rfl⟩

end Shelf

end Fieldwise
