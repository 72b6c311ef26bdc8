import Fieldwise.Proofs.Pass.Isolation
import Fieldwise.Proofs.Pass.Markers

set_option autoImplicit false

/-! # Generic parameters under conditions

A part of a crate whose attributes leave it out is not there for the compiler. Fields and variants
are filtered so before a type is declared, generic parameters are not: a declaration lists them all
(`generics_declaration?`). So a type is reported as generic where it was written with parameters,
and this is what the compiler would say just if it was written with none, or if one of them is
there (`generics_reported`). `windowsWrapper_reported` is a type for which it is not.
-/

namespace Fieldwise

open Grammar

/-- The generic parameters of a type that the compiler sees. -/
def Grammar.TypeItem.visibleGenerics (t : TypeItem) (s : Conditions) : List Parameter :=
  t.generics.filter fun p => s.enables p.attributes

section Declared

variable {t : TypeItem} {s : Conditions} {package : Package} {file : Location} {d : Declaration}

/-- A declaration lists all generic parameters of its type. -/
theorem generics_declaration? (hd : t.declaration? s package file = some d) :
    d.generics = t.generics.map Parameter.name := by
  unfold TypeItem.declaration? at hd
  split at hd
  · cases hd
    rfl
  · cases hd

/-- The compiler sees a parameter just if one of them is enabled. -/
theorem visibleGenerics_ne_nil_iff :
    t.visibleGenerics s ≠ [] ↔ ∃ p ∈ t.generics, s.enables p.attributes = true := by
  rw [TypeItem.visibleGenerics, ne_eq, List.filter_eq_nil_iff]
  simp

/-- Of a list of names none is left out by leaving out entries just if no entry is. -/
theorem map_name_eq_visible_iff :
    t.generics.map Parameter.name = (t.visibleGenerics s).map Parameter.name
      ↔ ∀ p ∈ t.generics, s.enables p.attributes = true := by
  rw [TypeItem.visibleGenerics]
  constructor
  · intro h
    have hlength :
        t.generics.length = (t.generics.filter fun p => s.enables p.attributes).length := by
      simpa using congrArg List.length h
    exact List.filter_eq_self.mp (List.filter_sublist.eq_of_length hlength.symm)
  · intro h
    rw [List.filter_eq_self.mpr h]

/-- What is said of a public candidate that is no trait, as often as it stands in a list. -/
theorem objection?_of_public (hd : t.declaration? s package file = some d)
    (hpublic : d.visibility = .unrestricted) (hconcrete : d.kind ≠ .trait) (marker : String) :
    (d.objection? marker).toList = if t.generics = [] then []
      else [.processFailed d "generic parameters are not supported"] := by
  have hgenerics := generics_declaration? hd
  by_cases hnone : t.generics = []
  · have husable : d.Usable := ⟨hpublic, hconcrete, by rw [hgenerics, hnone]; rfl⟩
    rw [if_pos hnone, (d.objection?_eq_none_iff marker).mpr husable]
    rfl
  · have hlisted : d.generics ≠ [] := by
      rw [hgenerics]
      exact mt List.map_eq_nil_iff.mp hnone
    have hrule : d.brokenRule? = some .isNotGeneric := by
      simp [Declaration.brokenRule?, CandidateRule.all, CandidateRule.isBroken, hpublic, hconcrete,
        hlisted]
    rw [if_neg hnone, Declaration.objection?, hrule, Option.map_some,
      ← processFailed_eq_objection marker]
    rfl

/-- **What is reported of generic parameters.** A declaration lists the parameters as they were
written, which are those that the compiler sees just if the attributes of none leave it out. Among
any other declarations a public candidate that is no trait is reported to have generic parameters
just if it was written with some; and that agrees with what the compiler sees just if it was
written with none, or one of them is there. -/
theorem generics_reported (hd : t.declaration? s package file = some d) :
    d.generics = t.generics.map Parameter.name
      ∧ (d.generics = (t.visibleGenerics s).map Parameter.name
        ↔ ∀ p ∈ t.generics, s.enables p.attributes = true)
      ∧ (∀ marker, d.hasAttribute marker = true → d.visibility = .unrestricted → d.kind ≠ .trait →
        ∀ xs ys, (collect marker (xs ++ [d] ++ ys)).diagnostics
          = (collect marker xs).diagnostics
            ++ (if t.generics = [] then []
              else [.processFailed d "generic parameters are not supported"])
            ++ (collect marker ys).diagnostics)
      ∧ ((t.generics ≠ [] ↔ t.visibleGenerics s ≠ [])
        ↔ t.generics = [] ∨ ∃ p ∈ t.generics, s.enables p.attributes = true) := by
  have hgenerics := generics_declaration? hd
  refine ⟨hgenerics, ?_, ?_, ?_⟩
  · rw [hgenerics]
    exact map_name_eq_visible_iff
  · intro marker hmarked hpublic hconcrete xs ys
    rw [(collect_insert_marked xs ys hmarked).2, objection?_of_public hd hpublic hconcrete marker]
  · rw [visibleGenerics_ne_nil_iff]
    by_cases hnone : t.generics = []
    · simp [hnone]
    · simp [hnone]

end Declared

/-! ## Two structs -/

/-- The conditions of a crate for Unix. -/
def unixConditions : Conditions := ({} : Conditions).withFlag "unix"

/-- A marked struct as the file `src/lib.rs` declares it. -/
def libraryStruct (name : String) (generics : List String) : Declaration where
  qualifiedName := name
  simpleName := name
  package := .root
  visibility := .unrestricted
  kind := .struct
  attributes := ["static_string_util"]
  generics
  members := [⟨"0", .field⟩]
  anchor := some ⟨"src/lib.rs", 2⟩

/-- What a text declares under these conditions, if it is a file with one type in it. -/
structure Declares (text : String) (s : Conditions) (t : TypeItem) (d : Declaration) : Prop where
  file : ∃ source, readFile text = .ok source ∧ source.items = [.type t]
  declared : t.declaration? s .root ⟨"src/lib.rs"⟩ = some d

/-- What a computation says of the only type in a text. -/
theorem exists_declares {text : String} {s : Conditions} {visible : List String} {d : Declaration}
    (h : (readFile text).toOption.map (fun source => (onlyType? source.items).map fun t =>
        ((t.visibleGenerics s).map Parameter.name, t.declaration? s .root ⟨"src/lib.rs"⟩))
      = some (some (visible, some d))) :
    ∃ t, Declares text s t d ∧ (t.visibleGenerics s).map Parameter.name = visible := by
  obtain ⟨source, hsource, hview⟩ := exists_ok_of_view h
  obtain ⟨t, ht, hpair⟩ := Option.map_eq_some_iff.mp hview
  obtain ⟨hvisible, hdeclared⟩ := Prod.mk.inj hpair
  exact ⟨t, ⟨⟨source, hsource, eq_of_onlyType? ht⟩, hdeclared⟩, hvisible⟩

/-- The text of a struct with a parameter that is there for Unix. -/
def unixBufferText : String :=
  "#[static_string_util]\npub struct Buffer<#[cfg(windows)] 'a, #[cfg(unix)] T>(T);"

/-- Both its parameters are listed, and as one is there the report is right. -/
theorem unixBuffer_reported :
    ∃ t, Declares unixBufferText unixConditions t (libraryStruct "Buffer" ["'a", "T"])
      ∧ (t.visibleGenerics unixConditions).map Parameter.name = ["T"]
      ∧ (collect "static_string_util" [libraryStruct "Buffer" ["'a", "T"]]).diagnostics
        = [.processFailed (libraryStruct "Buffer" ["'a", "T"])
          "generic parameters are not supported"] := by
  obtain ⟨t, hdeclares, hvisible⟩ : ∃ t,
      Declares unixBufferText unixConditions t (libraryStruct "Buffer" ["'a", "T"])
        ∧ (t.visibleGenerics unixConditions).map Parameter.name = ["T"] :=
    exists_declares (by decide +kernel)
  obtain ⟨hgenerics, -, hreports, -⟩ := generics_reported hdeclares.declared
  have hwritten : t.generics ≠ [] := by
    intro hnone
    rw [hnone] at hgenerics
    cases hgenerics
  have hsaid := hreports "static_string_util" (by decide) rfl (by decide) [] []
  rw [if_neg hwritten] at hsaid
  exact ⟨t, hdeclares, hvisible, hsaid⟩

/-- The text of a struct whose only parameter is not there for Unix. -/
def windowsWrapperText : String :=
  "#[static_string_util]\npub struct Wrapper<#[cfg(windows)] T>(u8);"

/-- **A type that is reported for a parameter that is not there.** The compiler sees a struct
without parameters; it is declared with one, and refused for it. -/
theorem windowsWrapper_reported :
    ∃ t, Declares windowsWrapperText unixConditions t (libraryStruct "Wrapper" ["T"])
      ∧ t.visibleGenerics unixConditions = []
      ∧ (collect "static_string_util" [libraryStruct "Wrapper" ["T"]]).diagnostics
        = [.processFailed (libraryStruct "Wrapper" ["T"])
          "generic parameters are not supported"] := by
  obtain ⟨t, hdeclares, hvisible⟩ : ∃ t,
      Declares windowsWrapperText unixConditions t (libraryStruct "Wrapper" ["T"])
        ∧ (t.visibleGenerics unixConditions).map Parameter.name = [] :=
    exists_declares (by decide +kernel)
  exact ⟨t, hdeclares, List.map_eq_nil_iff.mp hvisible, by decide⟩

end Fieldwise
