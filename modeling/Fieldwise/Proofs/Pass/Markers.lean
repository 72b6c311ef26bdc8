import Fieldwise.Discovery.Crate
import Fieldwise.Proofs.Grammar.Names
import Fieldwise.Proofs.Pass.Accounting

set_option autoImplicit false

/-! # When a marker matches

The settings are checked by reading the marker as an identifier, so `r#type`, or a name with blanks
or a comment beside it, is as good as the name itself. Declarations list the names of their
attributes without `r#`, and candidates are those that list the marker as it is written in the
settings. The two agree where the marker is written as the name that is read from it, and nowhere
else: `Settings.marker_matches_iff` says that then every type that carries the attribute is a
candidate, and that otherwise no type is, whatever it carries. `rawMarker_unmatched` is a crate in
which a type is missed.
-/

namespace Fieldwise

open Token Grammar

namespace Grammar.TypeItem

/-- An attribute of a name stands on a type: its path ends with the name, `r#` apart. -/
def Carries (t : TypeItem) (n : Name) : Prop := ∃ a ∈ t.attributes, a.lastName = some n.text

/-- The attributes of a type are named as source text can name them. -/
def AttributesLexical (t : TypeItem) : Prop := ∀ a ∈ t.attributes, ∀ n ∈ a.path.names, n.Lexical

end Grammar.TypeItem

/-! ## Reading a marker -/

/-- A word that is read as an identifier is the name that is read. -/
theorem eq_plain_of_readIdentifier {word : String} (hword : IsWord word.toList) {n : Name}
    (h : readIdentifier word = .ok n) : n = .plain word := by
  have hlexical : (Name.plain word).Lexical := ⟨hword, fun hraw => by cases hraw⟩
  have hwritten : (Name.plain word).written = word := rfl
  have hread := readIdentifier_written hlexical
  rw [hwritten, h] at hread
  split at hread
  · exact Except.ok.inj hread
  · cases hread

/-- A marker is the name that is read from it just if it is a word. -/
theorem eq_text_iff_isWord {marker : String} {n : Name} (h : readIdentifier marker = .ok n) :
    marker = n.text ↔ IsWord marker.toList := by
  constructor
  · intro heq
    rw [heq]
    exact ((accepted_iff n).mp ⟨marker, h⟩).1.word
  · intro hword
    rw [eq_plain_of_readIdentifier hword h]
    rfl

theorem readIdentifier_of_check {settings : Settings} (h : settings.check = .ok ()) :
    ∃ n, readIdentifier settings.marker = .ok n := by
  unfold Settings.check at h
  split at h
  · cases h
  · rename_i hread
    cases hname : readIdentifier settings.marker with
    | ok n => exact ⟨n, rfl⟩
    | error fault => simp [hname, Except.isOk, Except.toBool] at hread

/-- Settings of which a computation says that they pass the check do so. -/
theorem check_eq_ok {settings : Settings} (h : settings.check.toOption.map id = some ()) :
    settings.check = .ok () := by
  obtain ⟨⟨⟩, hcheck, -⟩ := exists_ok_of_view h
  exact hcheck

/-! ## Candidates -/

section Selection

variable {t : TypeItem} {s : Conditions} {package : Package} {file : Location} {d : Declaration}

/-- A declaration lists the last name of every attribute of its type. -/
theorem hasAttribute_declaration? (hd : t.declaration? s package file = some d) (name : String) :
    d.hasAttribute name = true ↔ ∃ a ∈ t.attributes, a.lastName = some name := by
  unfold TypeItem.declaration? at hd
  split at hd
  · cases hd
    simp [Declaration.hasAttribute]
  · cases hd

/-- The names that a declaration lists are words. -/
theorem isWord_of_hasAttribute (hd : t.declaration? s package file = some d)
    (hlexical : t.AttributesLexical) {name : String} (h : d.hasAttribute name = true) :
    IsWord name.toList := by
  obtain ⟨a, ha, hlast⟩ := (hasAttribute_declaration? hd name).mp h
  obtain ⟨n, hn, rfl⟩ := Option.map_eq_some_iff.mp hlast
  exact (hlexical a ha n (List.mem_of_getLast? hn)).word

theorem mem_candidates {marker : String} {ds : List Declaration} (hmem : d ∈ ds) :
    d ∈ candidates marker ds ↔ d.hasAttribute marker = true := by
  simp [candidates, hmem]

end Selection

/-- A struct with one attribute. -/
def attributedStruct (n : Name) : TypeItem where
  attributes := [⟨⟨false, [n]⟩, .word⟩]
  visibility := .unrestricted
  name := .plain "User"
  place := .start
  generics := []
  body := .struct .unit

theorem attributedStruct_declared (n : Name) :
    ∃ d, (attributedStruct n).declaration? {} .root .empty = some d := by
  have henabled : Conditions.enables {} (attributedStruct n).attributes = true := by
    refine List.all_eq_true.mpr fun a ha => ?_
    -- even an attribute of the name `cfg` has no condition in it
    rw [List.mem_singleton.mp (List.mem_filter.mp ha).1]
    rfl
  rw [TypeItem.declaration?, if_pos henabled]
  exact ⟨_, rfl⟩

/-- **A marker matches just if it is written as its name.** Settings that pass the check have a
marker that is read as a name. Every type with an attribute of that name is declared as a candidate
if and only if the marker is the name without `r#` and nothing else, that is, if it is a word.
Otherwise no type whose attributes source text can hold is a candidate. -/
theorem Settings.marker_matches_iff {settings : Settings} (hcheck : settings.check = .ok ()) :
    ∃ n, readIdentifier settings.marker = .ok n
      ∧ ((∀ (t : TypeItem) (s : Conditions) (package : Package) (file : Location) (d : Declaration),
          t.declaration? s package file = some d → t.Carries n →
            ∀ ds, d ∈ ds → d ∈ candidates settings.marker ds)
          ↔ settings.marker = n.text)
      ∧ (settings.marker = n.text ↔ IsWord settings.marker.toList)
      ∧ (settings.marker ≠ n.text →
          ∀ (t : TypeItem) (s : Conditions) (package : Package) (file : Location) (d : Declaration),
            t.declaration? s package file = some d → t.AttributesLexical →
              ∀ ds, d ∉ candidates settings.marker ds) := by
  obtain ⟨n, hread⟩ := readIdentifier_of_check hcheck
  have hlexical : n.Lexical := ((accepted_iff n).mp ⟨_, hread⟩).1
  have hunmatched : settings.marker ≠ n.text →
      ∀ (t : TypeItem) (s : Conditions) (package : Package) (file : Location) (d : Declaration),
        t.declaration? s package file = some d → t.AttributesLexical →
          ∀ ds, d ∉ candidates settings.marker ds := by
    intro hne t s package file d hd hattributes ds hcandidate
    obtain ⟨hmem, hmarked⟩ := List.mem_filter.mp hcandidate
    exact hne ((eq_text_iff_isWord hread).mpr (isWord_of_hasAttribute hd hattributes hmarked))
  refine ⟨n, hread, ⟨fun hall => ?_, fun heq => ?_⟩, eq_text_iff_isWord hread, hunmatched⟩
  · by_cases heq : settings.marker = n.text
    · exact heq
    · -- the struct that carries this attribute is missed
      obtain ⟨d, hd⟩ := attributedStruct_declared n
      have hcarries : (attributedStruct n).Carries n := ⟨_, List.mem_singleton.mpr rfl, rfl⟩
      have hattributes : (attributedStruct n).AttributesLexical := by
        intro a ha m hm
        rw [List.mem_singleton.mp ha] at hm
        rw [List.mem_singleton.mp hm]
        exact hlexical
      exact absurd (hall _ _ _ _ d hd hcarries [d] (List.mem_singleton.mpr rfl))
        (hunmatched heq _ _ _ _ d hd hattributes [d])
  · intro t s package file d hd hcarries ds hmem
    rw [mem_candidates hmem, hasAttribute_declaration? hd, heq]
    exact hcarries

/-- The marker that is set by default is a word, so it matches. -/
theorem defaultMarker_matches :
    Settings.check {} = .ok () ∧ ∃ n, readIdentifier "static_string_util" = .ok n
      ∧ "static_string_util" = n.text
      ∧ ∀ (t : TypeItem) (s : Conditions) (package : Package) (file : Location) (d : Declaration),
          t.declaration? s package file = some d → t.Carries n →
            ∀ ds, d ∈ ds → d ∈ candidates "static_string_util" ds := by
  have hcheck : Settings.check {} = .ok () := check_eq_ok (by decide +kernel)
  obtain ⟨n, hread, hmatches, hword, -⟩ := Settings.marker_matches_iff hcheck
  have heq : "static_string_util" = n.text := hword.mpr (by decide +kernel)
  exact ⟨hcheck, n, hread, heq, hmatches.mpr heq⟩

/-! ## A marker that is missed -/

/-- Settings with a raw name as the marker. -/
def rawMarkerSettings : Settings := { marker := "r#type" }

/-- The text of a file with a struct that carries that marker. -/
def rawMarkerText : String := "#[r#type]\npub struct User { pub name: String }"

/-- The crate of that file. -/
def rawMarkerTree : FileTree where
  entries := [(["lib.rs"], .file rawMarkerText.toUTF8)]

/-- What the file declares. -/
def rawMarkerUser : Declaration where
  qualifiedName := "User"
  simpleName := "User"
  package := .root
  visibility := .unrestricted
  kind := .struct
  attributes := ["type"]
  generics := []
  members := [⟨"name", .field⟩]
  anchor := some ⟨"./lib.rs", 2⟩

/-- The type that is all there is among some items. -/
def onlyType? : List Item → Option TypeItem
  | [.type t] => some t
  | _ => none

theorem eq_of_onlyType? {items : List Item} {t : TypeItem} (h : onlyType? items = some t) :
    items = [.type t] := by
  unfold onlyType? at h
  split at h
  · cases h
    rfl
  · cases h

/-- **A marker that passes the check and does not match.** The settings can be used, their marker is
read as the name `r#type`, the crate declares the struct that carries it, and the struct is no
candidate. -/
theorem rawMarker_unmatched :
    rawMarkerSettings.check = .ok ()
      ∧ readIdentifier rawMarkerSettings.marker = .ok ⟨true, "type"⟩
      ∧ (∃ source t, readFile rawMarkerText = .ok source ∧ source.items = [.type t]
        ∧ t.Carries ⟨true, "type"⟩ ∧ t.declaration? {} .root ⟨"./lib.rs"⟩ = some rawMarkerUser)
      ∧ (∃ findings, Crate.declarations ⟨⟨"."⟩, "lib.rs", {}⟩ rawMarkerTree = .ok findings
        ∧ findings.result = .ok [rawMarkerUser])
      ∧ rawMarkerUser ∉ candidates rawMarkerSettings.marker [rawMarkerUser] := by
  refine ⟨check_eq_ok (by decide +kernel), ?_, ?_, ?_, by decide⟩
  · obtain ⟨n, hread, rfl⟩ : ∃ n, readIdentifier rawMarkerSettings.marker = .ok n
        ∧ n = ⟨true, "type"⟩ := exists_ok_of_view (by decide +kernel)
    exact hread
  · obtain ⟨source, hsource, hview⟩ : ∃ source, readFile rawMarkerText = .ok source
        ∧ (onlyType? source.items).map (fun t =>
            (t.attributes.map Attribute.lastName, t.declaration? {} .root ⟨"./lib.rs"⟩))
          = some ([some "type"], some rawMarkerUser) := exists_ok_of_view (by decide +kernel)
    obtain ⟨t, hitems, ht⟩ := Option.map_eq_some_iff.mp hview
    obtain ⟨hnames, hdeclared⟩ := Prod.mk.inj ht
    have hmem : some "type" ∈ t.attributes.map Attribute.lastName := by
      rw [hnames]
      exact List.mem_singleton.mpr rfl
    obtain ⟨a, ha, hlast⟩ := List.mem_map.mp hmem
    exact ⟨source, t, hsource, eq_of_onlyType? hitems, ⟨a, ha, hlast⟩, hdeclared⟩
  · obtain ⟨findings, hfindings, hview⟩ : ∃ findings,
        Crate.declarations ⟨⟨"."⟩, "lib.rs", {}⟩ rawMarkerTree = .ok findings
          ∧ findings.result.toOption.map id = some [rawMarkerUser] :=
      exists_ok_of_view (by decide +kernel)
    obtain ⟨found, hfound, hsame⟩ := exists_ok_of_view hview
    cases hsame
    exact ⟨findings, hfindings, hfound⟩

end Fieldwise
