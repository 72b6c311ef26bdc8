import Fieldwise.Proofs.Bundle.FileNames

set_option autoImplicit false

/-! # Which bundles share a place

Every package on the way to a bundle is one directory, whose name is that of the package without the
mark of a raw name, and the name of the file is the last. So the location of a bundle leads nowhere
but down, and two bundles have the same one only if they are in the same package, up to marks of raw
names, and have the same file name (`Bundle.relativePaths_apart`).
-/

namespace Fieldwise

open Text Token

/-- Locations made of names have the same steps only if they are made of the same names. -/
theorem Location.components_ofNames_inj {names more : List String} (h : names ≠ [])
    (hnames : ∀ n ∈ names, IsName n) (hmore : more ≠ []) (hother : ∀ n ∈ more, IsName n) :
    (ofNames names).components = (ofNames more).components ↔ names = more := by
  rw [components_ofNames h hnames, components_ofNames hmore hother]
  exact List.map_inj_right fun _ _ hsame => Component.name.inj hsame

namespace Bundle

variable {b c : Bundle}

/-- The directories of a bundle and the name of its file are told apart by their places. -/
theorem names_eq_iff :
    b.names = c.names ↔ b.directories = c.directories ∧ b.fileName = c.fileName := by
  constructor
  · intro h
    obtain ⟨hdirectories, hfile⟩ := List.append_inj' h rfl
    exact ⟨hdirectories, List.singleton_inj.mp hfile⟩
  · rintro ⟨hdirectories, hfile⟩
    rw [names, names, hdirectories, hfile]

/-- Two bundles have locations with the same steps only if they have the same names. -/
theorem sameAs_relativePath_iff (hb : b.Named) (hc : c.Named) :
    b.relativePath.sameAs c.relativePath = true
      ↔ b.directories = c.directories ∧ b.fileName = c.fileName := by
  rw [Location.sameAs_iff, relativePath_eq hb, relativePath_eq hc, ← names_eq_iff]
  exact Location.components_ofNames_inj (by simp [names]) hb.isName_names (by simp [names])
    hc.isName_names

/-- **Bundles share a place only in the same package.** The name of a file is a text without slashes
and dots, and an ending. A location has one step for every package and one for the file; each is a
name, so that none is the root, empty, a dot, or the way back. Two locations are the same, be it as
texts or step by step, if the packages are the same up to marks of raw names, and the file names
are. -/
theorem relativePaths_apart :
    (∀ settings : Settings, '/' ∉ settings.fileName.toList
      ∧ ∃ stem, IsBare stem.toList ∧ settings.fileName = stem ++ ".rs")
    ∧ (∀ b : Bundle, b.Named → b.relativePath.isAbsolute = false
      ∧ b.relativePath.elements = b.package.segments.map dropRawMark ++ [b.fileName]
      ∧ b.relativePath.components = b.relativePath.elements.map .name
      ∧ ∀ name ∈ b.relativePath.elements, IsName name)
    ∧ ∀ b c : Bundle, b.Named → c.Named →
      (b.relativePath.sameAs c.relativePath = true
        ↔ b.package.segments.map dropRawMark = c.package.segments.map dropRawMark
          ∧ b.fileName = c.fileName)
      ∧ (b.relativePath = c.relativePath ↔ b.relativePath.sameAs c.relativePath = true) := by
  refine ⟨fun settings => ?_, fun b hb => ?_, fun b c hb hc => ?_⟩
  · exact ⟨settings.not_mem_fileName (by decide) (by decide), _, isBare_snakeCase _, rfl⟩
  · have helements : b.relativePath.elements = b.names := by
      rw [relativePath_eq hb]
      exact Location.elements_ofNames (by simp [names]) hb.isName_names
    rw [helements]
    refine ⟨?_, rfl, components_relativePath hb, hb.isName_names⟩
    rw [relativePath_eq hb]
    exact Location.isAbsolute_ofNames hb.isName_names
  · have hsame := sameAs_relativePath_iff hb hc
    refine ⟨hsame, fun heq => ?_, fun h => ?_⟩
    · rw [heq, Location.sameAs_iff]
    · rw [relativePath_eq hb, relativePath_eq hc, names_eq_iff.mpr (hsame.mp h)]

/-- A bundle of a type whose name has no words, in a package of raw and other names. -/
def wordlessBundle (package : List Token.Name) : Bundle where
  typeName := "__"
  package := ⟨package.map Token.Name.written⟩
  functions := []
  rendering := .display
  runtime := "static_string_util"
  fileName := Settings.fileName { typeName := "__" }

theorem wordlessBundle_named {package : List Token.Name} (h : ∀ n ∈ package, n.Lexical) :
    (wordlessBundle package).Named where
  package segment hsegment := by
    obtain ⟨n, hn, rfl⟩ := List.mem_map.mp hsegment
    exact ⟨n, h n hn, rfl⟩
  fileName := ⟨_, rfl⟩

/-- Such a bundle has a file name that is all ending. It shares its place with the one whose package
has the mark of a raw name elsewhere. -/
theorem rawPackages_share :
    (wordlessBundle [⟨true, "type"⟩, .plain "model"]).Named
      ∧ (wordlessBundle [⟨true, "type"⟩, ⟨true, "model"⟩]).Named
      ∧ (wordlessBundle [⟨true, "type"⟩, .plain "model"]).relativePath.elements
        = ["type", "model", ".rs"]
      ∧ (wordlessBundle [⟨true, "type"⟩, .plain "model"]).relativePath
        = (wordlessBundle [⟨true, "type"⟩, ⟨true, "model"⟩]).relativePath := by
  obtain ⟨-, hplace, hshare⟩ := relativePaths_apart
  have hb : (wordlessBundle [⟨true, "type"⟩, .plain "model"]).Named :=
    wordlessBundle_named (by decide +kernel)
  have hc : (wordlessBundle [⟨true, "type"⟩, ⟨true, "model"⟩]).Named :=
    wordlessBundle_named (by decide +kernel)
  obtain ⟨-, helements, -⟩ := hplace _ hb
  obtain ⟨hsame, htext⟩ := hshare _ _ hb hc
  exact ⟨hb, hc, helements, htext.mpr (hsame.mpr ⟨rfl, rfl⟩)⟩

end Bundle

end Fieldwise
