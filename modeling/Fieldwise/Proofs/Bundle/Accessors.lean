import Fieldwise.Bundle.Basic
import Fieldwise.Discovery.Conversion
import Fieldwise.Proofs.Grammar.Names

set_option autoImplicit false

/-! # Every field is reached by its label

A declaration names the fields of a struct by labels: a named field by its name without `r#`, a
field of a tuple by its index among those that are enabled. Generated code gets from the label back
to the field by trying in turn a number, a name and a raw name (`Accessor.ofLabel`). The three do
not get into each other's way: a name is never a number (`wordNumber?_word`), a number is read as
itself (`wordNumber?_toString`), and a name is tried as a raw one just where it is a keyword
(`ofLabel_named`).

`TypeItem.accessors_denote` puts this together: for a type without generic parameters, in whatever
modules, a function can be made, and the label of every field leads back to that field.
-/

namespace Fieldwise

open Token Grammar

/-! ## Labels that are numbers and labels that are names -/

namespace Text

theorem digitsValue_toDigits (n : Nat) : digitsValue (Nat.toDigits 10 n) = n :=
  Nat.ofDigitChars_ten_toDigits

/-- A text without a plus before it is a number if all of it is digits. -/
theorem wordNumber?_eq {text : String} (h : text.toList.head? ≠ some '+') :
    wordNumber? text
      = if !text.toList.isEmpty && text.toList.all Char.isDigit
          && digitsValue text.toList < UInt64.size then
          some (digitsValue text.toList)
        else none := by
  unfold wordNumber?
  split
  · rename_i heq
    simp [heq] at h
  · rfl

/-- An index is read as itself. -/
theorem wordNumber?_toString {n : Nat} (h : n < UInt64.size) :
    wordNumber? (toString n) = some n := by
  have hlist : (toString n).toList = Nat.toDigits 10 n := by
    rw [Nat.toString_eq_ofList_toDigits, String.toList_ofList]
  have hdigits : ∀ c ∈ Nat.toDigits 10 n, c.isDigit = true :=
    fun c hc => Nat.isDigit_of_mem_toDigits (by decide) (by decide) hc
  have hplus : (Nat.toDigits 10 n).head? ≠ some '+' := by
    intro heq
    have hdigit := hdigits '+' (List.mem_of_mem_head? heq)
    cases hdigit
  rw [wordNumber?_eq (by rw [hlist]; exact hplus), hlist, digitsValue_toDigits]
  simp [Nat.toDigits_ne_nil, List.all_eq_true.mpr hdigits, h]

/-- A name is no number. -/
theorem wordNumber?_word {text : String} (h : IsWord text.toList) : wordNumber? text = none := by
  cases hlist : text.toList with
  | nil => simp [hlist, IsWord] at h
  | cons c rest =>
      simp only [hlist, IsWord] at h
      have hplus : c ≠ '+' := ne_of_isNameStart h.1 (by decide)
      have hdigit : c.isDigit = false := by
        have hrange := not_digit_of_isNameStart h.1
        simp only [Char.isDigit, Bool.and_eq_false_iff, decide_eq_false_iff_not, ge_iff_le,
          UInt32.le_iff_toNat_le]
        show ¬ 48 ≤ c.toNat ∨ ¬ c.toNat ≤ 57
        omega
      rw [wordNumber?_eq (by simpa [hlist] using hplus), hlist]
      simp [hdigit]

end Text

/-! ## From labels back to fields -/

/-- A name that is accepted as that of a type or of a field. -/
def Token.Name.Accepted (n : Name) : Prop := ∃ text, readIdentifier text = .ok n

instance (n : Name) : Decidable n.Accepted := decidable_of_iff _ (accepted_iff n).symm

/-- A name that is accepted as that of a module, which may also be the word `try`. -/
def Token.Name.AcceptedModule (n : Name) : Prop := n.Accepted ∨ n = .plain "try"

/-- A field of a value: it has a name, or an index among the fields that are enabled. -/
inductive FieldKey
  | named (name : Name)
  | indexed (index : Nat)

/-- How a field is called where it is shown: its name without `r#`, or its index. -/
def FieldKey.label : FieldKey → String
  | .named name => name.text
  | .indexed index => toString index

/-- Whether an accessor reaches a field. The mark of a raw name makes no difference. -/
def Accessor.Denotes : Accessor → FieldKey → Prop
  | .index i, .indexed j => i = j
  | .name n, .named m => n.text = m.text
  | _, _ => False

namespace Accessor

/-- The label of an enabled tuple field is its index, and leads back to it. -/
theorem ofLabel_indexed {i : Nat} (hi : i < indexLimit) :
    ∃ a, ofLabel (FieldKey.label (.indexed i)) = .ok (some a) ∧ a.Denotes (.indexed i) := by
  have hword : i < UInt64.size := Nat.lt_trans hi (by decide)
  refine ⟨.index i, ?_, rfl⟩
  unfold ofLabel
  rw [FieldKey.label, Text.wordNumber?_toString hword]
  exact if_pos hi

theorem ofLabel_name {label : String} {n : Name} (hnumber : Text.wordNumber? label = none)
    (hread : readIdentifier label = .ok n) : ofLabel label = .ok (some (.name n)) := by
  unfold ofLabel
  rw [hnumber]
  dsimp only
  rw [hread]

theorem ofLabel_rawName {label : String} {n : Name} {fault : Fault}
    (hnumber : Text.wordNumber? label = none) (hread : readIdentifier label = .error fault)
    (hraw : readIdentifier ("r#" ++ label) = .ok n) : ofLabel label = .ok (some (.name n)) := by
  unfold ofLabel
  rw [hnumber]
  dsimp only
  rw [hread]
  dsimp only
  rw [hraw]

/-- **The label of a named field leads back to it.** A name that is no keyword is read as it is; a
keyword was written with `r#` and is read with it again. -/
theorem ofLabel_named {n : Name} (hn : n.Accepted) :
    ∃ a, ofLabel (FieldKey.label (.named n)) = .ok (some a) ∧ a.Denotes (.named n) := by
  obtain ⟨hlexical, hident⟩ := (accepted_iff n).mp hn
  have hplain : (Name.plain n.text).Lexical := ⟨hlexical.word, fun h => by cases h⟩
  have hnumber := Text.wordNumber?_word hlexical.word
  have hsame : (Name.plain n.text).written = n.text := rfl
  have hread := readIdentifier_written hplain
  rw [hsame] at hread
  cases hkeyword : isIdentifier (.plain n.text) with
  | true =>
      rw [if_pos hkeyword] at hread
      exact ⟨.name (.plain n.text), ofLabel_name hnumber hread, rfl⟩
  | false =>
      -- a keyword is accepted as a raw name only
      have hraw : n.raw = true := by
        simp only [isIdentifier, Name.plain, Bool.false_or] at hkeyword hident
        rw [hkeyword, Bool.or_false] at hident
        exact hident
      have hwritten : "r#" ++ n.text = n.written := by simp [Name.written, hraw]
      have hreadRaw := readIdentifier_written hlexical
      rw [if_pos hident] at hreadRaw
      rw [if_neg (by simp [hkeyword])] at hread
      rw [← hwritten] at hreadRaw
      exact ⟨.name n, ofLabel_rawName hnumber hread hreadRaw, rfl⟩

theorem ofLabels_cons {label : String} {rest : List String} {a : Accessor}
    {accessors : List Accessor} (ha : ofLabel label = .ok (some a))
    (hrest : ofLabels rest = .ok (.ok accessors)) :
    ofLabels (label :: rest) = .ok (.ok (a :: accessors)) := by
  rw [ofLabels, ha]
  dsimp only
  rw [hrest]

theorem ofLabels_ok {labels : List String}
    (h : ∀ label ∈ labels, ∃ a, ofLabel label = .ok (some a)) :
    ∃ accessors, ofLabels labels = .ok (.ok accessors) := by
  induction labels with
  | nil => exact ⟨[], rfl⟩
  | cons label rest ih =>
      obtain ⟨a, ha⟩ := h label (by simp)
      obtain ⟨accessors, hrest⟩ := ih fun l hl => h l (by simp [hl])
      exact ⟨a :: accessors, ofLabels_cons ha hrest⟩

end Accessor

/-! ## The path of a type -/

theorem pathText_append (names more : List Name) :
    pathText (names ++ more) = pathText names ++ pathText more := by
  induction names with
  | nil => rfl
  | cons n rest ih => simp [pathText, ih]

theorem toList_intercalate_written (n : Name) (more : List Name) :
    ("::" ++ "::".intercalate ((n :: more).map Name.written)).toList = pathText (n :: more) := by
  induction more generalizing n with
  | nil => simp [pathText]
  | cons m rest ih =>
      rw [List.map_cons, List.map_cons, String.intercalate_cons_cons, pathText, ← ih m]
      simp

/-- The path by which generated code names a type, character by character. -/
theorem toList_typePathOf (modules : List Name) (name : Name) :
    (typePathOf (Package.qualify ⟨modules.map Name.written⟩ name.written)).toList
      = "crate".toList ++ pathText (modules ++ [name]) := by
  cases modules with
  | nil => simp [typePathOf, Package.qualify, Package.isUnnamed, pathText]
  | cons m rest =>
      have hpackage := toList_intercalate_written m rest
      rw [pathText_append, ← hpackage]
      simp [typePathOf, Package.qualify, Package.isUnnamed, Package.text, pathText]

theorem lexical_of_acceptedModule {n : Name} (h : n.AcceptedModule) :
    n.Lexical ∧ isPathName n = true := by
  rcases h with haccepted | rfl
  · obtain ⟨hlexical, hident⟩ := (accepted_iff n).mp haccepted
    exact ⟨hlexical, by simp [isPathName, hident]⟩
  · exact ⟨by decide +kernel, by decide⟩

/-- **The path of a type is read as the names of its modules and its own**, whatever they are. -/
theorem readPath_typePathOf {modules : List Name} (hmodules : ∀ m ∈ modules, m.AcceptedModule)
    {name : Name} (hname : name.Accepted) :
    readPath (typePathOf (Package.qualify ⟨modules.map Name.written⟩ name.written))
      = .ok ⟨false, ⟨.plain "crate", .none⟩ :: (modules ++ [name]).map fun n => ⟨n, .none⟩⟩ := by
  have hall : ∀ n ∈ modules ++ [name], n.Lexical ∧ isPathName n = true := by
    intro n hn
    rcases List.mem_append.mp hn with hmodule | hlast
    · exact lexical_of_acceptedModule (hmodules n hmodule)
    · rw [List.mem_singleton.mp hlast]
      exact lexical_of_acceptedModule (Or.inl hname)
  exact readPath_names (fun n hn => (hall n hn).1) (fun n hn => (hall n hn).2)
    (toList_typePathOf modules name)

/-! ## The fields of a type -/

/-- The fields of a struct that are enabled, in order. The variants of an enum and the fields of a
union are not shown, so they do not count. -/
def Conditions.fieldKeys (s : Conditions) : TypeBody → List FieldKey
  | .struct (.named fields) =>
    (fields.filter fun f => s.enables f.attributes).map fun f => .named f.name
  | .struct (.tuple fields) =>
    (List.range (fields.filter s.enables).length).map .indexed
  | _ => []

/-- Fields whose names are accepted, or so few that each has an index. -/
def Grammar.TypeBody.FieldsAccepted : TypeBody → Prop
  | .struct (.named fields) => ∀ f ∈ fields, f.name.Accepted
  | .struct (.tuple fields) => fields.length < indexLimit
  | _ => True

/-- Members of one kind are all fields or none of them is. -/
theorem fields_namedMembers (s : Conditions) (kind : MemberKind) (parts : List NamedPart) :
    ((s.namedMembers kind parts).filter fun m => m.kind = .field).map Member.name
      = if kind = .field then
          (parts.filter fun p => s.enables p.attributes).map fun p => p.name.text
        else [] := by
  by_cases hkind : kind = .field
  · simp [Conditions.namedMembers, List.filter_map, Function.comp_def, hkind]
  · simp [Conditions.namedMembers, List.filter_map, Function.comp_def, hkind]

theorem fields_tupleMembers (s : Conditions) (fields : List (List Attribute)) :
    ((s.tupleMembers fields).filter fun m => m.kind = .field).map Member.name
      = (List.range (fields.filter s.enables).length).map toString := by
  have hall : (s.tupleMembers fields).filter (fun m => m.kind = .field)
      = s.tupleMembers fields := by
    refine List.filter_eq_self.mpr fun m hm => ?_
    obtain ⟨i, -, rfl⟩ := List.mem_map.mp hm
    rfl
  rw [hall, Conditions.tupleMembers, List.map_map]
  rfl

theorem declaration?_spec {t : TypeItem} {s : Conditions} {package : Package} {file : Location}
    {d : Declaration} (hd : t.declaration? s package file = some d) :
    d.qualifiedName = package.qualify t.name.written
      ∧ d.generics = t.generics.map Parameter.name ∧ d.members = s.members t.body := by
  unfold TypeItem.declaration? at hd
  split at hd
  · cases hd
    exact ⟨rfl, rfl, rfl⟩
  · cases hd

/-- The labels of a declared type are those of its enabled fields, in order. -/
theorem fields_declaration? {t : TypeItem} {s : Conditions} {package : Package} {file : Location}
    {d : Declaration} (hkind : t.body.kind ≠ .trait)
    (hd : t.declaration? s package file = some d) :
    d.fields = (s.fieldKeys t.body).map FieldKey.label := by
  obtain ⟨-, -, hmembers⟩ := declaration?_spec hd
  rw [Declaration.fields, hmembers]
  cases hbody : t.body with
  | struct fields =>
      cases fields with
      | named parts =>
          rw [Conditions.members, fields_namedMembers, if_pos rfl, Conditions.fieldKeys,
            List.map_map]
          rfl
      | tuple fields =>
          rw [Conditions.members, fields_tupleMembers, Conditions.fieldKeys, List.map_map]
          rfl
      | unit => rfl
  | enum variants =>
      rw [Conditions.members, fields_namedMembers, if_neg (by decide)]
      rfl
  | union fields =>
      rw [Conditions.members, fields_namedMembers, if_neg (by decide)]
      rfl
  | trait members => exact absurd (by rw [hbody]; rfl) hkind

/-- The label of every enabled field leads back to it. -/
theorem ofLabel_fieldKeys {body : TypeBody} (h : body.FieldsAccepted) (s : Conditions) :
    ∀ key ∈ s.fieldKeys body, ∃ a, Accessor.ofLabel key.label = .ok (some a) ∧ a.Denotes key := by
  intro key hkey
  cases body with
  | struct fields =>
      cases fields with
      | named parts =>
          obtain ⟨part, hpart, rfl⟩ := List.mem_map.mp hkey
          exact Accessor.ofLabel_named (h part (List.mem_filter.mp hpart).1)
      | tuple fields =>
          obtain ⟨i, hi, rfl⟩ := List.mem_map.mp hkey
          -- indices count the enabled fields, of which there are no more than fields
          have hcount : (fields.filter s.enables).length ≤ fields.length :=
            List.length_filter_le _ _
          have hlimit : fields.length < indexLimit := h
          have hindex : i < (fields.filter s.enables).length := List.mem_range.mp hi
          exact Accessor.ofLabel_indexed (by omega)
      | unit => cases hkey
  | enum variants => cases hkey
  | union fields => cases hkey
  | trait members => cases hkey

/-- A function is made for a type whose path can be read and whose labels all lead to fields. -/
theorem Marked.function_ok {m : Marked}
    (hpath : (readPath (typePathOf m.qualifiedName)).isOk = true)
    (hlabels : ∀ label ∈ m.fields, ∃ a, Accessor.ofLabel label = .ok (some a)) :
    ∃ f, m.function = .ok (.ok f) ∧ f.fields = m.fields := by
  obtain ⟨accessors, haccessors⟩ := Accessor.ofLabels_ok hlabels
  refine ⟨⟨m.qualifiedName, typePathOf m.qualifiedName, m.simpleName, m.fields⟩, ?_, rfl⟩
  unfold Marked.function
  dsimp only
  rw [hpath, haccessors]
  rfl

/-- **Names survive the way from a type to its accessors.** Take a struct, enum or union without
generic parameters, in a package of accepted module names, with an accepted name and accepted
fields. Under any conditions that enable it, it can be described and a function can be made for
it; the labels of that function are those of the enabled fields of the struct, in order, and every
label leads back to the field that it stands for. -/
theorem Grammar.TypeItem.accessors_denote {t : TypeItem} {s : Conditions} {modules : List Name}
    {file : Location} {d : Declaration} (hgenerics : t.generics = [])
    (hkind : t.body.kind ≠ .trait) (hname : t.name.Accepted)
    (hmodules : ∀ m ∈ modules, m.AcceptedModule) (hfields : t.body.FieldsAccepted)
    (hd : t.declaration? s ⟨modules.map Name.written⟩ file = some d) :
    ∃ m f, d.describe = .ok m ∧ m.function = .ok (.ok f)
      ∧ m.fields = (s.fieldKeys t.body).map FieldKey.label ∧ f.fields = m.fields
      ∧ ∀ key ∈ s.fieldKeys t.body,
          ∃ a, Accessor.ofLabel key.label = .ok (some a) ∧ a.Denotes key := by
  obtain ⟨hqualified, hparameters, -⟩ := declaration?_spec hd
  have hlabels := fields_declaration? hkind hd
  have haccessors := ofLabel_fieldKeys hfields s
  have hdescribe : d.describe
      = .ok ⟨d.qualifiedName, dropRawMark d.simpleName, d.package, d.fields, d.anchor⟩ := by
    simp [Declaration.describe, hparameters, hgenerics]
  have hpath : (readPath (typePathOf d.qualifiedName)).isOk = true := by
    rw [hqualified, readPath_typePathOf hmodules hname]
    rfl
  have hall : ∀ label ∈ d.fields, ∃ a, Accessor.ofLabel label = .ok (some a) := by
    intro label hlabel
    rw [hlabels] at hlabel
    obtain ⟨key, hkey, rfl⟩ := List.mem_map.mp hlabel
    obtain ⟨a, ha, -⟩ := haccessors key hkey
    exact ⟨a, ha⟩
  obtain ⟨f, hfunction, hf⟩ := Marked.function_ok
    (m := ⟨d.qualifiedName, dropRawMark d.simpleName, d.package, d.fields, d.anchor⟩) hpath hall
  exact ⟨_, f, hdescribe, hfunction, hlabels, hf, haccessors⟩

/-- A struct whose name and fields are keywords: `struct r#struct { r#type: .., union: .. }`. -/
def keywordStruct : TypeItem where
  attributes := []
  visibility := .unrestricted
  name := ⟨true, "struct"⟩
  place := .start
  generics := []
  body := .struct (.named [⟨[], ⟨true, "type"⟩⟩, ⟨[], .plain "union"⟩])

/-- In the module `r#mod::try` the labels of that struct are `type` and `union`, and both lead back
to their fields. -/
theorem keywordStruct_accessors :
    ∃ d m f, keywordStruct.declaration? {} ⟨["r#mod", "try"]⟩ ⟨"src/lib.rs"⟩ = some d
      ∧ d.describe = .ok m ∧ m.function = .ok (.ok f) ∧ m.fields = ["type", "union"]
      ∧ ∀ key ∈ [FieldKey.named ⟨true, "type"⟩, .named (.plain "union")],
          ∃ a, Accessor.ofLabel key.label = .ok (some a) ∧ a.Denotes key := by
  have hfields : keywordStruct.body.FieldsAccepted := by
    show ∀ f ∈ [NamedPart.mk [] ⟨true, "type"⟩, ⟨[], .plain "union"⟩], f.name.Accepted
    decide +kernel
  have hmodules : ∀ m ∈ [Name.mk true "mod", .plain "try"], m.AcceptedModule := by
    simp only [List.forall_mem_cons]
    exact ⟨Or.inl (by decide +kernel), Or.inr rfl, fun m hm => by cases hm⟩
  have hd : keywordStruct.declaration? {} ⟨[Name.mk true "mod", .plain "try"].map Name.written⟩
      ⟨"src/lib.rs"⟩ = some _ := rfl
  obtain ⟨m, f, hm, hf, hlabels, -, hdenote⟩ := TypeItem.accessors_denote rfl (by decide)
    (by decide +kernel) hmodules hfields hd
  exact ⟨_, m, f, hd, hm, hf, hlabels, hdenote⟩

/-- A union with a field: `union Bits { word: .. }`. -/
def bitsUnion : TypeItem where
  attributes := []
  visibility := .unrestricted
  name := .plain "Bits"
  place := .start
  generics := []
  body := .union [⟨[], .plain "word"⟩]

/-- The field of a union is enabled and has an accepted name, but no label. -/
theorem bitsUnion_unlabelled :
    bitsUnion.generics = [] ∧ bitsUnion.name.Accepted ∧ (Name.plain "word").Accepted
      ∧ ∃ d m, bitsUnion.declaration? {} ⟨["model"]⟩ ⟨"src/model.rs"⟩ = some d
        ∧ d.members = [⟨"word", .unionField⟩] ∧ d.describe = .ok m ∧ m.fields ≠ ["word"]
        ∧ m.fields = [] := by
  refine ⟨rfl, by decide +kernel, by decide +kernel, ?_⟩
  exact ⟨_, _, rfl, by decide, rfl, by decide, by decide⟩

end Fieldwise
