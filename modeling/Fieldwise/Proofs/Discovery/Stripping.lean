import Fieldwise.Proofs.Discovery.Walks

set_option autoImplicit false

/-! # Discovery sees the crate without what its conditions disable

A source file can be stripped under given conditions (`SourceFile.strip`): modules, types, fields
and variants that the conditions disable are removed at every depth, a file that is disabled as a
whole loses all it holds, and the attribute `cfg` is removed from what is left. In a stripped file
there is nothing to decide any more, so a walk through it does not depend on the conditions of the
walk.

`Crate.declarationsIn_strip` says that this is just what discovery sees: the walk through the
files of a crate and the walk through the stripped files, under any conditions at all, find the
same declarations with the same members or fail with the same error. Only the entries `cfg` among
the attributes differ, and what is said about disabled files.
-/

namespace Fieldwise

open Token Grammar

/-! ## Stripping -/

namespace Grammar

/-- Attributes without those that state a condition. -/
def dropConditions (attributes : List Attribute) : List Attribute :=
  attributes.filter fun a => !a.path.isWord "cfg"

/-- The fields or variants that are enabled, without their conditions. -/
def stripParts (s : Conditions) (parts : List NamedPart) : List NamedPart :=
  (parts.filter fun p => s.enables p.attributes).map fun p =>
    { p with attributes := dropConditions p.attributes }

/-- The fields that are enabled, without their conditions. -/
def Fields.strip (s : Conditions) : Fields → Fields
  | .named fields => .named (stripParts s fields)
  | .tuple fields => .tuple ((fields.filter s.enables).map dropConditions)
  | .unit => .unit

/-- A type without the fields and variants that are disabled. What a trait declares stays. -/
def TypeBody.strip (s : Conditions) : TypeBody → TypeBody
  | .struct fields => .struct (fields.strip s)
  | .enum variants => .enum (stripParts s variants)
  | .union fields => .union (stripParts s fields)
  | .trait members => .trait members

/-- A type that is enabled, without its condition and without what is disabled in it. -/
def TypeItem.strip (s : Conditions) (t : TypeItem) : TypeItem :=
  { t with attributes := dropConditions t.attributes, body := t.body.strip s }

mutual

/-- An item without what is disabled in it, or nothing if it is disabled itself. -/
def Item.strip? (s : Conditions) : Item → Option Item
  | .type t => if s.enables t.attributes then some (.type (t.strip s)) else none
  | .submodule attributes name none =>
    if s.enables attributes then some (.submodule (dropConditions attributes) name none) else none
  | .submodule attributes name (some items) =>
    if s.enables attributes then
      some (.submodule (dropConditions attributes) name (some (stripItems s items)))
    else none
  | .other => some .other

/-- The items that are enabled, without what is disabled in them. -/
def stripItems (s : Conditions) : List Item → List Item
  | [] => []
  | item :: rest => (item.strip? s).toList ++ stripItems s rest

end

/-- A source file without what is disabled in it; a file that is disabled is empty. -/
def SourceFile.strip (s : Conditions) (file : SourceFile) : SourceFile :=
  if s.enables file.attributes then ⟨dropConditions file.attributes, stripItems s file.items⟩
  else ⟨[], []⟩

end Grammar

/-- The files of a crate, each stripped. -/
def SourceRoot.strip (s : Conditions) (root : SourceRoot) : SourceRoot where
  isFile := root.isFile
  load l := (root.load l).map (SourceFile.strip s)

/-! ## Nothing is left to decide -/

theorem enables_dropConditions (s : Conditions) (attributes : List Attribute) :
    s.enables (dropConditions attributes) = true := by
  simp [Conditions.enables, dropConditions, List.filter_filter]

theorem isWord_eq_false_of_isWord {p : PlainPath} {word other : String}
    (h : p.isWord word = true) (hne : word ≠ other) : p.isWord other = false := by
  simp only [PlainPath.isWord, beq_iff_eq] at h
  simp [PlainPath.isWord, h, Name.plain, hne]

/-- Conditions do not matter to where the file of a module is. -/
theorem pathAttribute?_dropConditions (attributes : List Attribute) :
    pathAttribute? (dropConditions attributes) = pathAttribute? attributes := by
  have key : (dropConditions attributes).filter (fun a => a.path.isWord "path")
      = attributes.filter fun a => a.path.isWord "path" := by
    rw [dropConditions, List.filter_filter]
    refine List.filter_congr fun a _ => ?_
    cases h : a.path.isWord "path" with
    | false => rfl
    | true => simp [isWord_eq_false_of_isWord h (by decide : "path" ≠ "cfg")]
  rw [pathAttribute?, pathAttribute?, key]

theorem namedMembers_stripParts (s s' : Conditions) (kind : MemberKind)
    (parts : List NamedPart) :
    s'.namedMembers kind (stripParts s parts) = s.namedMembers kind parts := by
  have hall : (stripParts s parts).filter (fun p => s'.enables p.attributes)
      = stripParts s parts := by
    refine List.filter_eq_self.mpr fun p hp => ?_
    obtain ⟨q, _, rfl⟩ := List.mem_map.mp hp
    exact enables_dropConditions s' q.attributes
  rw [Conditions.namedMembers, hall, Conditions.namedMembers, stripParts, List.map_map]
  rfl

theorem tupleMembers_strip (s s' : Conditions) (fields : List (List Attribute)) :
    s'.tupleMembers ((fields.filter s.enables).map dropConditions) = s.tupleMembers fields := by
  have hall : ((fields.filter s.enables).map dropConditions).filter s'.enables
      = (fields.filter s.enables).map dropConditions := by
    refine List.filter_eq_self.mpr fun attributes h => ?_
    obtain ⟨original, _, rfl⟩ := List.mem_map.mp h
    exact enables_dropConditions s' original
  simp [Conditions.tupleMembers, hall]

/-- A stripped type has the members that the type has, under any conditions. -/
theorem members_strip (s s' : Conditions) (body : TypeBody) :
    s'.members (body.strip s) = s.members body := by
  cases body with
  | struct fields =>
      cases fields with
      | named fields => exact namedMembers_stripParts s s' .field fields
      | tuple fields => exact tupleMembers_strip s s' fields
      | unit => rfl
  | enum variants => exact namedMembers_stripParts s s' .variant variants
  | union fields => exact namedMembers_stripParts s s' .unionField fields
  | trait members => rfl

/-! ## The walk through stripped files -/

/-- A declaration without the entries `cfg` among its attributes. -/
def Declaration.withoutConditions (d : Declaration) : Declaration :=
  { d with attributes := d.attributes.filter (· != "cfg") }

/-- Whether an event is about something else than a disabled file. -/
def Event.otherThanDisabled : Event → Bool
  | .fileDisabled _ => false
  | _ => true

/-- A walk without what stripping changes. -/
def Walk.withoutConditions (a : Walk) : Walk :=
  a.seen Declaration.withoutConditions Event.otherThanDisabled

theorem attributeNames_dropConditions (attributes : List Attribute) :
    ((dropConditions attributes).filterMap Attribute.lastName).filter (· != "cfg")
      = (attributes.filterMap Attribute.lastName).filter (· != "cfg") := by
  induction attributes with
  | nil => rfl
  | cons a rest ih =>
      cases h : a.path.isWord "cfg" with
      | false =>
          have hdrop : dropConditions (a :: rest) = a :: dropConditions rest := by
            simp [dropConditions, h]
          rw [hdrop]
          cases hname : a.lastName with
          | none => simp only [List.filterMap_cons, hname, ih]
          | some name => simp only [List.filterMap_cons, hname, List.filter_cons, ih]
      | true =>
          have hdrop : dropConditions (a :: rest) = dropConditions rest := by
            simp [dropConditions, h]
          -- the name of a condition is `cfg`, which is left out on both sides
          have hname : a.lastName = some "cfg" := by
            obtain ⟨⟨leading, names⟩, body⟩ := a
            simp only [PlainPath.isWord, PlainPath.single?, beq_iff_eq] at h
            split at h
            · simp_all [Attribute.lastName, Name.plain]
            · simp at h
          rw [hdrop, ih]
          simp only [List.filterMap_cons, hname, List.filter_cons, bne_self_eq_false]
          rfl

/-- A stripped type is declared like the type, but for the entries `cfg`. -/
theorem declaration?_strip (s s' : Conditions) {t : TypeItem}
    (h : s.enables t.attributes = true) (package : Package) (file : Location) :
    ((t.strip s).declaration? s' package file).map Declaration.withoutConditions
      = (t.declaration? s package file).map Declaration.withoutConditions := by
  have h' : s'.enables (t.strip s).attributes = true := enables_dropConditions s' t.attributes
  have hkind : (t.strip s).body.kind = t.body.kind := by
    cases hb : t.body <;> simp [TypeItem.strip, TypeBody.strip, hb, TypeBody.kind]
  have hnames := attributeNames_dropConditions t.attributes
  have hmembers : s'.members (t.strip s).body = s.members t.body := members_strip s s' t.body
  simp only [TypeItem.declaration?, h, h', if_true, Option.map_some,
    Declaration.withoutConditions, hkind, hmembers]
  simp only [TypeItem.strip, hnames]

section Walks

variable {root : SourceRoot} {base : Location} {s s' : Conditions}
  {enter enter' : Location → Scope → Walk} {file : Location}

theorem walkType_strip {t : TypeItem} (h : s.enables t.attributes = true) (scope : Scope) :
    ((⟨root.strip s, base, s'⟩ : Walker).walkItem enter' file scope
        (.type (t.strip s))).withoutConditions
      = ((⟨root, base, s⟩ : Walker).walkItem enter file scope (.type t)).withoutConditions := by
  have hsame := declaration?_strip s s' h scope.package file
  rw [Walker.walkItem, Walker.walkItem]
  cases hd : t.declaration? s scope.package file with
  | none =>
      cases hd' : (t.strip s).declaration? s' scope.package file with
      | none => simp only
      | some d' => simp [hd, hd'] at hsame
  | some d =>
      cases hd' : (t.strip s).declaration? s' scope.package file with
      | none => simp [hd, hd'] at hsame
      | some d' =>
          simp only [hd, hd', Option.map_some, Option.some.injEq] at hsame
          simp [Walk.withoutConditions, Walk.seen, hsame]

theorem walkNamed_strip
    (henter : ∀ l scope, (enter' l scope).withoutConditions = (enter l scope).withoutConditions)
    (scope : Scope) (attributes : List Attribute) (name : Name) :
    ((⟨root.strip s, base, s'⟩ : Walker).walkNamed enter' file scope (dropConditions attributes)
        name).withoutConditions
      = ((⟨root, base, s⟩ : Walker).walkNamed enter file scope attributes
        name).withoutConditions := by
  have hlocate : (root.strip s).locate? scope name.text (pathAttribute? attributes)
      = root.locate? scope name.text (pathAttribute? attributes) := rfl
  simp only [Walker.walkNamed, Walker.walkOutside, pathAttribute?_dropConditions, hlocate]
  split
  · exact henter _ _
  · rfl

mutual

theorem walkItem_strip
    (henter : ∀ l scope, (enter' l scope).withoutConditions = (enter l scope).withoutConditions)
    (item : Item) (scope : Scope) :
    ((⟨root.strip s, base, s'⟩ : Walker).walkItems enter' file scope
        (item.strip? s).toList).withoutConditions
      = ((⟨root, base, s⟩ : Walker).walkItem enter file scope item).withoutConditions := by
  cases item with
  | type t =>
      cases h : s.enables t.attributes with
      | false =>
          rw [Walker.walkItem]
          simp [Item.strip?, h, TypeItem.declaration?, Walker.walkItems_nil]
      | true =>
          simp only [Item.strip?, h, if_true, Option.toList_some, Walker.walkItems_singleton]
          exact walkType_strip h scope
  | submodule attributes name content =>
      cases h : s.enables attributes with
      | false =>
          rw [Walker.walkItem_disabled _ _ _ _ _ _ h]
          cases content <;> simp [Item.strip?, h, Walker.walkItems_nil]
      | true =>
          have hdrop : s'.enables (dropConditions attributes) = true :=
            enables_dropConditions s' attributes
          cases content with
          | none =>
              simp only [Item.strip?, h, if_true, Option.toList_some, Walker.walkItems_singleton]
              rw [Walker.walkItem_named _ _ _ _ _ hdrop, Walker.walkItem_named _ _ _ _ _ h]
              exact walkNamed_strip henter scope attributes name
          | some items =>
              simp only [Item.strip?, h, if_true, Option.toList_some, Walker.walkItems_singleton]
              rw [Walker.walkItem_inline _ _ _ _ _ _ hdrop, Walker.walkItem_inline _ _ _ _ _ _ h,
                Walker.innerScope, pathAttribute?_dropConditions]
              exact walkItems_strip henter items _
  | other => simp [Item.strip?, Walker.walkItems_singleton, Walker.walkItem_other]

/-- The walks through items and through what stripping leaves of them are the same. -/
theorem walkItems_strip
    (henter : ∀ l scope, (enter' l scope).withoutConditions = (enter l scope).withoutConditions)
    (items : List Item) (scope : Scope) :
    ((⟨root.strip s, base, s'⟩ : Walker).walkItems enter' file scope
        (stripItems s items)).withoutConditions
      = ((⟨root, base, s⟩ : Walker).walkItems enter file scope items).withoutConditions := by
  cases items with
  | nil => simp only [stripItems, Walker.walkItems_nil]
  | cons item rest =>
      rw [stripItems, Walker.walkItems_append, Walker.walkItems_cons, Walk.withoutConditions,
        Walk.seen_andThen, Walk.withoutConditions, Walk.seen_andThen]
      have hitem := walkItem_strip henter item scope
      have hrest := walkItems_strip henter rest scope
      simp only [Walk.withoutConditions] at hitem hrest
      rw [hitem, hrest]

end

/-- **A walk through stripped files finds what the walk through the files finds.** -/
theorem walkFile_strip (depth : Nat) (location : Location) (scope : Scope) :
    ((⟨root.strip s, base, s'⟩ : Walker).walkFile depth location scope).withoutConditions
      = ((⟨root, base, s⟩ : Walker).walkFile depth location scope).withoutConditions := by
  induction depth generalizing location scope with
  | zero => rfl
  | succ depth ih =>
      rw [Walker.walkFile, Walker.walkFile, Walker.walkSource, Walker.walkSource]
      cases hload : root.load location with
      | error obstacle => simp [SourceRoot.strip, hload, Except.map]
      | ok source =>
          cases h : s.enables source.attributes with
          | false =>
              have hempty : s'.enables [] = true := rfl
              simp [SourceRoot.strip, hload, Except.map, SourceFile.strip, h, hempty,
                Walker.walkItems_nil]
              rfl
          | true =>
              have hdrop : s'.enables (dropConditions source.attributes) = true :=
                enables_dropConditions s' source.attributes
              simp only [SourceRoot.strip, hload, Except.map, SourceFile.strip, h, hdrop, if_true]
              exact walkItems_strip ih source.items scope

end Walks

/-- Findings without what stripping changes. -/
def Findings.withoutConditions (findings : Findings) : Findings :=
  findings.seen Declaration.withoutConditions Event.otherThanDisabled

/-- **Discovery sees exactly the stripped crate.** Whatever the conditions of the second walk, the
walk through the stripped files of a crate finds the same declarations in the same order, with the
same members and at the same lines, or ends with the same error; the entries `cfg` among the
attributes are left out of the comparison, and so is what is said about disabled files. -/
theorem Crate.declarationsIn_strip (c : Crate) (conditions : Conditions) (root : SourceRoot)
    (depth : Nat) :
    ({ c with conditions }.declarationsIn (root.strip c.conditions) depth).map
        Findings.withoutConditions
      = (c.declarationsIn root depth).map Findings.withoutConditions := by
  have hscanned : ∀ entry count,
      Event.otherThanDisabled (.crateScanned entry count) = true := fun _ _ => rfl
  have hwalk : ((⟨root.strip c.conditions, c.directory, conditions⟩ : Walker).walkFile depth
        ⟨c.entry⟩ rootScope).withoutConditions
      = ((c.walker root).walkFile depth ⟨c.entry⟩ rootScope).withoutConditions :=
    walkFile_strip depth ⟨c.entry⟩ rootScope
  calc ({ c with conditions }.declarationsIn (root.strip c.conditions) depth).map
        Findings.withoutConditions
      = { c with conditions }.conclude (((⟨root.strip c.conditions, c.directory, conditions⟩ :
          Walker).walkFile depth ⟨c.entry⟩ rootScope).withoutConditions) :=
        conclude_seen _ _ hscanned _
    _ = c.conclude (((c.walker root).walkFile depth ⟨c.entry⟩ rootScope).withoutConditions) := by
        rw [hwalk]
        rfl
    _ = (c.declarationsIn root depth).map Findings.withoutConditions :=
        (conclude_seen c _ hscanned _).symm

end Fieldwise
