import Fieldwise.Proofs.Bundle.Accessors
import Fieldwise.Proofs.Discovery.Bodies
import Fieldwise.Proofs.Pass.Accounting

set_option autoImplicit false

/-! # No two declarations share a name

If within each module the types that are part of the crate have different names, and so have the
modules, then no two declarations of the crate have the same qualified name, and no two functions of
a bundle that is generated from them are for the same path (`Crate.qualifiedNames_nodup`). Neither
the attribute `path` nor a file that makes up several modules matters.

The argument goes by the *path* of a declaration, the names of the modules around it and its own.
Walking a body, a type adds one name to the path of the body, and a module adds a name of its own
and at least one more (`Walker.Body.Names`): what comes of different items is different. The
qualified name is the path with `::` between the names, and since that text is read back as these
names, different paths give different texts (`eq_of_qualify_eq`).
-/

namespace Fieldwise

open Token Grammar Relation

/-! ## The names in a module -/

/-- The names of the types among items that are part of the crate, as they are written. -/
def Conditions.typeNames (s : Conditions) (items : List Item) : List String :=
  items.filterMap fun
    | .type t => if s.enables t.attributes then some t.name.written else none
    | _ => none

/-- The names of the modules among items that are part of the crate, as they are written. -/
def Conditions.moduleNames (s : Conditions) (items : List Item) : List String :=
  items.filterMap fun
    | .submodule attributes name _ => if s.enables attributes then some name.written else none
    | _ => none

/-- The names of the modules around a declaration, outermost first, and its own. -/
def Declaration.path (d : Declaration) : List String := d.package.segments ++ [d.simpleName]

namespace Walker

/-- A module in which no two types and no two modules have the same name. -/
structure Body.Distinct (w : Walker) (b : Body) : Prop where
  types : (w.conditions.typeNames b.items).Nodup
  modules : (w.conditions.moduleNames b.items).Nodup

/-- A path that a type in a body has, or one in a module of the body: the path of the body, and the
name of the type, or that of the module and more. -/
inductive Body.Names (w : Walker) (b : Body) : List String → Prop
  | type {name : String} (mem : name ∈ w.conditions.typeNames b.items) :
      Names w b (b.scope.package.segments ++ [name])
  | submodule {name : String} (mem : name ∈ w.conditions.moduleNames b.items) (next : String)
      (rest : List String) : Names w b (b.scope.package.segments ++ name :: next :: rest)

variable {w : Walker} {location : Location} {scope : Scope}

theorem Body.Names.cons {items : List Item} {path : List String}
    (h : Body.Names w ⟨location, scope, items⟩ path) (item : Item) :
    Body.Names w ⟨location, scope, item :: items⟩ path := by
  have hcons : items.Sublist (item :: items) := List.sublist_cons_self item items
  cases h with
  | type mem => exact .type ((hcons.filterMap _).subset mem)
  | submodule mem next rest => exact .submodule ((hcons.filterMap _).subset mem) next rest

theorem Body.Distinct.tail {item : Item} {items : List Item}
    (h : Body.Distinct w ⟨location, scope, item :: items⟩) :
    Body.Distinct w ⟨location, scope, items⟩ := by
  have hcons : items.Sublist (item :: items) := List.sublist_cons_self item items
  exact ⟨h.types.sublist (hcons.filterMap _), h.modules.sublist (hcons.filterMap _)⟩

/-- A path in a module of a body begins with the path of the body and the name of the module, and
goes on. -/
theorem Body.Names.of_child {b : Body} {p : Package} {name : String} {path : List String}
    (h : b.Names w path) (hpackage : b.scope.package = p.child name) :
    ∃ next rest, path = p.segments ++ name :: next :: rest := by
  cases h with
  | @type last mem => exact ⟨last, [], by simp [hpackage, Package.child]⟩
  | @submodule inner mem next rest =>
      exact ⟨inner, next :: rest, by simp [hpackage, Package.child]⟩

/-! ## Walks -/

theorem path_of_declaration? {t : TypeItem} {s : Conditions} {p : Package} {file : Location}
    {d : Declaration} (h : t.declaration? s p file = some d) :
    s.enables t.attributes = true ∧ d.package = p ∧ d.simpleName = t.name.written
      ∧ d.qualifiedName = p.qualify t.name.written := by
  unfold TypeItem.declaration? at h
  split at h
  · rename_i he
    cases h
    exact ⟨he, rfl, rfl, rfl⟩
  · cases h

/-- Declarations with different paths, each a path of the body. -/
structure Body.Separates (w : Walker) (b : Body) (ds : List Declaration) : Prop where
  nodup : (ds.map Declaration.path).Nodup
  names : ∀ d ∈ ds, b.Names w d.path

theorem Body.Separates.cons {items : List Item} {ds : List Declaration}
    (h : Body.Separates w ⟨location, scope, items⟩ ds) (item : Item) :
    Body.Separates w ⟨location, scope, item :: items⟩ ds :=
  ⟨h.nodup, fun d hd => (h.names d hd).cons item⟩

/-- A type is different from all that is found after it. -/
theorem separates_type {t : TypeItem} {rest : List Item} {d : Declaration}
    {ds : List Declaration}
    (declared : t.declaration? w.conditions scope.package (w.base.join location) = some d)
    (hself : Body.Distinct w ⟨location, scope, .type t :: rest⟩)
    (hlater : Body.Separates w ⟨location, scope, rest⟩ ds) :
    Body.Separates w ⟨location, scope, .type t :: rest⟩ (d :: ds) := by
  obtain ⟨enabled, hpackage, hname, -⟩ := path_of_declaration? declared
  have hpath : d.path = scope.package.segments ++ [t.name.written] := by
    rw [Declaration.path, hpackage, hname]
  have htypes : w.conditions.typeNames (.type t :: rest)
      = t.name.written :: w.conditions.typeNames rest := by
    simp [Conditions.typeNames, enabled]
  have hfresh : t.name.written ∉ w.conditions.typeNames rest :=
    (List.nodup_cons.mp (htypes ▸ hself.types)).1
  refine ⟨List.nodup_cons.mpr ⟨fun hmem => ?_, hlater.nodup⟩,
    List.forall_mem_cons.mpr ⟨hpath ▸ .type (htypes ▸ List.mem_cons_self),
      (hlater.cons _).names⟩⟩
  obtain ⟨d', hd', heq⟩ := List.mem_map.mp hmem
  have hnames := hlater.names d' hd'
  rw [heq, hpath] at hnames
  generalize hother : scope.package.segments ++ [t.name.written] = other at hnames
  cases hnames with
  | type mem =>
      obtain ⟨rfl, -⟩ := List.cons.inj (List.append_cancel_left hother)
      exact hfresh mem
  | submodule mem next more =>
      have hlength := congrArg List.length hother
      simp at hlength

/-- What is found in a module is different from what is found after it. -/
theorem separates_submodule {attributes : List Attribute} {name : Name}
    {content : Option (List Item)} {rest : List Item} {b : Body} {ds ds' : List Declaration}
    (enabled : w.conditions.enables attributes = true)
    (hself : Body.Distinct w ⟨location, scope, .submodule attributes name content :: rest⟩)
    (hpackage : b.scope.package = scope.package.child name.written)
    (hinner : b.Separates w ds) (hlater : Body.Separates w ⟨location, scope, rest⟩ ds') :
    Body.Separates w ⟨location, scope, .submodule attributes name content :: rest⟩
      (ds ++ ds') := by
  have hmodules : w.conditions.moduleNames (.submodule attributes name content :: rest)
      = name.written :: w.conditions.moduleNames rest := by
    simp [Conditions.moduleNames, enabled]
  have hfresh : name.written ∉ w.conditions.moduleNames rest :=
    (List.nodup_cons.mp (hmodules ▸ hself.modules)).1
  refine ⟨?_, List.forall_mem_append.mpr ⟨fun d hd => ?_, (hlater.cons _).names⟩⟩
  · rw [List.map_append]
    refine List.nodup_append.mpr ⟨hinner.nodup, hlater.nodup, fun x hx y hy heq => ?_⟩
    obtain ⟨d, hd, rfl⟩ := List.mem_map.mp hx
    obtain ⟨d', hd', rfl⟩ := List.mem_map.mp hy
    obtain ⟨next, more, hpath⟩ := (hinner.names d hd).of_child hpackage
    have hnames := hlater.names d' hd'
    rw [← heq, hpath] at hnames
    generalize hother : scope.package.segments ++ name.written :: next :: more = other at hnames
    cases hnames with
    | type mem =>
        have hlength := congrArg List.length hother
        simp at hlength
    | submodule mem _ _ =>
        obtain ⟨rfl, -⟩ := List.cons.inj (List.append_cancel_left hother)
        exact hfresh mem
  · obtain ⟨next, more, hpath⟩ := (hinner.names d hd).of_child hpackage
    rw [hpath]
    exact .submodule (hmodules ▸ List.mem_cons_self) next more

/-- The names in all modules that a body leads to are different. -/
def Body.DistinctBeyond (w : Walker) (a : Body) : Prop := ∀ b, TransGen w.Leads a b → b.Distinct w

theorem Body.DistinctBeyond.tail {item : Item} {items : List Item}
    (h : Body.DistinctBeyond w ⟨location, scope, item :: items⟩) :
    Body.DistinctBeyond w ⟨location, scope, items⟩ := by
  intro b hb
  obtain ⟨c, hstep, hmore⟩ := TransGen.head'_iff.mp hb
  exact h b (TransGen.head' (hstep.cons item) hmore)

theorem Body.DistinctBeyond.of_leads {a b : Body} (h : a.DistinctBeyond w) (hleads : w.Leads a b) :
    b.Distinct w ∧ b.DistinctBeyond w :=
  ⟨h b (.single hleads), fun c hc => h c (.head hleads hc)⟩

/-- **A walk finds different paths**, where the names in every module are different. -/
theorem Walked.separates {a : Body} {ds : List Declaration} (h : w.Walked a ds)
    (hself : a.Distinct w) (hbeyond : a.DistinctBeyond w) : a.Separates w ds := by
  induction h with
  | nil location scope => exact ⟨List.nodup_nil, fun d hd => by cases hd⟩
  | pass item _ ih => exact (ih hself.tail hbeyond.tail).cons item
  | type declared _ ih => exact separates_type declared hself (ih hself.tail hbeyond.tail)
  | inside enabled _ _ ihinner ihlater =>
      obtain ⟨hinner, hinnermost⟩ := hbeyond.of_leads (leads_inside enabled _ _ _)
      exact separates_submodule enabled hself rfl (ihinner hinner hinnermost)
        (ihlater hself.tail hbeyond.tail)
  | outside enabled located holds _ _ ihinner ihlater =>
      obtain ⟨hinner, hinnermost⟩ := hbeyond.of_leads (leads_outside enabled located holds _)
      exact separates_submodule enabled hself (congrArg Scope.package holds.scope_eq)
        (ihinner hinner hinnermost) (ihlater hself.tail hbeyond.tail)

end Walker

/-! ## From paths to names -/

theorem pathTrees_injective {names more : List Name} {p : Position}
    (h : pathTrees p names = pathTrees p more) : names = more := by
  induction names generalizing more p with
  | nil =>
      cases more with
      | nil => rfl
      | cons n rest => simp [pathTrees] at h
  | cons n names ih =>
      cases more with
      | nil => simp [pathTrees] at h
      | cons n' more =>
          simp only [pathTrees, List.cons.injEq, true_and, Tree.name.injEq, and_true] at h
          obtain ⟨rfl, hrest⟩ := h
          rw [ih hrest]

/-- **A qualified name tells the names that it was put together from**: read as text, it gives them
back. -/
theorem eq_of_qualify_eq {modules modules' : List Name} {name name' : Name}
    (hnames : ∀ n ∈ modules ++ [name], n.Lexical) (hnames' : ∀ n ∈ modules' ++ [name'], n.Lexical)
    (h : Package.qualify ⟨modules.map Name.written⟩ name.written
      = Package.qualify ⟨modules'.map Name.written⟩ name'.written) :
    modules ++ [name] = modules' ++ [name'] := by
  have hlex := lex_path lexical_crate hnames
  have hlex' := lex_path lexical_crate hnames'
  have htext : pathText (modules ++ [name]) = pathText (modules' ++ [name']) := by
    have hpath := congrArg (fun q => (typePathOf q).toList) h
    simp only [toList_typePathOf] at hpath
    exact List.append_cancel_left hpath
  rw [htext, hlex'] at hlex
  simp only [Except.ok.injEq, List.cons.injEq, true_and] at hlex
  exact (pathTrees_injective hlex).symm

theorem Walker.Body.Declares.exists_names {w : Walker} {b : Body} {d : Declaration}
    (h : b.Declares w d) (hb : b.Lexical) :
    ∃ (modules : List Name) (name : Name), (∀ n ∈ modules ++ [name], n.Lexical)
      ∧ d.path = (modules ++ [name]).map Name.written
      ∧ d.qualifiedName = Package.qualify ⟨modules.map Name.written⟩ name.written := by
  obtain ⟨t, hmem, hdeclared⟩ := h
  obtain ⟨-, hpackage, hsimple, hqualified⟩ := path_of_declaration? hdeclared
  obtain ⟨modules, hmodules, hsegments⟩ := hb.package
  have hscope : b.scope.package = ⟨modules.map Name.written⟩ := by rw [← hsegments]
  cases hb.items _ hmem with
  | type hname =>
      refine ⟨modules, t.name, List.forall_mem_append.mpr ⟨hmodules, by simpa using hname⟩, ?_,
        hscope ▸ hqualified⟩
      rw [Declaration.path, hpackage, hsimple, hsegments]
      simp

/-! ## Crates -/

namespace Crate

variable {c : Crate} {t : FileTree}

theorem exists_names_of_declarations {ds : List Declaration} {events : List Event}
    (h : c.declarations t = .ok ⟨.ok ds, events⟩) {d : Declaration} (hd : d ∈ ds) :
    ∃ (modules : List Name) (name : Name), (∀ n ∈ modules ++ [name], n.Lexical)
      ∧ d.path = (modules ++ [name]).map Name.written
      ∧ d.qualifiedName = Package.qualify ⟨modules.map Name.written⟩ name.written := by
  obtain ⟨place, b, hopen, hreaches, hdeclares⟩ := declares_of_declarations h hd
  exact hdeclares.exists_names (Reaches.lexical ⟨place, hopen, hreaches⟩)

theorem path_eq_of_qualifiedName_eq {ds : List Declaration} {events : List Event}
    (h : c.declarations t = .ok ⟨.ok ds, events⟩) {d d' : Declaration} (hd : d ∈ ds)
    (hd' : d' ∈ ds) (heq : d.qualifiedName = d'.qualifiedName) : d.path = d'.path := by
  obtain ⟨modules, name, hnames, hpath, hqualified⟩ := exists_names_of_declarations h hd
  obtain ⟨modules', name', hnames', hpath', hqualified'⟩ := exists_names_of_declarations h hd'
  rw [hqualified, hqualified'] at heq
  rw [hpath, hpath', eq_of_qualify_eq hnames hnames' heq]

theorem nodup_paths {ds : List Declaration} {events : List Event}
    (h : c.declarations t = .ok ⟨.ok ds, events⟩)
    (hdistinct : ∀ b, c.Reaches t b → (c.conditions.typeNames b.items).Nodup
      ∧ (c.conditions.moduleNames b.items).Nodup) : (ds.map Declaration.path).Nodup := by
  obtain ⟨place, hopen, rfl | ⟨a, hholds, hwalked⟩⟩ := walked_of_declarations h
  · exact List.nodup_nil
  have distinct (b : Walker.Body)
      (hsteps : ReflTransGen (c.walker (t.sourceRoot place)).Leads a b) :
      b.Distinct (c.walker (t.sourceRoot place)) := by
    obtain ⟨htypes, hmodules⟩ := hdistinct b ⟨place, hopen, a, hholds, hsteps⟩
    exact ⟨htypes, hmodules⟩
  exact (hwalked.separates (distinct a .refl) fun b hb => distinct b hb.to_reflTransGen).nodup

/-- **No two declarations of a crate share a qualified name**, with or without the attribute
`path`, if in each of its modules no two types and no two modules that are part of the crate have
the same name. So the functions of a bundle that is generated from them are for different types. -/
theorem qualifiedNames_nodup {ds : List Declaration} {events : List Event}
    (h : c.declarations t = .ok ⟨.ok ds, events⟩)
    (hdistinct : ∀ b, c.Reaches t b → (c.conditions.typeNames b.items).Nodup
      ∧ (c.conditions.moduleNames b.items).Nodup) :
    (ds.map Declaration.qualifiedName).Nodup
      ∧ ∀ settings outcome bundle, pass settings ds = .ok outcome →
        outcome.bundle = some (.ok bundle) → (bundle.functions.map TextFunction.typePath).Nodup := by
  have hqualified : (ds.map Declaration.qualifiedName).Nodup := by
    rw [List.Nodup, List.pairwise_map]
    refine (List.pairwise_map.mp (nodup_paths h hdistinct)).imp_of_mem fun hd hd' hne heq => ?_
    exact hne (path_eq_of_qualifiedName_eq h hd hd' heq)
  refine ⟨hqualified, fun settings outcome bundle hpass hbundle => ?_⟩
  obtain ⟨-, first, -, rfl⟩ := pass_generated hpass hbundle
  have hpaths : ((usableCandidates settings.marker ds).map Declaration.qualifiedName).Nodup :=
    hqualified.sublist ((List.filter_sublist.trans List.filter_sublist).map _)
  have hinjective : Function.Injective typePathOf := fun a b hab => by
    simpa [typePathOf, ← String.toList_inj] using hab
  have htypes : (Batch.bundle settings first.marked
      ((usableCandidates settings.marker ds).map Declaration.marked)).functions.map
        TextFunction.typePath
      = ((usableCandidates settings.marker ds).map Declaration.qualifiedName).map typePathOf := by
    simp only [Batch.bundle, List.map_map]
    rfl
  rw [htypes]
  exact hpaths.map hinjective

/-! ## A file that makes up two modules -/

mutual

/-- Whether the names in the modules of an item are different, at every depth. -/
def distinctInside (s : Conditions) : Item → Bool
  | .submodule _ _ (some items) =>
    decide (s.typeNames items).Nodup && decide (s.moduleNames items).Nodup
      && allDistinctInside s items
  | _ => true

/-- Whether the names in the modules among items are different, at every depth. -/
def allDistinctInside (s : Conditions) : List Item → Bool
  | [] => true
  | item :: rest => distinctInside s item && allDistinctInside s rest

end

/-- Whether the names in a module and in all modules inside it are different. -/
def allDistinct (s : Conditions) (items : List Item) : Bool :=
  decide (s.typeNames items).Nodup && decide (s.moduleNames items).Nodup
    && allDistinctInside s items

theorem allDistinct_inside {s : Conditions} {items inner : List Item}
    {attributes : List Attribute} {name : Name} (h : allDistinct s items = true)
    (hmem : .submodule attributes name (some inner) ∈ items) : allDistinct s inner = true := by
  have hall : allDistinctInside s items = true := (Bool.and_eq_true_iff.mp h).2
  clear h
  induction items with
  | nil => cases hmem
  | cons item rest ih =>
      obtain ⟨hitem, hrest⟩ := Bool.and_eq_true_iff.mp hall
      rcases List.mem_cons.mp hmem with rfl | hmem
      · exact hitem
      · exact ih hmem hrest

/-- **It is enough to look at each file by itself.** -/
theorem distinct_of_everySource
    (h : t.everySource (fun source => allDistinct c.conditions source.items) = true)
    {b : Walker.Body} (hb : c.Reaches t b) :
    (c.conditions.typeNames b.items).Nodup ∧ (c.conditions.moduleNames b.items).Nodup := by
  have hall : allDistinct c.conditions b.items = true :=
    hb.of_everySource (P := fun items => allDistinct c.conditions items = true) h
      (fun _ hsource => hsource) allDistinct_inside
  simp only [allDistinct, Bool.and_eq_true, decide_eq_true_eq] at hall
  exact hall.1

/-- A crate with a file that makes up two modules, which holds a type beside a module of its
name. -/
def sharingTree : FileTree where
  entries := [(["src"], .directory),
    (["src", "lib.rs"], .file ("#[path = \"s.rs\"] mod a; #[path = \"s.rs\"] mod r#b; "
      ++ "#[M] pub struct S;").toUTF8),
    (["src", "s.rs"], .file "#[M] pub struct S; mod S \x7b pub struct S; \x7d".toUTF8)]

/-- The crate of these files. -/
def sharingCrate : Crate := ⟨⟨"src"⟩, "lib.rs", {}⟩

/-- The declarations of this crate have different names, and so have the functions for them. -/
theorem sharingNames_nodup : ∃ ds events,
    sharingCrate.declarations sharingTree = .ok ⟨.ok ds, events⟩
      ∧ ds.map Declaration.qualifiedName = ["a::S", "a::S::S", "r#b::S", "r#b::S::S", "S"]
      ∧ (ds.map Declaration.qualifiedName).Nodup
      ∧ ∀ settings outcome bundle, pass settings ds = .ok outcome →
        outcome.bundle = some (.ok bundle) →
          (bundle.functions.map TextFunction.typePath).Nodup := by
  have hnames : declaredNames (sharingCrate.declarations sharingTree)
      = some ["a::S", "a::S::S", "r#b::S", "r#b::S::S", "S"] := by decide +kernel
  have hevery : sharingTree.everySource
      (fun source => allDistinct sharingCrate.conditions source.items) = true := by decide +kernel
  unfold declaredNames at hnames
  split at hnames
  · rename_i ds events hdeclared
    have hnodup := qualifiedNames_nodup hdeclared fun b hb => distinct_of_everySource hevery hb
    exact ⟨ds, events, hdeclared, Option.some.inj hnames, hnodup.1, hnodup.2⟩
  · cases hnames

end Crate

end Fieldwise
