import Fieldwise.Proofs.Discovery.Termination
import Fieldwise.Proofs.FileTree.Directories
import Fieldwise.Proofs.Grammar.ItemNames

set_option autoImplicit false

/-! # The modules that a walk goes through

A walk goes through the bodies of modules (`Walker.Body`): the items of a file, or those of a module
that is written in place. One body leads to the bodies of the modules in it (`Walker.Leads`). Every
declaration that a walk finds is that of a type in one of these bodies
(`Walker.origin_of_walkFile`), and the names of all of them, of modules and of types, are ones that
source text can hold (`Walker.Leads.lexical`).
-/

namespace Fieldwise

open Token Grammar Relation

namespace Walker

/-! ## Bodies -/

/-- The inside of a module: the file that it stands in, its scope, and its items. -/
structure Body where
  location : Location
  scope : Scope
  items : List Item

/-- The inside of a file that is part of the crate. -/
inductive Holds (w : Walker) (v : Visit) : Body → Prop
  | file {source : SourceFile} (loaded : w.root.load v.location = .ok source)
      (enabled : w.conditions.enables source.attributes = true) :
      Holds w v ⟨v.location, v.scope, source.items⟩

/-- The file of a module, as it is entered from the scope of the module around it. -/
def moduleVisit (scope : Scope) (name : Name) (target directory : Location) : Visit :=
  ⟨target, scope.package.child name.written, directory, target.parent?.getD .empty⟩

/-- A module leads to the modules in it that are part of the crate: to those that are written in
place, and to those whose file is found. -/
inductive Leads (w : Walker) (a : Body) : Body → Prop
  | inside {attributes : List Attribute} {name : Name} {items : List Item}
      (mem : .submodule attributes name (some items) ∈ a.items)
      (enabled : w.conditions.enables attributes = true) :
      Leads w a ⟨a.location, innerScope a.scope attributes name, items⟩
  | outside {attributes : List Attribute} {name : Name} {target directory : Location} {b : Body}
      (mem : .submodule attributes name none ∈ a.items)
      (enabled : w.conditions.enables attributes = true)
      (located : w.root.locate? a.scope name.text (pathAttribute? attributes)
        = some (target, directory))
      (holds : w.Holds (moduleVisit a.scope name target directory) b) :
      Leads w a b

theorem Holds.scope_eq {w : Walker} {v : Visit} {b : Body} (h : w.Holds v b) :
    b.scope = v.scope := by
  cases h
  rfl

/-- The modules that a walk from a file goes through. -/
def Reaches (w : Walker) (v : Visit) (b : Body) : Prop :=
  ∃ a, w.Holds v a ∧ ReflTransGen w.Leads a b

/-! ## Walks that find something -/

/-- A walk through a body that finds declarations, item by item. -/
inductive Walked (w : Walker) : Body → List Declaration → Prop
  | nil (location : Location) (scope : Scope) : Walked w ⟨location, scope, []⟩ []
  | pass {location : Location} {scope : Scope} (item : Item) {rest : List Item}
      {ds : List Declaration} (later : Walked w ⟨location, scope, rest⟩ ds) :
      Walked w ⟨location, scope, item :: rest⟩ ds
  | type {location : Location} {scope : Scope} {t : TypeItem} {rest : List Item}
      {d : Declaration} {ds : List Declaration}
      (declared : t.declaration? w.conditions scope.package (w.base.join location) = some d)
      (later : Walked w ⟨location, scope, rest⟩ ds) :
      Walked w ⟨location, scope, .type t :: rest⟩ (d :: ds)
  | inside {location : Location} {scope : Scope} {attributes : List Attribute} {name : Name}
      {items rest : List Item} {ds ds' : List Declaration}
      (enabled : w.conditions.enables attributes = true)
      (inner : Walked w ⟨location, innerScope scope attributes name, items⟩ ds)
      (later : Walked w ⟨location, scope, rest⟩ ds') :
      Walked w ⟨location, scope, .submodule attributes name (some items) :: rest⟩ (ds ++ ds')
  | outside {location : Location} {scope : Scope} {attributes : List Attribute} {name : Name}
      {target directory : Location} {b : Body} {rest : List Item} {ds ds' : List Declaration}
      (enabled : w.conditions.enables attributes = true)
      (located : w.root.locate? scope name.text (pathAttribute? attributes)
        = some (target, directory))
      (holds : w.Holds (moduleVisit scope name target directory) b)
      (inner : Walked w b ds) (later : Walked w ⟨location, scope, rest⟩ ds') :
      Walked w ⟨location, scope, .submodule attributes name none :: rest⟩ (ds ++ ds')

variable {w : Walker}

/-- What one walk after another finds is what the two walks find. -/
theorem found_of_andThen {first : Walk} {next : Unit → Walk} {ds : List Declaration}
    {events : List Event} (h : first.andThen next = .found ds events) :
    ∃ ds₁ events₁ ds₂ events₂, first = .found ds₁ events₁ ∧ next () = .found ds₂ events₂
      ∧ ds = ds₁ ++ ds₂ := by
  cases first with
  | found ds₁ events₁ =>
      unfold Walk.andThen at h
      cases hnext : next () with
      | found ds₂ events₂ =>
          simp only [hnext] at h
          cases h
          exact ⟨ds₁, events₁, ds₂, events₂, rfl, rfl, rfl⟩
      | failed reason events₂ => simp [hnext] at h
      | endless => simp [hnext] at h
  | failed reason events₁ => cases h
  | endless => cases h

/-- Wherever the files inside an item are walked like that, so is the item. -/
def EntersWalked (w : Walker) (enter : Location → Scope → Walk) : Prop :=
  ∀ (v : Visit) {ds : List Declaration} {events : List Event},
    enter v.location v.scope = .found ds events → ds = [] ∨ ∃ b, w.Holds v b ∧ w.Walked b ds

section Items

variable {enter : Location → Scope → Walk}

mutual

/-- The walk through an item, followed by one through the items after it. -/
theorem walked_of_walkItem (henter : w.EntersWalked enter) (location : Location) (item : Item)
    (rest : List Item) (scope : Scope) {ds ds' : List Declaration} {events : List Event}
    (h : w.walkItem enter (w.base.join location) scope item = .found ds events)
    (hrest : w.Walked ⟨location, scope, rest⟩ ds') :
    w.Walked ⟨location, scope, item :: rest⟩ (ds ++ ds') := by
  cases item with
  | type t =>
      rw [walkItem] at h
      cases hd : t.declaration? w.conditions scope.package (w.base.join location) with
      | none =>
          simp only [hd, Walk.nothing] at h
          cases h
          exact .pass _ hrest
      | some d =>
          simp only [hd] at h
          cases h
          exact .type hd hrest
  | other =>
      rw [walkItem_other] at h
      cases h
      exact .pass _ hrest
  | submodule attributes name content =>
      cases he : w.conditions.enables attributes with
      | false =>
          rw [walkItem_disabled w _ _ _ _ _ he] at h
          cases h
          exact .pass _ hrest
      | true =>
          cases content with
          | none =>
              rw [walkItem_named w _ _ _ _ he, walkNamed, walkOutside] at h
              split at h
              · rename_i target directory hlocated
                obtain rfl | ⟨b, hholds, hwalked⟩ :=
                  henter (moduleVisit scope name target directory) h
                · exact .pass _ hrest
                · exact .outside he hlocated hholds hwalked hrest
              · cases h
                exact .pass _ hrest
          | some items =>
              rw [walkItem_inline w _ _ _ _ _ he] at h
              exact .inside he (walked_of_walkItems henter location items _ h) hrest

theorem walked_of_walkItems (henter : w.EntersWalked enter) (location : Location)
    (items : List Item) (scope : Scope) {ds : List Declaration} {events : List Event}
    (h : w.walkItems enter (w.base.join location) scope items = .found ds events) :
    w.Walked ⟨location, scope, items⟩ ds := by
  cases items with
  | nil =>
      rw [walkItems_nil] at h
      cases h
      exact .nil location scope
  | cons item rest =>
      rw [walkItems_cons] at h
      obtain ⟨ds₁, events₁, ds₂, events₂, hitem, hrest, rfl⟩ := found_of_andThen h
      exact walked_of_walkItem henter location item rest scope hitem
        (walked_of_walkItems henter location rest scope hrest)

end

end Items

/-- **A walk through a file that finds declarations has walked its body**, or the file is no part
of the crate. -/
theorem walked_of_walkFile (depth : Nat) (v : Visit) {ds : List Declaration}
    {events : List Event} (h : w.walkFile depth v.location v.scope = .found ds events) :
    ds = [] ∨ ∃ b, w.Holds v b ∧ w.Walked b ds := by
  induction depth generalizing v ds events with
  | zero => cases h
  | succ depth ih =>
      rw [walkFile] at h
      cases hload : w.root.load v.location with
      | error obstacle => simp [walkSource, hload] at h
      | ok source =>
          cases he : w.conditions.enables source.attributes with
          | false =>
              rw [walkSource_disabled w _ _ hload he] at h
              cases h
              exact .inl rfl
          | true =>
              rw [walkSource_enabled w _ _ hload he] at h
              exact .inr ⟨_, .file hload he,
                walked_of_walkItems (fun v _ _ hv => ih v hv) v.location source.items v.scope h⟩

/-! ## Where a declaration comes from -/

/-- The declaration of a type in a body. -/
def Body.Declares (w : Walker) (b : Body) (d : Declaration) : Prop :=
  ∃ t : TypeItem, .type t ∈ b.items
    ∧ t.declaration? w.conditions b.scope.package (w.base.join b.location) = some d

/-- The declaration of a type in a body or in one that it leads to. -/
def Body.Yields (w : Walker) (a : Body) (d : Declaration) : Prop :=
  ∃ b, ReflTransGen w.Leads a b ∧ b.Declares w d

theorem Leads.yields {a b : Body} (h : w.Leads a b) {d : Declaration} (hd : b.Yields w d) :
    a.Yields w d := by
  obtain ⟨b', hsteps, hdeclares⟩ := hd
  exact ⟨b', hsteps.head h, hdeclares⟩

section FirstItem

variable {location : Location} {scope : Scope}

theorem leads_inside {attributes : List Attribute}
    (enabled : w.conditions.enables attributes = true) (name : Name) (items rest : List Item) :
    w.Leads ⟨location, scope, .submodule attributes name (some items) :: rest⟩
      ⟨location, innerScope scope attributes name, items⟩ :=
  .inside List.mem_cons_self enabled

theorem leads_outside {attributes : List Attribute} {name : Name} {target directory : Location}
    {b : Body} (enabled : w.conditions.enables attributes = true)
    (located : w.root.locate? scope name.text (pathAttribute? attributes)
      = some (target, directory))
    (holds : w.Holds (moduleVisit scope name target directory) b) (rest : List Item) :
    w.Leads ⟨location, scope, .submodule attributes name none :: rest⟩ b := by
  have hmem : .submodule attributes name none ∈ .submodule attributes name none :: rest :=
    List.mem_cons_self
  exact .outside hmem enabled located holds

/-- What the items after the first lead to, all items lead to. -/
theorem Leads.cons {items : List Item} {b : Body} (h : w.Leads ⟨location, scope, items⟩ b)
    (item : Item) : w.Leads ⟨location, scope, item :: items⟩ b := by
  cases h with
  | inside mem enabled => exact .inside (List.mem_cons_of_mem _ mem) enabled
  | outside mem enabled located holds =>
      exact .outside (List.mem_cons_of_mem _ mem) enabled located holds

theorem Body.Yields.cons {items : List Item} {d : Declaration}
    (h : Body.Yields w ⟨location, scope, items⟩ d) (item : Item) :
    Body.Yields w ⟨location, scope, item :: items⟩ d := by
  obtain ⟨b, hsteps, hdeclares⟩ := h
  rcases hsteps.cases_head with rfl | ⟨c, hstep, hmore⟩
  · obtain ⟨t, hmem, ht⟩ := hdeclares
    exact ⟨_, .refl, t, List.mem_cons_of_mem _ hmem, ht⟩
  · exact (hstep.cons item).yields ⟨b, hmore, hdeclares⟩

end FirstItem

/-- **Every declaration that a walk finds is that of a type** in a body that the walk goes
through. -/
theorem Walked.yields {a : Body} {ds : List Declaration} (h : w.Walked a ds) :
    ∀ d ∈ ds, a.Yields w d := by
  induction h with
  | nil location scope =>
      intro d hd
      cases hd
  | pass item _ ih => exact fun d hd => (ih d hd).cons item
  | type declared _ ih =>
      refine List.forall_mem_cons.mpr ⟨?_, fun d hd => (ih d hd).cons _⟩
      exact ⟨_, .refl, _, List.mem_cons_self, declared⟩
  | inside enabled _ _ ihinner ihlater =>
      refine List.forall_mem_append.mpr ⟨fun d hd => ?_, fun d hd => (ihlater d hd).cons _⟩
      exact (leads_inside enabled _ _ _).yields (ihinner d hd)
  | outside enabled located holds _ _ ihinner ihlater =>
      refine List.forall_mem_append.mpr ⟨fun d hd => ?_, fun d hd => (ihlater d hd).cons _⟩
      exact (leads_outside enabled located holds _).yields (ihinner d hd)

/-! ## Names -/

/-- A package made of names that source text can hold. -/
def PackageLexical (p : Package) : Prop :=
  ∃ names : List Name, (∀ n ∈ names, n.Lexical) ∧ p.segments = names.map Name.written

theorem PackageLexical.child {p : Package} (h : PackageLexical p) {name : Name}
    (hname : name.Lexical) : PackageLexical (p.child name.written) := by
  obtain ⟨names, hnames, hsegments⟩ := h
  refine ⟨names ++ [name], List.forall_mem_append.mpr ⟨hnames, by simpa using hname⟩, ?_⟩
  simp [Package.child, hsegments]

/-- A body whose names are ones that source text can hold: those of the modules around it and those
of its items. -/
structure Body.Lexical (b : Body) : Prop where
  package : PackageLexical b.scope.package
  items : ∀ i ∈ b.items, i.Lexical

/-- The files of a source root have names that source text can hold. -/
def LoadsLexical (root : SourceRoot) : Prop :=
  ∀ l source, root.load l = .ok source → source.Lexical

theorem Holds.lexical {v : Visit} {b : Body} (h : w.Holds v b) (hroot : LoadsLexical w.root)
    (hpackage : PackageLexical v.scope.package) : b.Lexical := by
  cases h with
  | file loaded enabled => exact ⟨hpackage, hroot _ _ loaded⟩

/-- **A module leads to modules with good names** where its own names are good. -/
theorem Leads.lexical {a b : Body} (h : w.Leads a b) (hroot : LoadsLexical w.root)
    (ha : a.Lexical) : b.Lexical := by
  cases h with
  | inside mem enabled =>
      cases ha.items _ mem with
      | submodule _ hname hcontent =>
          exact ⟨ha.package.child hname, hcontent _ rfl⟩
  | outside mem enabled located holds =>
      cases ha.items _ mem with
      | submodule _ hname _ => exact holds.lexical hroot (ha.package.child hname)

end Walker

/-! ## Crates -/

theorem FileTree.loadsLexical (t : FileTree) (place : Place) :
    Walker.LoadsLexical (t.sourceRoot place) := by
  intro l source h
  simp only [sourceRoot] at h
  split at h
  · cases h
  · split at h
    · cases h
    · rename_i hread
      cases h
      exact lexical_of_readFile hread

namespace Crate

/-- The modules that make up a crate, as far as their files are found. -/
def Reaches (c : Crate) (t : FileTree) (b : Walker.Body) : Prop :=
  ∃ place, t.openDirectory t.ambient c.directory = .ok place
    ∧ (c.walker (t.sourceRoot place)).Reaches c.entryVisit b

variable {c : Crate} {t : FileTree}

/-- **A crate whose declarations are found has been walked.** -/
theorem walked_of_declarations {ds : List Declaration} {events : List Event}
    (h : c.declarations t = .ok ⟨.ok ds, events⟩) :
    ∃ place, t.openDirectory t.ambient c.directory = .ok place
      ∧ (ds = [] ∨ ∃ b, (c.walker (t.sourceRoot place)).Holds c.entryVisit b
        ∧ (c.walker (t.sourceRoot place)).Walked b ds) := by
  obtain ⟨depth, hwalk⟩ := ((declarations_ends_iff c t).2 _).mp h
  cases hopen : t.openDirectory t.ambient c.directory with
  | error reason =>
      simp only [declarationsUpTo, hopen] at hwalk
      cases hwalk
  | ok place =>
      refine ⟨place, rfl, ?_⟩
      simp only [declarationsUpTo, hopen, declarationsIn] at hwalk
      cases hfile : (c.walker (t.sourceRoot place)).walkFile depth ⟨c.entry⟩ rootScope with
      | found found said =>
          simp only [hfile, conclude] at hwalk
          cases hwalk
          exact Walker.walked_of_walkFile depth c.entryVisit hfile
      | failed reason said =>
          simp only [hfile, conclude] at hwalk
          cases hwalk
      | endless =>
          simp only [hfile, conclude] at hwalk
          cases hwalk

/-- **Every declaration of a crate is that of a type** in one of its modules. -/
theorem declares_of_declarations {ds : List Declaration} {events : List Event}
    (h : c.declarations t = .ok ⟨.ok ds, events⟩) {d : Declaration} (hd : d ∈ ds) :
    ∃ place b, t.openDirectory t.ambient c.directory = .ok place
      ∧ (c.walker (t.sourceRoot place)).Reaches c.entryVisit b
      ∧ b.Declares (c.walker (t.sourceRoot place)) d := by
  obtain ⟨place, hopen, rfl | ⟨a, hholds, hwalked⟩⟩ := walked_of_declarations h
  · cases hd
  · obtain ⟨b, hsteps, hdeclares⟩ := hwalked.yields d hd
    exact ⟨place, b, hopen, ⟨a, hholds, hsteps⟩, hdeclares⟩

theorem Reaches.lexical {b : Walker.Body} (h : c.Reaches t b) : b.Lexical := by
  obtain ⟨place, -, a, hholds, hsteps⟩ := h
  have hroot := t.loadsLexical place
  have ha : a.Lexical := hholds.lexical hroot ⟨[], by simp, rfl⟩
  induction hsteps with
  | refl => exact ha
  | tail _ hstep ih => exact hstep.lexical hroot ih

end Crate

/-! ## File by file

What holds of the items of every file of a tree, and passes from items to those of the modules in
them, holds of the items of every module of a crate. -/

/-- Whether a check succeeds for every source file of a tree. -/
def FileTree.everySource (t : FileTree) (check : SourceFile → Bool) : Bool :=
  t.entries.all fun
    | (_, .file content) =>
      match (String.fromUTF8? content).map readFile with
      | some (.ok source) => check source
      | _ => true
    | _ => true

theorem FileTree.mem_entries_of_readText {t : FileTree} {start : FileTree.Start} {l : Location}
    {text : String} (h : t.readText start l = .ok text) :
    ∃ place content, (place, .file content) ∈ t.entries
      ∧ String.fromUTF8? content = some text := by
  obtain ⟨content, hfind, hdecoded⟩ := readText_eq_ok_iff.mp h
  obtain ⟨place, -, hget⟩ := find_eq_ok_iff.mp hfind
  have hplace : place ≠ [] := by
    rintro rfl
    cases hget
  exact ⟨place, content, mem_entries_of_get? hplace hget, hdecoded⟩

theorem FileTree.check_of_load {t : FileTree} {check : SourceFile → Bool}
    (hevery : t.everySource check = true) {place : Place} {l : Location} {source : SourceFile}
    (h : (t.sourceRoot place).load l = .ok source) : check source = true := by
  simp only [sourceRoot] at h
  split at h
  · cases h
  · rename_i htext
    obtain ⟨found, content, hmem, hdecoded⟩ := mem_entries_of_readText htext
    split at h
    · cases h
    · rename_i hread
      cases h
      simpa [hdecoded, hread] using List.all_eq_true.mp hevery _ hmem

namespace Crate

variable {c : Crate} {t : FileTree}

/-- **What can be checked file by file holds in every module.** -/
theorem Reaches.of_everySource {P : List Item → Prop} {check : SourceFile → Bool}
    (hevery : t.everySource check = true)
    (hfile : ∀ source, check source = true → P source.items)
    (hinside : ∀ {items inner attributes name}, P items →
      .submodule attributes name (some inner) ∈ items → P inner)
    {b : Walker.Body} (h : c.Reaches t b) : P b.items := by
  obtain ⟨place, -, a, hholds, hsteps⟩ := h
  have holds_items {v : Walker.Visit} {b : Walker.Body}
      (hb : (c.walker (t.sourceRoot place)).Holds v b) : P b.items := by
    cases hb with
    | file loaded _ => exact hfile _ (FileTree.check_of_load hevery loaded)
  induction hsteps with
  | refl => exact holds_items hholds
  | tail _ hstep ih =>
      cases hstep with
      | inside mem _ => exact hinside ih mem
      | outside _ _ _ holds => exact holds_items holds

end Crate

end Fieldwise
