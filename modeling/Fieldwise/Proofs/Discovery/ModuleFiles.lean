import Fieldwise.Proofs.Bundle.FileNames
import Fieldwise.Proofs.Discovery.Bodies
import Fieldwise.Proofs.Discovery.Inlining
import Fieldwise.Proofs.Location.Names

set_option autoImplicit false

/-! # Module files are found where the package says

Without the attribute `path`, the package of a declaration tells the file that it stands in
(`Crate.anchors_spelled`). The package is the names of the modules up to the innermost one that has
a file of its own, and then the names of the modules in that file around the declaration. The first
of the two, joined by slashes, spell the file (`SourceRoot.moduleFile`).

Three things are threaded through a walk, the package, the directory of the modules inside and the
file. `Walker.Body.Spelled` is what holds of them together: the directory is always made of the
names of the package, without the mark of raw names (`Walker.Leads.spelled`).
-/

namespace Fieldwise

open Token Grammar Relation

/-! ## The file that names spell -/

/-- The file of the module with a package: that of the crate itself for the root. Otherwise the
segments without the mark of raw names spell it, with slashes between them: a file of that name if
there is one, else the file `mod.rs` in a directory of that name. -/
def SourceRoot.moduleFile (root : SourceRoot) (entry : Location) (segments : List String) :
    Location :=
  let stem := (Location.ofNames (segments.map dropRawMark)).text
  if segments = [] then entry
  else if root.isFile ⟨stem ++ ".rs"⟩ then ⟨stem ++ ".rs"⟩
  else ⟨stem ++ "/mod.rs"⟩

/-- The modules that are written in place around items, outermost first, and these items. -/
inductive Grammar.Encloses (s : Conditions) (items : List Item) : List Name → List Item → Prop
  | here : Encloses s items [] items
  | inside {names : List Name} {inner innermost : List Item} {attributes : List Attribute}
      {name : Name} (outer : Encloses s items names inner)
      (mem : .submodule attributes name (some innermost) ∈ inner)
      (enabled : s.enables attributes = true) :
      Encloses s items (names ++ [name]) innermost

/-! ## Names as parts of locations -/

theorem Token.Name.Lexical.isName {n : Name} (h : n.Lexical) : IsName n.text := by
  refine isName_of_isBare (Text.isBare_of_isWord h.word) fun hempty => ?_
  have hword := h.word
  rw [hempty] at hword
  exact hword

namespace Location

variable {names : List String} {name : String}

/-- A name with the extension of source files is a name. -/
theorem isName_extended (h : IsName name) : IsName (name ++ ".rs") := by
  have hlength : 2 < (name ++ ".rs").length := by
    rw [String.length_append]
    exact Nat.lt_add_left _ (by decide)
  refine ⟨by simpa using h.slash, ?_, ?_⟩
  · have hne : name ++ ".rs" ≠ "" ∧ name ++ ".rs" ≠ "." := by
      constructor <;>
      · intro heq
        rw [heq] at hlength
        exact absurd hlength (by decide)
    simp [isIdle, hne]
  · intro heq
    rw [heq] at hlength
    exact absurd hlength (by decide)

theorem text_ofNames_extended (names : List String) (name extension : String) :
    (ofNames (names ++ [name ++ extension])).text
      = (ofNames (names ++ [name])).text ++ extension := by
  by_cases hnames : names = []
  · subst hnames
    simp
  · rw [text_ofNames_concat hnames, text_ofNames_concat hnames, ← String.append_assoc]

/-- The file beside a directory that is made of names. -/
theorem child_ofNames_extended (hnames : ∀ n ∈ names, IsName n) (hname : IsName name) :
    (ofNames names).child (name ++ ".rs") = ⟨(ofNames (names ++ [name])).text ++ ".rs"⟩ := by
  rw [child_ofNames hnames (isName_extended hname), ← text_ofNames_extended]

/-- The file of a module in a directory that is made of names. -/
theorem child_ofNames_mod (h : names ≠ []) (hnames : ∀ n ∈ names, IsName n) :
    (ofNames names).child "mod.rs" = ⟨(ofNames names).text ++ "/mod.rs"⟩ := by
  have hmod : IsName "mod.rs" := ⟨by decide, by decide, by decide⟩
  rw [child_ofNames hnames hmod]
  have htext := text_ofNames_concat h "mod.rs"
  rw [String.append_assoc] at htext
  exact congrArg Location.mk htext

end Location

theorem map_dropRawMark_written {names : List Name} (h : ∀ n ∈ names, n.Lexical) :
    (names.map Name.written).map dropRawMark = names.map Name.text := by
  rw [List.map_map]
  exact List.map_congr_left fun n hn => dropRawMark_written (h n hn)

/-- **A module without the attribute `path` has the file that its names spell**, and the modules
inside it are in the directory that they spell. -/
theorem SourceRoot.locate?_spelled {root : SourceRoot} {scope : Scope} {names : List Name}
    {name : Name} {target directory : Location} (hall : ∀ n ∈ names ++ [name], n.Lexical)
    (hscope : scope.directory = .ofNames (names.map Name.text)) (entry : Location)
    (h : root.locate? scope name.text none = some (target, directory)) :
    target = root.moduleFile entry ((names ++ [name]).map Name.written)
      ∧ directory = .ofNames ((names ++ [name]).map Name.text) := by
  have hnames : ∀ n ∈ names.map Name.text, IsName n :=
    List.forall_mem_map.mpr fun n hn => (hall n (by simp [hn])).isName
  have hname : IsName name.text := (hall name (by simp)).isName
  have hboth : ∀ n ∈ names.map Name.text ++ [name.text], IsName n :=
    List.forall_mem_append.mpr ⟨hnames, by simpa using hname⟩
  simp only [locate?, hscope, Location.child_ofNames hnames hname,
    Location.child_ofNames_extended hnames hname,
    Location.child_ofNames_mod (by simp : names.map Name.text ++ [name.text] ≠ []) hboth] at h
  unfold moduleFile
  rw [if_neg (by simp), map_dropRawMark_written hall, List.map_append, List.map_singleton]
  split at h
  · rename_i hbeside
    cases h
    exact ⟨by simp [hbeside], rfl⟩
  · rename_i hbeside
    split at h
    · cases h
      exact ⟨by simp [hbeside], rfl⟩
    · cases h

/-! ## What a walk threads through -/

namespace Walker

/-- No module in a body that is part of the crate has the attribute `path`. -/
def Body.PathFree (s : Conditions) (b : Body) : Prop :=
  ∀ {attributes name content}, .submodule attributes name content ∈ b.items →
    s.enables attributes = true → pathAttribute? attributes = none

/-- The file of a body makes up the module that the names `outer` lead to, and the modules `inner`
in that file are around the body. -/
def Body.Within (w : Walker) (v : Visit) (b : Body) (outer inner : List Name) : Prop :=
  ∃ source scope, w.Reaches v ⟨b.location, scope, source.items⟩
    ∧ scope.package.segments = outer.map Name.written
    ∧ w.root.load b.location = .ok source
    ∧ Encloses w.conditions source.items inner b.items

/-- What holds of a body where no module has the attribute `path`: its package is the names of the
module that its file makes up and those of the modules in the file around it; the modules in it are
in the directory that these names spell; and its file is the one that the first of them spell. -/
structure Body.Spelled (w : Walker) (v : Visit) (b : Body) (outer inner : List Name) : Prop where
  lexical : ∀ n ∈ outer ++ inner, n.Lexical
  package : b.scope.package.segments = (outer ++ inner).map Name.written
  directory : b.scope.directory = .ofNames ((outer ++ inner).map Name.text)
  location : b.location = w.root.moduleFile v.location (outer.map Name.written)
  inside : b.Within w v outer inner

variable {w : Walker} {v : Visit}

theorem Body.Spelled.concat {b : Body} {outer inner : List Name}
    (h : b.Spelled w v outer inner) {name : Name} (hname : name.Lexical) :
    ∀ n ∈ outer ++ inner ++ [name], n.Lexical :=
  List.forall_mem_append.mpr ⟨h.lexical, by simpa using hname⟩

theorem Body.Lexical.submodule {b : Body} (h : b.Lexical) {attributes : List Attribute}
    {name : Name} {content : Option (List Item)}
    (hmem : .submodule attributes name content ∈ b.items) : name.Lexical := by
  cases h.items _ hmem with
  | submodule _ hname _ => exact hname

/-- **A module leads to modules whose names spell their files.** -/
theorem Leads.spelled {a b : Body} (h : w.Leads a b) (hreaches : w.Reaches v b)
    (hfree : a.PathFree w.conditions) (hlexical : a.Lexical) {outer inner : List Name}
    (ha : a.Spelled w v outer inner) : ∃ outer' inner', b.Spelled w v outer' inner' := by
  cases h with
  | @inside attributes name items mem enabled =>
      -- one more module in the same file
      have hname := hlexical.submodule mem
      obtain ⟨source, scope, hfile, hpackage, hload, hencloses⟩ := ha.inside
      refine ⟨outer, inner ++ [name], ?_, ?_, ?_, ha.location,
        source, scope, hfile, hpackage, hload, hencloses.inside mem enabled⟩
      · rw [← List.append_assoc]
        exact ha.concat hname
      · simp [innerScope, inlineScope, Package.child, ha.package]
      · simp only [innerScope, inlineScope, hfree mem enabled, ha.directory]
        rw [Location.child_ofNames (List.forall_mem_map.mpr fun n hn => (ha.lexical n hn).isName)
          hname.isName]
        simp
  | @outside attributes name target directory _ mem enabled located holds =>
      -- a file of its own: all names so far lead to it
      have hname := hlexical.submodule mem
      rw [hfree mem enabled] at located
      obtain ⟨rfl, rfl⟩ := SourceRoot.locate?_spelled (ha.concat hname) ha.directory v.location
        located
      cases holds with
      | @file source loaded _ =>
          have hpackage : (a.scope.package.child name.written).segments
              = (outer ++ inner ++ [name]).map Name.written := by
            simp [Package.child, ha.package]
          refine ⟨outer ++ inner ++ [name], [], ?_, ?_, ?_, ?_,
            source, _, hreaches, hpackage, loaded, .here⟩
          · rw [List.append_nil]
            exact ha.concat hname
          · rw [List.append_nil]
            exact hpackage
          · simp [moduleVisit]
          · simp [moduleVisit]

/-- **The names of every module spell its file**, where no module has the attribute `path`. -/
theorem Reaches.spelled {b : Body} (h : w.Reaches v b) (hroot : LoadsLexical w.root)
    (hscope : v.scope = Crate.rootScope) (hfree : ∀ b, w.Reaches v b → b.PathFree w.conditions) :
    b.Lexical ∧ ∃ outer inner, b.Spelled w v outer inner := by
  obtain ⟨a, hholds, hsteps⟩ := h
  induction hsteps with
  | refl =>
      have hreaches : w.Reaches v a := ⟨a, hholds, .refl⟩
      have hlexical : a.Lexical := hholds.lexical hroot (by rw [hscope]; exact ⟨[], by simp, rfl⟩)
      refine ⟨hlexical, [], [], ?_⟩
      cases hholds with
      | file loaded enabled =>
          exact ⟨by simp, by rw [hscope]; rfl, by rw [hscope]; rfl, rfl,
            _, _, hreaches, by rw [hscope]; rfl, loaded, .here⟩
  | @tail b b' hsteps hstep ih =>
      obtain ⟨hlexical, outer, inner, hspelled⟩ := ih
      exact ⟨hstep.lexical hroot hlexical,
        hstep.spelled ⟨a, hholds, hsteps.tail hstep⟩ (hfree b ⟨a, hholds, hsteps⟩) hlexical
          hspelled⟩

end Walker

/-! ## Crates -/

theorem Package.qualify_eq_intercalate (p : Package) (name : String) :
    p.qualify name = "::".intercalate (p.segments ++ [name]) := by
  unfold qualify isUnnamed text
  cases hsegments : p.segments with
  | nil => simp
  | cons first rest =>
      rw [if_neg (by simp), String.intercalate_append_of_ne_nil (by simp) (by simp),
        String.intercalate_singleton]

namespace Crate

variable {c : Crate} {t : FileTree}

/-- **Module files are found where the package says.** Where no module of a crate has the attribute
`path`, every declaration that is found stands in the file that its package spells: the package is
the names of the module that makes up a file of its own and the names of the modules in that file
around the declaration, and the first of these, without the mark of raw names, spell the file. The
qualified name is the names of the package and that of the type with `::` between them. -/
theorem anchors_spelled {ds : List Declaration} {events : List Event}
    (h : c.declarations t = .ok ⟨.ok ds, events⟩)
    (hfree : ∀ b, c.Reaches t b → b.PathFree c.conditions) :
    ∀ d ∈ ds, ∃ place, t.openDirectory t.ambient c.directory = .ok place
      ∧ ∃ (outer inner : List Name) (file : Location) (scope : Scope) (source : SourceFile)
          (items : List Item) (type : TypeItem),
        d.package.segments = (outer ++ inner).map Name.written
        ∧ file = (t.sourceRoot place).moduleFile ⟨c.entry⟩ (outer.map Name.written)
        ∧ (t.sourceRoot place).load file = .ok source
        ∧ c.Reaches t ⟨file, scope, source.items⟩
        ∧ scope.package.segments = outer.map Name.written
        ∧ Encloses c.conditions source.items inner items
        ∧ .type type ∈ items ∧ d.simpleName = type.name.written
        ∧ d.anchor = some ⟨(c.directory.join file).text, type.place.line⟩
        ∧ d.qualifiedName = "::".intercalate (d.package.segments ++ [d.simpleName]) := by
  intro d hd
  obtain ⟨place, b, hopen, hreaches, type, hmem, hdeclared⟩ := declares_of_declarations h hd
  obtain ⟨-, outer, inner, hspelled⟩ := hreaches.spelled (t.loadsLexical place) rfl
    fun b hb => hfree b ⟨place, hopen, hb⟩
  obtain ⟨source, scope, hfile, hpackage, hload, hencloses⟩ := hspelled.inside
  refine ⟨place, hopen, outer, inner, b.location, scope, source, b.items, type, ?_⟩
  unfold TypeItem.declaration? at hdeclared
  split at hdeclared
  · cases hdeclared
    exact ⟨hspelled.package, hspelled.location, hload, ⟨place, hopen, hfile⟩, hpackage, hencloses,
      hmem, rfl, rfl, Package.qualify_eq_intercalate _ _⟩
  · cases hdeclared

/-! ## Files beside and inside of directories -/

theorem moduleAttributes_of_mem {items : List Item} {attributes : List Attribute} {name : Name}
    {content : Option (List Item)} (h : .submodule attributes name content ∈ items) :
    attributes ∈ moduleAttributes items
      ∧ ∀ inner, content = some inner → moduleAttributes inner ⊆ moduleAttributes items := by
  induction items with
  | nil => cases h
  | cons item rest ih =>
      rw [moduleAttributes]
      rcases List.mem_cons.mp h with rfl | hmem
      · cases content with
        | none => exact ⟨by simp [Item.moduleAttributes], fun inner hinner => by cases hinner⟩
        | some inner =>
            refine ⟨by simp [Item.moduleAttributes], fun _ hinner => ?_⟩
            cases hinner
            rw [Item.moduleAttributes, List.cons_append]
            exact List.Subset.trans (List.subset_append_left _ _) (List.subset_cons_self _ _)
      · obtain ⟨hattributes, hinner⟩ := ih hmem
        exact ⟨List.mem_append_right _ hattributes, fun inner hsome =>
          List.Subset.trans (hinner inner hsome) (List.subset_append_right _ _)⟩

/-- **It is enough to look at each file by itself.** -/
theorem pathFree_of_everySource (h : t.everySource (fun source => decide source.PathFree) = true)
    {b : Walker.Body} (hb : c.Reaches t b) : b.PathFree c.conditions := by
  have hall : ∀ attributes ∈ moduleAttributes b.items, pathAttribute? attributes = none :=
    hb.of_everySource
      (P := fun items => ∀ attributes ∈ moduleAttributes items, pathAttribute? attributes = none)
      h (fun source hsource => (of_decide_eq_true hsource).2)
      fun hitems hmem attributes hattributes =>
        hitems attributes ((moduleAttributes_of_mem hmem).2 _ rfl hattributes)
  intro attributes name content hmem _
  exact hall _ (moduleAttributes_of_mem hmem).1

/-- A crate with a raw module in a file beside its parent, and with a module in a directory inside
of one that is written in place. -/
def spelledTree : FileTree where
  entries := [(["src"], .directory),
    (["src", "main.rs"], .file "mod r#type; mod a \x7b mod b; pub struct X; \x7d".toUTF8),
    (["src", "type.rs"], .file "mod c \x7b pub struct Y; \x7d".toUTF8),
    (["src", "a"], .directory), (["src", "a", "b"], .directory),
    (["src", "a", "b", "mod.rs"], .file "pub struct Z;".toUTF8)]

/-- The crate of these files. -/
def spelledCrate : Crate := ⟨⟨"src"⟩, "main.rs", {}⟩

/-- The qualified names of what was found, each with its file. -/
def declaredFiles : Except Halt Findings → List (String × Option String)
  | .ok ⟨.ok found, _⟩ => found.map fun d => (d.qualifiedName, d.anchor.map Anchor.file)
  | _ => []

/-- The declarations of this crate stand in the files that their packages spell. -/
theorem spelledFiles_found : ∃ ds events,
    spelledCrate.declarations spelledTree = .ok ⟨.ok ds, events⟩
      ∧ declaredFiles (.ok ⟨.ok ds, events⟩)
        = [("r#type::c::Y", some "src/type.rs"), ("a::b::Z", some "src/a/b/mod.rs"),
          ("a::X", some "src/main.rs")]
      ∧ (∀ b, spelledCrate.Reaches spelledTree b → b.PathFree spelledCrate.conditions)
      ∧ ∀ d ∈ ds, ∃ outer inner : List Name,
        d.package.segments = (outer ++ inner).map Name.written
          ∧ d.anchor.map Anchor.file = some (Location.join ⟨"src"⟩
            ((spelledTree.sourceRoot ["src"]).moduleFile ⟨"main.rs"⟩
              (outer.map Name.written))).text := by
  have hfiles : declaredFiles (spelledCrate.declarations spelledTree)
      = [("r#type::c::Y", some "src/type.rs"), ("a::b::Z", some "src/a/b/mod.rs"),
        ("a::X", some "src/main.rs")] := by decide +kernel
  have hevery : spelledTree.everySource (fun source => decide source.PathFree) = true := by
    decide +kernel
  have hopen : spelledTree.openDirectory spelledTree.ambient spelledCrate.directory
      = .ok ["src"] := by rfl
  cases hdeclared : spelledCrate.declarations spelledTree with
  | error halt =>
      rw [hdeclared] at hfiles
      cases hfiles
  | ok findings =>
      obtain ⟨result, events⟩ := findings
      cases result with
      | error reason =>
          rw [hdeclared] at hfiles
          cases hfiles
      | ok ds =>
          rw [hdeclared] at hfiles
          refine ⟨ds, events, rfl, hfiles, fun b hb => pathFree_of_everySource hevery hb,
            fun d hd => ?_⟩
          obtain ⟨place, hplace, outer, inner, file, -, -, -, type, hpackage, hfile, -, -, -, -, -,
            -, hanchor, -⟩ :=
            anchors_spelled hdeclared (fun b hb => pathFree_of_everySource hevery hb) d hd
          rw [hopen] at hplace
          cases hplace
          subst hfile
          exact ⟨outer, inner, hpackage, by rw [hanchor]; rfl⟩

end Crate

end Fieldwise
