import Fieldwise.Proofs.Bundle.Assembly

set_option autoImplicit false

/-! # What is assembled is read as a source file

`Bundle.printed` reads each path by itself. Here the paths are read where they stand: the trees of a
whole bundle are accepted as a source file, one reader after the other, from the statement in a body
up to the list of items (`PrintedBundle.readTrees_trees`). Only the word `try` in front of the trait
makes a difference, and it does so in both ways of reading (`Bundle.Made.refused_or_read`).
-/

namespace Fieldwise

open Token Grammar Layout Text

/-! ## Bodies -/

namespace PrintedBody

open Grammar.Parser

/-- The text that a body gives is taken as the argument of a call. -/
theorem takes_call (k : Nat) (e : Expr) (value : String) :
    ∃ arguments, ((rules (k + 4)).trailers e).Takes [.enclosed .parenthesis [.text value]]
      (e.call arguments) [] :=
  ⟨_, fun _ _ => ⟨_, rfl⟩⟩

/-- No operator comes after a call that ends a block. -/
theorem takes_operatorsRule (r : Rules) (e : Expr) (arguments : List Expr) :
    (r.operatorsRule (e.call arguments) true .loosest).Takes [] (e.call arguments) [] :=
  fun _ _ => ⟨_, rfl⟩

/-- A body is taken as an expression at the start of a line. -/
theorem accepts_line (k : Nat) (body : PrintedBody) :
    (rules (k + 6)).line.Accepts body.trees [] := by
  cases body with
  | fixed text =>
      obtain ⟨e, hatom⟩ : ∃ e, ((rules (k + 5)).atom true).Takes (PrintedBody.fixed text).trees e
          [.enclosed .parenthesis [.text text]] := ⟨_, fun _ _ => ⟨_, rfl⟩⟩
      obtain ⟨arguments, hcall⟩ := takes_call (k + 1) e text
      have hattributes : (rules (k + 5)).outerLayout.Takes (PrintedBody.fixed text).trees
          (Attribute.layoutAll false []) (PrintedBody.fixed text).trees :=
        (rules (k + 5)).takes_outerLayout rfl
      have hoperator : Rules.operatorBefore?.Takes (PrintedBody.fixed text).trees none
          (PrintedBody.fixed text).trees := fun _ _ => ⟨_, rfl⟩
      have hhere : here.Takes (PrintedBody.fixed text).trees (some .start)
          (PrintedBody.fixed text).trees := fun _ _ => ⟨_, rfl⟩
      have hoperand : ((rules (k + 5)).operandRule true).Takes (PrintedBody.fixed text).trees
          (e.call arguments) [] :=
        hattributes.bind (hoperator.bind (hhere.bind (hatom.bind (hcall.bind (takes_pure _ [])))))
      -- no block comes next, so that the line is an operand with the operators after it
      have hline : (rules (k + 5)).lineRule.Accepts (PrintedBody.fixed text).trees [] :=
        hattributes.accepts_bind
          (.ask rfl (hoperand.accepts_bind (takes_operatorsRule _ e arguments).accepts))
      exact hline
  | formatted template accessors => exact ⟨_, fun _ _ => ⟨_, rfl⟩⟩

/-- A body begins with a path from the root of all crates. -/
theorem trees_eq_colons (body : PrintedBody) : ∃ more, body.trees = colonTrees ++ more := by
  cases body with
  | fixed text => exact ⟨_, rfl⟩
  | formatted template accessors => exact ⟨_, rfl⟩

/-- A body is a call or an invocation that gives a value, no statement of another kind. -/
theorem takes_invocationAhead (body : PrintedBody) :
    invocationAhead.Takes body.trees .none body.trees := by
  cases body with
  | fixed text => exact fun _ _ => ⟨_, rfl⟩
  | formatted template accessors => exact fun _ _ => ⟨_, rfl⟩

theorem accepts_statement (k : Nat) (body : PrintedBody) :
    (rules (k + 6)).statement.Accepts body.trees [] := by
  have hinvocation := takes_invocationAhead body
  have hline := accepts_line k body
  obtain ⟨more, htrees⟩ := body.trees_eq_colons
  rw [htrees] at hinvocation hline ⊢
  refine ((rules (k + 6)).takes_outerAttributes rfl).accepts_bind (hinvocation.accepts_bind ?_)
  -- it begins with two colons, so that it is no `let` and no item
  refine .ask rfl (.ask rfl (hline.bind fun e => ?_))
  exact (takes_punct? rfl).accepts_bind (takes_pure _ []).accepts

theorem takes_emptyStatements {trees : List Tree} (h : Ahead.punct [';'] trees = false) :
    Rules.emptyStatements.Takes trees [] trees :=
  takes_nothing ((takes_punct? h).bind (takes_pure none trees))

/-- The body of a function is taken as the only statement of a block. -/
theorem accepts_statements (k : Nat) (body : PrintedBody) :
    (rules (k + 7)).statements.Accepts body.trees [] := by
  obtain ⟨⟨s, unfinished⟩, hstatement⟩ := accepts_statement k body
  obtain ⟨more, htrees⟩ := body.trees_eq_colons
  rw [htrees] at hstatement ⊢
  have hrule : (rules (k + 6)).statementsRule.Accepts (colonTrees ++ more) [] := by
    refine (takes_emptyStatements rfl).accepts_bind
      ((takes_single [s] [] ?_ ?_ ?_).accepts_bind (takes_pure _ []).accepts)
    · refine .ask rfl (hstatement.bind (.ask rfl ?_))
      dsimp only
      -- nothing is missing after the last statement of a block
      rw [Bool.and_comm]
      exact (takes_emptyStatements rfl).bind (takes_pure _ [])
    · simp [colonTrees]
    · exact .ask rfl (takes_pure none [])
  exact hrule

theorem accepts_block (k : Nat) (body : PrintedBody) :
    (rules (k + 7)).block.Accepts [.enclosed .brace body.trees] [] := by
  have hstatements := accepts_statements k body
  obtain ⟨more, htrees⟩ := body.trees_eq_colons
  rw [htrees] at hstatements ⊢
  exact Accepts.group (((rules (k + 7)).takes_innerLayout rfl).accepts_bind
    (hstatements.bind fun _ => (takes_pure _ []).accepts))

end PrintedBody

/-! ## Functions -/

namespace PrintedFunction

open Grammar.Parser

/-- The name of the instance is taken as a pattern. -/
theorem takes_pattern (k : Nat) (body : PrintedBody) (more : List Tree) :
    ∃ pattern, (rules (k + 3)).pattern.Takes (.word body.parameter :: .mark ':' :: more) pattern
      (.mark ':' :: more) := by
  cases body with
  | fixed text => exact ⟨_, fun _ _ => ⟨_, rfl⟩⟩
  | formatted template accessors => exact ⟨_, fun _ _ => ⟨_, rfl⟩⟩

/-- The instance is taken as an argument that is a reference. -/
theorem takes_argument (k : Nat) (body : PrintedBody) {p : Path} (hp : p.OfNames)
    (htry : p.beginsWithTry = false) : ∃ layout, (rules (k + 3)).argumentOf.Takes
      (.word body.parameter :: .mark ':' :: .mark '&' :: p.trees) (.typed layout) [] := by
  obtain ⟨t, htype⟩ := Rules.accepts_reference k hp htry
  obtain ⟨pattern, hpattern⟩ := takes_pattern k body (.mark '&' :: p.trees)
  have hreceiver : receiverAhead (.word body.parameter :: .mark ':' :: .mark '&' :: p.trees)
      = false := by
    cases body with
    | fixed text => rfl
    | formatted template accessors => rfl
  have hbare : Ahead.and .identifier (.second (.punct ['<']))
      (.word body.parameter :: .mark ':' :: .mark '&' :: p.trees) = false :=
    Bool.and_false _
  exact ⟨_, (takes_punct? rfl).bind (.ask hreceiver (.ask hbare (hpattern.bind
    ((takes_punct rfl).bind ((takes_punct? rfl).bind (htype.bind (takes_pure _ [])))))))⟩

/-- It is the only one. -/
theorem accepts_functionArguments (k : Nat) (body : PrintedBody) {p : Path} (hp : p.OfNames)
    (htry : p.beginsWithTry = false) : (rules (k + 3)).functionArguments.Accepts
      (.word body.parameter :: .mark ':' :: .mark '&' :: p.trees) [] := by
  obtain ⟨layout, hargument⟩ := takes_argument k body hp htry
  -- no comma comes after the argument, so that the list is complete with it
  let found : Rules.ArgumentList :=
    { items := [Attribute.layoutAll false [] ++ layout], more := false }
  refine ⟨found, takes_once found [] ?_ ?_ ?_⟩
  · exact .ask rfl (((rules (k + 3)).takes_outerLayout rfl).bind
      (hargument.bind (.ask rfl (takes_pure _ []))))
  · simp
  · exact .ask rfl (takes_pure none [])

theorem accepts_signature (k : Nat) (f : PrintedFunction) (hp : f.typePath.OfNames)
    (htry : f.typePath.beginsWithTry = false) : ((rules (k + 3)).signature false).Accepts
      f.functionTrees [.enclosed .brace f.body.trees] := by
  have harguments := accepts_functionArguments k f.body hp htry
  have hresult : ((rules (k + 3)).resultType true).Accepts
      (.punct '-' true .start :: .mark '>' :: (Tree.path ["std", "string", "String"]
        ++ [.enclosed .brace f.body.trees])) [.enclosed .brace f.body.trees] :=
    ⟨_, fun _ _ => ⟨_, rfl⟩⟩
  -- the words that may stand before a function are asked for first
  refine (takes_spacedWord rfl).accepts_bind ((takes_spacedWord rfl).accepts_bind
    ((takes_spacedWord rfl).accepts_bind ((takes_pure false _).accepts_bind
      ((takes_convention rfl).accepts_bind ?_))))
  refine (takes_word rfl).accepts_bind ((takes_identifier rfl _).accepts_bind
    (((rules (k + 3)).takes_parameters rfl).accepts_bind (harguments.group.bind fun _ =>
      hresult.bind fun _ => ?_)))
  exact ((rules (k + 3)).takes_whereClause rfl).accepts_bind (takes_pure _ _).accepts

/-- The function is taken as a member of an implementation. -/
theorem accepts_implMember (k : Nat) (f : PrintedFunction) (hp : f.typePath.OfNames)
    (htry : f.typePath.beginsWithTry = false) :
    (rules (k + 7)).implMember.Accepts f.functionTrees [] := by
  have hsignature := accepts_signature (k + 4) f hp htry
  have hblock := f.body.accepts_block k
  refine ((rules (k + 7)).takes_outerLayout rfl).accepts_bind
    ((takes_visibilityAhead rfl).accepts_bind ?_)
  refine Accepts.bind ?_ fun head => hsignature.bind fun s => ?_
  · exact (takes_visibility rfl).accepts_bind
      ((takes_pure "" _).accepts_bind (takes_pure _ _).accepts)
  · exact (takes_punct? rfl).accepts_bind (hblock.bind fun _ => (takes_pure _ []).accepts)

/-! ## Implementations -/

/-- The trait is taken as the last name of its path, with the path of the type as its argument. -/
theorem takesAll_trait (k : Nat) {p : Path} (hp : p.OfNames) (htry : p.beginsWithTry = false)
    (more : List Tree) : ∃ segments, TakesAll (rules (k + 3)).laterSegment
      (Tree.path [traitName] ++ .mark '<' :: (p.trees ++ .mark '>' :: .word "for" :: more)) segments
      (.word "for" :: more) := by
  obtain ⟨arguments, harguments⟩ := Rules.accepts_angleArguments k hp htry (.word "for" :: more)
  -- the path goes on behind the colons with a name that has generic arguments, unlike the others
  have hsegment : ((rules (k + 3)).segment false).Takes (.word traitName :: .mark '<'
      :: (p.trees ++ .mark '>' :: .word "for" :: more)) ⟨.plain traitName, arguments⟩
      (.word "for" :: more) :=
    .ask rfl (.ask rfl ((takes_identifier rfl _).bind (.ask rfl
      ((takes_punct? rfl).bind (harguments.bind (takes_pure _ _))))))
  have hend : (rules (k + 3)).laterSegment.Takes (.word "for" :: more) none (.word "for" :: more) :=
    .ask rfl (takes_pure none _)
  refine ⟨[⟨.plain traitName, arguments⟩], .cons ?_ ?_ (.nil hend)⟩
  · exact .ask rfl ((takes_punct rfl).bind (hsegment.bind (takes_pure _ _)))
  · simp only [Tree.path, List.length_append, List.length_cons]
    omega

/-- The path of the trait is taken as a type. -/
theorem accepts_trait (k : Nat) {runtime p : Path} (hruntime : runtime.OfNames)
    (hfirst : runtime.beginsWithTry = false) (hp : p.OfNames) (htry : p.beginsWithTry = false)
    (more : List Tree) : ((rules (k + 4)).type true).Accepts (runtime.trees
      ++ (Tree.path [traitName] ++ .mark '<' :: (p.trees ++ .mark '>' :: .word "for" :: more)))
      (.word "for" :: more) := by
  obtain ⟨segments, htrait⟩ := takesAll_trait k hp htry more
  have hpath := (rules (k + 3)).takes_pathBefore hruntime rfl htrait
  have htype := Rules.takes_typeRule (k + 2) true hpath (hruntime.pathAhead hfirst rfl)
    ⟨rfl, rfl, rfl, rfl, rfl⟩
  exact htype.accepts

variable {typeName : Name} {runtime : Path} {f : PrintedFunction}

/-- The trees of an implementation after its first word. -/
def subjectTrees (typeName : Name) (runtime : Path) (f : PrintedFunction) (more : List Tree) :
    List Tree :=
  runtime.trees ++ (Tree.path [traitName] ++ .mark '<' :: (f.typePath.trees
    ++ .mark '>' :: .word "for" :: .name typeName .start :: .enclosed .brace f.functionTrees
      :: more))

theorem trees_append (typeName : Name) (runtime : Path) (f : PrintedFunction) (more : List Tree) :
    f.trees typeName runtime ++ more = .word "impl" :: subjectTrees typeName runtime f more := by
  simp [trees, subjectTrees]

/-- The trait and the type of an implementation are taken. -/
theorem accepts_implSubject (k : Nat) (hname : isIdentifier typeName = true)
    (hruntime : runtime.OfNames) (hfirst : runtime.beginsWithTry = false)
    (hp : f.typePath.OfNames) (htry : f.typePath.beginsWithTry = false) (more : List Tree) :
    ∃ subject, (rules (k + 4)).implSubject.Takes (subjectTrees typeName runtime f more)
      (false, subject) (.enclosed .brace f.functionTrees :: more) := by
  have hfront : PathFront (subjectTrees typeName runtime f more) := hruntime.front _
  obtain ⟨trait, htrait⟩ := accepts_trait k hruntime hfirst hp htry
    (.name typeName .start :: .enclosed .brace f.functionTrees :: more)
  obtain ⟨hofName, hother⟩ := ofNames_of_identifier hname
  have htype := Rules.takes_pathType (k + 2) true hofName hother
    (Rules.endsPath_group .brace f.functionTrees .start .start more)
  have hfor : (word? "for").Takes (.word "for" :: .name typeName .start
      :: .enclosed .brace f.functionTrees :: more) true
      (.name typeName .start :: .enclosed .brace f.functionTrees :: more) := fun _ _ => ⟨_, rfl⟩
  exact ⟨_, hfront.here.bind (.ask hfront.positive ((takes_pure false _).bind (htrait.bind
    (hfor.bind (htype.bind (takes_pure _ _))))))⟩

/-- The function is all that an implementation holds. -/
theorem accepts_content (k : Nat) (f : PrintedFunction) (hp : f.typePath.OfNames)
    (htry : f.typePath.beginsWithTry = false) :
    Accepts (do
      let inner ← (rules (k + 7)).innerLayout
      return inner ++ .concat (← untilFinished (rules (k + 7)).implMember)) f.functionTrees [] := by
  obtain ⟨member, hmember⟩ := accepts_implMember k f hp htry
  refine ((rules (k + 7)).takes_innerLayout rfl).accepts_bind
    ((takes_single member [] ?_ ?_ ?_).accepts_bind (takes_pure _ []).accepts)
  · exact .ask rfl (hmember.bind (takes_pure _ []))
  · simp [functionTrees]
  · exact .ask rfl (takes_pure none [])

/-- An implementation is taken as an item. -/
theorem takes_implItem (k : Nat) (hname : isIdentifier typeName = true)
    (hruntime : runtime.OfNames) (hfirst : runtime.beginsWithTry = false)
    (hp : f.typePath.OfNames) (htry : f.typePath.beginsWithTry = false) (more : List Tree) :
    ∃ layout, (rules (k + 7)).implItem.Takes (.word "impl" :: subjectTrees typeName runtime f more)
      (.other, layout) more := by
  have hfront : PathFront (subjectTrees typeName runtime f more) := hruntime.front _
  obtain ⟨subject, hsubject⟩ := accepts_implSubject (k + 3) hname hruntime hfirst hp htry more
  obtain ⟨content, hcontent⟩ := accepts_content k f hp htry
  have hconditions : (rules (k + 7)).whereClause.Takes (.enclosed .brace f.functionTrees :: more)
      [] (.enclosed .brace f.functionTrees :: more) := (rules (k + 7)).takes_whereClause rfl
  exact ⟨_, (takes_visibility rfl).bind ((takes_spacedWord rfl).bind ((takes_spacedWord rfl).bind
    ((takes_word rfl).bind (.ask hfront.unbound ((takes_pure [] _).bind (.ask hfront.notConstant
      (hsubject.bind (hconditions.bind (hcontent.group.bind (takes_pure _ _))))))))))⟩

/-- An implementation is taken as an item without attributes. -/
theorem takes_attributedItem (k : Nat) (hname : isIdentifier typeName = true)
    (hruntime : runtime.OfNames) (hfirst : runtime.beginsWithTry = false)
    (hp : f.typePath.OfNames) (htry : f.typePath.beginsWithTry = false) (more : List Tree) :
    (rules (k + 7)).attributedItem.Takes (f.trees typeName runtime ++ more) .other more := by
  obtain ⟨layout, hitem⟩ := takes_implItem k hname hruntime hfirst hp htry more
  rw [trees_append]
  have hbare : ((rules (k + 7)).bareItem []).Takes
      (.word "impl" :: subjectTrees typeName runtime f more) (.other, layout) more :=
    (takes_visibilityAhead rfl).bind hitem
  exact ((rules (k + 7)).takes_outerAttributes rfl).bind
    ((hbare.bind (takes_pure _ _)).bind (takes_pure _ _))

/-- An implementation of a trait that `try` leads to is no item. -/
theorem refuses_attributedItem (k : Nat) (typeName : Name) (f : PrintedFunction)
    (hfirst : runtime.beginsWithTry = true) (more : List Tree) :
    (rules (k + 2)).attributedItem.Refuses (f.trees typeName runtime ++ more) := by
  rw [trees_append]
  obtain ⟨later, htrees⟩ : ∃ later, subjectTrees typeName runtime f more
      = .name (.plain "try") .start :: later := runtime.trees_eq_try hfirst _
  rw [htrees]
  have hfront : PathFront (.name (.plain "try") .start :: later) :=
    .name (.inr ⟨"try", by decide, rfl⟩) later
  have htype := Rules.refuses_try k true later
  have hsubject : (rules (k + 2)).implSubject.Refuses (.name (.plain "try") .start :: later) :=
    hfront.here.refuses_bind (.ask hfront.positive
      ((takes_pure false _).refuses_bind (htype.bind _)))
  have himpl : (rules (k + 2)).implItem.Refuses
      (.word "impl" :: .name (.plain "try") .start :: later) :=
    (takes_visibility rfl).refuses_bind ((takes_spacedWord rfl).refuses_bind
      ((takes_spacedWord rfl).refuses_bind ((takes_word rfl).refuses_bind
        (.ask hfront.unbound ((takes_pure [] _).refuses_bind (.ask hfront.notConstant
          (hsubject.bind _)))))))
  have hbare : ((rules (k + 2)).bareItem []).Refuses
      (.word "impl" :: .name (.plain "try") .start :: later) :=
    (takes_visibilityAhead rfl).refuses_bind himpl
  exact ((rules (k + 2)).takes_outerAttributes rfl).refuses_bind ((hbare.bind _).bind _)

end PrintedFunction

/-! ## The whole file -/

namespace PrintedBundle

open Grammar.Parser

/-- The type of a generated file. -/
def typeItem (typeName : Name) (attributes : List Attribute) : Item :=
  .type
    { attributes, visibility := .unrestricted, name := typeName, place := .start, generics := [],
      body := .struct .unit }

/-- The head of the type is taken after its visibility and its word. -/
theorem takes_typeHead (r : Rules) {typeName : Name} (hname : isIdentifier typeName = true)
    (vis : Layout.Doc) (more : List Tree) : ∃ h : Rules.TypeHead,
      (r.typeHead (.unrestricted, vis) "struct ").Takes
        (.name typeName .start :: .mark ';' :: more) h (.mark ';' :: more)
      ∧ ∀ attributes, h.item attributes (.struct .unit) = typeItem typeName attributes := by
  have hplaced : placedIdentifier.Takes (.name typeName .start :: .mark ';' :: more)
      (typeName, .start) (.mark ';' :: more) := by
    intro limit braced
    obtain ⟨last, hread⟩ := takes_identifier hname .start limit braced
    refine ⟨last, ?_⟩
    show (do let n ← identifier; pure (n, .start) : Parser (Name × Position)) _ = _
    rw [bind_ok hread]
    rfl
  exact ⟨_, hplaced.bind ((r.takes_parameters rfl).bind (takes_pure _ _)), fun _ => rfl⟩

/-- The type is taken with its documentation. -/
theorem takes_typeItem (r : Rules) {typeName : Name} (hname : isIdentifier typeName = true)
    (doc : List Char) (more : List Tree) : ∃ attributes, r.attributedItem.Takes
      (Source.docAttribute doc false .start
        ++ .word "pub" :: .word "struct" :: .name typeName .start :: .mark ';' :: more)
      (typeItem typeName attributes) more := by
  let below : List Tree := .word "struct" :: .name typeName .start :: .mark ';' :: more
  obtain ⟨h, hhead, hitem⟩ := takes_typeHead r hname (visibilityLayout .unrestricted .empty) more
  obtain ⟨layout, hbody⟩ : ∃ layout, (r.structBody h).Takes (.mark ';' :: more) (.unit, layout)
      more := ⟨_, fun _ _ => ⟨_, rfl⟩⟩
  obtain ⟨attributes, hattributes⟩ : ∃ attributes, r.outerAttributes.Takes
      (Source.docAttribute doc false .start ++ .word "pub" :: below) attributes
      (.word "pub" :: below) := ⟨_, fun _ _ => ⟨_, rfl⟩⟩
  have hpublic : visibility.Takes (.word "pub" :: below)
      (.unrestricted, visibilityLayout .unrestricted .empty) below := fun _ _ => ⟨_, rfl⟩
  have hvisibility : visibilityAhead.Takes (.word "pub" :: below) (.unrestricted, below)
      (.word "pub" :: below) := fun _ _ => ⟨_, rfl⟩
  have hstruct : (r.structItem attributes).Takes (.word "pub" :: below)
      (typeItem typeName attributes, layout) more := by
    rw [← hitem attributes]
    exact hpublic.bind ((takes_word rfl).bind (hhead.bind (hbody.bind (takes_pure _ more))))
  have hbare : (r.bareItem attributes).Takes (.word "pub" :: below)
      (typeItem typeName attributes, layout) more := hvisibility.bind hstruct
  obtain ⟨printed, hitem⟩ : ∃ printed, (r.itemRule attributes).Takes (.word "pub" :: below)
      (typeItem typeName attributes, printed) more := ⟨_, hbare.bind (takes_pure _ _)⟩
  exact ⟨attributes, hattributes.bind (hitem.bind (takes_pure _ _))⟩

/-- The step that takes one item after another. -/
def itemStep (r : Rules) : Parser (Option Item) := do
  if ← finished then return none
  return some (← r.attributedItem)

/-- The names of a bundle fit where they are put. -/
structure Fits (b : PrintedBundle) : Prop where
  typeName : isIdentifier b.typeName = true
  runtime : b.functions ≠ [] → b.runtime.OfNames ∧ b.runtime.beginsWithTry = false
  paths : ∀ f ∈ b.functions, f.typePath.OfNames ∧ f.typePath.beginsWithTry = false

/-- The implementations are taken one after the other. -/
theorem takesAll_functions (k : Nat) {typeName : Name} {runtime : Path}
    {functions : List PrintedFunction} (h : Fits ⟨typeName, runtime, functions⟩) :
    TakesAll (itemStep (rules (k + 7))) (functions.flatMap (PrintedFunction.trees typeName runtime))
      (functions.map fun _ => .other) [] := by
  induction functions with
  | nil => exact .nil (.ask rfl (takes_pure none []))
  | cons f more ih =>
      obtain ⟨hruntime, hfirst⟩ := h.runtime (List.cons_ne_nil _ _)
      obtain ⟨⟨hp, htry⟩, hpaths⟩ := List.forall_mem_cons.mp h.paths
      have hitem := PrintedFunction.takes_attributedItem k h.typeName hruntime hfirst hp htry
        (more.flatMap (PrintedFunction.trees typeName runtime))
      rw [List.flatMap_cons]
      refine .cons (.ask rfl (hitem.bind (takes_pure _ _))) ?_
        (ih ⟨h.typeName, fun _ => ⟨hruntime, hfirst⟩, hpaths⟩)
      have hlength : 0 < (f.trees typeName runtime).length := Nat.succ_pos _
      rw [List.length_append]
      omega

/-- **What is assembled is a source file**, if its names fit: the documented type, and one item for
each function. -/
theorem readTrees_trees {b : PrintedBundle} (h : b.Fits) : ∃ attributes,
    readTrees Rules.file b.trees
      = .ok ⟨[], typeItem b.typeName attributes :: b.functions.map fun _ => .other⟩ := by
  -- however few trees there are, the rules are deep enough for an implementation
  obtain ⟨k, hk⟩ : ∃ k, rulesFor b.trees = rules (k + 7) := ⟨_, rfl⟩
  obtain ⟨attributes, htype⟩ := takes_typeItem (rules (k + 7)) h.typeName
    (docText b.functions.length).toList
    (b.functions.flatMap (PrintedFunction.trees b.typeName b.runtime))
  refine ⟨attributes, ?_⟩
  have hitems : (untilFinished (rules (k + 7)).attributedItem).Takes b.trees
      (typeItem b.typeName attributes :: b.functions.map fun _ => .other) [] := by
    refine TakesAll.collect (.cons (.ask rfl (htype.bind (takes_pure _ _))) ?_
      (takesAll_functions k h))
    simp only [trees, List.length_append, List.length_cons]
    omega
  rw [readTrees, hk]
  exact Takes.run (((rules (k + 7)).takes_innerAttributes rfl).bind
    (hitems.bind (takes_pure _ [])))

/-- What is assembled is no source file if there is a function, and the path of the runtime crate
begins with `try`. -/
theorem readTrees_trees_of_try {b : PrintedBundle} (hname : isIdentifier b.typeName = true)
    (hfunctions : b.functions ≠ []) (hfirst : b.runtime.beginsWithTry = true) :
    ∃ fault, readTrees Rules.file b.trees = .error fault := by
  obtain ⟨typeName, runtime, functions⟩ := b
  cases functions with
  | nil => exact absurd rfl hfunctions
  | cons f more =>
      let below := (f :: more).flatMap (PrintedFunction.trees typeName runtime)
      let b : PrintedBundle := ⟨typeName, runtime, f :: more⟩
      obtain ⟨k, hk⟩ : ∃ k, rulesFor b.trees = rules (k + 2) := ⟨_, rfl⟩
      obtain ⟨attributes, htype⟩ := takes_typeItem (rules (k + 2)) hname
        (docText (f :: more).length).toList below
      have hitem := PrintedFunction.refuses_attributedItem k typeName f hfirst
        (more.flatMap (PrintedFunction.trees typeName runtime))
      have hitems : (untilFinished (rules (k + 2)).attributedItem).Refuses b.trees := by
        refine refuses_second (.ask rfl (htype.bind (takes_pure _ _))) ?_ (.ask rfl (hitem.bind _))
        simp only [b, trees, below, List.length_append, List.length_cons]
        omega
      rw [readTrees, hk]
      exact Refuses.run (((rules (k + 2)).takes_innerAttributes rfl).refuses_bind
        (hitems.bind _))

end PrintedBundle

/-! ## Bundles of a pass -/

namespace Bundle.Made

variable {b : Bundle} {settings : Settings}

/-- Something is assembled from a bundle of a pass, and it fits apart from the word `try`. -/
theorem exists_assembled (h : b.Made settings) (hcheck : settings.check = .ok ())
    (hplain : ∀ path ∈ b.paths, NamesAlone path) : ∃ p, b.AssembledAs p
      ∧ p.functions ≠ [] ∧ (p.runtime.beginsWithTry = false → p.Fits) := by
  obtain ⟨⟨typeName, htypeName⟩, runtime, hruntime⟩ := Settings.read_of_check hcheck
  obtain ⟨ps, hps, hpaths⟩ := printedFunctions_of_legible h.legible b.rendering
  rw [← h.typeName] at htypeName
  rw [← h.runtime] at hruntime
  have hassembled : b.AssembledAs ⟨typeName, runtime, ps⟩ := ⟨htypeName, hruntime, hps⟩
  have hsome : ps ≠ [] := fun hnone => by
    subst hnone
    exact h.functions (List.forall₂_nil_right_iff.mp hpaths)
  have hfits := hassembled.forall_paths
    (P := fun path => path.OfNames ∧ path.beginsWithTry = false) fun f hf path hread =>
      ⟨ofNames_of_readPath hread (hplain _ (List.mem_flatMap.mpr ⟨f, hf, by simp⟩) _ hread),
        (h.legible f hf).not_beginsWithTry hread⟩
  -- the runtime crate is named by every implementation, and there is one
  obtain ⟨f, hf⟩ := List.exists_mem_of_ne_nil _ h.functions
  have hofNames := ofNames_of_readPath hruntime
    (hplain _ (List.mem_flatMap.mpr ⟨f, hf, List.mem_cons_self⟩) _ hruntime)
  exact ⟨_, hassembled, hsome, fun hfirst =>
    ⟨((accepted_iff _).mp ⟨_, htypeName⟩).2, fun _ => ⟨hofNames, hfirst⟩, hfits⟩⟩

/-- **A bundle is refused just where what is assembled from it is no source file**, if its paths
are names alone. Otherwise it reads as the type and one implementation for each function, and the
text of the bundle has its tokens. -/
theorem refused_or_read (h : b.Made settings) (hcheck : settings.check = .ok ())
    (hplain : ∀ path ∈ b.paths, NamesAlone path) : ∃ p, b.AssembledAs p
      ∧ (((∃ reason, b.render = .ok (.error reason))
          ∧ ∃ fault, readTrees Rules.file p.trees = .error fault)
        ∨ ((¬ ∃ reason, b.render = .ok (.error reason))
          ∧ ∃ attributes, readTrees Rules.file p.trees
            = .ok ⟨[], PrintedBundle.typeItem p.typeName attributes
                :: p.functions.map fun _ => .other⟩))
      ∧ ∀ text, b.render = .ok (.ok text) →
        ∃ found, lexemesOf text = .ok found ∧ Trimmed found (Tree.lexemesAll p.trees) := by
  obtain ⟨p, hp, hsome, hfits⟩ := h.exists_assembled hcheck hplain
  have hruntime : readPath settings.runtime = .ok p.runtime := by
    rw [← h.runtime]
    exact hp.runtime
  have hrefused := (h.renders hcheck hruntime).refused_iff
  refine ⟨p, hp, ?_, fun text htext => hp.text_reads hplain h.functions htext⟩
  cases hfirst : p.runtime.beginsWithTry with
  | true =>
      have hname := ((accepted_iff _).mp ⟨_, hp.typeName⟩).2
      exact .inl ⟨hrefused.mpr hfirst, PrintedBundle.readTrees_trees_of_try hname hsome hfirst⟩
  | false =>
      refine .inr ⟨fun hreason => ?_, PrintedBundle.readTrees_trees (hfits hfirst)⟩
      rw [hrefused, hfirst] at hreason
      cases hreason

end Bundle.Made

end Fieldwise
