import Fieldwise.Proofs.Grammar.Advance

set_option autoImplicit false
set_option synthInstance.maxSize 1000000

/-! # The names of what is read

Every type and module of a source file that has been read has a name that source text can hold
(`lexical_of_readFile`), at every depth of its modules. A name comes from a tree, the trees of a
text hold only such names, and a reader hands on to the next one an end of the trees that it was
given (`Parser.Advances`): so what a reader gives has good names whenever the trees do
(`Parser.Gives`).
-/

namespace Fieldwise.Grammar

open Fieldwise.Token Fieldwise.Layout

/-- An item whose names are ones that source text can hold, those of the items in it too. -/
inductive Item.Lexical : Item → Prop
  | type {t : TypeItem} (hname : t.name.Lexical) : Lexical (.type t)
  | submodule (attributes : List Attribute) {name : Name} {content : Option (List Item)}
      (hname : name.Lexical)
      (hcontent : ∀ items, content = some items → ∀ i ∈ items, Lexical i) :
      Lexical (.submodule attributes name content)
  | other : Lexical .other

/-- A reader whose results meet `P` wherever the names of the trees are ones that source text can
hold. -/
class Parser.Gives {α : Type} (P : α → Prop) (p : Parser α) : Prop where
  holds : ∀ {s after : Input} {a : α}, (∀ t ∈ s.rest, t.Lexical) → p s = .ok (a, after) → P a

namespace Parser

variable {α β : Type} {P : α → Prop} {Q : β → Prop}

/-! ## How results are put together -/

/-- What a reader gives may be used for what the next one gives. -/
theorem Gives.andThen {p : Parser α} {f : α → Parser β} [hadvances : p.Advances]
    [hp : p.Gives P] (hf : ∀ a, P a → (f a).Gives Q) : (p >>= f).Gives Q where
  holds hrest h := by
    obtain ⟨a, mid, hfirst, hsecond⟩ := bind_eq_ok h
    exact (hf a (hp.holds hrest hfirst)).holds
      (fun t ht => hrest t ((hadvances.suffix hfirst).subset ht)) hsecond

theorem Gives.after {p : Parser α} {f : α → Parser β} [hadvances : p.Advances]
    (hf : ∀ a, (f a).Gives Q) : (p >>= f).Gives Q where
  holds hrest h := by
    obtain ⟨a, mid, hfirst, hsecond⟩ := bind_eq_ok h
    exact (hf a).holds (fun t ht => hrest t ((hadvances.suffix hfirst).subset ht)) hsecond

instance (p : Parser α) (f : α → Parser β) [p.Advances] [hf : ∀ a, (f a).Gives Q] :
    (p >>= f).Gives Q := .after hf

theorem Gives.result {a : α} (ha : P a) : (pure a : Parser α).Gives P where
  holds _ h := by
    cases h
    exact ha

/-- Nothing has to be known of the reader before a result that meets `P` anyway. -/
theorem Gives.lastly {p : Parser α} {f : α → β} (hf : ∀ a, Q (f a)) :
    (p >>= fun a => pure (f a)).Gives Q where
  holds _ h := by
    obtain ⟨a, mid, -, hresult⟩ := bind_eq_ok h
    cases hresult
    exact hf a

instance (c : Prop) [Decidable c] (p q : Parser α) [p.Gives P] [q.Gives P] :
    (if c then p else q).Gives P := by
  split <;> infer_instance

instance (cause : Cause) : (failHere cause : Parser α).Gives P where
  holds _ h := by cases h

instance (wanted : List String) : (failExpected wanted : Parser α).Gives P where
  holds _ h := by cases h

theorem Gives.group (d : Delimiter) {content : Parser α} (hcontent : content.Gives P) :
    (group d content).Gives P where
  holds hrest h := by
    unfold Parser.group at h
    split at h
    · rename_i hgroup
      split at h
      · split at h
        · cases h
        · rename_i hread
          cases h
          obtain ⟨htree, -⟩ := List.forall_mem_cons.mp (hgroup ▸ hrest)
          cases htree with
          | group _ hinner _ _ => exact hcontent.holds hinner hread
      · cases h
    · cases h

/-- What an optional result holds meets `P`. -/
def Within (P : α → Prop) (found : Option α) : Prop := ∀ a, found = some a → P a

/-- All members of a list meet `P`. -/
def Throughout (P : α → Prop) (found : List α) : Prop := ∀ a ∈ found, P a

theorem gives_collectUpTo {step : Parser (Option α)} [step.Advances] [step.Gives (Within P)]
    (n : Nat) : (collectUpTo step n).Gives (Throughout P) := by
  induction n with
  | zero => exact .result fun a ha => by cases ha
  | succ n ih =>
      refine .andThen (P := Within P) fun found hfound => ?_
      cases found with
      | none => exact .result fun a ha => by cases ha
      | some a =>
          have := advances_collectUpTo step n
          refine .andThen (P := Throughout P) fun more hmore => .result ?_
          exact List.forall_mem_cons.mpr ⟨hfound a rfl, hmore⟩

instance (item : Parser α) [item.Advances] [item.Gives P] :
    (untilFinished item).Gives (Throughout P) where
  holds hrest h := by
    have hstep : Parser.Gives (Within P)
        (do if ← finished then return none else return some (← item) : Parser (Option α)) := by
      refine .after fun ended => ?_
      split
      · exact .result fun a ha => by cases ha
      · exact .andThen (P := P) fun a ha => .result fun b hb => by cases hb; exact ha
    exact (gives_collectUpTo _).holds hrest h

/-! ## Names -/

instance : anyName.Gives Name.Lexical where
  holds hrest h := by
    obtain ⟨p, rest, htrees⟩ := name_of_anyName h
    cases hrest _ (htrees ▸ List.mem_cons_self) with
    | name hn _ => exact hn

instance : identifier.Gives Name.Lexical where
  holds hrest h := by
    obtain ⟨-, p, rest, htrees⟩ := name_of_identifier h
    cases hrest _ (htrees ▸ List.mem_cons_self) with
    | name hn _ => exact hn

instance : placedIdentifier.Gives fun found => found.1.Lexical := by
  refine .after fun s => ?_
  split
  · exact .andThen (P := Name.Lexical) fun n hn => .result hn
  · infer_instance

end Parser

open Fieldwise.Grammar.Parser Fieldwise.Grammar.Rules

/-! ## Items -/

/-- An item and how it is printed, where the names of the item are ones that text can hold. -/
def LexicalItem (found : Item × Doc) : Prop := found.1.Lexical

instance (layout : Doc) : (pure (.other, layout) : Parser (Item × Doc)).Gives LexicalItem :=
  .result Item.Lexical.other

variable (r : Rules) [r.Advances]

/-- A head whose name source text can hold. -/
def LexicalHead (h : TypeHead) : Prop := h.name.Lexical

theorem LexicalHead.item {h : TypeHead} (hh : LexicalHead h) (attributes : List Attribute)
    (body : TypeBody) : (h.item attributes body).Lexical :=
  .type hh

instance (vis : Visibility × Doc) (words : String) : (r.typeHead vis words).Gives LexicalHead :=
  .andThen (P := fun found => found.1.Lexical) fun _ hname => .after fun _ => .result hname

instance (attributes : List Attribute) : (r.structItem attributes).Gives LexicalItem :=
  .after fun _ => .after fun _ => .andThen (P := LexicalHead) fun _ hh =>
    .after fun _ => .result (hh.item _ _)

instance (attributes : List Attribute) : (r.enumItem attributes).Gives LexicalItem :=
  .after fun _ => .after fun _ => .andThen (P := LexicalHead) fun _ hh =>
    .after fun _ => .after fun _ => .result (hh.item _ _)

instance (attributes : List Attribute) : (r.unionItem attributes).Gives LexicalItem :=
  .after fun _ => .after fun _ => .andThen (P := LexicalHead) fun _ hh =>
    .after fun _ => .after fun _ => .result (hh.item _ _)

theorem gives_traitBody (attributes : List Attribute) {h : TypeHead} (hh : LexicalHead h) :
    (r.traitBody attributes h).Gives LexicalItem :=
  .after fun _ => .after fun _ => .group _ <| .after fun _ => .lastly fun _ => hh.item _ _

instance (h : TypeHead) : (r.traitAlias h).Gives LexicalItem := by
  dsimp only [Rules.traitAlias]
  infer_instance

instance (attributes : List Attribute) : (r.traitItem attributes).Gives LexicalItem := by
  refine .after fun vis => .after fun safety => .after fun automatic => .after fun _ =>
    .andThen (P := LexicalHead) fun h hh => ?_
  have := gives_traitBody r attributes hh
  infer_instance

instance : r.implItem.Gives LexicalItem := by
  dsimp only [Rules.implItem]
  infer_instance

instance : r.foreignItem.Gives LexicalItem := by
  dsimp only [Rules.foreignItem]
  infer_instance

instance : externCrate.Gives LexicalItem := by
  dsimp only [externCrate]
  infer_instance

instance : r.useItem.Gives LexicalItem := by
  dsimp only [Rules.useItem]
  infer_instance

instance : r.functionItem.Gives LexicalItem := by
  dsimp only [Rules.functionItem]
  infer_instance

instance : r.staticItem.Gives LexicalItem := by
  dsimp only [Rules.staticItem]
  infer_instance

instance : r.constantItem.Gives LexicalItem := by
  dsimp only [Rules.constantItem]
  infer_instance

instance : ruleSetItem.Gives LexicalItem := by
  dsimp only [ruleSetItem]
  infer_instance

instance : invocationNamedItem.Gives LexicalItem := by
  dsimp only [invocationNamedItem]
  infer_instance

/-! ## Modules -/

variable [∀ attributes, (r.item attributes).Gives LexicalItem]

theorem gives_moduleContent {name : Name} (hname : name.Lexical) (attributes : List Attribute)
    (layout : List Attribute → List (Item × Doc) → Doc) :
    (group .brace do
      let inner ← r.innerAttributes
      let items ← untilFinished do r.item (← r.outerAttributes)
      return (.submodule (attributes ++ inner) name (some (items.map Prod.fst)),
        layout inner items)).Gives LexicalItem := by
  refine .group _ <| .after fun inner => .andThen (P := Throughout LexicalItem) fun items hitems =>
    .result (.submodule _ hname fun _ hsome => ?_)
  cases hsome
  exact List.forall_mem_map.mpr hitems

instance (attributes : List Attribute) : (r.moduleItem attributes).Gives LexicalItem := by
  refine .after fun vis => .after fun safety => .after fun _ => .after fun isTry => ?_
  have rest (name : Name) (hname : name.Lexical) (head : Doc) : Parser.Gives LexicalItem (do
      if ← punct? [';'] then
        return (.submodule attributes name none, lineItem indentStep (head ++ .word ";"))
      else if ← ask (.group .brace) then
        group .brace do
          let inner ← r.innerAttributes
          let items ← untilFinished do r.item (← r.outerAttributes)
          return (.submodule (attributes ++ inner) name (some (items.map Prod.fst)),
            bodied (head ++ .word " ")
              (Attribute.layoutAll true inner ++ .concat (items.map Prod.snd)))
      else failExpected ["`;`", "curly braces"]) := by
    refine .after fun alone => ?_
    split
    · exact .result (.submodule _ hname fun _ hsome => by cases hsome)
    · have := gives_moduleContent r hname attributes fun inner items =>
        bodied (head ++ .word " ")
          (Attribute.layoutAll true inner ++ .concat (items.map Prod.snd))
      infer_instance
  split
  · exact .andThen (P := Name.Lexical) fun name hname => rest name hname _
  · exact .andThen (P := Name.Lexical) fun name hname => rest name hname _

instance (attributes : List Attribute) : (r.bareItem attributes).Gives LexicalItem := by
  dsimp only [Rules.bareItem]
  infer_instance

instance (attributes : List Attribute) : (r.itemRule attributes).Gives LexicalItem :=
  .andThen (P := LexicalItem) fun _ hitem => .result hitem

omit r in
instance gives_rules_item (n : Nat) (attributes : List Attribute) :
    ((rules n).item attributes).Gives LexicalItem := by
  induction n generalizing attributes with
  | zero =>
      dsimp only [rules, Rules.empty]
      infer_instance
  | succ n ih => exact inferInstanceAs (((rules n).itemRule attributes).Gives LexicalItem)

/-! ## Source files -/

instance : r.attributedItem.Gives Item.Lexical :=
  .after fun _ => .andThen (P := LexicalItem) fun _ hitem => .result hitem

instance : r.attributedItem.Advances := by
  dsimp only [attributedItem]
  infer_instance

/-- A source file whose items have names that source text can hold. -/
def SourceFile.Lexical (source : SourceFile) : Prop := ∀ i ∈ source.items, i.Lexical

theorem gives_file : r.file.Gives SourceFile.Lexical :=
  .after fun _ => .andThen (P := Throughout Item.Lexical) fun _ hitems => .result hitems

/-- **The types and modules of a source file that has been read have names that source text can
hold.** -/
theorem lexical_of_readFile {text : String} {source : SourceFile}
    (h : readFile text = .ok source) : source.Lexical := by
  unfold readFile at h
  generalize dropInterpreterLine (dropByteOrderMark text.toList) = text at h
  cases hlex : lex text with
  | error place =>
      simp only [readText, treesOf, hlex] at h
      cases h
  | ok trees =>
      rw [readText_eq _ hlex, readTrees, rulesFor] at h
      obtain ⟨after, hread⟩ := Parser.fresh_of_run h
      exact (gives_file _).holds (forall_lexical_of_lex hlex) hread

/-! ## Paths -/

/-- A name of a path that source text can hold. -/
def Segment.Lexical (s : Segment) : Prop := s.name.Lexical

instance : (r.segment false).Gives Segment.Lexical where
  holds hrest h := by
    obtain ⟨-, p, rest, htrees⟩ := r.name_of_segment h
    cases hrest _ (htrees ▸ List.mem_cons_self) with
    | name hn _ => exact hn

instance : (r.moreSegments false).Gives (Throughout Segment.Lexical) where
  holds hrest h := by
    have hstep : Parser.Gives (Within Segment.Lexical) (do
        if ← ask (.butNot (.punct [':', ':']) (.third (.group .parenthesis))) then
          punct [':', ':']
          return some (← r.segment false)
        else return none : Parser (Option Segment)) := by
      refine .after fun ahead => ?_
      split
      · exact .after fun _ => .andThen (P := Segment.Lexical) fun s hs =>
          .result fun a ha => by cases ha; exact hs
      · exact .result fun a ha => by cases ha
    exact (gives_collectUpTo _).holds hrest h

/-- The names of a path that has been read are ones that source text can hold. -/
theorem lexical_of_readPath {text : String} {path : Path} (h : readPath text = .ok path) :
    ∀ s ∈ path.segments, s.Lexical := by
  obtain ⟨trees, hlex, hread⟩ := lex_of_readText h
  obtain ⟨after, hpath⟩ := Parser.fresh_of_run hread
  have hgives (n : Nat) : ((rules n).path false).Gives fun p => ∀ s ∈ p.segments, s.Lexical :=
    .after fun _ => .andThen (P := Segment.Lexical) fun _ hfirst =>
      .andThen (P := Throughout Segment.Lexical) fun _ hmore =>
        .result (List.forall_mem_cons.mpr ⟨hfirst, hmore⟩)
  exact (hgives _).holds (forall_lexical_of_lex hlex) hpath

end Fieldwise.Grammar
