import Fieldwise.Proofs.Grammar.Advance
import Fieldwise.Proofs.Grammar.PrintedForms

set_option autoImplicit false
set_option synthInstance.maxSize 1000000

/-! # What is read goes with the tokens it is read from

A reader takes tokens off the front (`Input.Passed`). `Parser.At` says of a reader, at some input,
that its result goes with the tokens it takes off, provided that these stand among the tokens of a
whole text and that nothing is left over in a group. The proviso is kept from one reader to the
next (`Parser.At.bind`), so what a sequence gives goes with all the tokens that its parts take off;
for each way of repeating a reader one lemma says how the tokens of the items are put together.
-/

namespace Fieldwise.Grammar

open Fieldwise.Token

/-! ## Tokens taken off the front -/

/-- The lexemes that a reader took off the front between two inputs. -/
def Input.Passed (s after : Input) (given : List Lexeme) : Prop :=
  Tree.lexemesAll s.rest = given ++ Tree.lexemesAll after.rest

/-- What is left of an input stands among the tokens of a whole text. -/
def Input.Within (s : Input) (whole : List Lexeme) : Prop := Tree.lexemesAll s.rest <:+: whole

/-- Marks that come next are the next lexemes. -/
theorem lexemes_of_punct {marks : List Char} {trees : List Tree}
    (h : Ahead.punct marks trees = true) :
    Tree.lexemesAll trees = marks.map .mark ++ Tree.lexemesAll (trees.drop marks.length) := by
  fun_induction Ahead.punct marks trees with
  | case1 trees => rfl
  | case2 c mark joint p rest => simp [Tree.lexemesAll, Tree.lexemes, eq_of_beq h]
  | case3 c more mark joint p rest hmore ih =>
      simp only [Bool.and_eq_true, beq_iff_eq] at h
      simp [Tree.lexemesAll, Tree.lexemes, h.1.1, ih h.2]
  | case4 marks trees => cases h

namespace Input

variable {s mid after : Input} {given more whole : List Lexeme}

theorem Passed.none (s : Input) : s.Passed s [] := rfl

theorem Passed.trans (h : s.Passed mid given) (hmore : mid.Passed after more) :
    s.Passed after (given ++ more) := by
  rw [Passed, h, hmore, List.append_assoc]

theorem Within.infix (h : s.Within whole) (hpassed : s.Passed mid given)
    (hmore : mid.Passed after more) : given ++ more <:+: whole := by
  have hprefix : given ++ more <+: Tree.lexemesAll s.rest :=
    ⟨Tree.lexemesAll after.rest, (hpassed.trans hmore).symm⟩
  exact hprefix.isInfix.trans h

theorem Within.passed (h : s.Within whole) (hpassed : s.Passed mid given) : mid.Within whole := by
  have hsuffix : Tree.lexemesAll mid.rest <:+ Tree.lexemesAll s.rest := ⟨given, hpassed.symm⟩
  exact hsuffix.isInfix.trans h

end Input

namespace Parser

variable {α β : Type} {whole : List Lexeme}

/-! ## Readers at an input -/

/-- What a reader gives at an input goes with the tokens it takes off, where these stand among
those of a whole text and nothing is left over in a group. -/
def At (whole : List Lexeme) (R : α → List Lexeme → Prop) (p : Parser α) (s : Input) : Prop :=
  ∀ ⦃a : α⦄ ⦃after : Input⦄, p s = .ok (a, after) → after.stray = none → s.Within whole →
    ∃ given, s.Passed after given ∧ R a given

variable {R : α → List Lexeme → Prop} {S : β → List Lexeme → Prop} {s : Input}

theorem At.mono {R' : α → List Lexeme → Prop} {p : Parser α} (h : p.At whole R s)
    (himp : ∀ a given, R a given → R' a given) : p.At whole R' s := by
  intro a after hread hstray hwithin
  obtain ⟨given, hpassed, ha⟩ := h hread hstray hwithin
  exact ⟨given, hpassed, himp a given ha⟩

/-- What is taken off stands in the whole text. -/
theorem At.inside {p : Parser α} (h : p.At whole R s) :
    p.At whole (fun a given => R a given ∧ given <:+: whole) s := by
  intro a after hread hstray hwithin
  obtain ⟨given, hpassed, ha⟩ := h hread hstray hwithin
  exact ⟨given, hpassed, ha, by simpa using hwithin.infix (.none s) hpassed⟩

theorem At.within {p : Parser α} (h : s.Within whole → p.At whole R s) : p.At whole R s := by
  intro a after hread hstray hwithin
  exact h hwithin hread hstray hwithin

/-- What is taken off after other tokens stands beside them in the whole text. -/
theorem At.beside {p : Parser α} {mid : Input} {given : List Lexeme} (h : p.At whole R mid)
    (hwithin : s.Within whole) (hpassed : s.Passed mid given) :
    p.At whole (fun a more => R a more ∧ given ++ more <:+: whole) mid := by
  intro a after hread hstray hmid
  obtain ⟨more, hmore, ha⟩ := h hread hstray hmid
  exact ⟨more, hmore, ha, hwithin.infix hpassed hmore⟩

/-- The tokens that a reader takes off are what they are. -/
theorem At.and {R' : α → List Lexeme → Prop} {p : Parser α} (h : p.At whole R s)
    (h' : p.At whole R' s) : p.At whole (fun a given => R a given ∧ R' a given) s := by
  intro a after hread hstray hwithin
  obtain ⟨given, hpassed, ha⟩ := h hread hstray hwithin
  obtain ⟨given', hpassed', ha'⟩ := h' hread hstray hwithin
  obtain rfl : given = given' := List.append_cancel_right (hpassed.symm.trans hpassed')
  exact ⟨given, hpassed, ha, ha'⟩

/-- Whatever a reader takes off, what holds of its results holds of them. -/
theorem At.of_result {p : Parser α} [hadvances : p.Advances] {Q : α → Prop}
    (h : ∀ a after, p s = .ok (a, after) → Q a) : p.At whole (fun a _ => Q a) s := by
  intro a after hread _ _
  obtain ⟨front, hfront⟩ := hadvances.suffix hread
  exact ⟨Tree.lexemesAll front, by rw [Input.Passed, ← hfront, Tree.lexemesAll_append],
    h a after hread⟩

theorem at_any {p : Parser α} [p.Advances] : p.At whole (fun _ _ => True) s :=
  .of_result fun _ _ _ => trivial

theorem At.pure {a : α} (h : R a []) : (pure a : Parser α).At whole R s := by
  intro b after hread _ _
  cases hread
  exact ⟨[], .none s, h⟩

/-- The next reader goes on where one stopped, with the tokens that this one took off. -/
theorem At.bind {p : Parser α} {f : α → Parser β} (hp : p.At whole R s)
    [hadvances : ∀ a, (f a).Advances]
    (hf : ∀ a mid given, s.Passed mid given → R a given →
      (f a).At whole (fun b more => S b (given ++ more)) mid) : (p >>= f).At whole S s := by
  intro b after hread hstray hwithin
  obtain ⟨a, mid, hfirst, hsecond⟩ := bind_eq_ok hread
  obtain ⟨given, hpassed, ha⟩ := hp hfirst ((hadvances a).stray hsecond hstray) hwithin
  obtain ⟨more, hmore, hb⟩ := hf a mid given hpassed ha hsecond hstray (hwithin.passed hpassed)
  exact ⟨given ++ more, hpassed.trans hmore, hb⟩

/-- A question takes nothing off, and its answer is known. -/
theorem At.ask {question : Ahead} {f : Bool → Parser β}
    (hf : ∀ answer, question s.rest = answer → (f answer).At whole S s) :
    (ask question >>= f).At whole S s := by
  intro b after hread hstray hwithin
  obtain ⟨answer, mid, hask, hmore⟩ := bind_eq_ok hread
  cases hask
  exact hf _ rfl hmore hstray hwithin

theorem At.get {f : Input → Parser β} (hf : (f s).At whole S s) :
    ((MonadStateOf.get : Parser Input) >>= f).At whole S s := by
  intro b after hread hstray hwithin
  obtain ⟨answer, mid, hget, hmore⟩ := bind_eq_ok hread
  cases hget
  exact hf hmore hstray hwithin

theorem At.here {f : Option Position → Parser β} (hf : ∀ place, (f place).At whole S s) :
    (here >>= f).At whole S s := by
  intro b after hread hstray hwithin
  obtain ⟨answer, mid, hhere, hmore⟩ := bind_eq_ok hread
  cases hhere
  exact hf _ hmore hstray hwithin

theorem at_failHere (cause : Cause) : (failHere cause : Parser α).At whole R s := by
  intro a after hread
  cases hread

theorem at_failExpected (wanted : List String) : (failExpected wanted : Parser α).At whole R s :=
  at_failHere _

theorem at_failFrom (place : Option Position) (cause : Cause) :
    (failFrom place cause : Parser α).At whole R s := by
  intro a after hread
  cases hread

theorem at_failFrom_bind (place : Option Position) (cause : Cause) (f : β → Parser α) :
    (failFrom place cause >>= f).At whole R s := by
  intro a after hread
  cases hread

/-! ## Single tokens -/

theorem at_skip (n : Nat) :
    (skip n).At whole (fun _ given => given = Tree.lexemesAll (s.rest.take n)) s := by
  intro _ after hread _ _
  cases hread
  refine ⟨_, ?_, rfl⟩
  rw [Input.Passed, ← Tree.lexemesAll_append, List.take_append_drop]

theorem at_punct (marks : List Char) :
    (punct marks).At whole (fun _ given => given = marks.map .mark) s :=
  .ask fun ahead hahead => by
    cases ahead with
    | true =>
        intro _ after hread _ _
        cases hread
        exact ⟨_, lexemes_of_punct hahead, rfl⟩
    | false => exact at_failExpected _

theorem at_punct? (marks : List Char) :
    (punct? marks).At whole (fun found given => given = if found then marks.map .mark else []) s :=
  .ask fun ahead hahead => by
    cases ahead with
    | true =>
        intro found after hread _ _
        cases hread
        exact ⟨_, lexemes_of_punct hahead, rfl⟩
    | false => exact .pure rfl

theorem eq_true_of_punct? {marks : List Char} {found : Bool} {after : Input}
    (hahead : Ahead.punct marks s.rest = true) (h : punct? marks s = .ok (found, after)) :
    found = true := by
  unfold punct? at h
  rw [ask_bind hahead] at h
  cases h
  rfl

/-- A word that comes next is the next lexeme. -/
theorem lexemes_of_word {text : String} {trees : List Tree} (h : Ahead.word text trees = true) :
    Tree.lexemesAll trees = .word text :: Tree.lexemesAll (trees.drop 1) := by
  unfold Ahead.word at h
  split at h
  · rename_i n p rest
    obtain ⟨raw, word⟩ := n
    simp only [Bool.and_eq_true, Bool.not_eq_true', beq_iff_eq] at h
    obtain ⟨rfl, rfl⟩ := h
    rfl
  · cases h

theorem at_word (text : String) : (word text).At whole (fun _ given => given = [.word text]) s :=
  .ask fun ahead hahead => by
    cases ahead with
    | true =>
        intro _ after hread _ _
        cases hread
        exact ⟨[.word text], lexemes_of_word hahead, rfl⟩
    | false => exact at_failExpected _

theorem at_word? (text : String) :
    (word? text).At whole (fun found given => given = maybeWord found text) s :=
  .ask fun ahead hahead => by
    cases ahead with
    | true =>
        intro found after hread _ _
        cases hread
        exact ⟨[.word text], lexemes_of_word hahead, rfl⟩
    | false => exact .pure rfl

/-- A name that is read is the next lexeme. -/
theorem at_anyName : anyName.At whole (fun n given => given = [.name n]) s := by
  intro n after hread _ _
  obtain ⟨p, rest, hrest⟩ := name_of_anyName hread
  obtain ⟨trees, limit, stray, afterBrace⟩ := s
  cases hrest
  cases hread
  exact ⟨_, rfl, rfl⟩

theorem at_identifier : identifier.At whole (fun n given => given = [.name n]) s := by
  intro n after hread _ _
  obtain ⟨hident, p, rest, hrest⟩ := name_of_identifier hread
  obtain ⟨trees, limit, stray, afterBrace⟩ := s
  cases hrest
  change (if isIdentifier n then (do skip 1; Pure.pure n) else failHere (.keyword n.text)
    : Parser Name) _ = _ at hread
  rw [if_pos hident] at hread
  cases hread
  exact ⟨_, rfl, rfl⟩

theorem at_lifetime : lifetime.At whole (fun n given => given = [.lifetime n]) s := by
  intro n after hread _ _
  obtain ⟨trees, limit, stray, afterBrace⟩ := s
  cases trees with
  | nil => cases hread
  | cons t rest =>
      cases t with
      | lifetime m p =>
          cases hread
          exact ⟨_, rfl, rfl⟩
      | name m p => cases hread
      | punct mark joint p => cases hread
      | literal l p => cases hread
      | group d content opening closing => cases hread

theorem at_anyGroup : anyGroup.At whole (fun found given =>
    given = .opening found.1 :: (Tree.lexemesAll found.2 ++ [.closing found.1])) s := by
  intro found after hread _ _
  obtain ⟨trees, limit, stray, afterBrace⟩ := s
  cases trees with
  | nil => cases hread
  | cons t rest =>
      cases t with
      | group d content opening closing =>
          cases hread
          exact ⟨_, by simp [Input.Passed, Tree.lexemesAll, Tree.lexemes], rfl⟩
      | name m p => cases hread
      | punct mark joint p => cases hread
      | literal l p => cases hread
      | lifetime n p => cases hread

/-- A group is taken off with its brackets, and what is in it goes with its content. -/
theorem At.group {d : Delimiter} {content : Parser α}
    (hcontent : ∀ inner, content.At whole R inner) :
    (group d content).At whole
      (fun a given => ∃ inside, R a inside
        ∧ given = .opening d :: (inside ++ [.closing d])) s := by
  intro a after hread hstray hwithin
  obtain ⟨inner, opening, closing, rest, left, hrest, hinner, hafter, hleft⟩ := group_eq_ok hread
  obtain ⟨hnone, hend⟩ := hleft hstray
  have hgroup : Tree.lexemesAll s.rest
      = .opening d :: (Tree.lexemesAll inner ++ .closing d :: Tree.lexemesAll rest) := by
    rw [hrest]
    simp [Tree.lexemesAll, Tree.lexemes]
  have hinside : Tree.lexemesAll inner <:+: whole := by
    refine List.IsInfix.trans ⟨[.opening d], .closing d :: Tree.lexemesAll rest, ?_⟩ hwithin
    simp [hgroup]
  obtain ⟨inside, hpassed, ha⟩ := hcontent ⟨inner, some closing, s.stray, false⟩ hinner hnone
    hinside
  have hwhole : Tree.lexemesAll inner = inside := by
    have hall : Tree.lexemesAll inner = inside ++ Tree.lexemesAll left.rest := hpassed
    rw [hall, hend]
    exact List.append_nil _
  refine ⟨_, ?_, inside, ha, rfl⟩
  rw [Input.Passed, hgroup, hafter, hwhole]
  simp

/-! ## Repetition -/

/-- What a repeated reader gives goes with tokens, and takes none off where it gives nothing. -/
def Optionally (R : α → List Lexeme → Prop) (found : Option α) (given : List Lexeme) : Prop :=
  match found with
  | none => given = []
  | some a => R a given

theorem at_collectUpTo {step : Parser (Option α)} [step.Advances]
    (hstep : ∀ s, step.At whole (Optionally R) s) (k : Nat) :
    (collectUpTo step k).At whole
      (fun items given => ∃ parts, List.Forall₂ R items parts ∧ given = parts.flatten) s := by
  induction k generalizing s with
  | zero => exact .pure ⟨[], .nil, rfl⟩
  | succ k ih =>
      have := advances_collectUpTo step k
      have hnext (found : Option α) : Parser.Advances (match found with
          | none => Pure.pure []
          | some a => do return a :: (← collectUpTo step k) : Parser (List α)) := by
        cases found <;> infer_instance
      refine .bind (hstep s) fun found mid given _ hfound => ?_
      cases found with
      | none =>
          cases hfound
          exact .pure ⟨[], .nil, rfl⟩
      | some a =>
          refine .bind ih fun more after rest _ hmore => ?_
          obtain ⟨parts, hparts, rfl⟩ := hmore
          exact .pure ⟨given :: parts, .cons hfound hparts, by simp⟩

theorem at_collect {step : Parser (Option α)} [step.Advances]
    (hstep : ∀ s, step.At whole (Optionally R) s) :
    (collect step).At whole
      (fun items given => ∃ parts, List.Forall₂ R items parts ∧ given = parts.flatten) s :=
  at_collectUpTo hstep _

/-- Items whose tokens all begin in the same way. -/
theorem forall₂_prefixed {front : List Lexeme} {items : List α} {parts : List (List Lexeme)}
    (h : List.Forall₂ (fun a given => ∃ part, R a part ∧ given = front ++ part) items parts) :
    ∃ bare, List.Forall₂ R items bare ∧ parts.flatten = bare.flatMap (front ++ ·) := by
  induction h with
  | nil => exact ⟨[], .nil, rfl⟩
  | cons hfirst _ ih =>
      obtain ⟨part, hpart, rfl⟩ := hfirst
      obtain ⟨more, hmore, hall⟩ := ih
      exact ⟨part :: more, .cons hpart hmore, by simp [hall]⟩

/-- Where something is read first, it is collected. -/
theorem ne_nil_of_collect {step : Parser (Option α)} {items : List α} {after : Input}
    (hsome : ∀ mid, step s ≠ .ok (none, mid)) (h : collect step s = .ok (items, after)) :
    items ≠ [] := by
  unfold collect at h
  rw [collectUpTo] at h
  obtain ⟨found, mid, hfound, hnext⟩ := bind_eq_ok h
  cases found with
  | none => exact absurd hfound (hsome mid)
  | some a =>
      obtain ⟨more, _, _, hresult⟩ := bind_eq_ok hnext
      cases hresult
      exact List.cons_ne_nil _ _

/-- Items with a separator after each, which the last may do without where the items end. -/
def separatedStep (stop : Ahead) (separator : Parser Unit) (item : Parser α) :
    Parser (Option α) := do
  if ← ask stop then return none
  let a ← item
  if !(← ask stop) then separator
  return some a

/-- Where the items end, none is read. -/
theorem collect_at_stop {stop : Ahead} {separator : Parser Unit} {item : Parser α}
    {s after : Input} {items : List α} {k : Nat} (hstop : stop s.rest = true)
    (h : collectUpTo (separatedStep stop separator item) k s = .ok (items, after)) :
    items = [] ∧ after = s := by
  cases k with
  | zero =>
      cases h
      exact ⟨rfl, rfl⟩
  | succ k =>
      rw [collectUpTo, separatedStep, bind_assoc, ask_bind hstop] at h
      cases h
      exact ⟨rfl, rfl⟩

theorem listed_cons (mark : Char) (last : Bool) (first : List Lexeme) (more : List (List Lexeme)) :
    listed mark last (first :: more)
      = first ++ (more.flatMap (Lexeme.mark mark :: ·) ++ if last then [.mark mark] else []) := by
  induction more generalizing first with
  | nil => simp [listed]
  | cons second more ih => simp [listed, ih]

/-- One more item after a separator. -/
theorem listed_true_append (mark : Char) (last : Bool) (parts : List (List Lexeme))
    (part : List Lexeme) : listed mark true parts ++ (part ++ if last then [.mark mark] else [])
      = listed mark last (parts ++ [part]) := by
  cases parts with
  | nil => simp [listed]
  | cons first more => simp [listed_cons]

section Separated

variable {stop : Ahead} {separator : Parser Unit} {mark : Char} {item : Parser α}
  [item.Advances] [separator.Advances]

instance : (separatedStep stop separator item).Advances := by
  dsimp only [separatedStep]
  infer_instance

omit [item.Advances] in
/-- A separator is read after an item unless the items end there. -/
theorem separatedStep_eq_ok (hitem : ∀ s, item.At whole R s)
    (hseparator : ∀ s, separator.At whole (fun _ given => given = [.mark mark]) s)
    {s after : Input} {found : Option α}
    (h : separatedStep stop separator item s = .ok (found, after)) (hstray : after.stray = none)
    (hwithin : s.Within whole) :
    (found = none ∧ after = s) ∨ ∃ a part, found = some a ∧ R a part
      ∧ (stop after.rest = true ∧ s.Passed after part ∨ s.Passed after (part ++ [.mark mark])) := by
  obtain ⟨stopped, s₁, hask, h⟩ := bind_eq_ok h
  cases hask
  split at h
  · cases h
    exact .inl ⟨rfl, rfl⟩
  · obtain ⟨a, s₂, ha, h⟩ := bind_eq_ok h
    obtain ⟨stopped, s₃, hask, h⟩ := bind_eq_ok h
    cases hask
    split at h
    · obtain ⟨_, s₄, hmark, h⟩ := bind_eq_ok h
      cases h
      have hnone := Advances.stray hmark hstray
      obtain ⟨part, hpart, hitem⟩ := hitem s ha hnone hwithin
      obtain ⟨_, hmark, rfl⟩ := hseparator s₂ hmark hstray (hwithin.passed hpart)
      exact .inr ⟨a, part, rfl, hitem, .inr (hpart.trans hmark)⟩
    · rename_i hstop
      cases h
      obtain ⟨part, hpart, hitem⟩ := hitem s ha hstray hwithin
      exact .inr ⟨a, part, rfl, hitem, .inl ⟨by simpa using hstop, hpart⟩⟩

/-- Items with a separator between any two are read from tokens with its mark between them. -/
theorem at_separated (hitem : ∀ s, item.At whole R s)
    (hseparator : ∀ s, separator.At whole (fun _ given => given = [.mark mark]) s) :
    (collect (separatedStep stop separator item)).At whole
      (fun items given => ∃ parts last, List.Forall₂ R items parts
        ∧ given = listed mark last parts) s := by
  intro items after hread hstray hwithin
  unfold collect at hread
  generalize s.rest.length + 1 = k at hread
  induction k generalizing s items with
  | zero =>
      cases hread
      exact ⟨[], .none _, [], false, .nil, rfl⟩
  | succ k ih =>
      have := advances_collectUpTo (separatedStep stop separator item) k
      rw [collectUpTo] at hread
      obtain ⟨found, mid, hstep, hnext⟩ := bind_eq_ok hread
      clear hread
      have hmid : mid.stray = none := by
        cases found with
        | none =>
            cases hnext
            exact hstray
        | some a =>
            obtain ⟨more, s₁, hmore, hresult⟩ := bind_eq_ok hnext
            cases hresult
            exact Advances.stray hmore hstray
      obtain ⟨rfl, rfl⟩ | ⟨a, part, rfl, ha, hpart⟩ :=
        separatedStep_eq_ok hitem hseparator hstep hmid hwithin
      · cases hnext
        exact ⟨[], .none _, [], false, .nil, rfl⟩
      · obtain ⟨more, s₁, hmore, hresult⟩ := bind_eq_ok hnext
        cases hresult
        obtain ⟨hstop, hpart⟩ | hpart := hpart
        · -- no separator was read, so this item is the last
          obtain ⟨rfl, rfl⟩ := collect_at_stop hstop hmore
          exact ⟨part, hpart, [part], false, .cons ha .nil, by simp [listed]⟩
        · obtain ⟨_, hrest, parts, last, hparts, rfl⟩ := ih (hwithin.passed hpart) hmore
          have hall := hpart.trans hrest
          cases hparts with
          | nil => exact ⟨_, hall, [part], true, .cons ha .nil, by simp [listed]⟩
          | cons hfirst htail =>
              exact ⟨_, hall, part :: _, last, .cons ha (.cons hfirst htail), by simp [listed]⟩

theorem at_separatedBefore (mark : Char) (hitem : ∀ s, item.At whole R s) :
    (separatedBefore stop [mark] item).At whole
      (fun items given => ∃ parts last, List.Forall₂ R items parts
        ∧ given = listed mark last parts) s :=
  at_separated hitem fun s => at_punct [mark] (s := s)

theorem at_commaTerminated (hitem : ∀ s, item.At whole R s) :
    (commaTerminated item).At whole
      (fun items given => ∃ parts last, List.Forall₂ R items parts
        ∧ given = listed ',' last parts) s := by
  have hread : (separatedBefore .finished [','] item).At whole _ s := at_separatedBefore ',' hitem
  exact hread

end Separated

/-- What an iteration keeps, its result has. -/
theorem at_iterate {I : α → List Lexeme → Prop} {step : α → Parser (Option α)}
    [hadvances : ∀ a, (step a).Advances]
    (hstep : ∀ a given s, I a given →
      (step a).At whole (Optionally fun b more => I b (given ++ more)) s)
    {a : α} (h : I a []) : (iterate step a).At whole I s := by
  have hall (k : Nat) (a : α) (before : List Lexeme) (s : Input) (h : I a before) :
      (iterateUpTo step k a).At whole (fun b given => I b (before ++ given)) s := by
    induction k generalizing a before s with
    | zero => exact .pure (by simpa using h)
    | succ k ih =>
        have := advances_iterateUpTo step k
        have hnext (found : Option α) : Parser.Advances (match found with
            | none => Pure.pure a
            | some next => iterateUpTo step k next : Parser α) := by
          cases found <;> infer_instance
        refine .bind (hstep a before s h) fun found mid given _ hfound => ?_
        cases found with
        | none =>
            cases hfound
            exact .pure (by simpa using h)
        | some b =>
            refine (ih b (before ++ given) mid hfound).mono fun c more hc => ?_
            rwa [List.append_assoc] at hc
  exact hall _ a [] s h

/-- What holds after the first step, which gives something, and is kept by the others, holds in the
end. -/
theorem iterate_keeps {step : α → Parser (Option α)} {Q : α → Prop}
    (hstep : ∀ a s b after, Q a → step a s = .ok (some b, after) → Q b) {a b : α} {after : Input}
    (hsome : ∀ found mid, step a s = .ok (found, mid) → ∃ c, found = some c ∧ Q c)
    (h : iterate step a s = .ok (b, after)) : Q b := by
  have hall (k : Nat) (a : α) (s : Input) (ha : Q a)
      (h : iterateUpTo step k a s = .ok (b, after)) : Q b := by
    induction k generalizing a s with
    | zero =>
        cases h
        exact ha
    | succ k ih =>
        rw [iterateUpTo] at h
        obtain ⟨found, mid, hfound, hnext⟩ := bind_eq_ok h
        cases found with
        | none =>
            cases hnext
            exact ha
        | some c => exact ih c mid (hstep a s c mid ha hfound) hnext
  unfold iterate at h
  rw [iterateUpTo] at h
  obtain ⟨found, mid, hfound, hnext⟩ := bind_eq_ok h
  obtain ⟨c, rfl, hc⟩ := hsome found mid hfound
  exact hall _ c mid hc hnext

/-- An iteration each step of which takes something off goes on until a step gives nothing. -/
theorem At.stopped {step : α → Parser (Option α)} [hadvances : ∀ a, (step a).Advances]
    {Q : α → Prop} (hlast : ∀ a s after, step a s = .ok (none, after) → Q a)
    (hstep : ∀ a s, (step a).At whole (Optionally fun _ given => given ≠ []) s) {a : α}
    (h : (iterate step a).At whole R s) :
    (iterate step a).At whole (fun b given => R b given ∧ Q b) s := by
  intro b after hread hstray hwithin
  obtain ⟨given, hpassed, hb⟩ := h hread hstray hwithin
  refine ⟨given, hpassed, hb, ?_⟩
  clear h hpassed
  unfold iterate at hread
  have hfuel : s.rest.length < s.rest.length + 1 := Nat.lt_succ_self _
  generalize s.rest.length + 1 = k at hread hfuel
  induction k generalizing a s with
  | zero => exact absurd hfuel (Nat.not_lt_zero _)
  | succ k ih =>
      rw [iterateUpTo] at hread
      obtain ⟨found, mid, hfound, hnext⟩ := bind_eq_ok hread
      cases found with
      | none =>
          cases hnext
          exact hlast _ s _ hfound
      | some next =>
          have hmid : mid.stray = none := (advances_iterateUpTo step k next).stray hnext hstray
          obtain ⟨part, hpart, hne⟩ := hstep a s hfound hmid hwithin
          have hsuffix : mid.rest <:+ s.rest := (hadvances a).suffix hfound
          have hlength : mid.rest.length ≠ s.rest.length := fun heq => by
            rw [Input.Passed, hsuffix.eq_of_length heq] at hpart
            exact hne (List.self_eq_append_left.mp hpart)
          have hle := hsuffix.length_le
          exact ih (hwithin.passed hpart) hnext (by omega)

/-- Items are read from tokens with a separator after each but perhaps the last. -/
theorem at_separatedWhile {stop : Ahead} (mark : Char) {item : Parser α} [item.Advances]
    (hitem : ∀ s, item.At whole R s) :
    (separatedWhile stop [mark] item).At whole
      (fun items given => ∃ parts last, List.Forall₂ R items parts
        ∧ given = listed mark last parts) s := by
  refine .bind (R := fun found given => ∃ parts, List.Forall₂ R found.1.reverse parts
      ∧ given = listed mark found.2 parts) (at_iterate ?_ ⟨[], .nil, rfl⟩) ?_
  · rintro ⟨items, more⟩ _ s ⟨parts, hparts, rfl⟩
    dsimp only
    split
    · exact .pure rfl
    · rename_i hmore
      obtain rfl : more = true := by simpa using hmore
      refine .ask fun stopped _ => ?_
      split
      · exact .pure rfl
      · refine .bind (hitem s) fun a mid part _ ha => .bind (at_punct? [mark]) ?_
        rintro plus after _ _ rfl
        refine .pure ⟨parts ++ [part], ?_, ?_⟩
        · simpa using List.rel_append hparts (.cons ha .nil)
        · have hlisted := listed_true_append mark plus parts part
          simpa using hlisted
  · rintro ⟨items, more⟩ mid _ _ ⟨parts, hparts, rfl⟩
    exact .pure ⟨parts, more, hparts, by simp⟩

end Parser

end Fieldwise.Grammar
