import Fieldwise.Proofs.Grammar.FunctionsKept

set_option autoImplicit false
set_option synthInstance.maxSize 1000000

/-! # What is kept of whole paths

A type begins in one of a few ways, each with a reader of its own; whichever it is, the document
that is kept prints what was read (`Rules.at_typeRule`). So the rules for texts nested more deeply
keep such documents if those for less deep ones do, and by induction all of them do
(`keeps_rules`): a text that is read as a path goes with its tokens (`givenAs_of_readPath`). -/

namespace Fieldwise.Grammar

open Fieldwise.Token Fieldwise.Layout Fieldwise.Grammar.Parser

variable {whole given more : List Lexeme} {part : Part} {d e : Doc}

/-- What may begin a type that parameters are bound before. -/
def boundTypeAhead : Ahead :=
  .any [.identifier, .anyWord ["fn", "unsafe", "extern", "super", "self", "Self", "crate"]]

theorem anyName_of_word {text : String} {trees : List Tree} (h : Ahead.word text trees = true) :
    Ahead.anyName trees = true := by
  unfold Ahead.word at h
  split at h
  · rfl
  · cases h

theorem anyName_of_boundTypeAhead {trees : List Tree} (h : boundTypeAhead trees = true) :
    Ahead.anyName trees = true := by
  simp only [boundTypeAhead, Ahead.any, List.any_cons, List.any_nil, Bool.or_false,
    Bool.or_eq_true] at h
  obtain hident | hword := h
  · unfold Ahead.identifier at hident
    split at hident
    · rfl
    · cases hident
  · obtain ⟨text, -, hword⟩ := List.any_eq_true.mp hword
    exact anyName_of_word hword

/-- What may begin such a type is no function type, so it is a path. -/
theorem path_of_boundTypeAhead {trees : List Tree} (h : boundTypeAhead trees = true)
    (hfn : Ahead.anyWord ["fn", "unsafe", "extern"] trees = false) :
    Ahead.any [.identifier, .anyWord pathWords, .punct [':', ':'], .punct ['<']] trees = true := by
  simp only [boundTypeAhead, Ahead.any, Ahead.anyWord, pathWords, List.any_cons, List.any_nil]
    at h hfn ⊢
  grind

/-- No name comes next where a parenthesis does. -/
theorem not_anyName_of_group {delimiter : Delimiter} {trees : List Tree}
    (h : Ahead.group delimiter trees = true) : Ahead.anyName trees = false := by
  unfold Ahead.group at h
  split at h
  · rfl
  · cases h

/-- Something must come next, if a condition holds. -/
theorem at_require {α : Type} {R : α → List Lexeme → Prop} {s : Input} {c : Bool}
    {question : Ahead} {wanted : List String} {p : Parser α}
    (hp : (c = true → question s.rest = true) → p.At whole R s) :
    At whole R (do
      if c then
        if !(← ask question) then failExpected wanted
      p) s := by
  cases c with
  | false => exact hp nofun
  | true =>
      refine .ask fun ahead hahead => ?_
      cases ahead with
      | true => exact hp fun _ => hahead
      | false =>
          intro a after hread
          cases hread

namespace Rules

variable {r : Rules} [r.Advances] {s : Input}

theorem at_typeRule (hr : r.Keeps whole) (hwhole : ∀ a ∈ whole, a.Sound) (allowPlus : Bool) :
    (r.typeRule allowPlus).At whole TypeExpr.GivenAs s := by
  unfold typeRule
  refine .bind (hr.binder s) fun outer s₁ outerGiven _ houter => ?_
  refine at_require fun (hstarts : outer.isSome = true → boundTypeAhead s₁.rest = true) => ?_
  have hname (hsome : outer.isSome = true) := anyName_of_boundTypeAhead (hstarts hsome)
  refine .ask fun parenthesis hparenthesis => ?_
  cases parenthesis
  case true =>
    obtain rfl : outer = none := by
      cases outer with
      | none => rfl
      | some d => exact absurd (hname rfl) (by simp [not_anyName_of_group hparenthesis])
    rw [houter.none rfl]
    exact at_parenthesisedType hr hwhole allowPlus
  refine .ask fun function hfunction => ?_
  cases function
  case true => exact at_functionType hr hwhole houter
  refine .ask fun builtin _ => ?_
  cases builtin
  case true => exact at_builtInType.mono fun t more ht => ht outerGiven
  refine .ask fun path hpath => ?_
  cases path
  case true => exact at_pathType hr hwhole houter hname allowPlus
  -- parameters are bound before functions and paths only
  obtain rfl : outer = none := by
    cases outer with
    | none => rfl
    | some d => exact absurd (path_of_boundTypeAhead (hstarts rfl) hfunction) (by simp [hpath])
  rw [houter.none rfl]
  refine .ask fun dyn _ => ?_
  cases dyn
  case true => exact at_dynType hr hwhole allowPlus
  refine .ask fun bracket _ => ?_
  cases bracket
  case true => exact at_bracketType hr
  refine .ask fun star _ => ?_
  cases star
  case true => exact at_pointerType hr
  refine .ask fun and _ => ?_
  cases and
  case true => exact at_referenceType hr hwhole
  refine .ask fun bang _ => ?_
  cases bang
  case true =>
    refine .bind (at_punct ['!']) fun _ s₂ _ _ hbang => .pure (TypeExpr.givenAs_plain fun _ => ?_)
    rw [hbang]
    exact ⟨_, (Doc.leads_word (spells_mark (c := '!') (by decide))).prints, .never⟩
  refine .ask fun impl _ => ?_
  cases impl
  case true => exact at_implType hr hwhole allowPlus
  refine .bind (at_word? "_") fun inferred s₂ _ _ hinferred => ?_
  cases inferred
  case true =>
    refine .pure (TypeExpr.givenAs_plain fun _ => ?_)
    rw [hinferred]
    exact ⟨_, prints_name (by decide +kernel : (Name.plain "_").Lexical), .inferred⟩
  refine .ask fun lifetime hlifetime => ?_
  cases lifetime
  case true =>
    refine .here fun start => ?_
    refine .bind (at_lifetimeType hr hwhole hlifetime start true) fun bounds s₃ given _ hbounds =>
      .pure (TypeExpr.givenAs_plain ?_)
    simpa [hinferred, maybeWord] using hbounds
  exact at_failExpected _

end Rules

/-! ## Types of types alone -/

/-- **The rules keep documents that print what is read**, however deep it is nested. -/
theorem keeps_rules (hwhole : ∀ a ∈ whole, a.Sound)
    (hleaves : ∀ depth, (rules depth).PrintsLeaves whole) (depth : Nat) :
    (rules depth).Keeps whole := by
  induction depth with
  | zero =>
      refine ⟨hleaves 0, fun allowPlus s => ?_, fun s => ?_, fun s => ?_⟩
      all_goals exact at_failHere _
  | succ n ih =>
      exact ⟨hleaves (n + 1), fun allowPlus s => Rules.at_typeRule ih hwhole allowPlus,
        fun s => Rules.at_argumentRule ih hwhole, fun s => Rules.at_binderRule ih hwhole⟩

theorem lexemesOf_of_readPath {text : String} {p : Path} (h : readPath text = .ok p) :
    ∃ given, lexemesOf text = .ok given := by
  obtain ⟨trees, hlex, -⟩ := lex_of_readText h
  exact ⟨_, by rw [lexemesOf, hlex]; rfl⟩

/-- **A text that is read as a path goes with its tokens.** -/
theorem givenAs_of_readPath {text : String} {p : Path} (h : readPath text = .ok p)
    (hgiven : lexemesOf text = .ok given) (hleaves : ∀ depth, (rules depth).PrintsLeaves given) :
    p.GivenAs given := by
  obtain ⟨trees, hlex, hread⟩ := lex_of_readText h
  obtain ⟨after, hpath, hrest, hstray⟩ := finished_of_run hread
  have hwhole := Lexeme.sound_of_lexemesOf hgiven
  rw [lexemesOf, hlex] at hgiven
  cases hgiven
  obtain ⟨part, hpassed, hp⟩ :=
    Rules.at_path (keeps_rules hwhole hleaves _) hwhole hpath hstray List.infix_rfl
  have hall : Tree.lexemesAll trees = part ++ Tree.lexemesAll after.rest := hpassed
  rw [hrest, Tree.lexemesAll, List.append_nil] at hall
  rwa [hall]

end Fieldwise.Grammar
