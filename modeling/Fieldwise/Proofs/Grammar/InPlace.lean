import Fieldwise.Proofs.Grammar.Types

set_option autoImplicit false

/-! # Paths of names wherever they stand

`Parser.Takes` says that a reader takes trees off the front, in whatever group they stand and
whatever comes after them. A path of names alone is taken as that path at any depth, if nothing
comes next that goes on with it; the same holds where a type is wanted, unless the path begins with
the word `try` (`Rules.takes_pathType`). A path that is read by itself is spelled by such trees
(`ofNames_of_readPath`).
-/

namespace Fieldwise.Grammar

open Fieldwise.Token

namespace Parser

variable {α β : Type} {p : Parser α} {f : α → Parser β} {trees mid rest : List Tree} {a : α}
  {b : β}

/-! ## Taking trees off the front -/

/-- A reader takes trees off the front down to these, gives this, and has nothing left over in a
group. -/
def Takes (p : Parser α) (trees : List Tree) (a : α) (rest : List Tree) : Prop :=
  ∀ limit braced, ∃ braced',
    p ⟨trees, limit, none, braced⟩ = .ok (a, ⟨rest, limit, none, braced'⟩)

/-- A reader takes trees off the front down to these, whatever it gives. -/
def Accepts (p : Parser α) (trees rest : List Tree) : Prop := ∃ a, p.Takes trees a rest

theorem Takes.accepts (h : p.Takes trees a rest) : p.Accepts trees rest := ⟨a, h⟩

theorem takes_pure (a : α) (trees : List Tree) : (pure a : Parser α).Takes trees a trees :=
  fun _ braced => ⟨braced, rfl⟩

theorem Takes.bind (hp : p.Takes trees a mid) (hf : (f a).Takes mid b rest) :
    (p >>= f).Takes trees b rest := by
  intro limit braced
  obtain ⟨between, hread⟩ := hp limit braced
  obtain ⟨last, hmore⟩ := hf limit between
  exact ⟨last, (bind_ok hread f).trans hmore⟩

theorem Takes.accepts_bind (hp : p.Takes trees a mid) (hf : (f a).Accepts mid rest) :
    (p >>= f).Accepts trees rest :=
  hf.imp fun _ hread => hp.bind hread

theorem Accepts.bind (hp : p.Accepts trees mid) (hf : ∀ a, (f a).Accepts mid rest) :
    (p >>= f).Accepts trees rest := by
  obtain ⟨a, hread⟩ := hp
  exact hread.accepts_bind (hf a)

theorem Takes.ask {question : Ahead} {answer : Bool} {f : Bool → Parser β}
    (h : question trees = answer) (hf : (f answer).Takes trees b rest) :
    (ask question >>= f).Takes trees b rest :=
  Takes.bind (a := answer) (fun _ braced => ⟨braced, by rw [ask_ok, h]⟩) hf

theorem Accepts.ask {question : Ahead} {answer : Bool} {f : Bool → Parser β}
    (h : question trees = answer) (hf : (f answer).Accepts trees rest) :
    (ask question >>= f).Accepts trees rest :=
  hf.imp fun _ hread => .ask h hread

theorem takes_punct? {marks : List Char} (h : Ahead.punct marks trees = false) :
    (punct? marks).Takes trees false trees :=
  .ask h (takes_pure false trees)

theorem takes_word? {text : String} (h : Ahead.word text trees = false) :
    (word? text).Takes trees false trees :=
  .ask h (takes_pure false trees)

theorem takes_punct {marks : List Char} (h : Ahead.punct marks trees = true) :
    (punct marks).Takes trees () (trees.drop marks.length) :=
  .ask h fun _ _ => ⟨_, rfl⟩

theorem takes_word {text : String} (h : Ahead.word text trees = true) :
    (word text).Takes trees () (trees.drop 1) :=
  .ask h fun _ _ => ⟨_, rfl⟩

theorem takes_spacedWord {text : String} (h : Ahead.word text trees = false) :
    (spacedWord text).Takes trees "" trees :=
  (takes_word? h).bind (takes_pure "" trees)

theorem takes_identifier {n : Name} (hn : isIdentifier n = true) (p : Position) :
    identifier.Takes (.name n p :: rest) n rest := by
  intro limit braced
  refine ⟨false, ?_⟩
  show (if isIdentifier n then (do skip 1; pure n) else failHere (.keyword n.text)
    : Parser Name) _ = _
  rw [if_pos hn]
  rfl

/-- A group is taken as a whole where its content is taken to the end. -/
theorem Takes.group {d : Delimiter} {opening closing : Position} (h : p.Takes trees a []) :
    (group d p).Takes (.group d trees opening closing :: rest) a rest := by
  intro limit braced
  obtain ⟨last, hread⟩ := h (some closing) false
  refine ⟨d == .brace, ?_⟩
  simp only [Parser.group, if_true, hread]

theorem Accepts.group {d : Delimiter} {opening closing : Position} (h : p.Accepts trees []) :
    (group d p).Accepts (.group d trees opening closing :: rest) rest :=
  h.imp fun _ hread => hread.group

/-- A reader of a whole text that takes all of it gives what it takes it for. -/
theorem Takes.run (h : p.Takes trees a []) : p.run trees = .ok a := by
  obtain ⟨last, hread⟩ := h none false
  exact run_of_finished hread rfl rfl

/-- A reader gives nothing, in whatever group these trees stand. -/
def Refuses (p : Parser α) (trees : List Tree) : Prop :=
  ∀ limit braced, ∃ fault, p ⟨trees, limit, none, braced⟩ = .error fault

theorem Refuses.bind (h : p.Refuses trees) (f : α → Parser β) : (p >>= f).Refuses trees := by
  intro limit braced
  obtain ⟨fault, hread⟩ := h limit braced
  exact ⟨fault, bind_error hread f⟩

theorem Takes.refuses_bind (hp : p.Takes trees a mid) (hf : (f a).Refuses mid) :
    (p >>= f).Refuses trees := by
  intro limit braced
  obtain ⟨between, hread⟩ := hp limit braced
  obtain ⟨fault, hmore⟩ := hf limit between
  exact ⟨fault, (bind_ok hread f).trans hmore⟩

theorem Refuses.ask {question : Ahead} {answer : Bool} {f : Bool → Parser β}
    (h : question trees = answer) (hf : (f answer).Refuses trees) :
    (ask question >>= f).Refuses trees :=
  Takes.refuses_bind (a := answer) (fun _ braced => ⟨braced, by rw [ask_ok, h]⟩) hf

theorem Refuses.run (h : p.Refuses trees) : ∃ fault, p.run trees = .error fault := by
  obtain ⟨fault, hread⟩ := h none false
  exact ⟨fault, run_of_error hread⟩

/-! ## Repetition -/

/-- A reader of one thing after another takes these, and then gives none. -/
inductive TakesAll (step : Parser (Option α)) : List Tree → List α → List Tree → Prop
  | nil {trees rest : List Tree} (h : step.Takes trees none rest) : TakesAll step trees [] rest
  | cons {trees mid rest : List Tree} {a : α} {more : List α} (h : step.Takes trees (some a) mid)
      (hshorter : mid.length < trees.length) (hmore : TakesAll step mid more rest) :
      TakesAll step trees (a :: more) rest

variable {step : Parser (Option α)} {items : List α}

/-- The number of trees is bound enough. -/
theorem TakesAll.collect (h : TakesAll step trees items rest) :
    (collect step).Takes trees items rest := by
  have hbounded : ∀ k, trees.length < k → (collectUpTo step k).Takes trees items rest := by
    -- every step leaves fewer trees, so that the bound is not met before a step gives none
    induction h with
    | nil h =>
        intro k hk
        obtain ⟨m, rfl⟩ : ∃ m, k = m + 1 := ⟨k - 1, by omega⟩
        exact h.bind (takes_pure [] _)
    | cons h hshorter _ ih =>
        intro k hk
        obtain ⟨m, rfl⟩ : ∃ m, k = m + 1 := ⟨k - 1, by omega⟩
        exact h.bind ((ih m (by omega)).bind (takes_pure _ _))
  intro limit braced
  exact hbounded _ (Nat.lt_succ_self _) limit braced

/-- Just one thing is collected, down to where a reader gives none. -/
theorem takes_single (a : α) (mid : List Tree) (h : step.Takes trees (some a) mid)
    (hshorter : mid.length < trees.length) (hlast : step.Takes mid none rest) :
    (collect step).Takes trees [a] rest :=
  (TakesAll.cons h hshorter (.nil hlast)).collect

/-- Nothing is collected where the reader fails after the first thing. -/
theorem refuses_second (h : step.Takes trees (some a) mid) (hshorter : mid.length < trees.length)
    (hmore : step.Refuses mid) : (collect step).Refuses trees := by
  obtain ⟨k, hk⟩ : ∃ k, trees.length = k + 1 := ⟨trees.length - 1, by omega⟩
  have hread : (collectUpTo step (trees.length + 1)).Refuses trees := by
    rw [hk]
    exact h.refuses_bind ((hmore.bind _).bind _)
  exact hread

/-- A value is passed through a reader once. -/
theorem takes_once {step : α → Parser (Option α)} {first : α} (a : α) (mid : List Tree)
    (h : (step first).Takes trees (some a) mid) (hshorter : mid.length < trees.length)
    (hlast : (step a).Takes mid none rest) : (iterate step first).Takes trees a rest := by
  obtain ⟨k, hk⟩ : ∃ k, trees.length = k + 1 := ⟨trees.length - 1, by omega⟩
  have hread : (iterateUpTo step (trees.length + 1) first).Takes trees a rest := by
    rw [hk]
    exact h.bind (hlast.bind (takes_pure a rest))
  exact hread

/-- All that is collected has what every step gives it. -/
theorem forall_of_collectUpTo {P : α → Prop}
    (hstep : ∀ {s after : Input} {a : α}, step s = .ok (some a, after) → P a) {k : Nat}
    {s after : Input} (h : collectUpTo step k s = .ok (items, after)) : ∀ a ∈ items, P a := by
  induction k generalizing s items with
  | zero =>
      cases h
      exact fun a ha => by cases ha
  | succ k ih =>
      rw [collectUpTo] at h
      obtain ⟨found, mid, hfound, h⟩ := bind_eq_ok h
      cases found with
      | none =>
          cases h
          exact fun a ha => by cases ha
      | some a =>
          obtain ⟨more, last, hmore, h⟩ := bind_eq_ok h
          cases h
          exact List.forall_mem_cons.mpr ⟨hstep hfound, ih hmore⟩

/-- Nothing is collected where a reader gives none at once. -/
theorem takes_nothing (h : step.Takes trees none rest) : (collect step).Takes trees [] rest :=
  (TakesAll.nil h).collect

end Parser

/-! ## What may be left out -/

section Absent

open Fieldwise.Grammar.Parser

variable {trees : List Tree}

theorem takes_visibility (h : Ahead.word "pub" trees = false) :
    visibility.Takes trees (.inherited, .empty) trees :=
  (takes_word? h).bind (takes_pure _ trees)

theorem takes_visibilityAhead (h : Ahead.word "pub" trees = false) :
    visibilityAhead.Takes trees (.inherited, trees) trees := by
  intro limit braced
  obtain ⟨last, hread⟩ := takes_visibility h limit braced
  refine ⟨braced, ?_⟩
  rw [visibilityAhead, Parser.ahead, bind_ok hread]
  rfl

theorem takes_convention (h : Ahead.word "extern" trees = false) :
    convention.Takes trees "" trees :=
  (takes_word? h).bind (takes_pure "" trees)

namespace Rules

variable (r : Rules)

theorem takes_outerAttributes (h : Ahead.punct ['#'] trees = false) :
    r.outerAttributes.Takes trees [] trees :=
  takes_nothing ((takes_punct? h).bind (takes_pure none trees))

theorem takes_outerLayout (h : Ahead.punct ['#'] trees = false) :
    r.outerLayout.Takes trees (Attribute.layoutAll false []) trees :=
  (r.takes_outerAttributes h).bind (takes_pure _ trees)

theorem takes_innerAttributes
    (h : Ahead.and (.punct ['#']) (.second (.punct ['!'])) trees = false) :
    r.innerAttributes.Takes trees [] trees :=
  takes_nothing (.ask h (takes_pure none trees))

theorem takes_innerLayout
    (h : Ahead.and (.punct ['#']) (.second (.punct ['!'])) trees = false) :
    r.innerLayout.Takes trees (Attribute.layoutAll true []) trees :=
  (r.takes_innerAttributes h).bind (takes_pure _ trees)

theorem takes_parameters (h : Ahead.punct ['<'] trees = false) :
    r.parameters.Takes trees [] trees :=
  (takes_punct? h).bind (takes_pure [] trees)

theorem takes_whereClause? (h : Ahead.word "where" trees = false) :
    r.whereClause?.Takes trees none trees :=
  (takes_word? h).bind (takes_pure none trees)

theorem takes_whereClause (h : Ahead.word "where" trees = false) :
    r.whereClause.Takes trees [] trees :=
  (r.takes_whereClause? h).bind (takes_pure [] trees)

end Rules

end Absent

/-! ## Paths of names -/

/-- Whether a name may stand in a path. -/
def IsSegmentName (n : Name) : Prop := isIdentifier n = true ∨ ∃ text ∈ pathStarts, n = .plain text

/-- A path is a list of names without arguments. -/
structure Path.OfNames (p : Path) : Prop where
  plain : p.isPlain = true
  nonempty : p.segments ≠ []
  names : ∀ s ∈ p.segments, IsSegmentName s.name

/-- Two colons in generated code. -/
def colonTrees : List Tree := [.punct ':' true .start, .punct ':' false .start]

/-- The names of a path after the first as they stand in generated code. -/
def laterTrees (segments : List Segment) : List Tree :=
  segments.flatMap fun s => colonTrees ++ [.name s.name .start]

/-- A path of names as it stands in generated code. -/
def Path.trees (p : Path) : List Tree :=
  (if p.leading then colonTrees else []) ++ match p.segments with
    | [] => []
    | s :: more => .name s.name .start :: laterTrees more

/-- A path that is read and has no arguments is one of names. -/
theorem Rules.ofNames_of_path (r : Rules) {s after : Input} {p : Path}
    (h : r.path false s = .ok (p, after)) (hplain : p.isPlain = true) : p.OfNames := by
  unfold Rules.path at h
  obtain ⟨leading, s₁, -, h⟩ := Parser.bind_eq_ok h
  obtain ⟨first, s₂, hfirst, h⟩ := Parser.bind_eq_ok h
  obtain ⟨more, s₃, hmore, h⟩ := Parser.bind_eq_ok h
  cases h
  refine ⟨hplain, List.cons_ne_nil _ _,
    List.forall_mem_cons.mpr ⟨(r.name_of_segment hfirst).1, ?_⟩⟩
  refine Parser.forall_of_collectUpTo (fun hstep => ?_) hmore
  obtain ⟨ahead, _, -, hstep⟩ := Parser.bind_eq_ok hstep
  split at hstep
  · obtain ⟨_, _, -, hstep⟩ := Parser.bind_eq_ok hstep
    obtain ⟨found, _, hfound, hstep⟩ := Parser.bind_eq_ok hstep
    cases hstep
    exact (r.name_of_segment hfound).1
  · cases hstep

theorem ofNames_of_readPath {text : String} {p : Path} (h : readPath text = .ok p)
    (hplain : p.isPlain = true) : p.OfNames := by
  obtain ⟨trees, -, hread⟩ := lex_of_readText h
  obtain ⟨after, hpath, -, -⟩ := Parser.finished_of_run hread
  exact Rules.ofNames_of_path _ hpath hplain

namespace Rules

open Fieldwise.Grammar.Parser

variable {rest : List Tree}

/-- A name of a path is taken by itself where no generic arguments follow it. -/
theorem takes_segment (r : Rules) {n : Name} (hn : IsSegmentName n)
    (hrest : angleAhead false rest = false) :
    (r.segment false).Takes (.name n .start :: rest) ⟨n, .none⟩ rest := by
  cases hword : Ahead.anyWord ["super", "self", "crate", "try"] (.name n .start :: rest) with
  | true => exact .ask hword (.bind (fun _ _ => ⟨_, rfl⟩) (takes_pure _ _))
  | false =>
      refine .ask hword (.ask rfl ?_)
      -- the word `Self` is read as any name is, and is the only keyword that is left
      cases hself : Ahead.word "Self" (.name n .start :: rest) with
      | true => exact .bind (fun _ _ => ⟨_, rfl⟩) (.ask hrest (takes_pure _ _))
      | false =>
          have hident : isIdentifier n = true := by
            rcases hn with hident | ⟨text, htext, rfl⟩
            · exact hident
            · simp only [pathStarts, List.mem_cons, List.not_mem_nil, or_false] at htext
              rcases htext with rfl | rfl | rfl | rfl | rfl
              · cases hword
              · cases hword
              · cases hword
              · cases hword
              · cases hself
          exact (takes_identifier hident _).bind (.ask hrest (takes_pure _ _))

/-- Reads a name of a path after the first, if two colons come next. -/
def laterSegment (r : Rules) : Parser (Option Segment) := do
  if ← ask (.butNot (.punct [':', ':']) (.third (.group .parenthesis))) then
    punct [':', ':']
    return some (← r.segment false)
  else return none

theorem takes_laterSegment (r : Rules) {n : Name} (hn : IsSegmentName n)
    (hrest : angleAhead false rest = false) :
    r.laterSegment.Takes (colonTrees ++ .name n .start :: rest) (some ⟨n, .none⟩) rest :=
  .ask rfl ((takes_punct rfl).bind ((r.takes_segment hn hrest).bind (takes_pure _ _)))

/-- Before these trees a path ends, and so does a type that is one. -/
structure EndsPath (rest : List Tree) : Prop where
  angle : angleAhead false rest = false
  colons : Ahead.punct [':', ':'] rest = false
  bang : bangAhead rest = false
  plus : Ahead.punct ['+'] rest = false
  hash : Ahead.punct ['#'] rest = false

theorem endsPath_nil : EndsPath [] := ⟨rfl, rfl, rfl, rfl, rfl⟩

/-- A path ends before the mark that closes generic arguments. -/
theorem endsPath_closing (more : List Tree) : EndsPath (.punct '>' false .start :: more) :=
  ⟨rfl, rfl, rfl, rfl, rfl⟩

theorem endsPath_group (d : Delimiter) (content : List Tree) (opening closing : Position)
    (more : List Tree) : EndsPath (.group d content opening closing :: more) :=
  ⟨rfl, rfl, rfl, rfl, rfl⟩

/-- Generic arguments come after no name that others follow. -/
theorem angleAhead_laterTrees (segments : List Segment) (hrest : angleAhead false rest = false) :
    angleAhead false (laterTrees segments ++ rest) = false := by
  cases segments with
  | nil => exact hrest
  | cons s more => rfl

/-- The names of a path are taken one after the other, and then what comes after them. -/
theorem takesAll_laterTrees (r : Rules) {segments more : List Segment} {last : List Tree}
    (hplain : ∀ s ∈ segments, s.arguments.isAbsent = true)
    (hnames : ∀ s ∈ segments, IsSegmentName s.name) (hrest : angleAhead false rest = false)
    (hmore : TakesAll r.laterSegment rest more last) :
    TakesAll r.laterSegment (laterTrees segments ++ rest) (segments ++ more) last := by
  induction segments with
  | nil => exact hmore
  | cons s later ih =>
      obtain ⟨hs, hlater⟩ := List.forall_mem_cons.mp hplain
      obtain ⟨hn, hlaterNames⟩ := List.forall_mem_cons.mp hnames
      obtain ⟨n, arguments⟩ := s
      cases arguments with
      | none =>
          -- after this name the next one comes, or else what comes after the path
          show TakesAll r.laterSegment (colonTrees ++ .name n .start :: (laterTrees later ++ rest))
            _ last
          refine .cons (r.takes_laterSegment hn (angleAhead_laterTrees later hrest)) ?_
            (ih hlater hlaterNames)
          simp only [List.length_append, List.length_cons]
          omega
      | angle lifetimes others => cases hs
      | call layout => cases hs

/-- A path of names is taken with the names that come after it. -/
theorem takes_pathBefore (r : Rules) {p : Path} (hp : p.OfNames) {more : List Segment}
    {last : List Tree} (hrest : angleAhead false rest = false)
    (hmore : TakesAll r.laterSegment rest more last) :
    (r.path false).Takes (p.trees ++ rest) ⟨p.leading, p.segments ++ more⟩ last := by
  obtain ⟨leading, segments⟩ := p
  have hplain : ∀ s ∈ segments, s.arguments.isAbsent = true := List.all_eq_true.mp hp.plain
  cases segments with
  | nil => exact absurd rfl hp.nonempty
  | cons first later =>
      obtain ⟨hfirst, hlater⟩ := List.forall_mem_cons.mp hplain
      obtain ⟨hn, hnames⟩ := List.forall_mem_cons.mp hp.names
      obtain ⟨n, arguments⟩ := first
      cases arguments with
      | none =>
          have hsegments : (r.moreSegments false).Takes (laterTrees later ++ rest) (later ++ more)
              last := (r.takesAll_laterTrees hlater hnames hrest hmore).collect
          have hsegment := r.takes_segment hn (angleAhead_laterTrees later hrest)
          cases leading with
          | true =>
              exact .bind (fun _ _ => ⟨_, rfl⟩)
                (hsegment.bind (hsegments.bind (takes_pure _ last)))
          | false =>
              exact .bind (takes_punct? rfl) (hsegment.bind (hsegments.bind (takes_pure _ last)))
      | angle lifetimes others => cases hfirst
      | call layout => cases hfirst

/-- **A path of names is taken as that path.** -/
theorem takes_path (r : Rules) {p : Path} (hp : p.OfNames) (hrest : EndsPath rest) :
    (r.path false).Takes (p.trees ++ rest) p rest := by
  have hnone : r.laterSegment.Takes rest none rest := by
    have hahead : Ahead.butNot (.punct [':', ':']) (.third (.group .parenthesis)) rest = false := by
      rw [Ahead.butNot, hrest.colons, Bool.false_and]
    exact .ask hahead (takes_pure none rest)
  have hread := r.takes_pathBefore hp hrest.angle (.nil hnone)
  rwa [List.append_nil] at hread

/-! ## Paths where types are wanted -/

end Rules

/-- These trees begin as a path does: with two colons, or with a name that may stand in one. -/
inductive PathFront : List Tree → Prop
  | colons (more : List Tree) : PathFront (colonTrees ++ more)
  | name {n : Name} (hn : IsSegmentName n) (more : List Tree) : PathFront (.name n .start :: more)

theorem Path.OfNames.front {p : Path} (hp : p.OfNames) (rest : List Tree) :
    PathFront (p.trees ++ rest) := by
  obtain ⟨leading, segments⟩ := p
  cases segments with
  | nil => exact absurd rfl hp.nonempty
  | cons s more =>
      cases leading with
      | true => exact .colons _
      | false => exact .name (hp.names s List.mem_cons_self) _

theorem Path.OfNames.length_pos {p : Path} (hp : p.OfNames) : 0 < p.trees.length := by
  obtain ⟨leading, segments⟩ := p
  cases segments with
  | nil => exact absurd rfl hp.nonempty
  | cons s more =>
      simp only [Path.trees, List.length_append, List.length_cons]
      omega

/-- A path that begins with `try` is spelled so. -/
theorem Path.trees_eq_try {p : Path} (h : p.beginsWithTry = true) (rest : List Tree) :
    ∃ more, p.trees ++ rest = .name (.plain "try") .start :: more := by
  obtain ⟨leading, segments⟩ := p
  simp only [beginsWithTry, Bool.and_eq_true, Bool.not_eq_true', beq_iff_eq] at h
  obtain ⟨rfl, hfirst⟩ := h
  cases segments with
  | nil => cases hfirst
  | cons s more =>
      have hs : s.name = .plain "try" := Option.some.inj hfirst
      exact ⟨laterTrees more ++ rest, by simp [trees, hs]⟩

/-- A name by itself is a path, and it does not begin with `try`. -/
theorem ofNames_of_identifier {n : Name} (hn : isIdentifier n = true) :
    Path.OfNames ⟨false, [⟨n, .none⟩]⟩ ∧ Path.beginsWithTry ⟨false, [⟨n, .none⟩]⟩ = false := by
  refine ⟨⟨rfl, List.cons_ne_nil _ _, fun s hs => ?_⟩, ?_⟩
  · rw [List.mem_singleton.mp hs]
    exact .inl hn
  · refine Bool.and_eq_false_imp.mpr fun _ => beq_eq_false_iff_ne.mpr fun h => ?_
    cases Option.some.inj h
    cases hn

namespace PathFront

variable {trees : List Tree}

/-- A keyword that begins no path does not come next. -/
theorem word (h : PathFront trees) {text : String} (hkeyword : keywords.contains text = true)
    (hstart : text ∉ pathStarts) : Ahead.word text trees = false := by
  cases h with
  | colons more => rfl
  | name hn more => exact word_pathStart hn hkeyword hstart _ _

theorem punct (h : PathFront trees) {c : Char} (hc : (':' == c) = false) :
    Ahead.punct [c] trees = false := by
  cases h with
  | colons more => exact hc
  | name hn more => rfl

theorem group (h : PathFront trees) (d : Delimiter) : Ahead.group d trees = false := by
  cases h with
  | colons more => rfl
  | name hn more => rfl

theorem lifetime (h : PathFront trees) : Ahead.lifetime trees = false := by
  cases h with
  | colons more => rfl
  | name hn more => rfl

/-- It stands where all generated code does. -/
theorem here (h : PathFront trees) : Parser.here.Takes trees (some .start) trees := by
  cases h with
  | colons more => exact fun _ _ => ⟨_, rfl⟩
  | name hn more => exact fun _ _ => ⟨_, rfl⟩

theorem literal (h : PathFront trees) : Ahead.literal trees = false := by
  cases h with
  | colons more => rfl
  | @name n hn more =>
      -- `true` and `false` are literals that are spelled as names, but they begin no path
      have htrue : Ahead.word "true" (.name n .start :: more) = false :=
        word_pathStart hn (by decide) (by decide) .start more
      have hfalse : Ahead.word "false" (.name n .start :: more) = false :=
        word_pathStart hn (by decide) (by decide) .start more
      simp only [Ahead.word] at htrue hfalse
      simp only [Ahead.literal, Bool.and_or_distrib_left, htrue, hfalse, Bool.or_false]

/-- No parameters are bound before it. -/
theorem unbound (h : PathFront trees) : parametersAhead trees = false := by
  rw [parametersAhead, h.punct rfl, Bool.false_and]

/-- It is no trait that may be constant. -/
theorem notConstant (h : PathFront trees) :
    Ahead.or (.word "const") (.and (.punct ['?']) (.second (.word "const"))) trees = false := by
  rw [Ahead.or, Ahead.and, h.word (by decide) (by decide), h.punct rfl]
  rfl

/-- It is no trait that is ruled out. -/
theorem positive (h : PathFront trees) :
    Ahead.butNot (.punct ['!']) (.second (.group .brace)) trees = false := by
  rw [Ahead.butNot, h.punct rfl, Bool.false_and]

end PathFront

/-- A path of names rules out all other types, unless it begins with `try`. -/
theorem Path.OfNames.pathAhead {p : Path} (hp : p.OfNames) (htry : p.beginsWithTry = false)
    {rest : List Tree} (hrest : Ahead.punct ['#'] rest = false) :
    Rules.PathAhead (p.trees ++ rest) := by
  obtain ⟨leading, segments⟩ := p
  cases segments with
  | nil => exact absurd rfl hp.nonempty
  | cons s more =>
      cases leading with
      | true => exact pathAhead_colons rfl
      | false =>
          refine pathAhead_name (hp.names s List.mem_cons_self) ?_ ?_
          · intro hs
            simp [Path.beginsWithTry, hs] at htry
          · have hhash : Ahead.punct ['#'] (laterTrees more ++ rest) = false := by
              cases more with
              | nil => exact hrest
              | cons t later => rfl
            exact Bool.and_eq_false_imp.mpr fun _ => hhash

namespace Rules

open Fieldwise.Grammar.Parser

variable {rest : List Tree}

theorem takes_binder (k : Nat) {trees : List Tree} (h : Ahead.word "for" trees = false) :
    (rules (k + 1)).binder.Takes trees none trees := by
  show ((rules k).binderRule).Takes trees none trees
  exact .bind (takes_word? h) (takes_pure none trees)

/-- A path is taken where a type is wanted, if nothing comes next that goes on with the type. -/
theorem takes_typeRule (k : Nat) (allowPlus : Bool) {trees : List Tree} {path : Path}
    (hpath : ((rules (k + 1)).path false).Takes trees path rest) (h : PathAhead trees)
    (hrest : EndsPath rest) :
    ((rules (k + 1)).typeRule allowPlus).Takes trees ⟨.path path, path.layout false⟩ rest := by
  have hqualified : ((rules (k + 1)).qualifiedPath false).Takes trees ⟨none, path⟩ rest :=
    .bind (takes_punct? h.angle) (hpath.bind (takes_pure _ rest))
  have hbare : ((rules (k + 1)).pathType none allowPlus).Takes trees
      ⟨.path path, path.layout false⟩ rest := by
    refine hqualified.bind (.ask hrest.bang ?_)
    dsimp only
    rw [Bool.and_false]
    refine .ask hrest.plus ?_
    rw [Bool.and_false]
    exact takes_pure _ rest
  refine (takes_binder k h.binder).bind ?_
  exact .ask h.parenthesis (.ask h.function (.ask h.builtIn (.ask h.start hbare)))

/-- **A path of names is taken where a type is wanted**, unless it begins with `try`. -/
theorem takes_pathType (k : Nat) (allowPlus : Bool) {p : Path} (hp : p.OfNames)
    (htry : p.beginsWithTry = false) (hrest : EndsPath rest) :
    ((rules (k + 2)).type allowPlus).Takes (p.trees ++ rest) ⟨.path p, p.layout false⟩ rest :=
  takes_typeRule k allowPlus ((rules (k + 1)).takes_path hp hrest) (hp.pathAhead htry hrest.hash)
    hrest

/-- A path of names is taken where a generic argument is wanted, as the last of them. -/
theorem accepts_argument (k : Nat) {p : Path} (hp : p.OfNames) (htry : p.beginsWithTry = false)
    (more : List Tree) : (rules (k + 3)).argument.Accepts
      (p.trees ++ .punct '>' false .start :: more) (.punct '>' false .start :: more) := by
  have hfront := hp.front (.punct '>' false .start :: more)
  have htype := takes_pathType k true hp htry (endsPath_closing more)
  have hargument : (rules (k + 2)).typeArgument.Accepts (p.trees ++ .punct '>' false .start :: more)
      (.punct '>' false .start :: more) := by
    refine htype.accepts_bind ?_
    -- a name alone might go on with its value or with bounds, but neither comes next
    split
    · exact (takes_pure _ _).accepts
    · exact (takes_punct? rfl).accepts_bind
        ((takes_punct? rfl).accepts_bind (takes_pure _ _).accepts)
  have hlifetime : Ahead.butNot .lifetime (.second (.punct ['+']))
      (p.trees ++ .punct '>' false .start :: more) = false := by
    rw [Ahead.butNot, hfront.lifetime, Bool.false_and]
  have hconstant : Ahead.or .literal (.group .brace) (p.trees ++ .punct '>' false .start :: more)
      = false := by
    rw [Ahead.or, hfront.literal, hfront.group, Bool.or_false]
  exact .ask hlifetime (.ask hconstant (hargument.bind fun _ => (takes_pure _ _).accepts))

/-- A path of names is taken as the only generic argument. -/
theorem accepts_angleArguments (k : Nat) {p : Path} (hp : p.OfNames)
    (htry : p.beginsWithTry = false) (more : List Tree) : (rules (k + 3)).angleArguments.Accepts
      (.punct '<' false .start :: (p.trees ++ .punct '>' false .start :: more)) more := by
  obtain ⟨a, hargument⟩ := accepts_argument k hp htry more
  have hclosing : (punct ['>']).Takes (.punct '>' false .start :: more) () more := takes_punct rfl
  have hitems : (separatedBefore (.punct ['>']) [','] (rules (k + 3)).argument).Takes
      (p.trees ++ .punct '>' false .start :: more) [a] (.punct '>' false .start :: more) := by
    refine takes_single a (.punct '>' false .start :: more) ?_ ?_ ?_
    · exact .ask ((hp.front _).punct rfl) (hargument.bind (.ask rfl (takes_pure _ _)))
    · have hlength := hp.length_pos
      simp only [List.length_append]
      omega
    · exact .ask rfl (takes_pure _ _)
  exact (takes_punct rfl).accepts_bind
    (hitems.accepts_bind (hclosing.accepts_bind (takes_pure _ _).accepts))

/-- No type begins with the word `try`. -/
theorem refuses_try (k : Nat) (allowPlus : Bool) (rest : List Tree) :
    ((rules (k + 2)).type allowPlus).Refuses (.name (.plain "try") .start :: rest) :=
  fun _ _ => ⟨_, rfl⟩

/-- A reference to what a path of names stands for is taken as a type. -/
theorem accepts_reference (k : Nat) {p : Path} (hp : p.OfNames) (htry : p.beginsWithTry = false) :
    ((rules (k + 3)).type true).Accepts (.punct '&' false .start :: p.trees) [] := by
  have hfront := hp.front []
  have htype := takes_pathType k false hp htry endsPath_nil
  rw [List.append_nil] at hfront htype
  have hshared : Ahead.word "mut" p.trees = false := hfront.word (by decide) (by decide)
  have hreference : (rules (k + 2)).referenceType.Accepts (.punct '&' false .start :: p.trees) [] :=
    (takes_punct rfl).accepts_bind (.ask hfront.lifetime ((takes_pure "" _).accepts_bind
      ((takes_spacedWord hshared).accepts_bind (htype.accepts_bind (takes_pure _ []).accepts))))
  have hrule : ((rules (k + 2)).typeRule true).Accepts (.punct '&' false .start :: p.trees) [] :=
    (takes_binder (k + 1) rfl).accepts_bind hreference
  exact hrule

end Rules

end Fieldwise.Grammar
