import Fieldwise.Proofs.Grammar.Names

set_option autoImplicit false

/-! # Paths where types are wanted

A path can stand wherever a type is wanted, with one exception: a path may begin with the word
`try`, and no type does. So a text that is read as a path is also read as a type, and as that very
path, unless `try` is its first word (`readType_of_readPath`); then it is no type
(`readType_of_beginsWithTry`). The path of a type in its crate begins with the word `crate`
(`not_beginsWithTry_crate`).
-/

namespace Fieldwise.Token

/-! ## What is read first stays first -/

/-- The finished trees outside of all open groups, last one first. -/
def outermost : List Tree → List OpenGroup → List Tree
  | done, [] => done
  | _, g :: outer => outermost g.before outer

theorem outermost_suffix {done more : List Tree} (h : done <:+ more) (groups : List OpenGroup) :
    outermost done groups <:+ outermost more groups := by
  cases groups with
  | nil => exact h
  | cons g outer => exact List.suffix_rfl

/-- The trees that are finished outside of all groups are the first of the text. -/
theorem outermost_of_lexFrom {n : Nat} {s : Source} {done trees : List Tree}
    {groups : List OpenGroup} (h : lexFrom n s done groups = .ok trees) :
    (outermost done groups).reverse <+: trees := by
  induction n generalizing s done groups with
  | zero => cases h
  | succ n ih =>
      -- in every step but the last something is put before what is done, or a group begins or ends
      have hgrow {more : List Tree} (hmore : done <:+ more)
          (hnext : (outermost more groups).reverse <+: trees) :
          (outermost done groups).reverse <+: trees :=
        (List.reverse_prefix.mpr (outermost_suffix hmore groups)).trans hnext
      simp only [lexFrom] at h
      split at h
      · exact hgrow (List.suffix_append _ _) (ih h)
      · split at h
        · split at h
          · cases h
            exact List.prefix_rfl
          · cases h
        · split at h
          · exact hgrow (List.suffix_cons _ _) (ih h)
          · split at h
            · have hopened := ih h
              exact hopened
            · split at h
              · split at h
                · cases h
                · rename_i g outer
                  split at h
                  · refine List.IsPrefix.trans ?_ (ih h)
                    exact List.reverse_prefix.mpr (outermost_suffix (List.suffix_cons _ _) outer)
                  · cases h
              · split at h
                · exact hgrow (List.suffix_cons _ _) (ih h)
                · cases h

/-- A text that begins with a name has it as its first tree. -/
theorem head_of_lex_name {n : Name} (hn : n.Lexical) {rest : List Char} (hrest : EndsName rest)
    {trees : List Tree} (h : lex (n.written.toList ++ rest) = .ok trees) :
    ∃ more, trees = .name n .start :: more := by
  have hstart : Source.moveTo ⟨n.written.toList ++ rest, .start⟩ (n.written.toList ++ rest)
      = ⟨n.written.toList ++ rest, .start⟩ := by
    simp [Source.moveTo, textBefore, Position.after]
  rw [lex, dropByteOrderMark_name hn, hstart, lexFrom_name hn hrest] at h
  obtain ⟨more, rfl⟩ := outermost_of_lexFrom h
  exact ⟨more, rfl⟩

end Fieldwise.Token

namespace Fieldwise.Grammar

open Fieldwise.Token

/-! ## Readers taken apart -/

namespace Parser

variable {α β : Type}

/-- Two readers that give something have given something each. -/
theorem bind_eq_ok {p : Parser α} {f : α → Parser β} {s after : Input} {b : β}
    (h : (p >>= f) s = .ok (b, after)) :
    ∃ a mid, p s = .ok (a, mid) ∧ f a mid = .ok (b, after) := by
  change (p s).bind (fun x => f x.1 x.2) = _ at h
  cases hp : p s with
  | error fault =>
      rw [hp] at h
      cases h
  | ok x =>
      rw [hp] at h
      exact ⟨x.1, x.2, rfl, h⟩

/-- A question is answered by the trees that are left. -/
theorem ask_bind {question : Ahead} {s : Input} {answer : Bool} (h : question s.rest = answer)
    (f : Bool → Parser β) : (ask question >>= f) s = f answer s := by
  rw [bind_ok (ask_ok question s), h]

/-- A reader of a whole text has left nothing. -/
theorem finished_of_run {p : Parser α} {trees : List Tree} {a : α} (h : p.run trees = .ok a) :
    ∃ after, p (.fresh trees) = .ok (a, after) ∧ after.rest = [] ∧ after.stray = none := by
  unfold run at h
  split at h
  · cases h
  · rename_i b after hread
    split at h
    · cases h
    · cases h
    · rename_i hstray hrest
      cases h
      exact ⟨after, hread, hrest, hstray⟩

theorem run_of_finished {p : Parser α} {trees : List Tree} {a : α} {after : Input}
    (h : p (.fresh trees) = .ok (a, after)) (hrest : after.rest = [])
    (hstray : after.stray = none) : p.run trees = .ok a := by
  have hstart : p { rest := trees, limit := none, stray := none, afterBrace := false }
      = .ok (a, after) := h
  simp only [run, hstart, hrest, hstray]

theorem name_of_anyName {s after : Input} {n : Name} (h : anyName s = .ok (n, after)) :
    ∃ p rest, s.rest = .name n p :: rest := by
  obtain ⟨trees, limit, stray, afterBrace⟩ := s
  cases trees with
  | nil => cases h
  | cons t rest =>
      cases t with
      | name m p =>
          cases h
          exact ⟨p, rest, rfl⟩
      | lifetime m p => cases h
      | punct mark joint p => cases h
      | literal l p => cases h
      | group d content opening closing => cases h

theorem name_of_identifier {s after : Input} {n : Name} (h : identifier s = .ok (n, after)) :
    isIdentifier n = true ∧ ∃ p rest, s.rest = .name n p :: rest := by
  obtain ⟨trees, limit, stray, afterBrace⟩ := s
  cases trees with
  | nil => cases h
  | cons t rest =>
      cases t with
      | name m p =>
          change (if isIdentifier m then (do skip 1; pure m) else failHere (.keyword m.text)
            : Parser Name) _ = _ at h
          split at h
          · rename_i hident
            cases h
            exact ⟨hident, p, rest, rfl⟩
          · cases h
      | lifetime m p => cases h
      | punct mark joint p => cases h
      | literal l p => cases h
      | group d content opening closing => cases h

end Parser

/-- The words that may begin a path although they are keywords. -/
def pathStarts : List String := ["super", "self", "crate", "try", "Self"]

/-- Whether a path begins with the word `try`. -/
def Path.beginsWithTry (p : Path) : Bool :=
  !p.leading && (p.segments.head?.map Segment.name == some (.plain "try"))

namespace Rules

open Fieldwise.Grammar.Parser

theorem name_of_word {text : String} {n : Name} {p : Position} {rest : List Tree}
    (h : Ahead.word text (.name n p :: rest) = true) : n = .plain text := by
  obtain ⟨raw, found⟩ := n
  simp only [Ahead.word, Bool.and_eq_true, Bool.not_eq_true', beq_iff_eq] at h
  rw [Name.plain, h.1, h.2]

theorem name_of_anyWord {texts : List String} {n : Name} {p : Position} {rest : List Tree}
    (h : Ahead.anyWord texts (.name n p :: rest) = true) : ∃ text ∈ texts, n = .plain text := by
  obtain ⟨text, htext, hword⟩ := List.any_eq_true.mp h
  exact ⟨text, htext, name_of_word hword⟩

/-- Reads the generic arguments of a name, if there are any. -/
def segmentAfter (r : Rules) (name : Name) : Parser Segment := do
  if ← ask (angleAhead false) then
    let _ ← punct? [':', ':']
    return ⟨name, ← r.angleArguments⟩
  else return ⟨name, .none⟩

theorem name_of_segmentAfter (r : Rules) {n : Name} {s after : Input} {g : Segment}
    (h : r.segmentAfter n s = .ok (g, after)) : g.name = n := by
  unfold segmentAfter at h
  obtain ⟨angle, s₁, -, h⟩ := bind_eq_ok h
  split at h
  · obtain ⟨_, s₂, -, h⟩ := bind_eq_ok h
    obtain ⟨arguments, s₃, -, h⟩ := bind_eq_ok h
    cases h
    rfl
  · cases h
    rfl

/-- The name of a segment is the next tree, and it may stand in a path. -/
theorem name_of_segment (r : Rules) {s after : Input} {g : Segment}
    (h : r.segment false s = .ok (g, after)) :
    (isIdentifier g.name = true ∨ ∃ text ∈ pathStarts, g.name = .plain text)
      ∧ ∃ p rest, s.rest = .name g.name p :: rest := by
  unfold segment at h
  obtain ⟨word, s₁, hask, h⟩ := bind_eq_ok h
  cases hask
  split at h
  · rename_i hword
    obtain ⟨n, s₂, hname, h⟩ := bind_eq_ok h
    cases h
    obtain ⟨p, rest, hrest⟩ := name_of_anyName hname
    rw [hrest] at hword
    obtain ⟨text, htext, hn⟩ := name_of_anyWord hword
    exact ⟨.inr ⟨text, List.mem_append_left ["Self"] htext, hn⟩, p, rest, hrest⟩
  · obtain ⟨self, s₁, hask, h⟩ := bind_eq_ok h
    cases hask
    dsimp only at h
    split at h
    · rename_i hself
      obtain ⟨n, s₂, hname, h⟩ := bind_eq_ok h
      obtain ⟨p, rest, hrest⟩ := name_of_anyName hname
      rw [hrest] at hself
      rw [r.name_of_segmentAfter h]
      exact ⟨.inr ⟨"Self", by decide, name_of_word hself⟩, p, rest, hrest⟩
    · obtain ⟨n, s₂, hname, h⟩ := bind_eq_ok h
      obtain ⟨hident, p, rest, hrest⟩ := name_of_identifier hname
      rw [r.name_of_segmentAfter h]
      exact ⟨.inl hident, p, rest, hrest⟩

/-- The first tree of a path, and what it says of the path: two colons, or the first name. -/
theorem front_of_path (r : Rules) {trees : List Tree} {path : Path} {after : Input}
    (h : r.path false (.fresh trees) = .ok (path, after)) :
    (Ahead.punct [':', ':'] trees = true ∧ path.leading = true)
      ∨ ∃ n p rest, trees = .name n p :: rest ∧ path.leading = false
        ∧ path.segments.head?.map Segment.name = some n
        ∧ (isIdentifier n = true ∨ ∃ text ∈ pathStarts, n = .plain text) := by
  unfold Rules.path at h
  obtain ⟨leading, s₁, hlead, h⟩ := bind_eq_ok h
  obtain ⟨first, s₂, hfirst, h⟩ := bind_eq_ok h
  obtain ⟨more, s₃, -, h⟩ := bind_eq_ok h
  cases h
  unfold punct? at hlead
  obtain ⟨ahead, s₀, hask, hlead⟩ := bind_eq_ok hlead
  cases hask
  split at hlead
  · rename_i hcolons
    obtain ⟨_, s₄, -, hlead⟩ := bind_eq_ok hlead
    cases hlead
    exact .inl ⟨hcolons, rfl⟩
  · cases hlead
    obtain ⟨hstart, p, rest, hrest⟩ := r.name_of_segment hfirst
    exact .inr ⟨first.name, p, rest, hrest, rfl, rfl, hstart⟩

/-! ## Types -/

/-- No parameters are bound before a type that does not begin with the word `for`. -/
theorem binder_none (k : Nat) {trees : List Tree} (h : Ahead.word "for" trees = false) :
    (rules (k + 1)).binder (.fresh trees) = .ok (none, .fresh trees) := by
  have hword : word? "for" (.fresh trees) = .ok (false, .fresh trees) := by
    unfold word?
    rw [ask_bind h]
    rfl
  show (rules k).binderRule (.fresh trees) = _
  unfold binderRule
  rw [bind_ok hword]
  rfl

/-- What stands at the front of a text rules out all types but those that begin with a path. -/
structure PathAhead (trees : List Tree) : Prop where
  binder : Ahead.word "for" trees = false
  parenthesis : Ahead.group .parenthesis trees = false
  function : Ahead.anyWord ["fn", "unsafe", "extern"] trees = false
  builtIn : Ahead.and (.word "builtin") (.second (.punct ['#'])) trees = false
  start : Ahead.any [.identifier, .anyWord pathWords, .punct [':', ':'], .punct ['<']] trees = true
  angle : Ahead.punct ['<'] trees = false

/-- A path is read where a type is wanted. -/
theorem typeRule_path (k : Nat) {trees : List Tree} {path : Path} {after : Input}
    (hpath : (rules (k + 1)).path false (.fresh trees) = .ok (path, after))
    (hrest : after.rest = []) (h : PathAhead trees) :
    (rules (k + 1)).typeRule true (.fresh trees)
      = .ok (⟨.path path, path.layout false⟩, after) := by
  have hqualified : (rules (k + 1)).qualifiedPath false (.fresh trees)
      = .ok (⟨none, path⟩, after) := by
    have hno : punct? ['<'] (.fresh trees) = .ok (false, .fresh trees) := by
      unfold punct?
      rw [ask_bind h.angle]
      rfl
    unfold qualifiedPath
    rw [bind_ok hno, if_neg Bool.false_ne_true, bind_ok hpath]
    rfl
  have hbang : bangAhead after.rest = false := by
    rw [hrest]
    rfl
  have hplus : Ahead.punct ['+'] after.rest = false := by
    rw [hrest]
    rfl
  unfold typeRule
  rw [bind_ok (binder_none k h.binder), if_neg (by decide)]
  dsimp only
  rw [ask_bind h.parenthesis, if_neg Bool.false_ne_true, ask_bind h.function,
    if_neg Bool.false_ne_true, ask_bind h.builtIn, if_neg Bool.false_ne_true, ask_bind h.start,
    if_pos rfl]
  unfold pathType
  rw [bind_ok hqualified]
  dsimp only
  rw [if_neg (by decide), ask_bind hbang, Bool.and_false, if_neg Bool.false_ne_true,
    ask_bind hplus]
  rfl

/-- A name by itself is a path, whatever follows that goes on with no path. -/
theorem path_alone (r : Rules) {n : Name} (hn : isPathName n = true) (p : Position)
    {rest : List Tree} (hangle : angleAhead false rest = false)
    (hcolons : Ahead.punct [':', ':'] rest = false) :
    r.path false (.fresh (.name n p :: rest)) = .ok (⟨false, [⟨n, .none⟩]⟩, .fresh rest) := by
  have hlead : punct? [':', ':'] (.fresh (.name n p :: rest))
      = .ok (false, .fresh (.name n p :: rest)) := rfl
  have hmore : r.moreSegments false (.fresh rest) = .ok ([], .fresh rest) := by
    refine collectUpTo_none ?_ _
    have hno : Ahead.butNot (.punct [':', ':']) (.third (.group .parenthesis))
        (Input.fresh rest).rest = false := by
      show (Ahead.punct [':', ':'] rest && _) = false
      rw [hcolons, Bool.false_and]
    rw [ask_bind hno]
    rfl
  unfold Rules.path
  rw [bind_ok hlead, bind_ok (r.segment_alone hn p hangle), bind_ok hmore]
  rfl

/-- No type begins with the word `try`. -/
theorem typeRule_try (k : Nat) (p : Position) (rest : List Tree) :
    (rules (k + 1)).typeRule true (.fresh (.name (.plain "try") p :: rest))
      = .error ⟨.expected typeStarts, some p, false⟩ := by
  unfold typeRule
  rw [bind_ok (binder_none k rfl)]
  rfl

end Rules

/-! ## Whole texts -/

/-- The trees of a text that is read. -/
theorem lex_of_readText {α : Type} {p : Rules → Parser α} {text : List Char} {a : α}
    (h : readText p text = .ok a) :
    ∃ trees, lex text = .ok trees ∧ readTrees p trees = .ok a := by
  cases hlex : lex text with
  | error place =>
      simp only [readText, treesOf, hlex] at h
      cases h
  | ok trees =>
      rw [readText_eq p hlex] at h
      exact ⟨trees, rfl, h⟩

/-- A keyword that begins no path is not the first name of one. -/
theorem word_pathStart {n : Name} (h : isIdentifier n = true ∨ ∃ text ∈ pathStarts, n = .plain text)
    {text : String} (hkeyword : keywords.contains text = true) (hstart : text ∉ pathStarts)
    (p : Position) (rest : List Tree) : Ahead.word text (.name n p :: rest) = false := by
  cases hword : Ahead.word text (.name n p :: rest) with
  | false => rfl
  | true =>
      have hn := Rules.name_of_word hword
      subst hn
      rcases h with hident | ⟨other, hother, heq⟩
      · simp only [isIdentifier, Name.plain, hkeyword] at hident
        cases hident
      · cases heq
        exact absurd hother hstart

/-- Two colons begin no type but those that begin with a path. -/
theorem pathAhead_colons {trees : List Tree} (h : Ahead.punct [':', ':'] trees = true) :
    Rules.PathAhead trees := by
  cases trees with
  | nil => cases h
  | cons t rest =>
      cases t with
      | punct mark joint p =>
          have hmark : mark = ':' := by
            simp only [Ahead.punct, Bool.and_eq_true, beq_iff_eq] at h
            exact h.1.1
          subst hmark
          refine ⟨rfl, rfl, rfl, rfl, ?_, rfl⟩
          simp only [Ahead.any, List.any_cons, h, Bool.true_or, Bool.or_true]
      | name m p => cases h
      | lifetime m p => cases h
      | literal l p => cases h
      | group d content opening closing => cases h

/-- A type that the compiler builds in is not what is left of a path. -/
theorem builtIn_of_path {r : Rules} {n : Name} {p : Position} {rest : List Tree} {path : Path}
    {after : Input} (h : r.path false (.fresh (.name n p :: rest)) = .ok (path, after))
    (hrest : after.rest = []) :
    Ahead.and (.word "builtin") (.second (.punct ['#'])) (.name n p :: rest) = false := by
  cases hword : Ahead.word "builtin" (.name n p :: rest) with
  | false => simp only [Ahead.and, hword, Bool.false_and]
  | true =>
      have hn := Rules.name_of_word hword
      subst hn
      simp only [Ahead.and, Ahead.second, List.tail_cons, hword, Bool.true_and]
      cases rest with
      | nil => rfl
      | cons t more =>
          cases t with
          | punct mark joint q =>
              -- the path would end before the mark, which would be left
              show (mark == '#') = false
              refine Bool.eq_false_iff.mpr fun hmark => ?_
              have hhash := eq_of_beq hmark
              subst hhash
              have halone : r.path false (.fresh (.name (.plain "builtin") p :: .punct '#' joint q
                  :: more)) = .ok (⟨false, [⟨.plain "builtin", .none⟩]⟩, .fresh _) :=
                r.path_alone (by decide) p rfl rfl
              rw [halone] at h
              cases h
              cases hrest
          | name m q => rfl
          | lifetime m q => rfl
          | literal l q => rfl
          | group d content opening closing => rfl

/-- A name that may begin a path rules out all other types, unless it is the word `try`. -/
theorem pathAhead_name {n : Name} (hstart : isIdentifier n = true ∨ ∃ text ∈ pathStarts,
    n = .plain text) (htry : n ≠ .plain "try") {p : Position} {rest : List Tree}
    (hbuiltIn : Ahead.and (.word "builtin") (.second (.punct ['#'])) (.name n p :: rest) = false) :
    Rules.PathAhead (.name n p :: rest) := by
  have hno {text : String} (hkeyword : keywords.contains text = true)
      (hother : text ∉ pathStarts) := word_pathStart hstart hkeyword hother p rest
  have hfunction : Ahead.anyWord ["fn", "unsafe", "extern"] (.name n p :: rest) = false := by
    simp only [Ahead.anyWord, List.any_cons, List.any_nil, Bool.or_false, Bool.or_eq_false_iff]
    exact ⟨hno (by decide) (by decide), hno (by decide) (by decide), hno (by decide) (by decide)⟩
  refine ⟨hno (by decide) (by decide), rfl, hfunction, hbuiltIn, ?_, rfl⟩
  rcases hstart with hident | ⟨text, htext, rfl⟩
  · have hahead : Ahead.identifier (.name n p :: rest) = true := hident
    simp only [Ahead.any, List.any_cons, hahead, Bool.true_or]
  · -- of the words that begin a path, `try` alone begins no type
    simp only [pathStarts, List.mem_cons, List.not_mem_nil, or_false] at htext
    rcases htext with rfl | rfl | rfl | rfl | rfl
    · rfl
    · rfl
    · rfl
    · exact absurd rfl htry
    · rfl

/-- A path that is read to the end of its text, and that does not begin with `try`, has a front
that rules out all other types. -/
theorem pathAhead_of_path {r : Rules} {trees : List Tree} {path : Path} {after : Input}
    (h : r.path false (.fresh trees) = .ok (path, after)) (hrest : after.rest = [])
    (htry : path.beginsWithTry = false) : Rules.PathAhead trees := by
  rcases r.front_of_path h with ⟨hcolons, -⟩ | ⟨n, p, rest, rfl, hlead, hfirst, hstart⟩
  · exact pathAhead_colons hcolons
  · refine pathAhead_name hstart ?_ (builtIn_of_path h hrest)
    rintro rfl
    simp [Path.beginsWithTry, hlead, hfirst] at htry

/-- **A path is a type**, unless it begins with `try`. -/
theorem readType_of_readPath {text : String} {path : Path} (h : readPath text = .ok path)
    (htry : path.beginsWithTry = false) :
    readType text = .ok ⟨.path path, path.layout false⟩ := by
  obtain ⟨trees, hlex, hread⟩ := lex_of_readText h
  obtain ⟨after, hpath, hrest, hstray⟩ := Parser.finished_of_run hread
  rw [readType, readText_eq _ hlex, readTrees]
  exact Parser.run_of_finished
    (Rules.typeRule_path _ hpath hrest (pathAhead_of_path hpath hrest htry)) hrest hstray

/-- **A path that begins with `try` is no type.** -/
theorem readType_of_beginsWithTry {text : String} {path : Path} (h : readPath text = .ok path)
    (htry : path.beginsWithTry = true) : ∃ fault, readType text = .error fault := by
  obtain ⟨trees, hlex, hread⟩ := lex_of_readText h
  obtain ⟨after, hpath, hrest, hstray⟩ := Parser.finished_of_run hread
  simp only [Path.beginsWithTry, Bool.and_eq_true, Bool.not_eq_true', beq_iff_eq] at htry
  rcases Rules.front_of_path _ hpath with ⟨-, hlead⟩ | ⟨n, p, rest, rfl, -, hfirst, -⟩
  · rw [hlead] at htry
    cases htry.1
  · rw [htry.2] at hfirst
    cases hfirst
    refine ⟨⟨.expected typeStarts, some p, false⟩, ?_⟩
    rw [readType, readText_eq _ hlex, readTrees]
    exact Parser.run_of_error (Rules.typeRule_try _ p rest)

/-- The path of a type in its crate does not begin with `try`. -/
theorem not_beginsWithTry_crate {rest : List Char} {text : String} {path : Path}
    (htext : text.toList = "crate".toList ++ ':' :: rest) (h : readPath text = .ok path) :
    path.beginsWithTry = false := by
  obtain ⟨trees, hlex, hread⟩ := lex_of_readText h
  obtain ⟨after, hpath, -, -⟩ := Parser.finished_of_run hread
  rw [htext] at hlex
  obtain ⟨more, rfl⟩ := head_of_lex_name lexical_crate (endsName_cons (by decide) _) hlex
  rcases Rules.front_of_path _ hpath with ⟨hcolons, -⟩ | ⟨n, p, rest, htrees, -, hfirst, -⟩
  · cases hcolons
  · cases htrees
    simp only [Path.beginsWithTry, hfirst]
    exact Bool.and_eq_false_imp.mpr fun _ => by decide

end Fieldwise.Grammar
