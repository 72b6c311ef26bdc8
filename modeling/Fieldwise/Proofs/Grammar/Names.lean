import Fieldwise.Grammar.File
import Fieldwise.Proofs.Token.Names

set_option autoImplicit false

/-! # Reading names and paths of names

`readIdentifier_written` says what comes of reading a name as it is written: the name, unless it is
a keyword. The names that are accepted as identifiers are those that source text can hold and that
are no keywords (`accepted_iff`). A path that begins with the word `crate` and goes on with such
names, or with the word `try`, is read in full (`readPath_names`).
-/

namespace Fieldwise.Grammar

open Fieldwise.Token

/-! ## Readers on fresh input -/

/-- The input of a reader of whole texts: trees, outside of any group. -/
def Input.fresh (trees : List Tree) : Input :=
  { rest := trees, limit := none, stray := none, afterBrace := false }

namespace Parser

variable {α β : Type}

/-- After a reader that gives something, the next one goes on where it stopped. -/
theorem bind_ok {p : Parser α} {s s' : Input} {a : α} (h : p s = .ok (a, s'))
    (f : α → Parser β) : (p >>= f) s = f a s' := by
  show (p s).bind _ = _
  rw [h]
  rfl

/-- After a reader that fails, no other is run. -/
theorem bind_error {p : Parser α} {s : Input} {fault : Fault} (h : p s = .error fault)
    (f : α → Parser β) : (p >>= f) s = .error fault := by
  show (p s).bind _ = _
  rw [h]
  rfl

theorem ask_ok (question : Ahead) (s : Input) : ask question s = .ok (question s.rest, s) := rfl

theorem anyName_fresh (n : Name) (p : Position) (rest : List Tree) :
    anyName (.fresh (.name n p :: rest)) = .ok (n, .fresh rest) := rfl

theorem identifier_fresh (n : Name) (p : Position) (rest : List Tree) :
    identifier (.fresh (.name n p :: rest))
      = if isIdentifier n then .ok (n, .fresh rest)
        else .error ⟨.keyword n.text, some p, false⟩ := by
  show (if isIdentifier n then (do skip 1; pure n) else failHere (.keyword n.text) : Parser Name)
    (.fresh (.name n p :: rest)) = _
  cases isIdentifier n <;> rfl

/-- A reader that reads all trees gives what it read. -/
theorem run_of_fresh {p : Parser α} {trees : List Tree} {a : α}
    (h : p (.fresh trees) = .ok (a, .fresh [])) : p.run trees = .ok a := by
  have hstart : p { rest := trees, limit := none, stray := none, afterBrace := false }
      = .ok (a, .fresh []) := h
  simp only [run, hstart]
  rfl

theorem run_of_error {p : Parser α} {trees : List Tree} {fault : Fault}
    (h : p (.fresh trees) = .error fault) : p.run trees = .error fault := by
  have hstart : p { rest := trees, limit := none, stray := none, afterBrace := false }
      = .error fault := h
  simp only [run, hstart]

theorem fresh_of_run {p : Parser α} {trees : List Tree} {a : α} (h : p.run trees = .ok a) :
    ∃ after, p (.fresh trees) = .ok (a, after) := by
  unfold run at h
  split at h
  · cases h
  · rename_i b after hread
    refine ⟨after, ?_⟩
    split at h <;> cases h
    exact hread

theorem collectUpTo_none {step : Parser (Option α)} {s s' : Input} (h : step s = .ok (none, s'))
    (k : Nat) : collectUpTo step (k + 1) s = .ok ([], s') := by
  rw [collectUpTo, bind_ok h]
  rfl

theorem collectUpTo_some {step : Parser (Option α)} {s s' s'' : Input} {a : α} {more : List α}
    {k : Nat} (h : step s = .ok (some a, s')) (hmore : collectUpTo step k s' = .ok (more, s'')) :
    collectUpTo step (k + 1) s = .ok (a :: more, s'') := by
  rw [collectUpTo, bind_ok h]
  dsimp only
  rw [bind_ok hmore]
  rfl

end Parser

/-! ## Paths -/

/-- Whether a name may stand in a path after the first. -/
def isPathName (n : Name) : Bool := isIdentifier n || n == .plain "try"

namespace Rules

open Fieldwise.Grammar.Parser

/-- No generic arguments come next where a path of names ends or goes on. -/
theorem angleAhead_pathTrees (p : Position) (names : List Name) :
    angleAhead false (pathTrees p names) = false := by
  cases names with
  | nil => rfl
  | cons n more => rfl

theorem segment_word (r : Rules) {n : Name} (p : Position) (rest : List Tree)
    (hn : Ahead.anyWord ["super", "self", "crate", "try"] (.name n p :: rest) = true) :
    r.segment false (.fresh (.name n p :: rest)) = .ok (⟨n, .none⟩, .fresh rest) := by
  unfold segment
  rw [bind_ok (ask_ok _ _)]
  show (if Ahead.anyWord ["super", "self", "crate", "try"] (.name n p :: rest) then
    (do return ⟨← anyName, .none⟩) else _ : Parser Segment) (.fresh (.name n p :: rest)) = _
  rw [if_pos hn]
  rfl

/-- A name of a path is read by itself where no generic arguments follow it. -/
theorem segment_alone (r : Rules) {n : Name} (hn : isPathName n = true) (p : Position)
    {rest : List Tree} (hrest : angleAhead false rest = false) :
    r.segment false (.fresh (.name n p :: rest)) = .ok (⟨n, .none⟩, .fresh rest) := by
  have hend : angleAhead false (Input.fresh rest).rest = false := hrest
  cases hword : Ahead.anyWord ["super", "self", "crate", "try"] (.name n p :: rest) with
  | true => exact r.segment_word p _ hword
  | false =>
      have hident : isIdentifier n = true := by
        rcases Bool.or_eq_true_iff.mp hn with hident | htry
        · exact hident
        · rw [eq_of_beq htry] at hword
          cases hword
      have hread := identifier_fresh n p rest
      rw [if_pos hident] at hread
      have hno : Ahead.anyWord ["super", "self", "crate", "try"]
          (Input.fresh (.name n p :: rest)).rest = false := hword
      unfold segment
      rw [bind_ok (ask_ok _ _), hno, if_neg Bool.false_ne_true, bind_ok (ask_ok _ _)]
      -- the word `Self` is read as any name is, so it need not be told apart
      split
      · rw [bind_ok (anyName_fresh n p _)]
        dsimp only
        rw [bind_ok (ask_ok _ _), hend, if_neg Bool.false_ne_true]
        rfl
      · rw [bind_ok hread]
        dsimp only
        rw [bind_ok (ask_ok _ _), hend, if_neg Bool.false_ne_true]
        rfl

/-- A name of a path is read, whatever names follow it. -/
theorem segment_name (r : Rules) {n : Name} (hn : isPathName n = true) (p q : Position)
    (names : List Name) :
    r.segment false (.fresh (.name n p :: pathTrees q names))
      = .ok (⟨n, .none⟩, .fresh (pathTrees q names)) :=
  r.segment_alone hn p (angleAhead_pathTrees q names)

/-- A reader that takes one name of a path after another takes them all. -/
theorem collectUpTo_pathTrees {step : Parser (Option Segment)}
    (hnil : step (.fresh []) = .ok (none, .fresh []))
    (hcons : ∀ {n : Name} (p : Position) (more : List Name), isPathName n = true →
      ∃ q, step (.fresh (pathTrees p (n :: more)))
        = .ok (some ⟨n, .none⟩, .fresh (pathTrees q more)))
    {names : List Name} (hnames : ∀ n ∈ names, isPathName n = true) {k : Nat}
    (hk : names.length < k) (p : Position) :
    collectUpTo step k (.fresh (pathTrees p names))
      = .ok (names.map fun n => ⟨n, .none⟩, .fresh []) := by
  induction names generalizing k p with
  | nil =>
      obtain ⟨m, rfl⟩ : ∃ m, k = m + 1 := ⟨k - 1, by omega⟩
      exact collectUpTo_none hnil m
  | cons n more ih =>
      rw [List.length_cons] at hk
      obtain ⟨m, rfl⟩ : ∃ m, k = m + 1 := ⟨k - 1, by omega⟩
      obtain ⟨q, hstep⟩ := hcons p more (hnames n (by simp))
      exact collectUpTo_some hstep (ih (fun x hx => hnames x (by simp [hx])) (by omega) q)

theorem length_le_pathTrees (p : Position) (names : List Name) :
    names.length ≤ (pathTrees p names).length := by
  induction names generalizing p with
  | nil => simp
  | cons n more ih =>
      simp only [pathTrees, List.length_cons]
      have hmore := ih (((p.next ':').next ':').after n.written.toList)
      omega

theorem moreSegments_pathTrees (r : Rules) {names : List Name}
    (hnames : ∀ n ∈ names, isPathName n = true) (p : Position) :
    r.moreSegments false (.fresh (pathTrees p names))
      = .ok (names.map fun n => ⟨n, .none⟩, .fresh []) := by
  refine collectUpTo_pathTrees rfl ?_ hnames (Nat.lt_succ_of_le (length_le_pathTrees p names)) p
  intro n p more hn
  -- one round: the two marks, then the name after them
  let q := (p.next ':').next ':'
  refine ⟨q.after n.written.toList, ?_⟩
  rw [bind_ok (ask_ok _ _)]
  show (do punct [':', ':']; return some (← r.segment false) : Parser (Option Segment))
    (.fresh (pathTrees p (n :: more))) = _
  have hmarks : punct [':', ':'] (.fresh (pathTrees p (n :: more)))
      = .ok ((), .fresh (.name n q :: pathTrees (q.after n.written.toList) more)) := rfl
  rw [bind_ok hmarks]
  rw [bind_ok (r.segment_name hn q _ more)]
  rfl

/-- **A path of names is read in full.** -/
theorem path_names (r : Rules) {names : List Name} (hnames : ∀ n ∈ names, isPathName n = true)
    (p q : Position) :
    r.path false (.fresh (.name (.plain "crate") p :: pathTrees q names))
      = .ok (⟨false, ⟨.plain "crate", .none⟩ :: names.map fun n => ⟨n, .none⟩⟩, .fresh []) := by
  have hlead : punct? [':', ':'] (.fresh (.name (.plain "crate") p :: pathTrees q names))
      = .ok (false, .fresh (.name (.plain "crate") p :: pathTrees q names)) := rfl
  unfold path
  rw [bind_ok hlead]
  rw [bind_ok (r.segment_word p _ rfl)]
  rw [bind_ok (r.moreSegments_pathTrees hnames q)]
  rfl

end Rules

/-! ## Whole texts -/

theorem readText_eq {α : Type} (p : Rules → Parser α) {text : List Char} {trees : List Tree}
    (h : lex text = .ok trees) : readText p text = readTrees p trees := by
  simp only [readText, treesOf, h]
  rfl

/-- What comes of reading a name as it is written. -/
theorem readIdentifier_written {n : Name} (hn : n.Lexical) :
    readIdentifier n.written
      = if isIdentifier n then .ok n else .error ⟨.keyword n.text, some .start, false⟩ := by
  have hnone : ∀ m ∈ ([] : List Name), m.Lexical := fun m hm => by cases hm
  have hlex := lex_path hn hnone
  rw [pathText, List.append_nil, pathTrees] at hlex
  have hread := Parser.identifier_fresh n .start []
  rw [readIdentifier, readText_eq _ hlex, readTrees]
  cases hident : isIdentifier n with
  | true =>
      rw [if_pos hident] at hread
      exact Parser.run_of_fresh hread
  | false =>
      rw [if_neg (by simp [hident])] at hread
      exact Parser.run_of_error hread

theorem name_of_identifier_fresh {trees : List Tree} {n : Name} {after : Input}
    (h : Parser.identifier (.fresh trees) = .ok (n, after)) :
    isIdentifier n = true ∧ ∃ p rest, trees = .name n p :: rest := by
  cases trees with
  | nil => cases h
  | cons t rest =>
      cases t with
      | name m p =>
          rw [Parser.identifier_fresh] at h
          split at h
          · rename_i hident
            obtain ⟨rfl, -⟩ := Prod.mk.inj (Except.ok.inj h)
            exact ⟨hident, p, rest, rfl⟩
          · cases h
      | lifetime m p => cases h
      | punct mark joint p => cases h
      | literal l p => cases h
      | group d content opening closing => cases h

theorem lex_of_readIdentifier {text : String} {n : Name} (h : readIdentifier text = .ok n) :
    isIdentifier n = true ∧ ∃ p rest, lex text.toList = .ok (.name n p :: rest) := by
  cases hlex : lex text.toList with
  | error place =>
      simp only [readIdentifier, readText, treesOf, hlex] at h
      cases h
  | ok trees =>
      rw [readIdentifier, readText_eq _ hlex, readTrees] at h
      obtain ⟨after, hread⟩ := Parser.fresh_of_run h
      obtain ⟨hident, p, rest, rfl⟩ := name_of_identifier_fresh hread
      exact ⟨hident, p, rest, rfl⟩

/-- **The names that are accepted as identifiers.** -/
theorem accepted_iff (n : Name) :
    (∃ text, readIdentifier text = .ok n) ↔ n.Lexical ∧ isIdentifier n = true := by
  constructor
  · rintro ⟨text, h⟩
    obtain ⟨hident, p, rest, hlex⟩ := lex_of_readIdentifier h
    exact ⟨lexical_of_lex hlex (.name n p) (by simp), hident⟩
  · rintro ⟨hn, hident⟩
    exact ⟨n.written, by rw [readIdentifier_written hn, if_pos hident]⟩

/-- **A path from the root of a crate is read**, whatever names lead to its end. -/
theorem readPath_names {names : List Name} (hlexical : ∀ n ∈ names, n.Lexical)
    (hnames : ∀ n ∈ names, isPathName n = true) {text : String}
    (htext : text.toList = "crate".toList ++ pathText names) :
    readPath text
      = .ok ⟨false, ⟨.plain "crate", .none⟩ :: names.map fun n => ⟨n, .none⟩⟩ := by
  have hlex := lex_path lexical_crate hlexical
  rw [readPath, htext]
  show readText (fun r => r.path false) ((Name.plain "crate").written.toList ++ pathText names) = _
  rw [readText_eq _ hlex, readTrees]
  exact Parser.run_of_fresh (Rules.path_names _ hnames _ _)

end Fieldwise.Grammar
