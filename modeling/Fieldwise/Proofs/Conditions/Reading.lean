import Fieldwise.Proofs.Conditions.Formulas
import Fieldwise.Proofs.Grammar.Types
import Mathlib.Data.List.Forall2

set_option autoImplicit false

/-! # Reading formulas

`Predicate.ofAttribute` reads the content of an attribute again at every level: first the formula
itself, then the parts of each list. A formula that is no truth value is read in full where it
ends or a comma follows it (`attributeInside_written`), and so are the parts of a list if none of
them is a truth value (`parts_written`). The words `true` and `false` are keywords, which no
attribute begins with, so that a list with one among its parts is not read at all
(`parts_unread`). `ofAttribute_written` puts this together: a formula is read as its `Formula.read`.
-/

namespace Fieldwise.Grammar.Parser

open Fieldwise.Token

variable {α : Type}

/-! ## Repeated readers -/

theorem iterateUpTo_none {step : α → Parser (Option α)} {a : α} {s s' : Input}
    (h : step a s = .ok (none, s')) (k : Nat) : iterateUpTo step (k + 1) a s = .ok (a, s') := by
  rw [iterateUpTo, bind_ok h]
  rfl

theorem iterateUpTo_some {step : α → Parser (Option α)} {a b : α} {s s' : Input}
    (h : step a s = .ok (some b, s')) (k : Nat) :
    iterateUpTo step (k + 1) a s = iterateUpTo step k b s' := by
  rw [iterateUpTo, bind_ok h]

theorem collectUpTo_error {step : Parser (Option α)} {s : Input} {fault : Fault}
    (h : step s = .error fault) (k : Nat) : collectUpTo step (k + 1) s = .error fault := by
  rw [collectUpTo, bind_error h]

theorem collectUpTo_later_error {step : Parser (Option α)} {s s' : Input} {a : α} {fault : Fault}
    {k : Nat} (h : step s = .ok (some a, s')) (hmore : collectUpTo step k s' = .error fault) :
    collectUpTo step (k + 1) s = .error fault := by
  rw [collectUpTo, bind_ok h]
  dsimp only
  rw [bind_error hmore]

/-- One item of a list with commas. -/
def commaStep (item : Parser α) : Parser (Option α) := do
  if ← finished then return none
  let a ← item
  if !(← finished) then punct [',']
  return some a

section Commas

variable {item : Parser α} {trees rest : List Tree} {limit : Option Position}
  {stray : Option (Position × Delimiter)} {braced after : Bool} {a : α}

theorem commaStep_finished :
    commaStep item ⟨[], limit, stray, braced⟩ = .ok (none, ⟨[], limit, stray, braced⟩) := rfl

theorem commaStep_error {fault : Fault} (hne : trees ≠ [])
    (h : item ⟨trees, limit, stray, braced⟩ = .error fault) :
    commaStep item ⟨trees, limit, stray, braced⟩ = .error fault := by
  have hahead : Ahead.finished trees = false := by simpa [Ahead.finished] using hne
  unfold commaStep finished
  rw [ask_bind hahead, if_neg Bool.false_ne_true]
  exact bind_error h _

theorem commaStep_last (hne : trees ≠ [])
    (h : item ⟨trees, limit, stray, braced⟩ = .ok (a, ⟨[], limit, stray, after⟩)) :
    commaStep item ⟨trees, limit, stray, braced⟩ = .ok (some a, ⟨[], limit, stray, after⟩) := by
  have hahead : Ahead.finished trees = false := by simpa [Ahead.finished] using hne
  unfold commaStep finished
  rw [ask_bind hahead, if_neg Bool.false_ne_true]
  show (item >>= _) _ = _
  rw [bind_ok h]
  rfl

theorem commaStep_more (hne : trees ≠ []) {joint : Bool} {place : Position}
    (h : item ⟨trees, limit, stray, braced⟩
      = .ok (a, ⟨.punct ',' joint place :: rest, limit, stray, after⟩)) :
    commaStep item ⟨trees, limit, stray, braced⟩
      = .ok (some a, ⟨rest, limit, stray, false⟩) := by
  have hahead : Ahead.finished trees = false := by simpa [Ahead.finished] using hne
  unfold commaStep finished
  rw [ask_bind hahead, if_neg Bool.false_ne_true]
  show (item >>= _) _ = _
  rw [bind_ok h]
  rfl

end Commas

/-! ## Paths of one name -/

variable {limit : Option Position} {stray : Option (Position × Delimiter)} {braced : Bool}

/-- A name is a path by itself where no `::` follows it. -/
theorem plainPath_name {n : Name} (hn : isIdentifier n = true) (p : Position) {tail : List Tree}
    (htail : Ahead.punct [':', ':'] tail = false) :
    plainPath ⟨.name n p :: tail, limit, stray, braced⟩
      = .ok (⟨false, [n]⟩, ⟨tail, limit, stray, false⟩) := by
  have hlead : punct? [':', ':'] ⟨.name n p :: tail, limit, stray, braced⟩
      = .ok (false, ⟨.name n p :: tail, limit, stray, braced⟩) := rfl
  have hpath : Ahead.or .identifier (.anyWord pathWords) (.name n p :: tail) = true := by
    simp [Ahead.or, Ahead.identifier, hn]
  have htake : anyName ⟨.name n p :: tail, limit, stray, braced⟩
      = .ok (n, ⟨tail, limit, stray, false⟩) := rfl
  have hend : punct? [':', ':'] ⟨tail, limit, stray, false⟩
      = .ok (false, ⟨tail, limit, stray, false⟩) := by
    unfold punct?
    rw [ask_bind htail]
    rfl
  unfold plainPath
  rw [bind_ok hlead]
  -- the loop runs twice: it takes the name, and then sees that no more are pending
  refine (@bind_ok _ _ _ _ ⟨tail, limit, stray, false⟩ ([n], false) ?_ _).trans rfl
  show iterateUpTo _ (tail.length + 1 + 1) _ _ = _
  rw [iterateUpTo_some, iterateUpTo_none]
  · rfl
  · show (ask _ >>= _) _ = _
    rw [ask_bind hpath, if_pos rfl, bind_ok htake, bind_ok hend]
    rfl

/-- The words for truth values are keywords that begin no path. -/
theorem plainPath_constant (value : Bool) (p : Position) (tail : List Tree) :
    ∃ fault, plainPath ⟨.name (.plain (Formula.constantWord value)) p :: tail, limit, stray, braced⟩
      = .error fault := by
  cases value with
  | false => exact ⟨⟨.keyword "false", some p, false⟩, rfl⟩
  | true => exact ⟨⟨.keyword "true", some p, false⟩, rfl⟩

end Fieldwise.Grammar.Parser

namespace Fieldwise.Formula

open Token Grammar Parser

/-! ## One formula -/

/-- Where a formula ends: where nothing follows it, or a comma. -/
def Ends (tail : List Tree) : Prop :=
  tail = [] ∨ ∃ joint place rest, tail = .punct ',' joint place :: rest

/-- The attribute that is read from what spells a formula, the parts of a list still unread. -/
inductive Head : Attribute → Formula → Prop
  | option (name : String) : Head ⟨⟨false, [.plain name]⟩, .word⟩ (.option name)
  | setting (name value text : String) :
      Head ⟨⟨false, [.plain name]⟩, .value (literalExpr ⟨.string value, text⟩)⟩
        (.setting name value)
  | all {parts : List Formula} {content : List Tree} (h : Separated Written parts content)
      (d : Delimiter) : Head ⟨⟨false, [.plain "all"]⟩, .list d content⟩ (.all parts)
  | any {parts : List Formula} {content : List Tree} (h : Separated Written parts content)
      (d : Delimiter) : Head ⟨⟨false, [.plain "any"]⟩, .list d content⟩ (.any parts)
  | not {part : Formula} {content : List Tree} (h : Separated Written [part] content)
      (d : Delimiter) : Head ⟨⟨false, [.plain "not"]⟩, .list d content⟩ (.not part)

/-- The number of tokens in a list that is still unread. -/
def unreadSize (a : Attribute) : Nat :=
  match a.body with
  | .list _ content => Tree.sizeAll content
  | _ => 0

variable {limit : Option Position} {stray : Option (Position × Delimiter)} {braced : Bool}

theorem ahead_unsafe_eq_false {name : String} (h : isIdentifier (.plain name) = true)
    (place : Position) (tail : List Tree) :
    Ahead.word "unsafe" (.name (.plain name) place :: tail) = false := by
  have hne : name ≠ "unsafe" := by
    rintro rfl
    exact absurd h (by decide)
  simpa [Ahead.word, Name.plain] using hne

/-- What begins with a name is read as a path of that name and what follows it. -/
theorem attributeInside_name (r : Rules) {name : String} (hname : isIdentifier (.plain name) = true)
    (place : Position) {tail : List Tree} (htail : Ahead.punct [':', ':'] tail = false) :
    r.attributeInside ⟨.name (.plain name) place :: tail, limit, stray, braced⟩
      = (do
          if ← ask .anyGroup then
            let (d, content) ← anyGroup
            return ⟨⟨false, [.plain name]⟩, .list d content⟩
          else if ← ask Rules.valueAhead then
            punct ['=']
            return ⟨⟨false, [.plain name]⟩, .value (← r.attributeValue)⟩
          else return ⟨⟨false, [.plain name]⟩, .word⟩ : Parser Attribute)
        ⟨tail, limit, stray, false⟩ := by
  unfold Rules.attributeInside
  rw [ask_bind (ahead_unsafe_eq_false hname place tail), if_neg Bool.false_ne_true]
  show (plainPath >>= _) _ = _
  rw [bind_ok (plainPath_name hname place htail)]

/-- A name with a group after it is read, the content of the group as it is. -/
theorem attributeInside_list (r : Rules) {name : String} (hname : isIdentifier (.plain name) = true)
    (place : Position) (d : Delimiter) (content : List Tree) (opening closing : Position)
    (tail : List Tree) :
    r.attributeInside
        ⟨.name (.plain name) place :: .group d content opening closing :: tail, limit, stray,
          braced⟩
      = .ok (⟨⟨false, [.plain name]⟩, .list d content⟩, ⟨tail, limit, stray, d == .brace⟩) := by
  refine (attributeInside_name r hname place rfl).trans ?_
  cases d <;> rfl

theorem sizeAll_lt_list (name : Name) (place : Position) (d : Delimiter) (content : List Tree)
    (opening closing : Position) :
    Tree.sizeAll content
      < Tree.sizeAll [.name name place, .group d content opening closing] := by
  simp only [Tree.sizeAll, Tree.size]
  omega

/-- **A formula that is no truth value is read in full**, where it ends. -/
theorem attributeInside_written (n : Nat) {p : Formula} {trees : List Tree} (h : Written p trees)
    (hp : p.isConstant = false) {tail : List Tree} (htail : Ends tail) :
    ∃ a after, (rules (n + 1)).attributeInside ⟨trees ++ tail, limit, stray, braced⟩
        = .ok (a, ⟨tail, limit, stray, after⟩)
      ∧ Head a p ∧ unreadSize a < Tree.sizeAll trees := by
  cases h with
  | option hname place =>
      refine ⟨_, false, ?_, .option _, by simp [unreadSize, Tree.sizeAll, Tree.size]⟩
      rcases htail with rfl | ⟨joint, comma, rest, rfl⟩
      · exact attributeInside_name _ hname place rfl
      · exact attributeInside_name _ hname place rfl
  | @setting name value hname text joint place mark quote =>
      refine ⟨_, false, ?_, .setting name value text, by simp [unreadSize, Tree.sizeAll, Tree.size]⟩
      have hvalue (more : List Tree) : Rules.valueAhead
          (.punct '=' joint mark :: .literal ⟨.string value, text⟩ quote :: more) = true := by
        cases joint <;> rfl
      refine (attributeInside_name _ hname place rfl).trans ?_
      have hgroup : Ahead.anyGroup
          (.punct '=' joint mark :: .literal ⟨.string value, text⟩ quote :: tail) = false := rfl
      rw [ask_bind hgroup, if_neg Bool.false_ne_true, ask_bind (hvalue tail), if_pos rfl]
      -- the value is read alone at the end, and as an expression before a comma
      rcases htail with rfl | ⟨joint, comma, rest, rfl⟩
      · rfl
      · rfl
  | all hparts d place opening closing =>
      exact ⟨_, _, attributeInside_list _ (by decide) place d _ opening closing tail, .all hparts d,
        sizeAll_lt_list _ place d _ opening closing⟩
  | any hparts d place opening closing =>
      exact ⟨_, _, attributeInside_list _ (by decide) place d _ opening closing tail, .any hparts d,
        sizeAll_lt_list _ place d _ opening closing⟩
  | not hpart d place opening closing =>
      exact ⟨_, _, attributeInside_list _ (by decide) place d _ opening closing tail, .not hpart d,
        sizeAll_lt_list _ place d _ opening closing⟩
  | constant value place => cases hp

/-- A truth value is not read. -/
theorem attributeInside_constant (r : Rules) (value : Bool) (place : Position) (tail : List Tree) :
    ∃ fault, r.attributeInside
      ⟨.name (.plain (constantWord value)) place :: tail, limit, stray, braced⟩ = .error fault := by
  obtain ⟨fault, hfault⟩ := @plainPath_constant limit stray braced value place tail
  have hword : Ahead.word "unsafe" (.name (.plain (constantWord value)) place :: tail) = false := by
    cases value <;> rfl
  refine ⟨fault, ?_⟩
  unfold Rules.attributeInside
  rw [ask_bind hword, if_neg Bool.false_ne_true]
  exact bind_error hfault _

/-! ## The parts of a list -/

theorem sizeAll_append (trees more : List Tree) :
    Tree.sizeAll (trees ++ more) = Tree.sizeAll trees + Tree.sizeAll more := by
  induction trees with
  | nil => simp [Tree.sizeAll]
  | cons t trees ih => simp only [List.cons_append, Tree.sizeAll, ih, Nat.add_assoc]

/-- An attribute is the head of a formula, and what is unread of it is small. -/
def HeadBelow (bound : Nat) (a : Attribute) (p : Formula) : Prop :=
  Head a p ∧ unreadSize a < bound

theorem HeadBelow.mono {bound more : Nat} (hle : bound ≤ more) {a : Attribute} {p : Formula}
    (h : HeadBelow bound a p) : HeadBelow more a p :=
  ⟨h.1, Nat.lt_of_lt_of_le h.2 hle⟩

/-- **The parts of a list are read one after another** if none of them is a truth value. -/
theorem parts_written (n : Nat) {parts : List Formula} {content : List Tree}
    (h : Separated Written parts content) (hparts : ∀ p ∈ parts, p.isConstant = false) {k : Nat}
    (hk : content.length < k) :
    ∃ attributes after,
      collectUpTo (commaStep (rules (n + 1)).attributeInside) k ⟨content, limit, stray, braced⟩
        = .ok (attributes, ⟨[], limit, stray, after⟩)
      ∧ List.Forall₂ (HeadBelow (Tree.sizeAll content)) attributes parts := by
  induction h generalizing k braced with
  | none =>
      obtain ⟨m, rfl⟩ : ∃ m, k = m + 1 := ⟨k - 1, by omega⟩
      exact ⟨[], braced, collectUpTo_none commaStep_finished m, .nil⟩
  | @last p trees hp =>
      obtain ⟨m, rfl⟩ : ∃ m, k = m + 2 := by
        have hpos := List.length_pos_iff.mpr hp.ne_nil
        exact ⟨k - 2, by omega⟩
      obtain ⟨a, after, hread, hhead, hsize⟩ :=
        attributeInside_written n hp (hparts p (by simp)) (.inl rfl)
      rw [List.append_nil] at hread
      have hstep := commaStep_last hp.ne_nil hread
      exact ⟨[a], after, collectUpTo_some hstep (collectUpTo_none commaStep_finished m),
        .cons ⟨hhead, hsize⟩ .nil⟩
  | @more p others trees rest hp joint place hrest ih =>
      obtain ⟨m, rfl⟩ : ∃ m, k = m + 1 := ⟨k - 1, by omega⟩
      obtain ⟨a, after, hread, hhead, hsize⟩ :=
        attributeInside_written n hp (hparts p (by simp)) (.inr ⟨joint, place, rest, rfl⟩)
      have hne : trees ++ .punct ',' joint place :: rest ≠ [] := by simp
      have hstep := commaStep_more hne hread
      simp only [List.length_append, List.length_cons] at hk
      obtain ⟨attributes, last, hmore, hheads⟩ :=
        @ih false (fun q hq => hparts q (by simp [hq])) m (by omega)
      have hbound : Tree.sizeAll (trees ++ .punct ',' joint place :: rest)
          = Tree.sizeAll trees + (1 + Tree.sizeAll rest) := by
        rw [sizeAll_append]
        rfl
      rw [hbound]
      refine ⟨a :: attributes, last, collectUpTo_some hstep hmore, .cons ⟨hhead, by omega⟩ ?_⟩
      exact hheads.imp fun b q hq => hq.mono (by omega)

/-- Reading a list ends at a part that is a truth value. -/
theorem commaStep_constant (n : Nat) {p : Formula} {trees : List Tree} (h : Written p trees)
    (hp : p.isConstant = true) (tail : List Tree) :
    ∃ fault, commaStep (rules (n + 1)).attributeInside ⟨trees ++ tail, limit, stray, braced⟩
      = .error fault := by
  cases h with
  | constant value place =>
      obtain ⟨fault, hfault⟩ :=
        @attributeInside_constant limit stray braced (rules (n + 1)) value place tail
      exact ⟨fault, commaStep_error (by simp) hfault⟩
  | option | setting | all | any | not => cases hp

/-- **A list with a truth value among its parts is not read.** -/
theorem parts_unread (n : Nat) {parts : List Formula} {content : List Tree}
    (h : Separated Written parts content) (hconstant : ∃ p ∈ parts, p.isConstant = true) {k : Nat}
    (hk : content.length < k) :
    ∃ fault,
      collectUpTo (commaStep (rules (n + 1)).attributeInside) k ⟨content, limit, stray, braced⟩
        = .error fault := by
  induction h generalizing k braced with
  | none =>
      obtain ⟨p, hp, -⟩ := hconstant
      cases hp
  | @last p trees hp =>
      obtain ⟨m, rfl⟩ : ∃ m, k = m + 1 := ⟨k - 1, by omega⟩
      obtain ⟨q, hq, htrue⟩ := hconstant
      rw [List.mem_singleton.mp hq] at htrue
      obtain ⟨fault, hfault⟩ := commaStep_constant n hp htrue []
      rw [List.append_nil] at hfault
      exact ⟨fault, collectUpTo_error hfault m⟩
  | @more p others trees rest hp joint place hrest ih =>
      obtain ⟨m, rfl⟩ : ∃ m, k = m + 1 := ⟨k - 1, by omega⟩
      -- the first part either is a truth value, where reading ends, or is read and left behind
      cases hcase : p.isConstant with
      | true =>
          obtain ⟨fault, hfault⟩ := commaStep_constant n hp hcase (.punct ',' joint place :: rest)
          exact ⟨fault, collectUpTo_error hfault m⟩
      | false =>
          obtain ⟨a, after, hread, -, -⟩ :=
            attributeInside_written n hp hcase (.inr ⟨joint, place, rest, rfl⟩)
          have hne : trees ++ .punct ',' joint place :: rest ≠ [] := by simp
          have hstep := commaStep_more hne hread
          simp only [List.length_append, List.length_cons] at hk
          obtain ⟨q, hq, htrue⟩ := hconstant
          have hlater : q ∈ others := by
            rcases List.mem_cons.mp hq with rfl | hmem
            · rw [hcase] at htrue
              cases htrue
            · exact hmem
          obtain ⟨fault, hmore⟩ := @ih false ⟨q, hlater, htrue⟩ m (by omega)
          exact ⟨fault, collectUpTo_later_error hstep hmore⟩

/-! ## Whole formulas -/

/-- The predicate as which a formula is read. What cannot be read holds: a truth value, and a list
with one among its parts. -/
def read : Formula → Predicate
  | .option name => .option name none
  | .setting name value => .option name (some value)
  | .all parts => if parts.any isConstant then .constant true else .all (parts.map read)
  | .any parts => if parts.any isConstant then .constant true else .any (parts.map read)
  | .not part => if part.isConstant then .constant true else .not [read part]
  | .constant _ => .constant true

theorem readTrees_parts {parts : List Formula} {content : List Tree}
    (h : Separated Written parts content) (hparts : ∀ p ∈ parts, p.isConstant = false) :
    ∃ attributes, readTrees (fun r => commaTerminated r.attributeInside) content = .ok attributes
      ∧ List.Forall₂ (HeadBelow (Tree.sizeAll content)) attributes parts := by
  obtain ⟨attributes, after, hread, hheads⟩ := @parts_written none none false
    (4 * Tree.sizeAll content + 15) parts content h hparts _ (Nat.lt_succ_self content.length)
  exact ⟨attributes, run_of_finished hread rfl rfl, hheads⟩

theorem readTrees_unread {parts : List Formula} {content : List Tree}
    (h : Separated Written parts content) (hconstant : ∃ p ∈ parts, p.isConstant = true) :
    ∃ fault, readTrees (fun r => commaTerminated r.attributeInside) content = .error fault := by
  obtain ⟨fault, hread⟩ := @parts_unread none none false
    (4 * Tree.sizeAll content + 15) parts content h hconstant _ (Nat.lt_succ_self content.length)
  exact ⟨fault, run_of_error hread⟩

theorem any_isConstant (parts : List Formula) :
    ((∀ p ∈ parts, p.isConstant = false) ∧ parts.any isConstant = false)
      ∨ ((∃ p ∈ parts, p.isConstant = true) ∧ parts.any isConstant = true) := by
  cases hany : parts.any isConstant with
  | false => exact .inl ⟨by simpa using hany, rfl⟩
  | true => exact .inr ⟨by simpa using hany, rfl⟩

/-- A list is read as the predicate of its parts, if these are read as theirs. -/
theorem ofInside_list (depth : Nat) (path : PlainPath) (d : Delimiter) {parts : List Formula}
    {content : List Tree} (h : Separated Written parts content)
    (hparts : ∀ a p, HeadBelow (Tree.sizeAll content) a p →
      Predicate.ofInside depth a = p.read) :
    Predicate.ofInside (depth + 1) ⟨path, .list d content⟩
      = if parts.any isConstant then .constant true
        else Predicate.ofList path (parts.map read) := by
  rcases any_isConstant parts with ⟨hplain, hany⟩ | ⟨hconstant, hany⟩
  · obtain ⟨attributes, hread, hheads⟩ := readTrees_parts h hplain
    have hmap : attributes.map (Predicate.ofInside depth) = parts.map read := by
      rw [← List.forall₂_eq_eq_eq, List.forall₂_map_left_iff, List.forall₂_map_right_iff]
      exact hheads.imp hparts
    rw [Predicate.ofInside]
    simp only [hread, hany, hmap]
    rfl
  · obtain ⟨fault, hread⟩ := readTrees_unread h hconstant
    rw [Predicate.ofInside]
    simp only [hread, hany]
    rfl

/-- **What begins a formula is read as the whole of it**, at any sufficient depth. -/
theorem ofInside_head {depth : Nat} {a : Attribute} {p : Formula} (h : Head a p)
    (hdepth : unreadSize a < depth) : Predicate.ofInside depth a = p.read := by
  induction depth generalizing a p with
  | zero => exact absurd hdepth (Nat.not_lt_zero _)
  | succ depth ih =>
      -- the parts of a list are smaller than the list, so they are read at the depth below
      have hbelow {bound : Nat} (hbound : bound < depth + 1) (b : Attribute) (q : Formula)
          (hb : HeadBelow bound b q) : Predicate.ofInside depth b = q.read :=
        ih hb.1 (by have := hb.2; omega)
      cases h with
      | option name => rw [read]; rfl
      | setting name value text => rw [read]; rfl
      | all hparts d =>
          rw [ofInside_list depth _ d hparts (hbelow hdepth), read]
          rfl
      | any hparts d =>
          rw [ofInside_list depth _ d hparts (hbelow hdepth), read]
          rfl
      | not hpart d =>
          rw [ofInside_list depth _ d hpart (hbelow hdepth), read]
          simp only [List.any_cons, List.any_nil, Bool.or_false]
          rfl

/-- **A formula is read from what spells it.** -/
theorem ofAttribute_written {a : Attribute} {p : Formula} (h : a.Demands p) :
    Predicate.ofAttribute a = p.read := by
  obtain ⟨-, d, content, hbody, hwritten⟩ := h
  unfold Predicate.ofAttribute
  rw [hbody]
  dsimp only
  cases hcase : p.isConstant with
  | true =>
      cases hwritten with
      | constant value place =>
          obtain ⟨fault, hfault⟩ := @attributeInside_constant none none false
            (rulesFor [.name (.plain (constantWord value)) place]) value place []
          have hread : readTrees Rules.attributeInside [.name (.plain (constantWord value)) place]
              = .error fault := run_of_error hfault
          rw [hread, read]
      | option | setting | all | any | not => cases hcase
  | false =>
      obtain ⟨inside, after, hfound, hhead, hsize⟩ := @attributeInside_written none none false
        (4 * Tree.sizeAll content + 15) p content hwritten hcase [] (.inl rfl)
      rw [List.append_nil] at hfound
      have hread : readTrees Rules.attributeInside content = .ok inside :=
        run_of_finished hfound rfl rfl
      rw [hread]
      exact ofInside_head hhead (by omega)

end Fieldwise.Formula
