import Fieldwise.Proofs.Grammar.Types

set_option autoImplicit false
set_option synthInstance.maxSize 1000000

/-! # Readers only take trees off the front

What a reader leaves of the group it reads from is an end of what was there before: it takes trees
off the front and neither adds nor changes any (`Parser.Advances`). Nor does it forget a tree that
was left over in a group before: where none is remembered at the end, none was at any time.

The property is a class, because it follows the shape of a reader: a sequence advances when its
parts do, a choice when its branches do. Each reader of the grammar is unfolded once; only where it
looks at what it has read are the cases taken apart by hand. The rules of the grammar then advance
at every depth (`rules_advances`).
-/

namespace Fieldwise.Grammar

open Fieldwise.Token Fieldwise.Layout

/-- A reader that takes trees off the front of its group and does nothing else to them. What was
left over stays remembered. -/
class Parser.Advances {α : Type} (p : Parser α) : Prop where
  suffix : ∀ {s after : Input} {a : α}, p s = .ok (a, after) → after.rest <:+ s.rest
  stray : ∀ {s after : Input} {a : α}, p s = .ok (a, after) → after.stray = none → s.stray = none

namespace Parser

variable {α β : Type}

/-! ## Sequences and choices -/

theorem Advances.andThen {p : Parser α} {f : α → Parser β} [hp : p.Advances]
    (hf : ∀ a, (f a).Advances) : (p >>= f).Advances where
  suffix h := by
    obtain ⟨a, mid, hfirst, hsecond⟩ := bind_eq_ok h
    exact ((hf a).suffix hsecond).trans (hp.suffix hfirst)
  stray h hnone := by
    obtain ⟨a, mid, hfirst, hsecond⟩ := bind_eq_ok h
    exact hp.stray hfirst ((hf a).stray hsecond hnone)

instance (p : Parser α) (f : α → Parser β) [p.Advances] [hf : ∀ a, (f a).Advances] :
    (p >>= f).Advances := .andThen hf

instance (a : α) : (pure a : Parser α).Advances where
  suffix h := by
    cases h
    exact List.suffix_rfl
  stray h hnone := by
    cases h
    exact hnone

theorem Advances.either {c : Prop} [Decidable c] {p q : Parser α} [p.Advances]
    (hq : q.Advances) : (if c then p else q).Advances := by
  split <;> infer_instance

instance (c : Prop) [Decidable c] (p q : Parser α) [p.Advances] [hq : q.Advances] :
    (if c then p else q).Advances := .either hq

/-! ## Single trees -/

instance (question : Ahead) : (ask question).Advances where
  suffix h := by
    cases h
    exact List.suffix_rfl
  stray h hnone := by
    cases h
    exact hnone

instance : (get : Parser Input).Advances where
  suffix h := by
    cases h
    exact List.suffix_rfl
  stray h hnone := by
    cases h
    exact hnone

instance : here.Advances where
  suffix h := by
    cases h
    exact List.suffix_rfl
  stray h hnone := by
    cases h
    exact hnone

instance (n : Nat) : (skip n).Advances where
  suffix h := by
    cases h
    exact List.drop_suffix _ _
  stray h hnone := by
    cases h
    exact hnone

instance : skipAll.Advances where
  suffix h := by
    cases h
    exact List.nil_suffix
  stray h hnone := by
    cases h
    exact hnone

instance (cause : Cause) : (failHere cause : Parser α).Advances where
  suffix h := by cases h
  stray h := by cases h

instance (place : Position) (cause : Cause) : (failAt place cause : Parser α).Advances where
  suffix h := by cases h
  stray h := by cases h

instance (place : Option Position) (cause : Cause) :
    (failFrom place cause : Parser α).Advances where
  suffix h := by cases h
  stray h := by cases h

instance (wanted : List String) : (failExpected wanted : Parser α).Advances := by
  dsimp only [failExpected]
  infer_instance

instance (marks : List Char) : (punct marks).Advances := by
  dsimp only [punct]
  infer_instance

instance (marks : List Char) : (punct? marks).Advances := by
  dsimp only [punct?]
  infer_instance

instance (text : String) : (word text).Advances := by
  dsimp only [word]
  infer_instance

instance (text : String) : (word? text).Advances := by
  dsimp only [word?]
  infer_instance

instance : anyName.Advances := by
  refine .andThen fun s => ?_
  split <;> infer_instance

instance : identifier.Advances := by
  refine .andThen fun s => ?_
  split <;> infer_instance

instance : placedIdentifier.Advances := by
  refine .andThen fun s => ?_
  split <;> infer_instance

instance : lifetime.Advances := by
  refine .andThen fun s => ?_
  split <;> infer_instance

instance : anyGroup.Advances := by
  refine .andThen fun s => ?_
  split <;> infer_instance

instance : finished.Advances := by
  dsimp only [finished]
  infer_instance

/-- A group that is read was next, and its content was read. -/
theorem group_eq_ok {d : Delimiter} {content : Parser α} {s after : Input} {a : α}
    (h : group d content s = .ok (a, after)) :
    ∃ inner opening closing rest left, s.rest = .group d inner opening closing :: rest
      ∧ content { rest := inner, limit := some closing, stray := s.stray, afterBrace := false }
        = .ok (a, left)
      ∧ after.rest = rest ∧ (after.stray = none → left.stray = none ∧ left.rest = []) := by
  unfold group at h
  split at h
  · rename_i kind inner opening closing rest hrest
    split at h
    · rename_i hkind
      subst hkind
      split at h
      · cases h
      · rename_i a left hcontent
        cases h
        refine ⟨inner, opening, closing, rest, left, hrest, hcontent, rfl, fun hstray => ?_⟩
        split at hstray
        · cases hstray
        · cases hstray
        · exact ⟨by assumption, by assumption⟩
    · cases h
  · cases h

/-- A group is taken off as a whole, whatever is read of its content. -/
instance (d : Delimiter) (content : Parser α) [hcontent : content.Advances] :
    (group d content).Advances where
  suffix h := by
    obtain ⟨_, _, _, rest, _, hrest, -, hafter, -⟩ := group_eq_ok h
    rw [hrest, hafter]
    exact List.suffix_cons _ _
  stray h hnone := by
    obtain ⟨_, _, _, _, left, -, hread, -, hleft⟩ := group_eq_ok h
    have hstart := hcontent.stray hread (hleft hnone).1
    exact hstart

/-! ## Looking ahead and repetition -/

instance (p : Parser α) [hp : p.Advances] : (attempt p).Advances where
  suffix h := by
    unfold attempt at h
    split at h
    · rename_i hread
      cases h
      exact hp.suffix hread
    · cases h
      exact List.suffix_rfl
  stray h hnone := by
    unfold attempt at h
    split at h
    · rename_i hread
      cases h
      exact hp.stray hread hnone
    · cases h
      exact hnone

instance (p : Parser α) : (ahead p).Advances where
  suffix h := by
    unfold ahead at h
    split at h
    · cases h
      exact List.suffix_rfl
    · cases h
  stray h hnone := by
    unfold ahead at h
    split at h
    · cases h
      exact hnone
    · cases h

theorem advances_collectUpTo (step : Parser (Option α)) [step.Advances] (n : Nat) :
    (collectUpTo step n).Advances := by
  induction n with
  | zero =>
      dsimp only [collectUpTo]
      infer_instance
  | succ n ih =>
      refine .andThen fun found => ?_
      cases found <;> dsimp only <;> infer_instance

instance (step : Parser (Option α)) [step.Advances] : (collect step).Advances where
  suffix h := (advances_collectUpTo step _).suffix h
  stray h := (advances_collectUpTo step _).stray h

theorem advances_iterateUpTo (step : α → Parser (Option α)) [∀ a, (step a).Advances] (n : Nat)
    (a : α) : (iterateUpTo step n a).Advances := by
  induction n generalizing a with
  | zero =>
      dsimp only [iterateUpTo]
      infer_instance
  | succ n ih =>
      refine .andThen fun found => ?_
      cases found with
      | none =>
          dsimp only
          infer_instance
      | some next => exact ih next

theorem Advances.repeated {step : α → Parser (Option α)} (hstep : ∀ a, (step a).Advances)
    (a : α) : (iterate step a).Advances where
  suffix h := (advances_iterateUpTo step _ _).suffix h
  stray h := (advances_iterateUpTo step _ _).stray h

instance (step : α → Parser (Option α)) [hstep : ∀ a, (step a).Advances] (a : α) :
    (iterate step a).Advances := .repeated hstep a

instance (item : Parser α) [item.Advances] : (commaTerminated item).Advances := by
  dsimp only [commaTerminated]
  infer_instance

instance (stop : Ahead) (separator : List Char) (item : Parser α) [item.Advances] :
    (separatedBefore stop separator item).Advances := by
  dsimp only [separatedBefore]
  infer_instance

instance (stop : Ahead) (separator : List Char) (item : Parser α) [item.Advances] :
    (separatedWhile stop separator item).Advances := by
  dsimp only [separatedWhile]
  infer_instance

instance (item : Parser α) [item.Advances] : (untilFinished item).Advances := by
  dsimp only [untilFinished]
  infer_instance

end Parser

/-! ## The readers of one level -/

/-- Rules that advance. -/
class Rules.Advances (r : Rules) : Prop where
  type (allowPlus : Bool) : (r.type allowPlus).Advances
  argument : r.argument.Advances
  binder : r.binder.Advances
  expr (openStruct : Bool) : (r.expr openStruct).Advances
  operand (openStruct : Bool) : (r.operand openStruct).Advances
  operators (first : Expr) (openStruct : Bool) (base : Precedence) :
    (r.operators first openStruct base).Advances
  line : r.line.Advances
  pattern : r.pattern.Advances
  statements : r.statements.Advances
  item (attributes : List Attribute) : (r.item attributes).Advances
  namedFields : r.namedFields.Advances
  useTree (allowRoot : Bool) : (r.useTree allowRoot).Advances

attribute [instance] Rules.Advances.type Rules.Advances.argument Rules.Advances.binder
  Rules.Advances.expr Rules.Advances.operand Rules.Advances.operators Rules.Advances.line
  Rules.Advances.pattern Rules.Advances.statements Rules.Advances.item Rules.Advances.namedFields
  Rules.Advances.useTree

open Fieldwise.Grammar.Parser Fieldwise.Grammar.Rules

variable (r : Rules) [r.Advances]

/-! ### Attributes and literals -/

instance : literal.Advances := by
  dsimp only [literal]
  refine .andThen fun found => ?_
  split <;> infer_instance

instance : plainPath.Advances := by
  dsimp only [plainPath]
  infer_instance

instance : r.attributeValue.Advances := by
  dsimp only [Rules.attributeValue]
  refine .andThen fun lone => ?_
  split <;> infer_instance

instance : r.attributeInside.Advances := by
  dsimp only [Rules.attributeInside]
  infer_instance

instance : r.outerAttributes.Advances := by
  dsimp only [Rules.outerAttributes]
  infer_instance

instance : r.innerAttributes.Advances := by
  dsimp only [Rules.innerAttributes]
  infer_instance

instance : r.outerLayout.Advances := by
  dsimp only [Rules.outerLayout]
  infer_instance

instance : r.innerLayout.Advances := by
  dsimp only [Rules.innerLayout]
  infer_instance

instance : r.block.Advances := by
  dsimp only [Rules.block]
  infer_instance

/-! ### Paths, arguments and bounds -/

instance : r.constantArgument.Advances := by
  dsimp only [Rules.constantArgument]
  infer_instance

instance (allowPlus : Bool) : (r.resultType allowPlus).Advances := by
  dsimp only [Rules.resultType]
  infer_instance

instance : r.callArguments.Advances := by
  dsimp only [Rules.callArguments]
  infer_instance

instance : r.angleArguments.Advances := by
  dsimp only [Rules.angleArguments]
  infer_instance

instance (inExpr : Bool) : (r.segment inExpr).Advances := by
  dsimp only [Rules.segment]
  infer_instance

instance (inExpr : Bool) : (r.moreSegments inExpr).Advances := by
  dsimp only [Rules.moreSegments]
  infer_instance

instance (inExpr : Bool) : (r.path inExpr).Advances := by
  dsimp only [Rules.path]
  infer_instance

instance (inExpr : Bool) : (Rules.qualifiedPath.collectSegments r inExpr).Advances := by
  dsimp only [Rules.qualifiedPath.collectSegments]
  infer_instance

instance (inExpr : Bool) : (r.qualifiedPath inExpr).Advances := by
  dsimp only [Rules.qualifiedPath]
  infer_instance

instance (path : Doc) : (Rules.invocation path).Advances := by
  dsimp only [Rules.invocation]
  infer_instance

instance : Rules.capturedParameters.Advances := by
  dsimp only [Rules.capturedParameters]
  infer_instance

instance (allowConst : Bool) : (Rules.constness allowConst).Advances := by
  dsimp only [Rules.constness]
  infer_instance

instance (allowConst : Bool) : (r.traitBound allowConst).Advances := by
  dsimp only [Rules.traitBound]
  infer_instance

instance (allowCapture allowConst : Bool) : (r.bound allowCapture allowConst).Advances := by
  dsimp only [Rules.bound]
  infer_instance

instance : Rules.lifetimeBounds.Advances := by
  dsimp only [Rules.lifetimeBounds]
  infer_instance

instance (attributes : List Attribute) : (Rules.lifetimeParameter attributes).Advances := by
  dsimp only [Rules.lifetimeParameter]
  infer_instance

instance (attributes : List Attribute) : (r.constantParameter attributes).Advances := by
  dsimp only [Rules.constantParameter]
  infer_instance

instance (attributes : List Attribute) : (r.typeParameter attributes).Advances := by
  dsimp only [Rules.typeParameter]
  infer_instance

instance : r.boundParameter.Advances := by
  dsimp only [Rules.boundParameter]
  infer_instance

instance : r.binderRule.Advances := by
  dsimp only [Rules.binderRule]
  infer_instance

instance : r.parameter.Advances := by
  dsimp only [Rules.parameter]
  infer_instance

instance : r.parameters.Advances := by
  dsimp only [Rules.parameters]
  infer_instance

instance : r.typeArgument.Advances := by
  dsimp only [Rules.typeArgument]
  refine .andThen fun found => ?_
  split <;> infer_instance

instance : r.argumentRule.Advances := by
  dsimp only [Rules.argumentRule]
  infer_instance

/-! ### Types -/

instance : string?.Advances := by
  dsimp only [string?]
  refine .andThen fun found => ?_
  split <;> infer_instance

instance : convention.Advances := by
  dsimp only [convention]
  infer_instance

instance (text : String) : (spacedWord text).Advances := by
  dsimp only [spacedWord]
  infer_instance

instance (allowPlus allowCapture allowConst : Bool) :
    (r.boundList allowPlus allowCapture allowConst).Advances := by
  dsimp only [Rules.boundList]
  infer_instance

instance (start : Option Position) (allowPlus : Bool) :
    (r.objectBounds start allowPlus).Advances := by
  dsimp only [Rules.objectBounds]
  infer_instance

instance : r.addedBounds.Advances := by
  dsimp only [Rules.addedBounds]
  infer_instance

instance (allowSelf : Bool) : (r.functionTypeArgument allowSelf).Advances := by
  dsimp only [Rules.functionTypeArgument]
  infer_instance

instance : Rules.variadicType.Advances := by
  dsimp only [Rules.variadicType]
  infer_instance

instance : r.functionTypeArguments.Advances := by
  dsimp only [Rules.functionTypeArguments]
  infer_instance

instance (outer : Option Doc) : (r.functionType outer).Advances := by
  dsimp only [Rules.functionType]
  infer_instance

instance : r.parenthesisedInside.Advances := by
  dsimp only [Rules.parenthesisedInside]
  infer_instance

instance (allowPlus : Bool) : (r.parenthesisedType allowPlus).Advances := by
  refine .andThen fun inside => ?_
  split
  · infer_instance
  · infer_instance
  · refine .andThen fun plus => ?_
    split <;> infer_instance

instance (outer : Option Doc) (allowPlus : Bool) : (r.pathType outer allowPlus).Advances := by
  dsimp only [Rules.pathType]
  infer_instance

instance : Rules.builtInType.Advances := by
  dsimp only [Rules.builtInType]
  infer_instance

instance : r.bracketType.Advances := by
  dsimp only [Rules.bracketType]
  infer_instance

instance : Rules.pointerMutability.Advances := by
  dsimp only [Rules.pointerMutability]
  infer_instance

instance : r.pointerType.Advances := by
  dsimp only [Rules.pointerType]
  infer_instance

instance : r.referenceType.Advances := by
  dsimp only [Rules.referenceType]
  infer_instance

instance (allowPlus : Bool) : (r.dynType allowPlus).Advances := by
  dsimp only [Rules.dynType]
  infer_instance

instance (allowPlus : Bool) : (r.implType allowPlus).Advances := by
  dsimp only [Rules.implType]
  infer_instance

instance (allowPlus : Bool) : (r.typeRule allowPlus).Advances := by
  dsimp only [Rules.typeRule]
  infer_instance

instance : r.whereCondition.Advances := by
  dsimp only [Rules.whereCondition]
  infer_instance

instance : r.whereClause?.Advances := by
  dsimp only [Rules.whereClause?]
  infer_instance

instance : r.whereClause.Advances := by
  dsimp only [Rules.whereClause]
  infer_instance

/-! ### Patterns -/

instance : fieldLabel.Advances := by
  refine .andThen fun s => ?_
  split
  · split <;> infer_instance
  · infer_instance

instance : limits.Advances := by
  dsimp only [limits]
  infer_instance

instance : patternLimits.Advances := by
  dsimp only [patternLimits]
  infer_instance

instance : r.alternatives.Advances := by
  dsimp only [Rules.alternatives]
  infer_instance

instance : r.constantBlock.Advances := by
  dsimp only [Rules.constantBlock]
  infer_instance

instance : r.rangeEnd.Advances := by
  dsimp only [Rules.rangeEnd]
  infer_instance

instance (start : Expr) : (r.rangeAfterStart start).Advances := by
  dsimp only [Rules.rangeAfterStart]
  refine .andThen fun found => ?_
  split <;> infer_instance

instance : r.fieldPattern.Advances := by
  dsimp only [Rules.fieldPattern]
  infer_instance

instance (path : Doc) : (r.structPattern path).Advances := by
  dsimp only [Rules.structPattern]
  infer_instance

instance : r.tuplePattern.Advances := by
  refine .andThen fun found => ?_
  split
  split <;> infer_instance

instance : r.slicePattern.Advances := by
  dsimp only [Rules.slicePattern]
  have hitem : (do
      let item ← r.alternatives
      match item.form with
      | .openRange dots =>
        failAt dots (.rule "range pattern is not allowed unparenthesized inside slice pattern")
      | _ => pure item : Parser Pattern).Advances := by
    refine .andThen fun item => ?_
    split <;> infer_instance
  infer_instance

instance : r.pathPattern.Advances := by
  dsimp only [Rules.pathPattern]
  infer_instance

instance : r.bindingPattern.Advances := by
  dsimp only [Rules.bindingPattern]
  infer_instance

instance : r.valuePattern.Advances := by
  refine .andThen fun block => .andThen fun start => ?_
  split <;> infer_instance

instance : r.halfOpenPattern.Advances := by
  refine .andThen fun s => ?_
  split
  · refine .andThen fun kind => .andThen fun stop => ?_
    split <;> infer_instance
  · infer_instance

instance : r.patternRule.Advances := by
  dsimp only [Rules.patternRule]
  infer_instance

/-! ### Expressions -/

instance : binaryOperator?.Advances where
  suffix h := by
    cases h
    exact List.suffix_rfl
  stray h hnone := by
    cases h
    exact hnone

instance : nextPrecedence.Advances := by
  dsimp only [nextPrecedence]
  refine .andThen fun found => ?_
  split <;> infer_instance

instance : endCast.Advances := by
  dsimp only [endCast]
  refine .andThen fun found => ?_
  split <;> infer_instance

instance : r.plainBlock.Advances := by
  dsimp only [Rules.plainBlock]
  infer_instance

instance (openStruct : Bool) (precedence : Precedence) :
    (r.rightOperand openStruct precedence).Advances := by
  dsimp only [Rules.rightOperand]
  infer_instance

instance (kind : Limits) (openStruct : Bool) : (r.rangeTail kind openStruct).Advances := by
  dsimp only [Rules.rangeTail]
  infer_instance

instance (first : Expr) (openStruct : Bool) (base : Precedence) :
    (r.operatorsRule first openStruct base).Advances := by
  refine .repeated (fun left => .either (.andThen fun operator => ?_)) first
  split <;> infer_instance

instance : r.callOperands.Advances := by
  dsimp only [Rules.callOperands]
  infer_instance

instance (e : Expr) : (Rules.tupleIndices e).Advances := by
  refine .andThen fun s => ?_
  split
  · dsimp only
    split <;> infer_instance
  · infer_instance

instance (e : Expr) : (r.memberAccess e).Advances := by
  dsimp only [Rules.memberAccess]
  infer_instance

instance (atom : Expr) : (r.trailers atom).Advances := by
  dsimp only [Rules.trailers]
  infer_instance

instance : r.fieldValue.Advances := by
  dsimp only [Rules.fieldValue]
  infer_instance

instance (path : Doc) : (r.structFields path).Advances := by
  dsimp only [Rules.structFields]
  infer_instance

instance : r.parenthesisInside.Advances := by
  dsimp only [Rules.parenthesisInside]
  infer_instance

instance : r.arrayInside.Advances := by
  dsimp only [Rules.arrayInside]
  infer_instance

instance (openStruct : Bool) : (r.pathExpr openStruct).Advances := by
  dsimp only [Rules.pathExpr]
  infer_instance

instance : r.closureArgument.Advances := by
  dsimp only [Rules.closureArgument]
  infer_instance

instance (openStruct : Bool) : (r.closureExpr openStruct).Advances := by
  dsimp only [Rules.closureExpr]
  infer_instance

instance (openStruct : Bool) : (r.letExpr openStruct).Advances := by
  dsimp only [Rules.letExpr]
  infer_instance

instance : Rules.builtInExpr.Advances := by
  dsimp only [Rules.builtInExpr]
  infer_instance

instance : Rules.label?.Advances := by
  dsimp only [Rules.label?]
  infer_instance

instance : r.jumpValue.Advances := by
  dsimp only [Rules.jumpValue]
  infer_instance

instance (openStruct : Bool) : (r.breakExpr openStruct).Advances := by
  dsimp only [Rules.breakExpr]
  infer_instance

instance : r.ifExpr.Advances := by
  dsimp only [Rules.ifExpr]
  infer_instance

instance (label : Option String) : (r.whileExpr label).Advances := by
  dsimp only [Rules.whileExpr]
  infer_instance

instance (label : Option String) : (r.forExpr label).Advances := by
  dsimp only [Rules.forExpr]
  infer_instance

instance (label : Option String) : (r.loopExpr label).Advances := by
  dsimp only [Rules.loopExpr]
  infer_instance

instance : r.labelledExpr.Advances := by
  dsimp only [Rules.labelledExpr]
  infer_instance

instance : r.arm.Advances := by
  dsimp only [Rules.arm]
  infer_instance

instance : r.matchExpr.Advances := by
  dsimp only [Rules.matchExpr]
  infer_instance

instance (openStruct : Bool) : (r.wordAtom? openStruct).Advances := by
  dsimp only [Rules.wordAtom?]
  infer_instance

instance (openStruct : Bool) : (r.atom openStruct).Advances := by
  dsimp only [Rules.atom]
  -- all but the last of the atoms begin with a question about what comes next
  repeat refine .andThen fun comes => .either ?_
  refine .andThen fun found => ?_
  split <;> infer_instance

instance : Rules.operatorBefore?.Advances := by
  dsimp only [Rules.operatorBefore?]
  infer_instance

instance (openStruct : Bool) : (r.operandRule openStruct).Advances := by
  refine .andThen fun attributes => .andThen fun operator => ?_
  split <;> infer_instance

instance (openStruct : Bool) : (r.exprRule openStruct).Advances := by
  dsimp only [Rules.exprRule]
  infer_instance

instance : r.lineRule.Advances := by
  dsimp only [Rules.lineRule]
  infer_instance

/-! ### Statements -/

instance : invocationAhead.Advances := by
  refine .andThen fun afterPath => ?_
  split <;> infer_instance

instance (attributes : Doc) : (r.letStatement attributes).Advances := by
  dsimp only [Rules.letStatement]
  repeat' first | infer_instance | refine .andThen fun _ => ?_ | split

instance : r.statement.Advances := by
  dsimp only [Rules.statement]
  infer_instance

instance : Rules.emptyStatements.Advances := by
  dsimp only [Rules.emptyStatements]
  infer_instance

instance : r.statementsRule.Advances := by
  dsimp only [Rules.statementsRule]
  infer_instance

/-! ### Items -/

instance : visibility.Advances := by
  dsimp only [visibility]
  infer_instance

instance : visibilityAhead.Advances := by
  dsimp only [visibilityAhead]
  infer_instance

instance : nameOrUnderscore.Advances := by
  dsimp only [nameOrUnderscore]
  infer_instance

instance : invocationItem.Advances := by
  dsimp only [invocationItem]
  infer_instance

instance : r.receiver.Advances := by
  dsimp only [Rules.receiver]
  repeat' first | infer_instance | refine .andThen fun _ => ?_ | split

instance : r.argumentOf.Advances := by
  dsimp only [Rules.argumentOf]
  infer_instance

instance : r.functionArguments.Advances := by
  refine .repeated (fun found => ?_) _
  repeat' first | infer_instance | refine .andThen fun _ => ?_ | split

instance (allowSafe : Bool) : (r.signature allowSafe).Advances := by
  dsimp only [Rules.signature]
  infer_instance

instance (stop : Ahead) : (r.boundsAfterColon stop).Advances := by
  dsimp only [Rules.boundsAfterColon]
  infer_instance

instance (allowDefault : Bool) (position : AliasWhere) :
    (r.typeAlias allowDefault position).Advances := by
  dsimp only [Rules.typeAlias]
  infer_instance

instance : r.constant.Advances := by
  dsimp only [Rules.constant]
  infer_instance

instance : r.namedFieldsRule.Advances := by
  dsimp only [Rules.namedFieldsRule]
  infer_instance

instance : r.tupleFields.Advances := by
  dsimp only [Rules.tupleFields]
  infer_instance

instance (vis : Visibility × Doc) (words : String) : (r.typeHead vis words).Advances := by
  dsimp only [Rules.typeHead]
  infer_instance

instance (h : TypeHead) : (r.tupleStruct h).Advances := by
  dsimp only [Rules.tupleStruct]
  infer_instance

instance (h : TypeHead) : (r.structBody h).Advances := by
  dsimp only [Rules.structBody]
  infer_instance

instance (attributes : List Attribute) : (r.structItem attributes).Advances := by
  dsimp only [Rules.structItem]
  infer_instance

instance : r.variant.Advances := by
  dsimp only [Rules.variant]
  infer_instance

instance (attributes : List Attribute) : (r.enumItem attributes).Advances := by
  dsimp only [Rules.enumItem]
  infer_instance

instance (attributes : List Attribute) : (r.unionItem attributes).Advances := by
  dsimp only [Rules.unionItem]
  infer_instance

instance : r.traitMethod.Advances := by
  dsimp only [Rules.traitMethod]
  infer_instance

instance (plain : Bool) : (r.traitMemberRest plain).Advances := by
  dsimp only [Rules.traitMemberRest]
  infer_instance

instance : r.traitMember.Advances := by
  dsimp only [Rules.traitMember]
  infer_instance

instance (attributes : List Attribute) (h : TypeHead) : (r.traitBody attributes h).Advances := by
  dsimp only [Rules.traitBody]
  infer_instance

instance (h : TypeHead) : (r.traitAlias h).Advances := by
  dsimp only [Rules.traitAlias]
  infer_instance

instance (attributes : List Attribute) : (r.traitItem attributes).Advances := by
  dsimp only [Rules.traitItem]
  infer_instance

instance : r.implSubject.Advances := by
  dsimp only [Rules.implSubject]
  infer_instance

instance : r.implMember.Advances := by
  dsimp only [Rules.implMember]
  infer_instance

instance : r.implItem.Advances := by
  dsimp only [Rules.implItem]
  infer_instance

instance (attributes : List Attribute) : (r.moduleItem attributes).Advances := by
  dsimp only [Rules.moduleItem]
  infer_instance

instance : r.foreignStatic.Advances := by
  dsimp only [Rules.foreignStatic]
  infer_instance

instance : r.foreignMember.Advances := by
  dsimp only [Rules.foreignMember]
  infer_instance

instance : r.foreignItem.Advances := by
  dsimp only [Rules.foreignItem]
  infer_instance

instance : Rules.externCrate.Advances := by
  dsimp only [Rules.externCrate]
  infer_instance

instance (allowRoot : Bool) : (r.useTreeRule allowRoot).Advances := by
  dsimp only [Rules.useTreeRule]
  infer_instance

instance : r.useItem.Advances := by
  dsimp only [Rules.useItem]
  infer_instance

instance : r.functionItem.Advances := by
  dsimp only [Rules.functionItem]
  infer_instance

instance : r.staticItem.Advances := by
  dsimp only [Rules.staticItem]
  infer_instance

instance : r.constantItem.Advances := by
  dsimp only [Rules.constantItem]
  infer_instance

instance : Rules.ruleSetItem.Advances := by
  dsimp only [Rules.ruleSetItem]
  infer_instance

instance : Rules.invocationNamedItem.Advances := by
  dsimp only [Rules.invocationNamedItem]
  infer_instance

instance (attributes : List Attribute) : (r.bareItem attributes).Advances := by
  dsimp only [Rules.bareItem]
  infer_instance

instance (attributes : List Attribute) : (r.itemRule attributes).Advances := by
  dsimp only [Rules.itemRule]
  infer_instance

/-! ## Every depth -/

omit r in
/-- **The rules of the grammar take trees off the front, at every depth of nesting.** -/
instance rules_advances (n : Nat) : (rules n).Advances := by
  induction n with
  | zero => constructor <;> intros <;> dsimp only [rules, Rules.empty] <;> infer_instance
  | succ n ih =>
      exact
        { type := fun allowPlus => inferInstanceAs ((rules n).typeRule allowPlus).Advances
          argument := inferInstanceAs (rules n).argumentRule.Advances
          binder := inferInstanceAs (rules n).binderRule.Advances
          expr := fun openStruct => inferInstanceAs ((rules n).exprRule openStruct).Advances
          operand := fun openStruct => inferInstanceAs ((rules n).operandRule openStruct).Advances
          operators := fun first openStruct base =>
            inferInstanceAs ((rules n).operatorsRule first openStruct base).Advances
          line := inferInstanceAs (rules n).lineRule.Advances
          pattern := inferInstanceAs (rules n).patternRule.Advances
          statements := inferInstanceAs (rules n).statementsRule.Advances
          item := fun attributes => inferInstanceAs ((rules n).itemRule attributes).Advances
          namedFields := inferInstanceAs (rules n).namedFieldsRule.Advances
          useTree := fun allowRoot => inferInstanceAs ((rules n).useTreeRule allowRoot).Advances }

end Fieldwise.Grammar
