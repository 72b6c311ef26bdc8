import Fieldwise.Grammar.Pattern

set_option autoImplicit false

/-! # Reading expressions

An expression is operands with operators between them (`Rules.operatorsRule`); an operand is an
atom with operators before it (`Rules.operandRule`) and calls, fields and indices after it
(`Rules.trailers`). Where a block has to follow, as after the condition of an `if`, a struct
literal may not stand open: the argument `openStruct` is false there. -/

namespace Fieldwise.Grammar

open Fieldwise.Token Fieldwise.Layout Fieldwise.Grammar.Parser

/-! ## Operators -/

/-- The operators between two operands. An operator comes before those that begin it. -/
def binaryOperators : List (List Char × Precedence) :=
  [(['+', '='], .assignment), (['-', '='], .assignment), (['*', '='], .assignment),
   (['/', '='], .assignment), (['%', '='], .assignment), (['^', '='], .assignment),
   (['&', '='], .assignment), (['|', '='], .assignment), (['<', '<', '='], .assignment),
   (['>', '>', '='], .assignment), (['&', '&'], .conjunction), (['|', '|'], .disjunction),
   (['<', '<'], .shift), (['>', '>'], .shift), (['=', '='], .comparison),
   (['<', '='], .comparison), (['!', '='], .comparison), (['>', '='], .comparison),
   (['+'], .sum), (['-'], .sum), (['*'], .product), (['/'], .product), (['%'], .product),
   (['^'], .bitXor), (['&'], .bitAnd), (['|'], .bitOr), (['<'], .comparison),
   (['>'], .comparison)]

/-- The operator that comes next. -/
def binaryOperator? : Parser (Option (List Char × Precedence)) := fun s =>
  .ok (binaryOperators.find? fun (marks, _) => Ahead.punct marks s.rest, s)

/-- The kind of expression that an operator makes. -/
def Precedence.kind : Precedence → ExprKind
  | .assignment => .assignment
  | .comparison => .comparison
  | _ => .other

/-- Whether an assignment comes next. -/
def assignAhead : Ahead := .butNot (.punct ['=']) (.punct ['=', '>'])

/-- How tightly what comes next binds. -/
def nextPrecedence : Parser Precedence := do
  match ← binaryOperator? with
  | some (_, precedence) => return precedence
  | none =>
    if ← ask assignAhead then return .assignment
    if ← ask (.punct ['.', '.']) then return .range
    if ← ask (.word "as") then return .cast
    return .loosest

/-! ## Looking ahead -/

/-- Whether an expression may begin with what comes next. -/
def exprAhead : Ahead :=
  .any [.butNot .anyName (.word "as"), .group .parenthesis, .group .bracket, .group .brace,
    .literal, .butNot (.punct ['!']) (.punct ['!', '=']),
    .butNot (.punct ['-']) (.or (.punct ['-', '=']) (.punct ['-', '>'])),
    .butNot (.punct ['*']) (.punct ['*', '=']), .butNot (.punct ['|']) (.punct ['|', '=']),
    .butNot (.punct ['&']) (.punct ['&', '=']), .punct ['.', '.'],
    .butNot (.punct ['<']) (.or (.punct ['<', '=']) (.punct ['<', '<', '='])),
    .punct [':', ':'], .lifetime, .punct ['#']]

/-- Whether a point comes next that begins no range. -/
def pointAhead : Ahead := .butNot (.punct ['.']) (.punct ['.', '.'])

/-- Whether a closure that binds parameters of its own comes next. -/
def bindingClosureAhead : Ahead := .and (.word "for") (.second parametersAhead)

/-- Whether a closure comes next. -/
def closureAhead : Ahead :=
  .any [.punct ['|'], .word "move", bindingClosureAhead,
    .butNot (.word "const") (.second (.group .brace)), .word "static",
    .and (.word "async") (.second (.or (.punct ['|']) (.word "move")))]

/-- What comes next although it cannot follow a cast, in words. -/
def castFollower? (trees : List Tree) : Option String :=
  let called : Ahead := .or (.group .parenthesis) (.punct [':', ':'])
  if pointAhead trees then
    if Ahead.second (.word "await") trees then some "`.await`"
    else if Ahead.second .identifier trees && Ahead.third called trees then some "a method call"
    else some "a field access"
  else if Ahead.punct ['?'] trees then some "`?`"
  else if Ahead.group .bracket trees then some "indexing"
  else if Ahead.group .parenthesis trees then some "a function call"
  else none

/-- Fails if what comes next cannot follow a cast. -/
def endCast : Parser Unit := do
  match castFollower? (← get).rest with
  | some follower => failHere (.rule ("casts cannot be followed by " ++ follower))
  | none => pure ()

/-- The indices of tuple fields that the parts of a float are which points divide. -/
def indicesOf (text : String) : Except String (List Nat) :=
  (text.splitOn ".").mapM fun part =>
    match scanLiteral part.toList with
    | some (l, _) => indexOf l
    | none => .error "expected integer literal"

namespace Rules

/-- Reads a block that has no attributes of its own. -/
def plainBlock (r : Rules) : Parser Block :=
  group .brace do return { statements := ← r.statements }

/-! ## Operands and the operators between them -/

/-- Reads an operand and the operators after it that bind more tightly than `precedence`. -/
def rightOperand (r : Rules) (openStruct : Bool) (precedence : Precedence) : Parser Expr := do
  let first ← r.operand openStruct
  iterate (fun e => do
    let next ← nextPrecedence
    if next.rank > precedence.rank || (next = .assignment ∧ precedence = .assignment) then
      let before := (← get).rest.length
      let e ← r.operators e openStruct next
      if (← get).rest.length = before then return none
      return some e
    else return none) first

/-- Reads the end of a range, which may be missing after `..`. -/
def rangeTail (r : Rules) (kind : Limits) (openStruct : Bool) : Parser (Option Expr) := do
  let ends : Ahead := .any [.finished, .punct [','], .punct [';'], pointAhead, .punct ['?'],
    .punct ['=', '>'], .punct ['='], .punct ['+'], .punct ['/'], .punct ['%'], .punct ['^'],
    .punct ['>'], .punct ['<', '='], .punct ['!', '='], .punct ['-', '='], .punct ['*', '='],
    .punct ['&', '='], .punct ['|', '='], .punct ['<', '<', '='], .word "as"]
  let blockFollows ← ask (.group .brace)
  if kind = .halfOpen ∧ ((← ask ends) || (!openStruct && blockFollows)) then return none
  return some (← r.rightOperand openStruct .range)

/-- Reads the operators after a first operand that bind at least as tightly as `base`, given the
rules for what is inside them. -/
def operatorsRule (r : Rules) (first : Expr) (openStruct : Bool) (base : Precedence) :
    Parser Expr :=
  iterate (fun left => do
    if left.kind.isRange then return none
    match ← binaryOperator? with
    | some (marks, precedence) =>
      if precedence.rank < base.rank then return none
      if precedence = .comparison ∧ left.kind.isComparison then
        failHere (.rule "comparison operators cannot be chained")
      skip marks.length
      let right ← r.rightOperand openStruct precedence
      return some (.binary precedence.kind left (String.ofList marks) right.layout)
    | none =>
      if base.rank ≤ Precedence.assignment.rank && (← ask assignAhead) then
        punct ['=']
        return some (.assign left (← r.rightOperand openStruct .assignment))
      if base.rank ≤ Precedence.range.rank && (← ask (.punct ['.', '.'])) then
        let kind ← limits
        return some (.range (some left) kind.written (← r.rangeTail kind openStruct))
      if base.rank ≤ Precedence.cast.rank && (← word? "as") then
        let t ← r.type false
        endCast
        return some (.binary .other left "as" t.layout)
      return none) first

/-! ## Calls, fields and indices -/

/-- Reads the arguments of a call. -/
def callOperands (r : Rules) : Parser (List Expr) :=
  group .parenthesis (commaTerminated (r.expr true))

/-- Reads the indices of tuple fields after a point that look like a float. Says whether a point
after them is part of it, so that another field has to follow. -/
def tupleIndices (e : Expr) : Parser (Expr × Bool) := do
  match (← get).rest with
  | .literal ⟨.float, text⟩ place :: _ =>
    let trailing := text.endsWith "."
    let digits := if trailing then (text.dropEnd 1).toString else text
    match indicesOf digits with
    | .ok indices =>
      skip 1
      pure (indices.foldl (fun e i => e.member (.word (toString i))) e, trailing)
    | .error rule => failAt place (.rule rule)
  | _ => pure (e, true)

/-- Reads a field or method after a point. -/
def memberAccess (r : Rules) (e : Expr) : Parser Expr := do
  punct ['.']
  let (e, more) ← tupleIndices e
  if !more then return e
  if ← word? "await" then return e.member (.word "await")
  let label ← fieldLabel
  let name : Doc := .word label.written
  if label.isName && (← ask (.punct [':', ':'])) then
    punct [':', ':']
    let arguments ← r.angleArguments
    return e.method (name ++ arguments.layout true) (← r.callOperands)
  else if label.isName && (← ask (.group .parenthesis)) then
    return e.method name (← r.callOperands)
  else return e.member name

/-- Reads what follows an atom. -/
def trailers (r : Rules) (atom : Expr) : Parser Expr :=
  iterate (fun e => do
    if ← ask (.group .parenthesis) then return some (e.call (← r.callOperands))
    if !e.kind.isRange && (← ask pointAhead) then return some (← r.memberAccess e)
    if ← ask (.group .bracket) then
      return some (e.index (← group .bracket (r.expr true)))
    if e.kind.isRange then return none
    if ← punct? ['?'] then return some e.question else return none) atom

/-! ## Atoms -/

/-- Reads one field of a struct literal. -/
def fieldValue (r : Rules) : Parser Doc := do
  let attributes ← r.outerLayout
  let label ← fieldLabel
  if label.isName && !(← ask (.punct [':'])) then
    return Expr.fieldValue attributes label.written none
  punct [':']
  return Expr.fieldValue attributes label.written (some (← r.expr true))

/-- Reads the fields of a struct literal; `..` and a value may stand for the rest. -/
def structFields (r : Rules) (path : Doc) : Parser Expr := do
  let (fields, rest, _) ← iterate (fun (fields, rest, more) => do
    if !more || (← finished) then return none
    if ← punct? ['.', '.'] then
      if ← finished then return some (fields, rest, false)
      return some (fields, some (← r.expr true), false)
    let fields := (← r.fieldValue) :: fields
    if ← finished then return some (fields, rest, false)
    punct [',']
    return some (fields, rest, true)) (([] : List Doc), (none : Option Expr), true)
  return .record path fields.reverse rest

/-- Whether a path is a name no longer than one step of indentation. -/
def isShortName (p : QualifiedPath) : Bool :=
  p.qualifier.isNone && p.path.single?.any fun n => n.written.utf8ByteSize ≤ 4

/-- Reads an atom that begins with a path. -/
def pathExpr (r : Rules) (openStruct : Bool) : Parser Expr := do
  let path ← r.qualifiedPath true
  let layout := path.layout true
  if path.isPlain && (← ask bangAhead) then
    let (layout, braced) ← invocation layout
    return .plain (.invocation braced) layout
  if openStruct && (← ask (.group .brace)) then group .brace (r.structFields layout)
  else return .path layout (isShortName path)

/-- Reads the inside of parentheses: an expression, or those of a tuple. -/
def parenthesisInside (r : Rules) : Parser Expr := do
  if ← finished then return .tuple []
  let first ← r.expr true
  if ← finished then return .parenthesised first
  punct [',']
  return .tuple (first :: (← commaTerminated (r.expr true)))

/-- Reads the inside of an array: items, or an item and how often it is repeated. -/
def arrayInside (r : Rules) : Parser Expr := do
  if ← finished then return .array []
  let first ← r.expr true
  if ← ask (.or .finished (.punct [','])) then
    let _ ← punct? [',']
    return .array (first :: (← commaTerminated (r.expr true)))
  else if ← punct? [';'] then return .repeated first (← r.expr true)
  else failHere (.rule "expected `,` or `;`")

/-- Reads one argument of a closure. -/
def closureArgument (r : Rules) : Parser Doc := do
  let attributes ← r.outerLayout
  let pattern ← r.pattern
  let type ← if ← punct? [':'] then pure (.word ": " ++ (← r.type true).layout) else pure .empty
  return attributes ++ pattern.layout ++ type

/-- Reads a closure. -/
def closureExpr (r : Rules) (openStruct : Bool) : Parser Expr := do
  let outer ← r.binder
  let const ← spacedWord "const"
  let static ← spacedWord "static"
  let async ← spacedWord "async"
  let move ← spacedWord "move"
  let head := outer.getD .empty ++ .word (const ++ static ++ async ++ move)
  punct ['|']
  let inputs ← separatedBefore (.punct ['|']) [','] r.closureArgument
  punct ['|']
  if ← punct? ['-', '>'] then
    let result ← r.type true
    return .closure head inputs (some result.layout) (.block none (← r.plainBlock))
  else return .closure head inputs none (← r.expr openStruct)

/-- Reads `let`, as a condition. -/
def letExpr (r : Rules) (openStruct : Bool) : Parser Expr := do
  word "let"
  let pattern ← r.alternatives
  punct ['=']
  let first ← r.operand openStruct
  return .letting pattern.layout (← r.operators first openStruct .comparison)

/-- Reads an operator that the compiler builds in, which cannot be printed. -/
def builtInExpr : Parser Expr := do
  skip 2
  let _ ← identifier
  group .parenthesis skipAll
  return .unprintable

/-! ## Jumps -/

/-- Reads a label if it comes next. -/
def label? : Parser (Option String) := do
  if ← ask .lifetime then return some (lifetimeText (← lifetime)) else return none

/-- Reads the value that a jump may carry. -/
def jumpValue (r : Rules) : Parser (Option Expr) := do
  if ← ask exprAhead then return some (← r.expr true) else return none

/-- Reads `break` with the label and the value it may carry. -/
def breakExpr (r : Rules) (openStruct : Bool) : Parser Expr := do
  word "break"
  if ← ask (.and .lifetime (.second (.punct [':']))) then
    let start ← here
    let _ ← r.expr true
    failFrom start (.rule "parentheses required")
  let label ← label?
  let blockFollows ← ask (.group .brace)
  let value ← if openStruct || !blockFollows then r.jumpValue else pure none
  return .jump "break" label value

/-! ## Conditions and loops -/

/-- Reads an `if` with its alternatives. -/
def ifExpr (r : Rules) : Parser Expr := do
  let (branches, last, _) ← iterate (fun (branches, _, more) => do
    if !more then return none
    word "if"
    let condition ← r.expr false
    let branches := (condition, ← r.plainBlock) :: branches
    if !(← word? "else") then return some (branches, none, false)
    if ← ask (.word "if") then return some (branches, none, true)
    if ← ask (.group .brace) then return some (branches, some (← r.plainBlock), false)
    failExpected ["`if`", "curly braces"])
    (([] : List (Expr × Block)), (none : Option Block), true)
  return .conditional branches.reverse last

/-- Reads a `while` loop. -/
def whileExpr (r : Rules) (label : Option String) : Parser Expr := do
  word "while"
  let condition ← r.expr false
  return .whileLoop label condition (← r.block)

/-- Reads a `for` loop. -/
def forExpr (r : Rules) (label : Option String) : Parser Expr := do
  word "for"
  let pattern ← r.alternatives
  word "in"
  let items ← r.expr false
  return .forLoop label pattern.layout items (← r.block)

/-- Reads a `loop`. -/
def loopExpr (r : Rules) (label : Option String) : Parser Expr := do
  word "loop"
  return .forever label (← r.block)

/-- Reads a loop or block with a label. -/
def labelledExpr (r : Rules) : Parser Expr := do
  let label ← label?
  punct [':']
  if ← ask (.word "while") then r.whileExpr label
  else if ← ask (.word "for") then r.forExpr label
  else if ← ask (.word "loop") then r.loopExpr label
  else if ← ask (.group .brace) then return .block label (← r.block)
  else failHere (.rule "expected loop or block expression")

/-- Reads one arm of a `match`. A comma ends it, unless its body is a block or it is the last. -/
def arm (r : Rules) : Parser Doc := do
  let attributes ← r.outerLayout
  let pattern ← r.alternatives
  let guard ← if ← word? "if" then pure (some (← r.expr true)) else pure none
  punct ['=', '>']
  let body ← r.line
  if body.kind.standsAlone then
    let _ ← punct? [',']
  else if !(← finished) then punct [',']
  return armLayout attributes pattern.layout guard body

/-- Reads a `match` with its arms. -/
def matchExpr (r : Rules) : Parser Expr := do
  word "match"
  let subject ← r.expr false
  group .brace do
    let attributes ← r.innerLayout
    return .selection subject attributes (← untilFinished r.arm)

/-! ## Any atom -/

/-- Reads an atom that begins with a word of its own. -/
def wordAtom? (r : Rules) (openStruct : Bool) : Parser (Option Expr) := do
  if ← ask (.word "break") then return some (← r.breakExpr openStruct)
  else if ← word? "continue" then return some (.jump "continue" (← label?) none)
  else if ← word? "return" then return some (.jump "return" none (← r.jumpValue))
  else if ← word? "become" then
    let _ ← r.expr true
    return some .unprintable
  else if ← ask (.word "let") then return some (← r.letExpr openStruct)
  else if ← ask (.word "if") then return some (← r.ifExpr)
  else if ← ask (.word "while") then return some (← r.whileExpr none)
  else if ← ask (.word "for") then return some (← r.forExpr none)
  else if ← ask (.word "loop") then return some (← r.loopExpr none)
  else if ← ask (.word "match") then return some (← r.matchExpr)
  else if ← word? "yield" then return some (.jump "yield" none (← r.jumpValue))
  else if ← word? "unsafe" then return some (.wordBlock .wordBlock "unsafe " (← r.block))
  else if ← ask (.word "const") then return some (← r.constantBlock)
  else if ← word? "_" then return some (.plain .other (.word "_"))
  else return none

/-- Reads an atom. -/
def atom (r : Rules) (openStruct : Bool) : Parser Expr := do
  if ← ask .literal then literal
  else if ← ask (.and (.word "async") (.or (.second (.group .brace))
      (.and (.second (.word "move")) (.third (.group .brace))))) then
    word "async"
    let move ← spacedWord "move"
    return .wordBlock .asyncBlock ("async " ++ move) (← r.plainBlock)
  else if ← ask (.and (.word "try") (.second (.group .brace))) then
    word "try"
    return .wordBlock .wordBlock "try " (← r.plainBlock)
  else if ← ask closureAhead then r.closureExpr openStruct
  else if ← ask (.and (.word "builtin") (.second (.punct ['#']))) then builtInExpr
  else if ← ask (.any [.identifier, .punct [':', ':'], .punct ['<'], .anyWord pathWords,
      .and (.word "try") (.second (.or (.punct ['!']) (.punct [':', ':'])))]) then
    r.pathExpr openStruct
  else if ← ask (.group .parenthesis) then group .parenthesis r.parenthesisInside
  else if ← ask (.group .bracket) then group .bracket r.arrayInside
  else if ← ask (.group .brace) then return .block none (← r.block)
  else if ← ask (.punct ['.', '.']) then
    let kind ← limits
    return .range none kind.written (← r.rangeTail kind openStruct)
  else if ← ask .lifetime then r.labelledExpr
  else
    match ← r.wordAtom? openStruct with
    | some e => return e
    | none => failHere (.rule "expected an expression")

/-! ## Expressions -/

/-- Reads the operator before an operand, if there is one, as it is printed. -/
def operatorBefore? : Parser (Option String) := do
  if ← punct? ['&'] then
    if ← ask (.and (.word "raw") (.second (.anyWord ["mut", "const"]))) then
      skip 1
      return some ("&raw " ++ (← anyName).written ++ " ")
    return some ("&" ++ (← spacedWord "mut"))
  if ← punct? ['*'] then return some "*"
  if ← punct? ['!'] then return some "!"
  if ← punct? ['-'] then return some "-"
  return none

/-- Reads an operand: an atom with what stands before and after it, given the rules for what is
inside it. A range that nothing stands before takes no attributes. -/
def operandRule (r : Rules) (openStruct : Bool) : Parser Expr := do
  let attributes ← r.outerLayout
  match ← operatorBefore? with
  | some operator =>
    return (Expr.before operator (← r.operand openStruct)).withAttributes attributes
  | none =>
    let start ← here
    let e ← r.trailers (← r.atom openStruct)
    if !attributes.isEmpty && e.kind.isRange then
      failFrom start
        (.rule "attributes are not allowed on range expressions starting with `..`")
    return e.withAttributes attributes

/-- Reads an expression, given the rules for what is inside it. -/
def exprRule (r : Rules) (openStruct : Bool) : Parser Expr := do
  r.operatorsRule (← r.operandRule openStruct) openStruct .loosest

/-- Whether a block, or what begins with a word and ends in one, comes next. -/
def blockAhead : Ahead :=
  .any [.anyWord ["if", "while", "loop", "match", "unsafe"],
    .butNot (.word "for") bindingClosureAhead,
    .and (.anyWord ["try", "const"]) (.second (.group .brace)), .group .brace, .lifetime]

/-- Reads an expression at the start of a line or arm, given the rules for what is inside it: a
block there ends the expression, unless a point or a question mark follows it. -/
def lineRule (r : Rules) : Parser Expr := do
  let attributes ← r.outerLayout
  if ← ask blockAhead then
    let e ← r.atom true
    if ← ask (.or pointAhead (.punct ['?'])) then
      let e ← r.trailers e
      r.operatorsRule (e.withAttributes attributes) true .loosest
    else return e.withAttributes attributes
  else
    let e ← r.operandRule true
    r.operatorsRule (e.withAttributes attributes) true .loosest

end Rules

end Fieldwise.Grammar
