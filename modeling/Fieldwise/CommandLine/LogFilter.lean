import Fieldwise.Event
import Fieldwise.Text.Blank
import Fieldwise.Text.Digits
import Fieldwise.Text.Letter
import Fieldwise.Text.Split

set_option autoImplicit false

/-! # Log filters

Which events are shown. A filter is a list of directives with commas between them. A directive is
a least level for all events, for those whose origin begins with a given text, or for those that
have given details:

    level    target    target=level    target[span]=level    target[{detail}]=level

Of the directives that fit an event the most specific decides. A directive that names a span, or
the value of a detail, is about events inside of spans and fits none of ours. -/

namespace Fieldwise.CommandLine

/-- The least level that is shown, or nothing at all. -/
inductive Threshold
  | off
  | least (level : Level)
  deriving DecidableEq, Repr

/-- Whether a level is shown. -/
def Threshold.admits : Threshold → Level → Bool
  | .off, _ => false
  | .least lowest, level => lowest.rank ≤ level.rank

/-- The threshold that a number names, from nothing at all on. -/
def Threshold.ofNumber? : Nat → Option Threshold
  | 0 => some .off
  | 1 => some (.least .error)
  | 2 => some (.least .warn)
  | 3 => some (.least .info)
  | 4 => some (.least .debug)
  | 5 => some (.least .trace)
  | _ => none

/-- The threshold that a word or number names. -/
def Threshold.ofText? (text : String) : Option Threshold :=
  match (Text.wordNumber? text).bind ofNumber? with
  | some threshold => some threshold
  | none =>
    match Text.lowerLatin text with
    | "off" => some .off
    | "error" | "" => some (.least .error)
    | "warn" => some (.least .warn)
    | "info" => some (.least .info)
    | "debug" => some (.least .debug)
    | "trace" => some (.least .trace)
    | _ => none

/-- A detail that a directive asks for, and whether it also asks for its value. -/
structure DetailMatch where
  name : String
  valued : Bool
  deriving DecidableEq, Repr

/-- A directive: for all events, or for those of an origin, in a span, with details. -/
structure Directive where
  target : Option String := none
  span : Option String := none
  details : List DetailMatch := []
  threshold : Threshold := .least .trace
  deriving DecidableEq, Repr

namespace Directive

/-! ## Reading -/

/-- What is being read of a directive, and where it began. -/
inductive Stage
  | start
  | targetOrLevel (first : Nat)
  | span (first : Nat)
  | detail (first : Nat)
  | afterDetails
  | afterSpan
  | level (first : Nat)
  deriving DecidableEq, Repr

/-- Whether a directive may begin with a character, a span apart. -/
def mayBegin (c : Char) : Bool := c = '-' || c = ':' || c = '_' || Text.isAlphanumeric c

/-- The part of a text between two places. -/
def slice (text : List Char) (first stop : Nat) : String :=
  String.ofList ((text.drop first).take (stop - first))

/-- The detail that a text asks for. -/
def detailOf? (text : String) : Option DetailMatch :=
  match Text.splitText '=' text with
  | [] | [""] => none
  | [name] => some ⟨name, false⟩
  | name :: _ => some ⟨name, true⟩

/-- Reads the character `c` at the place `i` of a text. -/
def step (text : List Char) (i : Nat) (c : Char) :
    Stage × Directive → Option (Stage × Directive)
  | (.start, d) =>
    if c = '[' then some (.span (i + 1), d)
    else if mayBegin c then some (.targetOrLevel i, d)
    else none
  | (.targetOrLevel first, d) =>
    if c = '=' then some (.level (i + 1), { d with target := some (slice text first i) })
    else if c = '[' then some (.span (i + 1), { d with target := some (slice text first i) })
    else some (.targetOrLevel first, d)
  | (.span first, d) =>
    let name := slice text first i
    if c = ']' then some (.afterSpan, { d with span := some name })
    else if c = '{' then
      some (.detail (i + 1), { d with span := if name = "" then none else some name })
    else some (.span first, d)
  | (.detail first, d) =>
    if c = '}' then
      (detailOf? (slice text first i)).map fun detail =>
        (.afterDetails, { d with details := d.details ++ [detail] })
    else some (.detail first, d)
  | (.afterDetails, d) => if c = ']' then some (.afterSpan, d) else none
  | (.afterSpan, d) => if c = '=' then some (.level (i + 1), d) else none
  | (.level first, d) => some (.level first, d)

/-- Reads the characters from the place `i` of a text on. -/
def steps (text : List Char) : Nat → List Char → Stage × Directive → Option (Stage × Directive)
  | _, [], state => some state
  | i, c :: rest, state => (step text i c state).bind (steps text (i + 1) rest)

/-- A list of characters without blanks at its ends. -/
def trimmed (text : List Char) : List Char :=
  (((text.dropWhile Text.isBlank).reverse).dropWhile Text.isBlank).reverse

/-- The directive when its text ends. A target without a level shows everything from there. -/
def finish (text : List Char) : Stage × Directive → Option Directive
  | (.targetOrLevel first, d) =>
    let word := slice text first text.length
    match Threshold.ofText? word with
    | some threshold => some { d with threshold }
    | none => some { d with target := some word }
  | (.level first, d) =>
    match slice text first text.length with
    | "" => some d
    | word => (Threshold.ofText? word).map fun threshold => { d with threshold }
  | (.afterSpan, d) => some d
  | _ => none

/-- Reads a directive. Blanks at the ends are passed over, but the places of its parts are
counted as if they were not there. -/
def ofText? (text : String) : Option Directive :=
  let all := text.toList
  (steps all 0 (trimmed all) (.start, {})).bind (finish all)

/-! ## Deciding -/

/-- Whether a directive fits events outside of spans. -/
def isStatic (d : Directive) : Bool := d.span.isNone && d.details.all fun m => !m.valued

/-- Whether a directive is about more than the origin. -/
def isDynamic (d : Directive) : Bool := d.span.isSome || !d.details.isEmpty

/-- Whether a directive is about an event. The words of an event are a detail too. -/
def fits (d : Directive) (e : Event) : Bool :=
  let names := "message" :: e.details.map Prod.fst
  (match d.target with
    | none => true
    | some target => target.toList.isPrefixOf e.origin.toList)
    && d.details.all fun m => names.contains m.name

/-- How long the origin is that a directive names. -/
def weight (d : Directive) : Nat :=
  match d.target with
  | none => 0
  | some target => target.utf8ByteSize + 1

/-- Whether a directive is more specific than another: it names more of the origin, or else more
details. -/
def outranks (d other : Directive) : Bool :=
  if d.weight ≠ other.weight then other.weight < d.weight
  else if d.details.length ≠ other.details.length then other.details.length < d.details.length
  else decide (other.details.map DetailMatch.name < d.details.map DetailMatch.name)

end Directive

/-- A filter. -/
abbrev LogFilter := List Directive

namespace LogFilter

/-- Reads a filter. An empty one shows errors alone. -/
def ofText? (text : String) : Option LogFilter :=
  match ((Text.splitText ',' text).filter (· != "")).mapM Directive.ofText? with
  | none => none
  | some [] => some [{ threshold := .least .error }]
  | some directives =>
    let (dynamic, plain) := directives.partition Directive.isDynamic
    some (plain ++ dynamic.filter Directive.isStatic)

/-- The filter of a program without one. -/
def fallback (verbose : Bool) : String := if verbose then "debug" else "warn"

/-- The filter that a text asks for, unless there is none that can be read. -/
def choose (wish : Option String) (verbose : Bool) : LogFilter :=
  match wish.bind ofText? with
  | some filter => filter
  | none => (ofText? (fallback verbose)).getD []

/-- The directive that decides about an event: the most specific, and of equal ones the last. -/
def decisive? (f : LogFilter) (e : Event) : Option Directive :=
  f.foldl (fun best d =>
    if !d.fits e then best
    else
      match best with
      | none => some d
      | some b => if b.outranks d then some b else some d) none

/-- Whether an event is shown. -/
def shows (f : LogFilter) (e : Event) : Bool :=
  (decisive? f e).any fun d => d.threshold.admits e.level

end LogFilter

/-- An event as a line of the log: its level in five columns, its words and its details. -/
def logLine (e : Event) : String :=
  let label := e.level.label
  String.ofList (List.replicate (5 - label.length) ' ') ++ label ++ " " ++ e.message
    ++ String.join (e.details.map fun (name, detail) => " " ++ name ++ "=" ++ detail.shown)

end Fieldwise.CommandLine
