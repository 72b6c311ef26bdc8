import Fieldwise.Text.Identifier
import Fieldwise.Token.Basic

set_option autoImplicit false

/-! # Literals

Each reader takes the text from the literal on and gives what stands after it. A string, byte
string or C string is either *cooked*, with escapes, or raw, between equally many `#`; the
reader of a cooked or raw body also gives the value (`cooked`, `rawBody`). Any literal may carry
a suffix, which is a name. A number is a float when it has a fraction or an exponent.
-/

namespace Fieldwise.Token

open Fieldwise.Text

/-- The longest name at the front of a text, with what follows it. -/
def scanName : List Char → Option (List Char × List Char)
  | c :: rest =>
    if isNameStart c then
      some (c :: rest.takeWhile isNameContinue, rest.dropWhile isNameContinue)
    else none
  | [] => none

/-- A text without the suffix that a literal before it may carry. -/
def dropSuffix (text : List Char) : List Char :=
  match scanName text with
  | some (_, rest) => rest
  | none => text

/-- The value of a hexadecimal digit. -/
def hexValue? (c : Char) : Option Nat :=
  if '0' ≤ c ∧ c ≤ '9' then some (c.toNat - 48)
  else if 'a' ≤ c ∧ c ≤ 'f' then some (c.toNat - 87)
  else if 'A' ≤ c ∧ c ≤ 'F' then some (c.toNat - 55)
  else none

/-! ## Strings -/

/-- What a string literal holds: text, bytes, or text that a zero character ends. -/
inductive StringKind
  | text
  | bytes
  | terminated
  deriving DecidableEq, Repr

/-- The rest of `\u{`: at most six hexadecimal digits, underscores among them, then the closing
brace. `len` digits have been read and have the value `value`. -/
def unicodeEscape (len value : Nat) : List Char → Option (Char × List Char)
  | [] => none
  | c :: rest =>
    match hexValue? c with
    | some d => if len = 6 then none else unicodeEscape (len + 1) (16 * value + d) rest
    | none =>
      if len = 0 then none
      else if c = '_' then unicodeEscape len value rest
      else if c = '}' ∧ value.isValidChar then some (Char.ofNat value, rest)
      else none

/-- The blanks after a backslash that ends a line; a carriage return needs its newline. -/
def skipMargin : List Char → Option (List Char)
  | '\r' :: '\n' :: rest => skipMargin rest
  | '\r' :: _ => none
  | c :: rest =>
    if c = ' ' ∨ c = '\t' ∨ c = '\n' then skipMargin rest else some (c :: rest)
  | [] => some []

/-- The value of a two-digit escape. Text admits ASCII alone, terminated text no zero. -/
def byteEscape (kind : StringKind) (a b : Char) : Option Char := do
  let x ← hexValue? a
  let y ← hexValue? b
  let value := 16 * x + y
  match kind with
  | .text => if x < 8 then some (Char.ofNat value) else none
  | .bytes => some (Char.ofNat value)
  | .terminated => if value = 0 then none else some (Char.ofNat value)

/-- The value of an escape of one letter. -/
def letterEscape (kind : StringKind) (c : Char) : Option Char :=
  if c = 'n' then some '\n'
  else if c = 'r' then some '\r'
  else if c = 't' then some '\t'
  else if c = '\\' ∨ c = '\'' ∨ c = '"' then some c
  else if c = '0' ∧ kind ≠ .terminated then some (Char.ofNat 0)
  else none

/-- One character or escape of a cooked string: the characters it stands for, and the rest. -/
def cookedStep (kind : StringKind) : List Char → Option (List Char × List Char)
  | '\r' :: '\n' :: rest => some (['\n'], rest)
  | '\r' :: _ => none
  | '\\' :: '\r' :: '\n' :: rest => (skipMargin rest).map fun r => ([], r)
  | '\\' :: '\n' :: rest => (skipMargin rest).map fun r => ([], r)
  | '\\' :: 'x' :: a :: b :: rest => (byteEscape kind a b).map fun c => ([c], rest)
  | '\\' :: 'u' :: '{' :: rest =>
    if kind = .bytes then none
    else (unicodeEscape 0 0 rest).bind fun (c, r) =>
      if kind = .terminated ∧ c.toNat = 0 then none else some ([c], r)
  | '\\' :: c :: rest => (letterEscape kind c).map fun v => ([v], rest)
  | '\\' :: [] => none
  | c :: rest =>
    if kind = .bytes ∧ 128 ≤ c.toNat then none
    else if kind = .terminated ∧ c.toNat = 0 then none
    else some ([c], rest)
  | [] => none

/-- The value of a cooked string from after its opening quotation mark, and what follows its
closing one. The first argument bounds the number of steps; the length of the text is enough. -/
def cooked (kind : StringKind) : Nat → List Char → Option (List Char × List Char)
  | 0, _ => none
  | _ + 1, '"' :: rest => some ([], rest)
  | n + 1, text =>
    match cookedStep kind text with
    | none => none
    | some (value, rest) =>
      match cooked kind n rest with
      | none => none
      | some (values, rest) => some (value ++ values, rest)

/-- The value of a raw string that `hashes` marks close, from after its opening quotation mark,
and what follows it. -/
def rawBody (kind : StringKind) (hashes : Nat) : List Char → Option (List Char × List Char)
  | [] => none
  | '"' :: rest =>
    if rest.take hashes = List.replicate hashes '#' then some ([], rest.drop hashes)
    else (rawBody kind hashes rest).map fun (value, r) => ('"' :: value, r)
  | '\r' :: '\n' :: rest =>
    (rawBody kind hashes rest).map fun (value, r) => ('\r' :: '\n' :: value, r)
  | '\r' :: _ => none
  | c :: rest =>
    if kind = .bytes ∧ 128 ≤ c.toNat then none
    else if kind = .terminated ∧ c.toNat = 0 then none
    else (rawBody kind hashes rest).map fun (value, r) => (c :: value, r)

/-- A raw string from after its letters: marks, quotation mark, body. -/
def rawString (kind : StringKind) (text : List Char) : Option (List Char × List Char) :=
  let hashes := (text.takeWhile (· == '#')).length
  match text.drop hashes with
  | '"' :: body => if hashes > 255 then none else rawBody kind hashes body
  | _ => none

/-- A string literal of any kind: its kind, its value and what follows its suffix. -/
def scanString (text : List Char) : Option (StringKind × List Char × List Char) :=
  let found (kind : StringKind) (body : Option (List Char × List Char)) :=
    body.map fun (value, rest) => (kind, value, dropSuffix rest)
  match text with
  | '"' :: rest => found .text (cooked .text (rest.length + 1) rest)
  | 'r' :: rest => found .text (rawString .text rest)
  | 'b' :: '"' :: rest => found .bytes (cooked .bytes (rest.length + 1) rest)
  | 'b' :: 'r' :: rest => found .bytes (rawString .bytes rest)
  | 'c' :: '"' :: rest => found .terminated (cooked .terminated (rest.length + 1) rest)
  | 'c' :: 'r' :: rest => found .terminated (rawString .terminated rest)
  | _ => none

/-! ## Characters -/

/-- What follows a quoted character, from after its opening mark. A byte takes one byte or its
escape, a character any character or escape; the closing mark may be any second one. -/
def scanQuoted (kind : StringKind) (text : List Char) : Option (List Char) :=
  let close : List Char → Option (List Char)
    | '\'' :: rest => some (dropSuffix rest)
    | _ => none
  match text with
  | '\\' :: 'x' :: a :: b :: rest => (byteEscape kind a b).bind fun _ => close rest
  | '\\' :: 'u' :: '{' :: rest =>
    if kind = .bytes then none else (unicodeEscape 0 0 rest).bind fun (_, r) => close r
  | '\\' :: c :: rest => (letterEscape kind c).bind fun _ => close rest
  | '\\' :: [] => none
  | c :: rest => if kind = .bytes ∧ 128 ≤ c.toNat then none else close rest
  | [] => none

/-- What follows a character or byte literal. -/
def scanChar : List Char → Option (List Char)
  | 'b' :: '\'' :: rest => scanQuoted .bytes rest
  | '\'' :: rest => scanQuoted .text rest
  | _ => none

/-! ## Numbers -/

/-- Whether a text does not go on with a character of a name. -/
def wordEnds : List Char → Bool
  | c :: _ => !isNameContinue c
  | [] => true

/-- What follows a number whose digits have been read: a suffix may stand there. -/
def scanNumberEnd (text : List Char) : Option (List Char) :=
  let rest := dropSuffix text
  if wordEnds rest then some rest else none

/-- Whether a character is a decimal digit. -/
def isDecimal (c : Char) : Bool := '0' ≤ c && c ≤ '9'

/-- Whether a character may stand among the digits of a decimal number. -/
def isDecimalPart (c : Char) : Bool := isDecimal c || c == '_'

/-- The exponent after its letter. A sign is admitted before the first digit; nothing is an
exponent without a digit. -/
def scanExponent (text : List Char) : Option (List Char) :=
  let body := text.dropWhile (· == '_')
  let signed := match body with
    | '+' :: rest | '-' :: rest => rest
    | _ => body
  let digits := signed.takeWhile isDecimalPart
  if digits.any isDecimal then some (signed.dropWhile isDecimalPart) else none

/-- What follows the digits of a float: a fraction, an exponent or both are there. A point that a
name or another point follows is no fraction. An exponent that is not complete is left, if a
fraction stands before it. -/
def scanFloatDigits : List Char → Option (List Char)
  | c :: rest =>
    if !isDecimal c then none
    else
      match rest.dropWhile isDecimalPart with
      | '.' :: tail =>
        match tail with
        | t :: _ =>
          if t = '.' ∨ isNameStart t = true then none
          else
            let afterFraction := tail.dropWhile isDecimalPart
            match afterFraction with
            | 'e' :: exponent | 'E' :: exponent =>
              match scanExponent exponent with
              | some r => some r
              | none => some afterFraction
            | _ => some afterFraction
        | [] => some []
      | 'e' :: exponent | 'E' :: exponent => scanExponent exponent
      | _ => none
  | [] => none

/-- What follows a float. -/
def scanFloat (text : List Char) : Option (List Char) :=
  (scanFloatDigits text).bind scanNumberEnd

/-- What follows the digits of a number in base `base`. `empty` says that no digit has been
read. A decimal digit too large for the base is an error, a letter ends the number. -/
def scanDigits (base : Nat) (empty : Bool) : List Char → Option (List Char)
  | [] => if empty then none else some []
  | c :: rest =>
    if isDecimal c then
      if c.toNat - 48 < base then scanDigits base false rest else none
    else if c = '_' then
      if empty ∧ base = 10 then none else scanDigits base empty rest
    else
      match hexValue? c with
      | some d =>
        if d < base then scanDigits base false rest else if empty then none else some (c :: rest)
      | none => if empty then none else some (c :: rest)

/-- What follows the digits of an integer, its base mark included. -/
def scanIntegerDigits : List Char → Option (List Char)
  | '0' :: 'x' :: rest => scanDigits 16 true rest
  | '0' :: 'o' :: rest => scanDigits 8 true rest
  | '0' :: 'b' :: rest => scanDigits 2 true rest
  | text => scanDigits 10 true text

/-- What follows an integer, and whether it carries a suffix. -/
def scanInteger (text : List Char) : Option (Bool × List Char) := do
  let digitsEnd ← scanIntegerDigits text
  let rest ← scanNumberEnd digitsEnd
  pure (rest.length != digitsEnd.length, rest)

/-! ## Any literal -/

/-- The literal that stands for a value which could not be written. It looks like brackets around
a comment, but blanks in it make it just that. -/
def unwrittenText : String := "(/*ERROR*/)"

/-- What follows the literal for a value that could not be written. -/
def scanUnwritten (text : List Char) : Option (List Char) :=
  if unwrittenText.toList.isPrefixOf text then some (text.drop unwrittenText.length) else none

/-- The part of `text` before its end part `rest`. -/
def textBefore (text rest : List Char) : List Char :=
  text.take (text.length - rest.length)

/-- The literal at the front of a text, with what follows it. -/
def scanLiteral (text : List Char) : Option (Literal × List Char) :=
  let made (kind : LiteralKind) (rest : List Char) : Literal × List Char :=
    (⟨kind, String.ofList (textBefore text rest)⟩, rest)
  match scanString text with
  | some (.text, value, rest) => some (made (.string (String.ofList value)) rest)
  | some (_, _, rest) => some (made .otherString rest)
  | none =>
    match scanChar text with
    | some rest => some (made .character rest)
    | none =>
      match scanFloat text with
      | some rest => some (made .float rest)
      | none => (scanInteger text).map fun (suffixed, rest) => made (.integer suffixed) rest

end Fieldwise.Token
