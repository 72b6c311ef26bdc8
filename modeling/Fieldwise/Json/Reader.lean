import Fieldwise.Json.Written

set_option autoImplicit false

/-! # Reading JSON documents

`Written.read?` reads a text that is one document with blanks around it. The leaves of a document
come first: blanks, numbers and strings, then what nests. `Json.read?` also asks for the value of
the document. -/

namespace Fieldwise.Json

open Number

/-- A text without the blanks at its front. -/
def skipBlanks (text : List Char) : List Char :=
  text.dropWhile fun c => c = ' ' || c = '\n' || c = '\t' || c = '\r'

/-! ## Numbers -/

/-- The digits at the front of a text and what follows them. -/
def takeDigits (text : List Char) : List Char × List Char :=
  (text.takeWhile Char.isDigit, text.dropWhile Char.isDigit)

/-- The value of a digit. -/
def digitOf (c : Char) : Nat := c.toNat - '0'.toNat

/-- A number as digits are added to it, as long as it fits 64 bits. The flag says that no more
digits are added; the count is of those that were not. -/
structure Significand where
  value : Nat := 0
  full : Bool := false
  dropped : Nat := 0

/-- One more digit. -/
def Significand.add (s : Significand) (c : Char) : Significand :=
  let next := 10 * s.value + digitOf c
  if s.full || UInt64.size ≤ next then { s with full := true, dropped := s.dropped + 1 }
  else { s with value := next }

/-- A significand times a power of ten, by one multiplication or by divisions. -/
def scaled (significand : Nat) (power : Int) : Option Binary := do
  let base ← Binary.ofNat significand
  if significand = 0 then return base
  else if 308 < power then none
  else if 0 ≤ power then base.mul (← Binary.powerOfTen power.toNat)
  else divide 3 base (-power).toNat
where
  /-- Divides by a power of ten, in steps of at most 308. -/
  divide : Nat → Binary → Nat → Option Binary
    | 0, _, _ => some .zero
    | n + 1, b, power => do
      if power ≤ 308 then b.div (← Binary.powerOfTen power)
      else divide n (← b.div (← Binary.powerOfTen 308)) (power - 308)

/-- Reads an exponent if one comes next. -/
def readExponent (text : List Char) : Option (Int × List Char) :=
  match text with
  | e :: rest =>
    if e = 'e' || e = 'E' then
      let (negative, rest) := match rest with
        | '+' :: rest => (false, rest)
        | '-' :: rest => (true, rest)
        | _ => (false, rest)
      let (digits, rest) := takeDigits rest
      if digits.isEmpty then none
      else
        let size : Int := digits.foldl (fun n c => min (10 * n + digitOf c) 100000) 0
        some (if negative then -size else size, rest)
    else some (0, text)
  | [] => some (0, text)

/-- Reads a number after its sign. It has no value if that is too great. -/
def readNumber (negative : Bool) (text : List Char) : Option (Written × List Char) :=
  let (whole, rest) := takeDigits text
  match whole with
  | [] => none
  | '0' :: _ :: _ => none
  | _ =>
    let s := whole.foldl Significand.add {}
    let float (value : Nat) (power : Int) (rest : List Char) : Option (Written × List Char) :=
      (readExponent rest).map fun (exponent, rest) =>
        (.number ((scaled value (power + exponent)).map (.float negative)), rest)
    match rest with
    | '.' :: after =>
      let (fraction, rest) := takeDigits after
      if fraction.isEmpty then none
      else
        let t := fraction.foldl Significand.add { value := s.value }
        let used : Int := (fraction.length - t.dropped : Nat)
        float t.value (s.dropped - used) rest
    | c :: _ =>
      if c = 'e' || c = 'E' then float s.value s.dropped rest
      else some (.number (integer s), rest)
    | [] => some (.number (integer s), rest)
where
  /-- The value of a number without point and exponent. -/
  integer (s : Significand) : Option Json :=
    if s.full then (scaled s.value s.dropped).map (.float negative)
    else if !negative then some (.integer s.value)
    else if s.value = 0 || Nat.pow 2 63 < s.value then
      (Binary.ofNat s.value).map (.float true)
    else some (.integer (-s.value))

/-! ## Strings -/

/-- The value of a hexadecimal digit. -/
def hexDigit? (c : Char) : Option Nat :=
  if c.isDigit then some (digitOf c)
  else if 'a' ≤ c && c ≤ 'f' then some (c.toNat - 'a'.toNat + 10)
  else if 'A' ≤ c && c ≤ 'F' then some (c.toNat - 'A'.toNat + 10)
  else none

/-- Reads four hexadecimal digits. -/
def readHex : List Char → Option (Nat × List Char)
  | a :: b :: c :: d :: rest => do
    let value := (((← hexDigit? a) * 16 + (← hexDigit? b)) * 16 + (← hexDigit? c)) * 16
      + (← hexDigit? d)
    return (value, rest)
  | _ => none

/-- Reads a character that is written by its number, in one part or in two halves. A half alone
is no character. -/
def readNumbered (text : List Char) : Option (Option Char × List Char) :=
  match readHex text with
  | none => none
  | some (first, rest) =>
    if 0xD800 ≤ first && first < 0xDC00 then
      match rest with
      | '\\' :: 'u' :: low =>
        match readHex low with
        | some (second, rest) =>
          if 0xDC00 ≤ second && second < 0xE000 then
            some (some (Char.ofNat (0x10000 + (first - 0xD800) * 0x400 + (second - 0xDC00))), rest)
          else some (none, '\\' :: 'u' :: low)
        | none => none
      | _ => some (none, rest)
    else if 0xDC00 ≤ first && first < 0xE000 then some (none, rest)
    else some (some (Char.ofNat first), rest)

/-- The character that a short escape stands for. -/
def shortEscape? : Char → Option Char
  | '"' => some '"'
  | '\\' => some '\\'
  | '/' => some '/'
  | 'b' => some '\x08'
  | 'f' => some '\x0c'
  | 'n' => some '\n'
  | 'r' => some '\r'
  | 't' => some '\t'
  | _ => none

/-- Reads a string from after its opening mark; the characters read so far come last first, unless
one of them is none. Each of at most so many steps reads a character. -/
def readString : Nat → Option (List Char) → List Char → Option (Option String × List Char)
  | 0, _, _ => none
  | n + 1, read, text =>
    match text with
    | '"' :: rest => some (read.map fun chars => String.ofList chars.reverse, rest)
    | '\\' :: 'u' :: rest =>
      match readNumbered rest with
      | some (some c, rest) => readString n (read.map (c :: ·)) rest
      | some (none, rest) => readString n none rest
      | none => none
    | '\\' :: e :: rest =>
      match shortEscape? e with
      | some c => readString n (read.map (c :: ·)) rest
      | none => none
    | c :: rest =>
      if c.toNat < 0x20 || c = '\\' then none else readString n (read.map (c :: ·)) rest
    | [] => none

/-! ## Documents -/

mutual

/-- Reads a document in at most so many steps. -/
def readValue : Nat → List Char → Option (Written × List Char)
  | 0, _ => none
  | n + 1, text =>
    match skipBlanks text with
    | 'n' :: 'u' :: 'l' :: 'l' :: rest => some (.null, rest)
    | 't' :: 'r' :: 'u' :: 'e' :: rest => some (.bool true, rest)
    | 'f' :: 'a' :: 'l' :: 's' :: 'e' :: rest => some (.bool false, rest)
    | '"' :: rest =>
      match readString n (some []) rest with
      | some (value, rest) => some (.string value, rest)
      | none => none
    | '-' :: rest => readNumber true rest
    | '[' :: rest =>
      match skipBlanks rest with
      | ']' :: rest => some (.array [], rest)
      | _ =>
        match readItems n [] rest with
        | some (items, rest) => some (.array items, rest)
        | none => none
    | '{' :: rest =>
      match skipBlanks rest with
      | '}' :: rest => some (.object [], rest)
      | _ =>
        match readMembers n [] rest with
        | some (members, rest) => some (.object members, rest)
        | none => none
    | text => readNumber false text

/-- Reads the items of an array up to its closing bracket; those read so far come last first. -/
def readItems : Nat → List Written → List Char → Option (List Written × List Char)
  | 0, _, _ => none
  | n + 1, read, text =>
    match readValue n text with
    | none => none
    | some (item, rest) =>
      match skipBlanks rest with
      | ',' :: rest => readItems n (item :: read) rest
      | ']' :: rest => some ((item :: read).reverse, rest)
      | _ => none

/-- Reads the members of an object up to its closing brace; those read so far come last first. -/
def readMembers : Nat → List (Option String × Written) → List Char →
    Option (List (Option String × Written) × List Char)
  | 0, _, _ => none
  | n + 1, read, text =>
    match skipBlanks text with
    | '"' :: rest =>
      match readString n (some []) rest with
      | none => none
      | some (name, rest) =>
        match skipBlanks rest with
        | ':' :: rest =>
          match readValue n rest with
          | none => none
          | some (value, rest) =>
            match skipBlanks rest with
            | ',' :: rest => readMembers n ((name, value) :: read) rest
            | '}' :: rest => some (((name, value) :: read).reverse, rest)
            | _ => none
        | _ => none
    | _ => none

end

/-- Reads a text as a document, whether or not it has a value. -/
def Written.read? (text : String) : Option Written :=
  match readValue (text.length + 1) text.toList with
  | some (document, rest) => if (skipBlanks rest).isEmpty then some document else none
  | none => none

/-- Reads a text as a document with a value. -/
def read? (text : String) : Option Json := (Written.read? text).bind (Written.value? depthLimit)

end Fieldwise.Json
