import Fieldwise.Settings.Basic

set_option autoImplicit false

/-! # Templates

The text that stands for a value is the name of its type and, between braces, `label='value',`
for every field. `template` gives the format string for it, in which a brace is written twice and
a placeholder stands for a value. `fill` reads a format string by those rules, and `summary` is
the text itself: filling the template with the values gives the summary. -/

namespace Fieldwise

/-- A text with every brace written twice. -/
def doubleBraces : List Char → List Char
  | [] => []
  | c :: rest =>
    if c = '{' ∨ c = '}' then c :: c :: doubleBraces rest else c :: doubleBraces rest

/-- The part of a template for one field. -/
def fieldTemplate (rendering : Rendering) (field : String) : List Char :=
  doubleBraces field.toList ++ ['=', '\''] ++ rendering.placeholder.toList ++ ['\'', ',']

/-- The format string for a type. -/
def template (name : String) (fields : List String) (rendering : Rendering) : String :=
  String.ofList (doubleBraces name.toList ++ ['{', '{']
    ++ fields.flatMap (fieldTemplate rendering) ++ ['}', '}'])

/-- The text for a type without fields, which is no format string. -/
def emptySummary (name : String) : String := name ++ "\x7b\x7d"

/-! ## What a template means -/

/-- The text of a value, from the labels of its fields and the texts of their values. -/
def summary (name : String) (fields : List (String × String)) : String :=
  name ++ "\x7b"
    ++ String.join (fields.map fun (label, value) => label ++ "='" ++ value ++ "',") ++ "\x7d"

/-- Fills a format string with values: a double brace gives one, a placeholder takes the next
value, and any other brace is an error. So is a value that is left or lacking. -/
def fill (rendering : Rendering) : List Char → List String → Option (List Char)
  | [], [] => some []
  | [], _ :: _ => none
  | '{' :: '{' :: rest, values => (fill rendering rest values).map ('{' :: ·)
  | '}' :: '}' :: rest, values => (fill rendering rest values).map ('}' :: ·)
  | '{' :: '}' :: rest, value :: values =>
    if rendering = .display then (fill rendering rest values).map (value.toList ++ ·) else none
  | '{' :: ':' :: '?' :: '}' :: rest, value :: values =>
    if rendering = .debug then (fill rendering rest values).map (value.toList ++ ·) else none
  | '{' :: _, _ => none
  | '}' :: _, _ => none
  | c :: rest, values => (fill rendering rest values).map (c :: ·)

end Fieldwise
