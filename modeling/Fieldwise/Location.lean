import Fieldwise.Text.Split

set_option autoImplicit false

/-! # Locations

A `Location` names a file or directory by a text with slashes. It is kept as it was written:
joining adds to the text and never cleans it up. What a location means is said by its
`components`, in which repeated slashes and inner dots do not count. -/

namespace Fieldwise

/-- The name of a file or directory. -/
structure Location where
  text : String
  deriving DecidableEq, Repr

/-- A step of a location. -/
inductive Component
  | root
  /-- A dot at the front. -/
  | current
  | parent
  | name (text : String)
  deriving DecidableEq, Repr

namespace Location

/-- The location without any text. -/
def empty : Location := ⟨""⟩

/-- Whether a location starts at the root. -/
def isAbsolute (l : Location) : Bool := l.text.toList.head? == some '/'

/-- The texts between the slashes of a location. -/
def elements (l : Location) : List String := Text.splitText '/' l.text

/-- Whether an element is no step: nothing between two slashes, or a dot. -/
def isIdle (element : String) : Bool := element == "" || element == "."

/-- A list of elements without the idle ones at its end. -/
def trimIdle (elements : List String) : List String :=
  (elements.reverse.dropWhile isIdle).reverse

/-- The step that an element stands for. -/
def stepOf (element : String) : Component :=
  if element = ".." then .parent else .name element

/-- The front of a location, which is the root, a dot or nothing, as text and as steps, with the
elements that follow it. -/
def frontAndBody (l : Location) : List String × List Component × List String :=
  match l.elements with
  | "" :: rest => if l.isAbsolute then ([""], [.root], rest) else ([], [], [])
  | "." :: rest => (["."], [.current], rest)
  | all => ([], [], all)

/-- The steps of a location. -/
def components (l : Location) : List Component :=
  let (_, front, body) := l.frontAndBody
  front ++ (body.filter fun e => !isIdle e).map stepOf

/-- Whether two locations have the same steps. -/
def sameAs (a b : Location) : Bool := a.components == b.components

/-- A location from its front and the elements after it. -/
def ofParts (front body : List String) : Location :=
  match front, body with
  | [""], [] => ⟨"/"⟩
  | front, body => ⟨"/".intercalate (front ++ body)⟩

/-- The location without its last step. A location without steps has none, nor has the root. -/
def parent? (l : Location) : Option Location :=
  let (front, steps, body) := l.frontAndBody
  match trimIdle body, steps with
  | [], [.current] => some empty
  | [], _ => none
  | used, _ => some (ofParts front (trimIdle used.dropLast))

/-- The last step of a location, if it is a name. -/
def fileName? (l : Location) : Option String :=
  match l.components.getLast? with
  | some (.name text) => some text
  | _ => none

/-- A location inside another. An absolute location stays as it is. -/
def join (l inner : Location) : Location :=
  if inner.isAbsolute then inner
  else if l.text.toList.getLast?.all (· == '/') then ⟨l.text ++ inner.text⟩
  else ⟨l.text ++ "/" ++ inner.text⟩

/-- A text inside a location. -/
def child (l : Location) (text : String) : Location := l.join ⟨text⟩

/-- The location with another last step. -/
def withFileName (l : Location) (name : String) : Location :=
  match l.fileName? with
  | some _ => (l.parent?.getD empty).child name
  | none => l.child name

/-- The location itself and those it lies in, the innermost first, up to but without the empty
one. At most so many are listed. -/
def ancestorsUpTo : Nat → Location → List Location
  | 0, _ => []
  | n + 1, l =>
    if l.text = "" then []
    else
      l :: match l.parent? with
        | some p => ancestorsUpTo n p
        | none => []

/-- The location itself and those it lies in, the innermost first. -/
def ancestors (l : Location) : List Location := ancestorsUpTo (l.elements.length + 1) l

end Location

end Fieldwise
