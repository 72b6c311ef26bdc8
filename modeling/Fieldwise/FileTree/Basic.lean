import Fieldwise.Location

set_option autoImplicit false

/-! # File trees

A `FileTree` holds files and directories by their place, which is the list of names on the way
from the root. A location is resolved name by name from a starting place, the way a file system
does it: every name but the last must be that of a directory, and `..` goes back one step. A
resolution can be confined to a directory; then no step may leave it. There are no symbolic links:
every name stands for what it is the name of. -/

namespace Fieldwise

/-- Why an operation on files fails. -/
inductive FileError
  | notFound
  | alreadyThere
  | notDirectory
  | isDirectory
  | busy
  /-- A name, or a whole location, has too many bytes. -/
  | tooLong
  /-- A confined location holds a zero character, which no name does. -/
  | invalid
  /-- Another location holds a zero character. -/
  | zeroInName
  /-- A confined location leads out. -/
  | escapes
  /-- The content of a file is no text. -/
  | notText
  /-- A reason given by somebody else. -/
  | other (text : String)
  deriving DecidableEq, Repr

/-- A reason in words. -/
def FileError.message : FileError → String
  | .notFound => "No such file or directory (os error 2)"
  | .alreadyThere => "File exists (os error 17)"
  | .notDirectory => "Not a directory (os error 20)"
  | .isDirectory => "Is a directory (os error 21)"
  | .busy => "Device or resource busy (os error 16)"
  | .tooLong => "File name too long (os error 36)"
  | .invalid => "Invalid argument (os error 22)"
  | .zeroInName => "file name contained an unexpected NUL byte"
  | .escapes => "a path led outside of the filesystem"
  | .notText => "stream did not contain valid UTF-8"
  | .other text => text

/-- What stands at a place. -/
inductive Node
  | directory
  | file (content : ByteArray)

/-- Whether a node is a directory. -/
def Node.isDirectory : Node → Bool
  | .directory => true
  | .file _ => false

/-- The names on the way from the root to a file or directory. -/
abbrev Place := List String

/-- Files and directories by their place, with the directory where relative locations start. -/
structure FileTree where
  entries : List (Place × Node) := []
  current : Place := []

namespace FileTree

/-! ## Places -/

/-- What stands at a place. The root is always a directory. -/
def get? (t : FileTree) : Place → Option Node
  | [] => some .directory
  | place => t.entries.lookup place

/-- Whether a directory stands at a place. -/
def isDirectoryAt (t : FileTree) (place : Place) : Bool :=
  (t.get? place).any Node.isDirectory

/-- The tree without what stands at a place. -/
def erase (t : FileTree) (place : Place) : FileTree :=
  { t with entries := t.entries.filter fun e => e.1 != place }

/-- The tree with something else at a place. -/
def set (t : FileTree) (place : Place) (node : Node) : FileTree :=
  { t with entries := (place, node) :: (t.erase place).entries }

/-! ## Resolving locations -/

/-- A place to start from, and whether a location may lead out of it. -/
structure Start where
  place : Place
  confined : Bool
  deriving DecidableEq, Repr

/-- The start of relative locations, which may lead anywhere. -/
def ambient (t : FileTree) : Start := ⟨t.current, false⟩

/-- The greatest number of bytes in a name. -/
def longestName : Nat := 255

/-- The least number of bytes that a location may not have. -/
def locationLimit : Nat := 4096

/-- Why no file system looks for a location: it is empty or too long, or holds a zero
character. -/
def refusal? (start : Start) (l : Location) : Option FileError :=
  if l.text.toList.contains (Char.ofNat 0) then
    some (if start.confined then .invalid else .zeroInName)
  else if l.text = "" then some .notFound
  else if locationLimit ≤ l.text.utf8ByteSize then some .tooLong
  else none

/-- One step from a directory. -/
def step (t : FileTree) (start : Start) (place : Place) (element : String) :
    Except FileError Place :=
  if !t.isDirectoryAt place then .error .notDirectory
  else if Location.isIdle element then .ok place
  else if element = ".." then
    if start.confined && place == start.place then .error .escapes else .ok place.dropLast
  else if longestName < element.utf8ByteSize then .error .tooLong
  else
    match t.get? (place ++ [element]) with
    | some _ => .ok (place ++ [element])
    | none => .error .notFound

/-- Several steps. -/
def follow (t : FileTree) (start : Start) (place : Place) (elements : List String) :
    Except FileError Place :=
  elements.foldlM (t.step start) place

/-- The place where a location begins, which is the root for an absolute one. -/
def origin (start : Start) (l : Location) : Except FileError Place :=
  if l.isAbsolute then
    if start.confined then .error .escapes else .ok []
  else .ok start.place

/-- The place of something that a location names. -/
def resolve (t : FileTree) (start : Start) (l : Location) : Except FileError Place :=
  match refusal? start l with
  | some reason => .error reason
  | none => do t.follow start (← origin start l) l.elements

/-! ## Asking -/

/-- What a location names. -/
def find (t : FileTree) (start : Start) (l : Location) : Except FileError Node := do
  match t.get? (← t.resolve start l) with
  | some node => .ok node
  | none => .error .notFound

/-- Whether a location names a file. -/
def isFile (t : FileTree) (start : Start) (l : Location) : Bool :=
  match t.find start l with
  | .ok (.file _) => true
  | _ => false

/-- Whether a location names a directory. -/
def isDirectory (t : FileTree) (start : Start) (l : Location) : Bool :=
  match t.find start l with
  | .ok .directory => true
  | _ => false

/-- The place of a directory that a location names. -/
def openDirectory (t : FileTree) (start : Start) (l : Location) : Except FileError Place := do
  let place ← t.resolve start l
  if t.isDirectoryAt place then .ok place else .error .notDirectory

/-- The text of a file that a location names. -/
def readText (t : FileTree) (start : Start) (l : Location) : Except FileError String := do
  match ← t.find start l with
  | .directory => .error .isDirectory
  | .file content =>
    match String.fromUTF8? content with
    | some text => .ok text
    | none => .error .notText

end FileTree

end Fieldwise
