import Fieldwise.FileTree.Basic

set_option autoImplicit false

/-! # Changing file trees

A `Change` is a sequence of operations on a file tree that may fail; what was done before the
failure stays done. Most reasons to fail are found in the tree. Those that are not are a `Trouble`:
a device that is full, or that refuses something, can stop an operation on a file at any step, and
writing in the middle. -/

namespace Fieldwise

/-- Operations on a file tree that fail with a reason. -/
abbrev Change (ε α : Type) := EStateM ε FileTree α

/-- What goes wrong with a file for reasons, in words, that no tree shows. -/
structure Trouble where
  /-- The file is not opened. -/
  opening : Option String := none
  /-- Writing breaks off after so many bytes, or after the last. -/
  writing : Option (Nat × String) := none
  /-- The file is not removed. -/
  removing : Option String := none
  /-- The file is not renamed. -/
  moving : Option String := none
  deriving DecidableEq, Repr

namespace FileTree

/-- The directory in which the last name of a location stands, and that name. Slashes at the end
do not count. There is no such name if the location ends in a dot or in `..`, but then too it has
to lead somewhere. -/
def parentAndName (t : FileTree) (start : Start) (l : Location) :
    Except FileError (Place × Option String) :=
  match refusal? start l with
  | some reason => .error reason
  | none =>
    let used := (l.elements.reverse.dropWhile (· == "")).reverse
    match used.getLast? with
    | none => do return (← t.resolve start l, none)
    | some last =>
      if last = "." ∨ last = ".." then do
        return (← t.resolve start l, none)
      else do
        let place ← t.follow start (← origin start l) used.dropLast
        if !t.isDirectoryAt place then .error .notDirectory
        else if longestName < last.utf8ByteSize then .error .tooLong
        else .ok (place, some last)

/-- The place of a file that may be written: no directory stands there. -/
def writablePlace (t : FileTree) (start : Start) (l : Location) : Except FileError Place := do
  match ← t.parentAndName start l with
  | (_, none) => .error .isDirectory
  | (place, some name) =>
    if l.text.toList.getLast? = some '/' then .error .isDirectory
    else
      match t.get? (place ++ [name]) with
      | some .directory => .error .isDirectory
      | _ => .ok (place ++ [name])

/-- The result of making a directory. -/
def makeDirectory (t : FileTree) (start : Start) (l : Location) : Except FileError FileTree := do
  match ← t.parentAndName start l with
  | (_, none) => .error .alreadyThere
  | (place, some name) =>
    match t.get? (place ++ [name]) with
    | some _ => .error .alreadyThere
    | none => .ok (t.set (place ++ [name]) .directory)

end FileTree

namespace Change

open FileTree

/-- Fails with a reason. -/
def fail {ε α : Type} (reason : ε) : Change ε α := fun t => .error reason t

/-- Does what gives a new tree, and leaves the tree alone if that fails. -/
def update (f : FileTree → Except FileError FileTree) : Change FileError Unit := fun t =>
  match f t with
  | .ok after => .ok () after
  | .error reason => .error reason t

/-- Finds something out about the tree. -/
def ask {α : Type} (f : FileTree → Except FileError α) : Change FileError α := fun t =>
  match f t with
  | .ok a => .ok a t
  | .error reason => .error reason t

/-- Does something whose reasons to fail are put into other words. -/
def explain {ε α : Type} (words : FileError → ε) (c : Change FileError α) : Change ε α := fun t =>
  match c t with
  | .ok a after => .ok a after
  | .error reason after => .error (words reason) after

/-- Does something and does not care whether it fails. -/
def regardless {ε : Type} (c : Change FileError Unit) : Change ε Unit := fun t =>
  match c t with
  | .ok _ after => .ok () after
  | .error _ after => .ok () after

/-- Makes a directory unless it is there. -/
def makeUnlessThere (start : Start) (l : Location) : Change FileError Unit := fun t =>
  match t.makeDirectory start l with
  | .ok after => .ok () after
  | .error reason => if t.isDirectory start l then .ok () t else .error reason t

/-- Makes the first of a list of directories, in which each lies in the next, and before it those
that it lacks. -/
def makeChain (start : Start) : List Location → Change FileError Unit
  | [] => fun t => .ok () t
  | l :: outer => fun t =>
    match t.makeDirectory start l with
    | .ok after => .ok () after
    | .error .notFound =>
      match makeChain start outer t with
      | .ok _ after => makeUnlessThere start l after
      | .error reason after => .error reason after
    | .error reason => if t.isDirectory start l then .ok () t else .error reason t

/-- Makes a directory with all directories that it lies in. -/
def makeDirectories (start : Start) (l : Location) : Change FileError Unit :=
  makeChain start l.ancestors

/-- Does something that may be refused. -/
def unlessRefused {α : Type} (refusal : Option String) (c : Change FileError α) :
    Change FileError α :=
  match refusal with
  | some words => fail (.other words)
  | none => c

/-- Opens a file to write it: it is made if it is not there, and then it is empty. -/
def openFile (start : Start) (l : Location) : Change FileError Place := do
  let place ← ask fun t => t.writablePlace start l
  update fun t => .ok (t.set place (.file .empty))
  return place

/-- Writes to an opened file. If that breaks off, the bytes before stay. -/
def writeAll (breakOff : Option (Nat × String)) (place : Place) (content : ByteArray) :
    Change FileError Unit := fun t =>
  match breakOff with
  | some (count, words) => .error (.other words) (t.set place (.file (content.extract 0 count)))
  | none => .ok () (t.set place (.file content))

/-- Writes a file, which is made if it is not there. -/
def writeFile (trouble : Trouble) (start : Start) (l : Location) (content : ByteArray) :
    Change FileError Unit := do
  let place ← unlessRefused trouble.opening (openFile start l)
  writeAll trouble.writing place content

/-- Removes a file. -/
def removeFile (start : Start) (l : Location) : Change FileError Unit :=
  update fun t => do
    match ← t.parentAndName start l with
    | (_, none) => .error .isDirectory
    | (place, some name) =>
      match t.get? (place ++ [name]) with
      | none => .error .notFound
      | some .directory => .error .isDirectory
      | some (.file _) => .ok (t.erase (place ++ [name]))

/-- Gives a file another name, in place of a file that has it. -/
def renameFile (start : Start) (l renamed : Location) : Change FileError Unit :=
  update fun t => do
    match ← t.parentAndName start l, ← t.parentAndName start renamed with
    | (place, some name), (target, some newName) =>
      match t.get? (place ++ [name]), t.get? (target ++ [newName]) with
      | none, _ => .error .notFound
      | some _, some .directory => .error .isDirectory
      | some node, _ =>
        if renamed.text.toList.getLast? = some '/' then .error .notDirectory
        else .ok ((t.erase (place ++ [name])).set (target ++ [newName]) node)
    | _, _ => .error .busy

end Change

end Fieldwise
