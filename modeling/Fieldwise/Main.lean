import Fieldwise.CommandLine.Run

set_option autoImplicit false

/-! # The program

Reads the description of the workspace from standard input and the sources from the file system,
does one round, and writes what it generates. All decisions are made by `CommandLine.program`;
here files are only read and written. -/

namespace Fieldwise

/-- The location of a place. -/
def placeText (place : Place) : String := "/" ++ "/".intercalate place

/-- The place that a location names, from a current directory. -/
def placeFrom (current : Place) (l : Location) : Place :=
  let start := if l.isAbsolute then [] else current
  l.elements.foldl (fun place e =>
    if Location.isIdle e then place else if e = ".." then place.dropLast else place ++ [e]) start

/-- Reads what lies below a directory, at most so deep, into a file tree. -/
def loadBelow : Nat → Place → FileTree → IO FileTree
  | 0, _, t => return t
  | depth + 1, place, t => do
    let here : IO.FS.DirEntry := ⟨placeText place, ""⟩
    let entries ← try here.root.readDir catch _ => pure #[]
    entries.foldlM (fun t entry => do
      let inner := place ++ [entry.fileName]
      if ← entry.path.isDir then loadBelow depth inner (t.set inner .directory)
      else
        let content ← try IO.FS.readBinFile entry.path catch _ => pure ByteArray.empty
        return t.set inner (.file content)) t

/-- Reads a directory, with the directories that it lies in, into a file tree. -/
def loadDirectory (t : FileTree) (place : Place) : IO FileTree := do
  let mut t := t
  for n in List.range (place.length + 1) do
    let outer := place.take n
    let entry : IO.FS.DirEntry := ⟨placeText outer, ""⟩
    if ← entry.root.isDir then t := t.set outer .directory
  loadBelow 64 place t

/-- Writes the directories and files of a tree that are not in another. -/
def writeChanges (before after : FileTree) : IO Unit := do
  for (place, node) in after.entries.reverse do
    match node, before.get? place with
    | .directory, none => IO.FS.createDirAll (placeText place)
    | .file content, some (.file old) =>
      if old.toList != content.toList then IO.FS.writeBinFile (placeText place) content
    | .file content, _ => IO.FS.writeBinFile (placeText place) content
    | _, _ => pure ()

/-- The directories that a run reads and writes. -/
def directoriesOf (a : CommandLine.Arguments)
    (workspace : Except CommandLine.WorkspaceError CommandLine.Workspace) : List Location :=
  match workspace with
  | .error _ => []
  | .ok w =>
    match w.select a.package with
    | .error _ => []
    | .ok selection =>
      [selection.entry.parent?.getD .empty, (CommandLine.outputDirectory a selection).location]

/-- Runs the program on the words of a command line and gives the status it ends with. -/
def start (words : List String) : IO UInt32 := do
  match CommandLine.Arguments.read (CommandLine.stripSubcommand ("cargo-stringutil" :: words)) with
  | .error reason => return reason.exitCode.toUInt32
  | .ok a =>
    let workspace := CommandLine.Workspace.ofOutput (.printed (← (← IO.getStdin).readToEnd))
    let current := placeFrom [] ⟨(← IO.currentDir).toString⟩
    let mut files : FileTree := { current }
    for directory in directoriesOf a workspace do
      files ← loadDirectory files (placeFrom current directory)
    match CommandLine.program a (← IO.getEnv "STRINGUTIL_LOG") workspace files with
    | .error _ => return 101
    | .ok ending =>
      writeChanges files ending.files
      IO.eprint ending.errorText
      return ending.code.toUInt32

end Fieldwise

/-- The program. -/
def main (words : List String) : IO UInt32 := Fieldwise.start words
