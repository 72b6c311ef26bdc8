set_option autoImplicit false

/-! # Events

What a run says about its progress. An `Event` is one of the things that can happen; its level,
its words and its details are functions of it, so that no two parts of the program can word the
same event differently. -/

namespace Fieldwise

/-- How important an event is, the most detailed level first. -/
inductive Level
  | trace
  | debug
  | info
  | warn
  | error
  deriving DecidableEq, Repr

namespace Level

/-- The place of a level in the order of importance. -/
def rank : Level → Nat
  | .trace => 0
  | .debug => 1
  | .info => 2
  | .warn => 3
  | .error => 4

/-- A level in capitals. -/
def label : Level → String
  | .trace => "TRACE"
  | .debug => "DEBUG"
  | .info => "INFO"
  | .warn => "WARN"
  | .error => "ERROR"

end Level

/-- A detail of an event. -/
inductive Detail
  | text (value : String)
  | count (value : Nat)
  deriving DecidableEq, Repr

/-- A detail as text. -/
def Detail.shown : Detail → String
  | .text value => value
  | .count value => toString value

/-- Something that happened during a run. -/
inductive Event
  /-- A marked type may not be used. -/
  | candidateRejected (declaration : String)
  /-- The functions for so many types are about to be made. -/
  | generating (declarations : Nat)
  /-- The types are from several packages, of which this one counts. -/
  | severalPackages (package : String)
  /-- A bundle was written to a file. -/
  | bundleWritten (path : String) (functions : Nat)
  /-- A crate was read from its entry file on. -/
  | crateScanned (entry : String) (declarations : Nat)
  /-- A source file is switched off by its own condition. -/
  | fileDisabled (file : String)
  /-- A module has no file. -/
  | moduleMissing (submodule declaredIn : String)
  /-- It is settled what to read and what to call the result. -/
  | settingsResolved (package entry typeName : String)
  /-- A message could not be written. -/
  | messageLost (error : String)
  /-- A run ends with a bundle. -/
  | bundleReady (path : String) (functions : Nat)
  /-- A run ends without any marked type. -/
  | nothingMarked
  deriving DecidableEq, Repr

namespace Event

/-- How important an event is. -/
def level : Event → Level
  | .candidateRejected _ | .generating _ | .severalPackages _ | .crateScanned _ _
  | .fileDisabled _ | .settingsResolved _ _ _ => .debug
  | .bundleWritten _ _ | .bundleReady _ _ | .nothingMarked => .info
  | .moduleMissing _ _ | .messageLost _ => .warn

/-- An event in words. -/
def message : Event → String
  | .candidateRejected _ => "candidate rejected"
  | .generating _ => "generating unit"
  | .severalPackages _ =>
    "batch spans several packages; output follows the first declaration"
  | .bundleWritten _ _ => "wrote generated unit"
  | .crateScanned _ _ => "scanned crate sources"
  | .fileDisabled _ => "file disabled by #![cfg]"
  | .moduleMissing _ _ => "module file not found; skipping"
  | .settingsResolved _ _ _ => "resolved generator settings"
  | .messageLost _ => "failed to write diagnostic"
  | .bundleReady _ _ => "unit ready"
  | .nothingMarked => "no marked declarations"

/-- The details of an event by name, in the order in which they are shown. -/
def details : Event → List (String × Detail)
  | .candidateRejected declaration => [("declaration", .text declaration)]
  | .generating declarations => [("declarations", .count declarations)]
  | .severalPackages package => [("package", .text package)]
  | .bundleWritten path functions | .bundleReady path functions =>
    [("path", .text path), ("functions", .count functions)]
  | .crateScanned entry declarations =>
    [("entry", .text entry), ("declarations", .count declarations)]
  | .fileDisabled file => [("file", .text file)]
  | .moduleMissing submodule declaredIn =>
    [("module", .text submodule), ("declared_in", .text declaredIn)]
  | .settingsResolved package entry typeName =>
    [("package", .text package), ("entry", .text entry), ("type_name", .text typeName)]
  | .messageLost error => [("error", .text error)]
  | .nothingMarked => []

/-- The part of the program an event comes from, as a path by which a log filter selects it. -/
def origin : Event → String
  | .candidateRejected _ | .generating _ => "static_string_util::pass"
  | .severalPackages _ => "static_string_util::generator"
  | .bundleWritten _ _ => "static_string_util::emit::fs"
  | .crateScanned _ _ | .fileDisabled _ | .moduleMissing _ _ => "static_string_util::source"
  | .settingsResolved _ _ _ | .bundleReady _ _ | .nothingMarked => "cargo_stringutil"
  | .messageLost _ => "cargo_stringutil::sink"

end Event

end Fieldwise
