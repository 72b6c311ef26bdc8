import Fieldwise.Marked
import Fieldwise.Settings.Basic

set_option autoImplicit false

/-! # Diagnostics

A message to the user about something wrong, with the type it is about and the line where that
stands, if they are known. -/

namespace Fieldwise

/-- A message about something wrong. -/
structure Diagnostic where
  message : String
  /-- The qualified name of the type it is about. -/
  declaration : Option String
  anchor : Option Anchor
  deriving DecidableEq, Repr

namespace Diagnostic

/-- A message about a declaration. -/
def about (d : Declaration) (message : String) : Diagnostic :=
  ⟨message, some d.qualifiedName, d.anchor⟩

/-- A marked type is not visible to everyone. -/
def notPublic (marker : String) (d : Declaration) : Diagnostic :=
  about d ("Classes annotated with " ++ markerText marker ++ " must be public.")

/-- A marked type is a trait. -/
def isAbstract (marker : String) (d : Declaration) : Diagnostic :=
  about d ("Classes annotated with " ++ markerText marker ++ " must not be abstract.")

/-- A marked type cannot be described. -/
def processFailed (d : Declaration) (reason : String) : Diagnostic :=
  about d ("Couldn't process class " ++ d.qualifiedName ++ ": " ++ reason)

/-- Nothing was generated, because of one of the types. -/
def generationFailedAt (m : Marked) (reason : String) : Diagnostic :=
  ⟨"Couldn't generate class: " ++ reason, some m.qualifiedName, m.anchor⟩

/-- Nothing was generated. -/
def generationFailed (reason : String) : Diagnostic :=
  ⟨"Couldn't generate class: " ++ reason, none, none⟩

/-- A message as it is shown, after the line it points at. -/
def text (d : Diagnostic) : String :=
  match d.anchor with
  | some anchor => anchor.text ++ ": " ++ d.message
  | none => d.message

end Diagnostic

end Fieldwise
