set_option autoImplicit false

/-! # Halts

A run can end without an answer. That is no error, of which a run would tell the user: whatever
was going on stops there. -/

namespace Fieldwise

/-- Why a run ends without an answer. -/
inductive Halt
  /-- A field is named by a number that is no index. -/
  | indexTooLarge (index : Nat)
  /-- A name holds something that cannot be printed. -/
  | unprintable
  /-- Modules contain each other without end. -/
  | endlessModules
  deriving DecidableEq, Repr

end Fieldwise
