import Fieldwise.Template

set_option autoImplicit false

/-! # A demonstration

A few types with the texts that generated code gives for their values. -/

namespace Fieldwise.Demo

/-- A registered user. -/
structure User where
  name : String
  email : String

/-- The text of a user. -/
def User.text (u : User) : String := summary "User" [("name", u.name), ("email", u.email)]

/-- The text of a probe, which carries nothing. -/
def pingText : String := summary "Ping" []

/-- A reading of a sensor: tenths of a degree and the symbol of the unit. -/
structure Reading where
  tenths : Int
  symbol : String

/-- The text of a reading. -/
def Reading.text (r : Reading) : String :=
  summary "Reading" [("0", toString r.tenths), ("1", r.symbol)]

/-- An issued invoice. -/
structure Invoice where
  number : Nat
  totalCents : Nat

/-- The text of an invoice. -/
def Invoice.text (i : Invoice) : String :=
  summary "Invoice" [("number", toString i.number), ("total_cents", toString i.totalCents)]

end Fieldwise.Demo
