import SolutionSweep.Text.Digit

/-!
# Instants

A reading of the clock in universal time, to the microsecond. Its text has a fixed width, so that
texts of instants are ordered as the instants are, to the millisecond.
-/

namespace SolutionSweep

/-- A reading of the clock in universal time. -/
structure Instant where
  year : Nat
  month : Nat
  day : Nat
  hour : Nat
  minute : Nat
  second : Nat
  microsecond : Nat
  deriving DecidableEq, Repr

/-- The date and the time of day to the millisecond, what is below it cut off. -/
def Instant.text (i : Instant) : Text :=
  Text.ofNatPadded 4 i.year ++ '-' :: Text.ofNatPadded 2 i.month ++ '-' ::
    Text.ofNatPadded 2 i.day ++ 'T' :: Text.ofNatPadded 2 i.hour ++ ':' ::
    Text.ofNatPadded 2 i.minute ++ ':' :: Text.ofNatPadded 2 i.second ++ '.' ::
    Text.ofNatPadded 3 (i.microsecond / 1000) ++ ['Z']

end SolutionSweep
