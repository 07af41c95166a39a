/-!
# Faults

What a computation or a call does not foresee and does not handle. Nothing in a fault is meant for
its caller; what is meant for them is a refusal.
-/

namespace Matchmaker

/-- What is not foreseen. -/
inductive Fault where
  /-- A function was used outside its domain. -/
  | outsideDomain
  /-- A value of this type has no order or no use where it stands. -/
  | wrongType
  /-- A value of this type is not handled as a text. -/
  | notText
  /-- A row breaks a constraint of its table. -/
  | constraint
  /-- A number is too large for what is to hold it. -/
  | unstorable
  /-- A whole number has too many digits to be written out. -/
  | tooLong
  /-- A text holds what its encoding cannot write. -/
  | unwritable
  /-- A URL cannot be asked for. -/
  | unusable
  /-- The database failed. -/
  | database
  deriving DecidableEq, Repr

end Matchmaker
