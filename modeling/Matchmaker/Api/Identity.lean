import Matchmaker.Decimal.Numeral

/-!
# Identity

Requests come through a gateway that names the caller in a header, by a positive whole number.
-/

namespace Matchmaker.Api

/-- Why a request has no caller. -/
inductive IdentityFault where
  | missing
  | invalid
  deriving DecidableEq, Repr

/-- The wording of a fault, given the name of the header. -/
def IdentityFault.message (header : String) : IdentityFault → String
  | missing => "Missing " ++ header ++ " header."
  | invalid => "Invalid " ++ header ++ " header."

/-- The caller that a header names. -/
def caller : Option String → Except IdentityFault Int
  | none | some "" => .error .missing
  | some s =>
    match Decimal.integer? s with
    | some n => if 0 < n then .ok n else .error .invalid
    | none => .error .invalid

end Matchmaker.Api
