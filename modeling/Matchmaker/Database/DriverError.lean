import Matchmaker.Failure
import Matchmaker.Text.Lower
import Matchmaker.Text.Search

/-!
# Errors of the database driver

Lock contention is told from other errors by its SQLSTATE code or, where the database has no codes,
by its wording. Contention is reported as a refusal that the caller may retry; all else is a fault.

* `DriverError.isTransient`: lock contention;
* `DriverError.inRequest`, `DriverError.inTransition`: how an error ends a request and a
  transition.
-/

namespace Matchmaker

/-- An error of the database driver. -/
structure DriverError where
  /-- A row would break a constraint. -/
  integrity : Bool
  message : String
  sqlstate : Option String
  pgcode : Option String
  deriving DecidableEq, Repr

namespace DriverError

/-- The codes for a failed serialisation, a deadlock and a lock that was not had in time. -/
def transientCodes : List String :=
  ["40001", "40P01", "55P03"]

/-- The code of an error, the first of the two attributes that is there and not empty. -/
def code? (e : DriverError) : Option String :=
  match e.sqlstate with
  | some "" | none => e.pgcode
  | some code => some code

/-- Lock contention, after which the transaction may be tried again. -/
def isTransient (e : DriverError) : Bool :=
  ((e.code?).map transientCodes.contains).getD false ||
    Text.occurs "database is locked" (Text.lower e.message)

/-- The fault that an error is when nothing handles it. -/
def asFault (e : DriverError) : Fault :=
  if e.integrity then .constraint else .database

/-- How an error ends the transaction of a request. -/
def inRequest (e : DriverError) : Failure :=
  if e.isTransient then .refused .databaseBusy else .fault e.asFault

/-- How an error ends a transition. -/
def inTransition (e : DriverError) : Failure :=
  if e.integrity then .refused .changedConcurrently
  else if e.isTransient then .refused .pairBusy
  else .fault .database

/-- The error that a database gives whose writer's lock another holds. -/
def locked : DriverError :=
  ⟨false, "database is locked", none, none⟩

end DriverError

end Matchmaker
