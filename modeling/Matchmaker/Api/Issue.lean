import Matchmaker.Json.Value

/-!
# Issues

What is wrong with a request whose path or body does not have the form that is asked for: a
complaint and the place that it is about, as the names and positions that lead there.
-/

namespace Matchmaker.Api

/-- What a value lacks. -/
inductive Complaint where
  | required
  | notText
  /-- A text with half of a surrogate pair in it. -/
  | notUnicode
  | emptyText
  | longText (limit : Nat)
  | notNumber
  | noNumeral
  | below (least : Int)
  | above (greatest : Int)
  | notWhole
  | noWholeNumeral
  | hasFraction
  | notFinite
  /-- A whole number of more digits than are read. -/
  | tooLarge
  | notList
  | longList (limit length : Nat)
  | notObject
  | notRecord
  | notJson
  deriving DecidableEq, Repr

namespace Complaint

/-- The wording of a complaint. -/
def message : Complaint → String
  | required => "Field required"
  | notText => "Input should be a valid string"
  | notUnicode =>
    "Input should be a valid string, unable to parse raw data as a unicode string"
  | emptyText => "String should have at least 1 character"
  | longText limit => "String should have at most " ++ toString limit ++ " characters"
  | notNumber => "Input should be a valid number"
  | noNumeral => "Input should be a valid number, unable to parse string as a number"
  | below least => "Input should be greater than or equal to " ++ toString least
  | above greatest => "Input should be less than or equal to " ++ toString greatest
  | notWhole => "Input should be a valid integer"
  | noWholeNumeral => "Input should be a valid integer, unable to parse string as an integer"
  | hasFraction => "Input should be a valid integer, got a number with a fractional part"
  | notFinite => "Input should be a finite number"
  | tooLarge => "Unable to parse input string as an integer, exceeded maximum size"
  | notList => "Input should be a valid list"
  | longList limit length =>
    "List should have at most " ++ toString limit ++ " items after validation, not " ++
      toString length
  | notObject => "Input should be a valid dictionary"
  | notRecord => "Input should be a valid dictionary or object to extract fields from"
  | notJson => "JSON decode error"

end Complaint

/-- A complaint about a place. -/
structure Issue where
  place : List String
  complaint : Complaint
  deriving DecidableEq, Repr

namespace Issue

/-- An issue inside the value under a name. -/
def under (name : String) (i : Issue) : Issue :=
  { i with place := name :: i.place }

/-- The wording of an issue. -/
def message (i : Issue) : String :=
  if i.place.isEmpty then i.complaint.message
  else ".".intercalate i.place ++ ": " ++ i.complaint.message

end Issue

end Matchmaker.Api
