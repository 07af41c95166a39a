import Matchmaker.Api.Issue
import Matchmaker.Decimal.Numeral
import Matchmaker.Profile.Facets

/-!
# Submissions

The body of a request that saves a profile. Its members are checked one by one, in a fixed order,
and each is brought to the type of its column: numbers may be given as texts and flags, members
under other names are dropped, and a missing member is a null or, for a list, empty. What the values
may be beyond their types is left to `Facets.validate`.
-/

namespace Matchmaker.Api

open Json (Value Members)

/-- A text that is read as a whole number. -/
def wholeOf (s : String) : Except Complaint Int :=
  match Decimal.formInteger s with
  | .ok n => .ok n
  | .error .malformed => .error .noWholeNumeral
  | .error .tooLong => .error .tooLarge

namespace Submission

/-- A text of at most the given number of characters, if there is a limit. A text whose characters
are not counted may hold half of a surrogate pair. -/
def text (limit : Option Nat) (v : Value) : Except Complaint Value :=
  match v, limit with
  | .str (.plain s), some limit =>
    if limit < s.length then .error (.longText limit) else .ok (.str s)
  | .str (.halved _), some _ => .error .notUnicode
  | .str s, none => .ok (.str s)
  | _, _ => .error .notText

/-- A display name. -/
def name (v : Value) : Except Complaint Value :=
  if let .str (.plain "") := v then .error .emptyText else text (some Facets.maxLength) v

/-- The double that a number, a flag or a numeral is. -/
def number : Value → Except Complaint Float
  | .bool b => .ok (if b then 1.0 else 0.0)
  | .int n =>
    let x := Float.ofInt n
    if x.isInf then .error .notNumber else .ok x
  | .real x => .ok x
  | .str (.plain s) =>
    match Decimal.formReal? s with
    | some x => .ok x
    | none => .error .noNumeral
  | .str (.halved _) => .error .notUnicode
  | _ => .error .notNumber

/-- A coordinate between `-bound` and `bound`; a `nan` counts as too large. -/
def coordinate (bound : Nat) (v : Value) : Except Complaint Value := do
  let x ← number v
  if !(x ≤ Float.ofNat bound) then throw (.above bound)
  if x < -(Float.ofNat bound) then throw (.below (-bound))
  return .real x

/-- The whole number that a double is, when 64 bits hold it. -/
def wholeOfReal (x : Float) : Except Complaint Int :=
  match Decimal.Binary.ofFloat x with
  | .finite negative m e =>
    match (Decimal.Binary.finite negative m e).whole? with
    | none => .error .hasFraction
    | some n =>
      if -0x8000000000000000 < n && n < 0x8000000000000000 then .ok n else .error .tooLarge
  | _ => .error .notFinite

/-- The whole number that a number, a flag or a numeral is. -/
def whole : Value → Except Complaint Int
  | .bool b => .ok (if b then 1 else 0)
  | .int n => .ok n
  | .real x => wholeOfReal x
  | .str (.plain s) => wholeOf s
  | .str (.halved _) => .error .notUnicode
  | _ => .error .notWhole

/-- A search radius. -/
def radius (v : Value) : Except Complaint Value := do
  let n ← whole v
  if n < 0 then throw (.below 0)
  return .int n

/-- The preferences. -/
def preferences : Value → Except Complaint Value
  | .obj members => .ok (.obj members)
  | _ => .error .notObject

/-- The first item that is no text, counted from `i`. -/
def firstNonText? (i : Nat) : List Value → Option Nat
  | [] => none
  | v :: vs => if v.text?.isSome then firstNonText? (i + 1) vs else some i

/-- A list of texts. -/
def texts : Value → Except Issue Value
  | .arr items =>
    if Facets.maxItems < items.length then
      .error ⟨[], .longList Facets.maxItems items.length⟩
    else match firstNonText? 0 items with
      | some i => .error ⟨[toString i], .notText⟩
      | none => .ok (.arr items)
  | _ => .error ⟨[], .notList⟩

/-- A member that must be there. -/
def required (members : Members) (key : String) (check : Value → Except Complaint Value) :
    Except Issue (Phrase × Value) :=
  match Members.find? key members with
  | none => .error ⟨[key], .required⟩
  | some v =>
    match check v with
    | .ok w => .ok (key, w)
    | .error c => .error ⟨[key], c⟩

/-- A member that may be missing or null. -/
def optional (members : Members) (key : String) (check : Value → Except Complaint Value) :
    Except Issue (Phrase × Value) :=
  match Members.find? key members with
  | none | some .null => .ok (key, .null)
  | some v =>
    match check v with
    | .ok w => .ok (key, w)
    | .error c => .error ⟨[key], c⟩

/-- A list that may be missing but not null. -/
def list (members : Members) (f : ListFacet) : Except Issue (Phrase × Value) :=
  match Members.find? f.name members with
  | none => .ok (f.name, .arr [])
  | some v =>
    match texts v with
    | .ok w => .ok (f.name, w)
    | .error i => .error (i.under f.name)

/-- A free text that may be missing or null. -/
def freeText (members : Members) (f : TextFacet) : Except Issue (Phrase × Value) :=
  optional members f.name (text (if f.isShort then some Facets.maxLength else none))

/-- The payload of a body, or the first issue in the order of the members. -/
def check : Value → Except Issue Value
  | .obj members => do
    let displayName ← required members "display_name" name
    let aboutMe ← freeText members .aboutMe
    let city ← freeText members .city
    let lat ← optional members "location_lat" (coordinate 90)
    let lon ← optional members "location_lon" (coordinate 180)
    let maxRadius ← optional members "max_radius_km" radius
    let analogPassions ← list members .analogPassions
    let digitalDelights ← list members .digitalDelights
    let collaboration ← freeText members .collaboration
    let food ← freeText members .food
    let music ← freeText members .music
    let weights ← optional members "match_preferences" preferences
    return .obj [displayName, aboutMe, city, lat, lon, maxRadius, analogPassions, digitalDelights,
      collaboration, food, music, weights]
  | _ => .error ⟨[], .notRecord⟩

end Submission

end Matchmaker.Api
