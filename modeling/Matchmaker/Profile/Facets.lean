import Matchmaker.Compatibility.Interests
import Matchmaker.Profile.Basic
import Matchmaker.Weights

/-!
# Facets

A payload with the facets of a profile is checked and brought into normal form before it is stored:
texts without blanks at their ends, blank ones missing; lists of distinct texts that are not blank;
coordinates in range, both or none; a radius that is not negative; the six weights.

The table keeps lists and preferences as JSON, in which a text may hold halves of surrogate pairs,
and the other texts in columns of their own, which cannot hold them.

* `Facets.validate`: the facets of a payload, or the first fault in their order;
* `Facets.toValue`: the payload that states given facets;
* `Profile.stored`: a profile as its table keeps it;
* `Profile.ofFacets`: the complete profile that facets make, when the columns can hold them.
-/

namespace Matchmaker

open Json (Value)

/-- The checked facets of a profile. -/
structure Facets where
  displayName : Phrase
  aboutMe : Option Phrase
  city : Option Phrase
  collaboration : Option Phrase
  food : Option Phrase
  music : Option Phrase
  analogPassions : List Phrase
  digitalDelights : List Phrase
  lat : Option Quantity
  lon : Option Quantity
  radius : Option Quantity
  weights : Weights
  deriving Repr

/-- Whole numbers that the database can hold, those of 64 bits. -/
def isStorable (n : Int) : Bool :=
  -0x8000000000000000 ≤ n && n < 0x8000000000000000

namespace Facets

/-- The longest display name and the longest short text. -/
def maxLength : Nat := 100

/-- The greatest number of items in a list. -/
def maxItems : Nat := 50

/-- A value that counts as no display name. -/
def isMissing : Value → Bool
  | .null | .bool false | .int 0 | .str (.plain "") | .arr [] | .obj [] => true
  | .real x => x == 0.0
  | _ => false

/-- The display name that a text states. -/
def nameOfText (s : Phrase) : Except Failure Phrase :=
  let name := s.strip
  if name.isEmpty then refuse (.payload .noDisplayName)
  else if name.length > maxLength then refuse (.payload .longDisplayName)
  else .ok name

/-- The display name of a payload. -/
def displayNameOf (payload : Value) : Except Failure Phrase :=
  let given := (payload.member? "display_name").getD .null
  if isMissing given then refuse (.payload .noDisplayName)
  else match given.text? with
    | some s => nameOfText s
    | none => broken .notText

/-- A text without blanks at its ends; a blank one is missing. -/
def tidy (s : Phrase) : Option Phrase :=
  let t := s.strip
  if t.isEmpty then none else some t

/-- The text that a payload gives under a name, if it gives any. What is no text is taken by its
spelling. -/
def spelled (payload : Value) (name : String) : Except Failure (Option Phrase) :=
  match payload.given? name with
  | none => .ok none
  | some v => (orBroken v.text).map some

/-- A free text that is tidied and not too long. -/
def fitted (f : TextFacet) (s : Option Phrase) : Except Failure (Option Phrase) :=
  match s.bind tidy with
  | none => .ok none
  | some t =>
    if f.isShort && t.length > maxLength then refuse (.payload (.longText f)) else .ok (some t)

/-- A free text of a payload. -/
def textOf (payload : Value) (f : TextFacet) : Except Failure (Option Phrase) := do
  let s ← spelled payload f.name
  fitted f s

/-- The texts of a list, without blanks at their ends. -/
def textsOf (f : ListFacet) : List Value → Except Failure (List Phrase)
  | [] => .ok []
  | v :: vs =>
    match v.text? with
    | some s => (textsOf f vs).map (s.strip :: ·)
    | none => refuse (.payload (.notTexts f))

/-- A list of a payload: its distinct texts that are not blank. -/
def listOf (payload : Value) (f : ListFacet) : Except Failure (List Phrase) :=
  match payload.given? f.name with
  | none => .ok []
  | some (.arr items) =>
    if items.length > maxItems then refuse (.payload (.manyItems f))
    else (textsOf f items).map fun texts => distinct (texts.filter (· ≠ .plain ""))
  | some _ => refuse (.payload (.notTexts f))

/-- A quantity, where nothing else can be compared. -/
def quantityOf (v : Value) : Except Failure Quantity :=
  match Quantity.ofValue? v with
  | some q => .ok q
  | none => broken .wrongType

/-- Refuses a payload for a number, which is shown. -/
def refuseNumber {β : Type} (fault : String → FacetFault) (q : Quantity) : Except Failure β := do
  let shown ← orBroken q.text
  refuse (.payload (fault shown))

/-- A coordinate between `-bound` and `bound`. -/
def coordinateOf (bound : Nat) (fault : String → FacetFault) (v : Value) :
    Except Failure Quantity := do
  let q ← quantityOf v
  if q.within bound then return q else refuseNumber fault q

/-- The coordinates of a payload, both or none. -/
def placeOf (payload : Value) : Except Failure (Option (Quantity × Quantity)) :=
  match payload.given? "location_lat", payload.given? "location_lon" with
  | none, none => .ok none
  | some v, some w => do
    let lat ← coordinateOf 90 .latitude v
    let lon ← coordinateOf 180 .longitude w
    return some (lat, lon)
  | _, _ => refuse (.payload .halfPlace)

/-- A search radius, which is no flag and not below zero. -/
def isRadius : Quantity → Bool
  | .flag _ => false
  | q => !q.isNegative

/-- The search radius of a payload. -/
def radiusOf (payload : Value) : Except Failure (Option Quantity) :=
  match payload.given? "max_radius_km" with
  | none => .ok none
  | some v => do
    let q ← quantityOf v
    if isRadius q then return some q else refuseNumber .radius q

/-- The weights of a payload. -/
def weightsOf (payload : Value) : Except Failure Weights :=
  Weights.resolve (payload.member? "match_preferences")

/-- The facets of a payload, or the first fault in their order. -/
def validate (payload : Value) : Except Failure Facets := do
  let displayName ← displayNameOf payload
  let aboutMe ← textOf payload .aboutMe
  let city ← textOf payload .city
  let collaboration ← textOf payload .collaboration
  let food ← textOf payload .food
  let music ← textOf payload .music
  let analogPassions ← listOf payload .analogPassions
  let digitalDelights ← listOf payload .digitalDelights
  let place ← placeOf payload
  let radius ← radiusOf payload
  let weights ← weightsOf payload
  return { displayName, aboutMe, city, collaboration, food, music, analogPassions,
           digitalDelights, lat := place.map Prod.fst, lon := place.map Prod.snd, radius, weights }

/-- The value of an optional text. -/
def ofPhrase? : Option Phrase → Value
  | some s => .str s
  | none => .null

/-- The payload that states given facets. -/
def toValue (f : Facets) : Value :=
  .obj [("display_name", .str f.displayName), ("about_me", ofPhrase? f.aboutMe),
    ("location_city", ofPhrase? f.city), ("collaboration_interests", ofPhrase? f.collaboration),
    ("favorite_food", ofPhrase? f.food), ("favorite_music", ofPhrase? f.music),
    ("analog_passions", Value.ofTexts f.analogPassions),
    ("digital_delights", Value.ofTexts f.digitalDelights),
    ("location_lat", (f.lat.map Quantity.toValue).getD .null),
    ("location_lon", (f.lon.map Quantity.toValue).getD .null),
    ("max_radius_km", (f.radius.map Quantity.toValue).getD .null),
    ("match_preferences", f.weights.toValue)]

end Facets

namespace Profile

/-- What a column of whole numbers keeps of a double: the whole number that it is, when 64 bits hold
it, else the double itself. A `nan` is stored as missing. -/
def realColumn (x : Float) : Option Quantity :=
  match Decimal.Binary.ofFloat x with
  | .nan => none
  | b =>
    match b.whole? with
    | some n =>
      if -0x8000000000000000 < n && n < 0x8000000000000000 then some (.whole n) else some (.real x)
    | none => some (.real x)

/-- The column of a search radius. -/
def radiusColumn : Option Quantity → Except Failure (Option Quantity)
  | none => .ok none
  | some (.flag b) => .ok (some (.whole (if b then 1 else 0)))
  | some (.whole n) => if isStorable n then .ok (some (.whole n)) else broken .unstorable
  | some (.real x) => .ok (realColumn x)

/-- The column of a coordinate, which keeps doubles. A `nan` is stored as missing. -/
def coordinateColumn : Option Quantity → Except Failure (Option Quantity)
  | none => .ok none
  | some (.real x) => .ok (if x.isNaN then none else some (.real x))
  | some (.flag b) => .ok (some (.real (if b then 1.0 else 0.0)))
  | some (.whole n) =>
    if isStorable n then .ok (some (.real (Float.ofInt n))) else broken .unstorable

/-- The column of a text. -/
def textColumn (s : Phrase) : Except Failure String :=
  match s.encoded with
  | some t => .ok t
  | none => broken .unwritable

/-- The column of a text that may be missing. -/
def optionalColumn : Option Phrase → Except Failure (Option String)
  | none => .ok none
  | some s => (textColumn s).map some

/-- A profile as its table keeps it. -/
def stored (p : Profile) : Except Failure Profile := do
  let lat ← coordinateColumn p.lat
  let lon ← coordinateColumn p.lon
  let maxRadius ← radiusColumn p.maxRadius
  return { p with lat, lon, maxRadius }

/-- The complete profile that facets make. The first column that cannot hold its value decides how
that fails. -/
def ofFacets (user : Int) (f : Facets) : Except Failure Profile := do
  let displayName ← textColumn f.displayName
  let aboutMe ← optionalColumn f.aboutMe
  let city ← optionalColumn f.city
  let lat ← coordinateColumn f.lat
  let lon ← coordinateColumn f.lon
  let maxRadius ← radiusColumn f.radius
  let collaboration ← optionalColumn f.collaboration
  let food ← optionalColumn f.food
  let music ← optionalColumn f.music
  return { user, displayName, aboutMe, city, lat, lon, maxRadius,
           analogPassions := some (Value.ofTexts f.analogPassions),
           digitalDelights := some (Value.ofTexts f.digitalDelights),
           collaboration, food, music, preferences := some f.weights.toValue, complete := true }

end Profile

end Matchmaker
