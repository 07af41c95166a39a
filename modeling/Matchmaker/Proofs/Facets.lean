import Matchmaker.Proofs.Doubles
import Matchmaker.Proofs.Outcome
import Matchmaker.Store.Basic

/-!
# Saved profiles keep to their table

A payload that is accepted states its facets one by one (`validate_eq_ok_iff`), and the profile made
of them breaks no constraint of the profiles table, also after the columns have turned its numbers
into theirs.

* `StatedBy`: facets and the payload they come from;
* `within_coordinateColumn`, `not_isNegative_radiusColumn`: the columns keep coordinates in range
  and a radius from becoming negative;
* `Profile.HasTexts`, `Profile.MadeOf`: the columns of a profile that facets make;
* **`admitsProfile_of_facets`**: what is accepted and stored is a profile that its table admits.
-/

namespace Matchmaker

open Json (Value)

namespace Facets

/-- The facets that a payload states, each by itself. -/
structure StatedBy (f : Facets) (payload : Value) : Prop where
  displayName : displayNameOf payload = .ok f.displayName
  aboutMe : textOf payload .aboutMe = .ok f.aboutMe
  city : textOf payload .city = .ok f.city
  collaboration : textOf payload .collaboration = .ok f.collaboration
  food : textOf payload .food = .ok f.food
  music : textOf payload .music = .ok f.music
  analogPassions : listOf payload .analogPassions = .ok f.analogPassions
  digitalDelights : listOf payload .digitalDelights = .ok f.digitalDelights
  place : ∃ place, placeOf payload = .ok place ∧
    f.lat = place.map Prod.fst ∧ f.lon = place.map Prod.snd
  radius : radiusOf payload = .ok f.radius
  weights : weightsOf payload = .ok f.weights

theorem validate_eq_ok_iff {payload : Value} {f : Facets} :
    validate payload = .ok f ↔ f.StatedBy payload := by
  simp only [validate, bind_eq_ok_iff, pure_eq_ok_iff]
  constructor
  · rintro ⟨_, h₁, _, h₂, _, h₃, _, h₄, _, h₅, _, h₆, _, h₇, _, h₈, place, h₉, _, h₁₀, _, h₁₁, rfl⟩
    exact ⟨h₁, h₂, h₃, h₄, h₅, h₆, h₇, h₈, ⟨place, h₉, rfl, rfl⟩, h₁₀, h₁₁⟩
  · rintro ⟨h₁, h₂, h₃, h₄, h₅, h₆, h₇, h₈, ⟨place, h₉, hlat, hlon⟩, h₁₀, h₁₁⟩
    refine ⟨_, h₁, _, h₂, _, h₃, _, h₄, _, h₅, _, h₆, _, h₇, _, h₈, place, h₉, _, h₁₀, _, h₁₁, ?_⟩
    rw [← hlat, ← hlon]

/-! ## What the checks leave -/

theorem nameOfText_eq_ok_iff {s name : Phrase} : nameOfText s = .ok name ↔
    name = s.strip ∧ name.isEmpty = false ∧ name.length ≤ maxLength := by
  unfold nameOfText
  simp only
  split
  · rename_i hempty
    refine iff_of_false (refuse_ne_ok _ _) ?_
    rintro ⟨rfl, hne, -⟩
    simp [hempty] at hne
  · rename_i hne
    split
    · rename_i hlong
      refine iff_of_false (refuse_ne_ok _ _) ?_
      rintro ⟨rfl, -, hlength⟩
      omega
    · rename_i hlength
      constructor
      · intro h
        rw [← Except.ok.inj h]
        exact ⟨rfl, Bool.eq_false_iff.2 hne, Nat.not_lt.1 hlength⟩
      · rintro ⟨rfl, -, -⟩
        rfl

theorem displayNameOf_eq_ok {payload : Value} {name : Phrase}
    (h : displayNameOf payload = .ok name) :
    ∃ s, (payload.member? "display_name").bind Value.text? = some s ∧ nameOfText s = .ok name := by
  unfold displayNameOf at h
  simp only at h
  split at h
  · exact absurd h (refuse_ne_ok _ _)
  · split at h
    · rename_i s hs
      cases hm : payload.member? "display_name" with
      | none =>
        rw [hm] at hs
        cases hs
      | some v =>
        rw [hm, Option.getD_some] at hs
        exact ⟨s, hs, h⟩
    · exact absurd h (broken_ne_ok _ _)

@[simp] theorem refuseNumber_ne_ok {β : Type} (fault : String → FacetFault) (q : Quantity) (b : β) :
    refuseNumber fault q ≠ .ok b := by
  unfold refuseNumber
  cases q.text <;> nofun

theorem coordinateOf_eq_ok_iff {bound : Nat} {fault : String → FacetFault} {v : Value}
    {q : Quantity} : coordinateOf bound fault v = .ok q ↔
      quantityOf v = .ok q ∧ q.within bound = true := by
  simp only [coordinateOf, bind_eq_ok_iff]
  constructor
  · rintro ⟨p, hp, h⟩
    split at h
    · rename_i hwithin
      obtain rfl := pure_eq_ok_iff.1 h
      exact ⟨hp, hwithin⟩
    · exact absurd h (refuseNumber_ne_ok _ _ _)
  · rintro ⟨hq, hwithin⟩
    exact ⟨q, hq, by rw [if_pos hwithin]; rfl⟩

theorem placeOf_within {payload : Value} {lat lon : Quantity}
    (h : placeOf payload = .ok (some (lat, lon))) :
    lat.within 90 = true ∧ lon.within 180 = true := by
  unfold placeOf at h
  split at h
  · cases h
  · obtain ⟨x, hx, h⟩ := bind_eq_ok_iff.1 h
    obtain ⟨y, hy, h⟩ := bind_eq_ok_iff.1 h
    cases pure_eq_ok_iff.1 h
    exact ⟨(coordinateOf_eq_ok_iff.1 hx).2, (coordinateOf_eq_ok_iff.1 hy).2⟩
  · exact absurd h (refuse_ne_ok _ _)

theorem isNegative_eq_false_of_isRadius {q : Quantity} (h : isRadius q = true) :
    q.isNegative = false := by
  cases q with
  | flag b => cases h
  | whole n | real x => simpa only [isRadius, Bool.not_eq_true'] using h

theorem radiusOf_eq_ok {payload : Value} {q : Quantity} (h : radiusOf payload = .ok (some q)) :
    ∃ v, payload.given? "max_radius_km" = some v ∧ quantityOf v = .ok q ∧ isRadius q = true := by
  unfold radiusOf at h
  split at h
  · cases h
  · rename_i v hv
    obtain ⟨p, hp, h⟩ := bind_eq_ok_iff.1 h
    split at h
    · rename_i hradius
      cases pure_eq_ok_iff.1 h
      exact ⟨v, hv, hp, hradius⟩
    · exact absurd h (refuseNumber_ne_ok _ _ _)

end Facets

namespace Profile

/-! ## What the columns keep -/

/-- The bounds of coordinates. -/
def coordinateBounds : List Nat := [90, 180]

theorem within_ofInt {bound : Nat} (hb : bound ∈ coordinateBounds) {n : Int}
    (h : (Quantity.whole n).within bound = true) :
    (Quantity.real (Float.ofInt n)).within bound = true := by
  -- there are so few whole degrees that each can be tried
  have key : ∀ b ∈ coordinateBounds, ∀ k ∈ List.range (2 * b + 1),
      (Quantity.real (Float.ofInt ((k : Int) - b))).within b = true := by decide +kernel
  simp only [Quantity.within, Bool.and_eq_true, decide_eq_true_eq] at h
  have hk := key bound hb (n + bound).toNat (by rw [List.mem_range]; omega)
  have e : (((n + bound).toNat : Nat) : Int) - bound = n := by omega
  rwa [e] at hk

theorem within_coordinateColumn {bound : Nat} (hb : bound ∈ coordinateBounds) {q : Quantity}
    {r : Option Quantity} (hq : q.within bound = true) (h : coordinateColumn (some q) = .ok r) :
    (r.map (Quantity.within bound)).getD true = true := by
  cases q with
  | flag b =>
    cases h
    have key : ∀ k ∈ coordinateBounds, ∀ b : Bool,
        (Quantity.real (if b then 1.0 else 0.0)).within k = true := by decide +kernel
    exact key bound hb b
  | whole n =>
    simp only [coordinateColumn] at h
    split at h
    · cases h
      exact within_ofInt hb hq
    · exact absurd h (broken_ne_ok _ _)
  | real x =>
    simp only [coordinateColumn, Except.ok.injEq] at h
    subst h
    split
    · rfl
    · exact hq

theorem not_isNegative_realColumn {x : Float} (hx : ¬ x < 0.0) {q : Quantity}
    (h : realColumn x = some q) : q.isNegative = false := by
  unfold realColumn at h
  split at h
  · cases h
  · rename_i b hb
    split at h
    · rename_i n hn
      split at h
      · cases h
        simpa [Quantity.isNegative] using Decimal.Binary.whole?_nonneg hx hn
      · cases h
        simpa [Quantity.isNegative] using hx
    · cases h
      simpa [Quantity.isNegative] using hx

theorem not_isNegative_radiusColumn {q : Quantity} {r : Option Quantity}
    (hq : q.isNegative = false) (h : radiusColumn (some q) = .ok r) :
    (r.map Quantity.isNegative).getD false = false := by
  cases q with
  | flag b =>
    cases h
    cases b <;> rfl
  | whole n =>
    simp only [radiusColumn] at h
    split at h
    · cases h
      exact hq
    · exact absurd h (broken_ne_ok _ _)
  | real x =>
    cases h
    cases hr : realColumn x with
    | none => rfl
    | some q => exact not_isNegative_realColumn (by simpa [Quantity.isNegative] using hq) hr

theorem not_isNegative_radius {p : Profile}
    (h : (p.maxRadius.map Quantity.isNegative).getD false = false) :
    p.radius.isNegative = false := by
  unfold radius
  cases hr : p.maxRadius with
  | none => rfl
  | some q =>
    rw [hr] at h
    by_cases hz : q.isZero = true
    · simp only [hz]
      rfl
    · simp only [hz]
      exact h

/-! ## The profile that is stored -/

theorem textColumn_eq_ok_iff {s : Phrase} {t : String} : textColumn s = .ok t ↔ s = .plain t := by
  cases s <;> simp [textColumn, Phrase.encoded]

theorem optionalColumn_eq_ok_iff {o : Option Phrase} {r : Option String} :
    optionalColumn o = .ok r ↔ o = r.map Phrase.plain := by
  cases o with
  | none => cases r <;> simp [optionalColumn]
  | some s => cases r <;> simp [optionalColumn, map_eq_ok_iff, textColumn_eq_ok_iff]

/-- A complete profile has the texts, the lists and the weights of facets. -/
structure HasTexts (p : Profile) (f : Facets) : Prop where
  displayName : f.displayName = .plain p.displayName
  aboutMe : f.aboutMe = p.aboutMe.map .plain
  city : f.city = p.city.map .plain
  collaboration : f.collaboration = p.collaboration.map .plain
  food : f.food = p.food.map .plain
  music : f.music = p.music.map .plain
  analogPassions : p.analogPassions = some (Value.ofTexts f.analogPassions)
  digitalDelights : p.digitalDelights = some (Value.ofTexts f.digitalDelights)
  preferences : p.preferences = some f.weights.toValue
  complete : p.complete = true

/-- The columns of a complete profile keep facets. -/
structure MadeOf (p : Profile) (user : Int) (f : Facets) : Prop extends HasTexts p f where
  user : p.user = user
  lat : coordinateColumn f.lat = .ok p.lat
  lon : coordinateColumn f.lon = .ok p.lon
  maxRadius : radiusColumn f.radius = .ok p.maxRadius

theorem ofFacets_eq_ok_iff {user : Int} {f : Facets} {p : Profile} :
    ofFacets user f = .ok p ↔ p.MadeOf user f := by
  simp only [ofFacets, bind_eq_ok_iff, pure_eq_ok_iff, textColumn_eq_ok_iff,
    optionalColumn_eq_ok_iff]
  constructor
  · rintro ⟨_, h₁, _, h₂, _, h₃, _, h₄, _, h₅, _, h₆, _, h₇, _, h₈, _, h₉, rfl⟩
    exact ⟨⟨h₁, h₂, h₃, h₇, h₈, h₉, rfl, rfl, rfl, rfl⟩, rfl, h₄, h₅, h₆⟩
  · rintro ⟨⟨h₁, h₂, h₃, h₇, h₈, h₉, hpassions, hdelights, hweights, hcomplete⟩, rfl, h₄, h₅, h₆⟩
    refine ⟨_, h₁, _, h₂, _, h₃, _, h₄, _, h₅, _, h₆, _, h₇, _, h₈, _, h₉, ?_⟩
    rw [← hpassions, ← hdelights, ← hweights, ← hcomplete]

/-- **An accepted profile breaks no constraint of its table.** -/
theorem admitsProfile_of_facets {payload : Value} {f : Facets} {user : Int} {p : Profile}
    (hf : Facets.validate payload = .ok f) (hp : ofFacets user f = .ok p) :
    Store.admitsProfile p = true := by
  have hs := Facets.validate_eq_ok_iff.1 hf
  have hmade := ofFacets_eq_ok_iff.1 hp
  have hlat := hmade.lat
  have hlon := hmade.lon
  have hr := hmade.maxRadius
  have h₁ : p.displayName.isEmpty = false := by
    obtain ⟨s, -, hs⟩ := Facets.displayNameOf_eq_ok hs.displayName
    have hempty := (Facets.nameOfText_eq_ok_iff.1 hs).2.1
    rwa [hmade.displayName] at hempty
  have h₂ : (p.lat.map (Quantity.within 90)).getD true = true ∧
      (p.lon.map (Quantity.within 180)).getD true = true := by
    obtain ⟨place, hplace, elat, elon⟩ := hs.place
    cases place with
    | none =>
      rw [elat] at hlat
      rw [elon] at hlon
      rw [← Except.ok.inj hlat, ← Except.ok.inj hlon]
      exact ⟨rfl, rfl⟩
    | some place =>
      have hw := Facets.placeOf_within hplace
      rw [elat] at hlat
      rw [elon] at hlon
      exact ⟨within_coordinateColumn (by decide) hw.1 hlat,
        within_coordinateColumn (by decide) hw.2 hlon⟩
  have h₃ : p.radius.isNegative = false := by
    apply not_isNegative_radius
    cases hradius : f.radius with
    | none =>
      rw [hradius] at hr
      rw [← Except.ok.inj hr]
      rfl
    | some q =>
      rw [hradius] at hr
      obtain ⟨-, -, -, hq⟩ := Facets.radiusOf_eq_ok (hs.radius.trans (by rw [hradius]))
      exact not_isNegative_radiusColumn (Facets.isNegative_eq_false_of_isRadius hq) hr
  simp [Store.admitsProfile, h₁, h₂.1, h₂.2, h₃]

end Profile

end Matchmaker
