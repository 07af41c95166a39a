import Matchmaker.Proofs.Drawing
import Matchmaker.Proofs.Normal
import Matchmaker.Seed.Member

/-!
# Profiles that are drawn

All texts that profiles are drawn from are in normal form, so that a drawn profile is one that
facets in normal form make, as soon as its place is on the globe. Where it lies depends on the
numbers that it is computed in.

* `Profile.IsOf`: a profile of which each column is a facet, as it is before it is stored;
* `IsHead.isShort_append`, `isShort_names` and the like: the texts to draw from;
* **`gives_profile`**, `gives_profiles`: drawn profiles.
-/

namespace Matchmaker

open Json (Value)

/-! ## Profiles made of facets -/

namespace Profile

/-- Each column of a complete profile is that facet. -/
structure IsOf (p : Profile) (f : Facets) : Prop extends HasTexts p f where
  lat : f.lat = p.lat
  lon : f.lon = p.lon
  maxRadius : f.radius = p.maxRadius

namespace IsOf

variable {p : Profile} {f : Facets}

theorem isFixed (h : p.IsOf f) (hf : f.IsNormal) : p.IsFixed :=
  isFixed_of_isNormal hf (by rw [payload_of_hasTexts h.toHasTexts, ← h.lat, ← h.lon, ← h.maxRadius])

theorem resolve (h : p.IsOf f) (hf : f.IsNormal) :
    Weights.resolve p.preferences = .ok f.weights := by
  rw [h.preferences]
  exact Weights.resolve_toValue hf.weights

theorem admitsProfile (h : p.IsOf f) (hf : f.IsNormal) : Store.admitsProfile p = true := by
  have hname : p.displayName.isEmpty = false := by
    have hempty := hf.displayName.isEmpty
    rwa [h.displayName] at hempty
  have hplace : (p.lat.map (Quantity.within 90)).getD true = true ∧
      (p.lon.map (Quantity.within 180)).getD true = true := by
    obtain ⟨place, hlat, hlon, hwithin⟩ := hf.place
    rw [← h.lat, ← h.lon, hlat, hlon]
    cases place with
    | none => exact ⟨rfl, rfl⟩
    | some x => exact hwithin x rfl
  have hradius : p.radius.isNegative = false := by
    apply not_isNegative_radius
    rw [← h.maxRadius]
    cases hr : f.radius with
    | none => rfl
    | some q =>
      have hq := hf.radius q hr
      cases q with
      | flag b => rfl
      | whole n | real x => exact hq
  simp [Store.admitsProfile, hname, hplace.1, hplace.2, hradius]

end IsOf

end Profile

namespace Seed

/-! ## Texts to draw from -/

/-- A text without blanks at its ends that is neither empty nor too long. -/
def IsShort (s : String) : Prop :=
  (Text.strip s = s ∧ s.isEmpty = false) ∧ s.length ≤ Facets.maxLength

instance (s : String) : Decidable (IsShort s) :=
  inferInstanceAs (Decidable (_ ∧ _))

namespace IsShort

variable {s : String}

theorem isTidy (h : IsShort s) : (Phrase.plain s).IsTidy :=
  ⟨congrArg Phrase.plain h.1.1, h.1.2⟩

theorem isNormalText (h : IsShort s) (k : TextFacet) : Facets.IsNormalText k (.plain s) :=
  ⟨h.isTidy, fun _ => h.2⟩

end IsShort

/-- A text to begin with: without a blank at its start, and of at most half the length. -/
def IsHead (s : String) : Prop :=
  s.toList.head?.map Text.isBlank = some false ∧ 2 * s.length ≤ Facets.maxLength

/-- A text to end with: without a blank at its end, and of at most half the length. -/
def IsTail (s : String) : Prop :=
  s.toList.getLast?.map Text.isBlank = some false ∧ 2 * s.length ≤ Facets.maxLength

instance (s : String) : Decidable (IsHead s) :=
  inferInstanceAs (Decidable (_ ∧ _))

instance (s : String) : Decidable (IsTail s) :=
  inferInstanceAs (Decidable (_ ∧ _))

theorem IsHead.isShort_append {s t : String} (hs : IsHead s) (ht : IsTail t) :
    IsShort (s ++ t) := by
  obtain ⟨⟨c, hc, hfirst⟩, hslength⟩ := hs.imp_left Option.map_eq_some_iff.1
  obtain ⟨⟨d, hd, hlast⟩, htlength⟩ := ht.imp_left Option.map_eq_some_iff.1
  obtain ⟨cs, hcs⟩ := List.head?_eq_some_iff.1 hc
  obtain ⟨ds, hds⟩ := List.getLast?_eq_some_iff.1 hd
  have hlist : (s ++ t).toList = c :: (cs ++ ds) ++ [d] := by
    rw [String.toList_append, hcs, hds, List.cons_append, List.cons_append, List.append_assoc]
  refine ⟨⟨?_, ?_⟩, ?_⟩
  · rw [← String.toList_inj, Text.toList_strip, hlist]
    exact Text.trim_eq_self_of_ends hfirst hlast _
  · rw [← Bool.not_eq_true, String.isEmpty_iff, ← String.toList_inj, hlist]
    simp
  · rw [String.length_append]
    omega

theorem isShort_names : ∀ s ∈ firstNames, ∀ t ∈ lastNames, IsShort (s ++ " " ++ t) := by
  have hfirst : ∀ s ∈ firstNames, IsHead (s ++ " ") := by decide +kernel
  have hlast : ∀ t ∈ lastNames, IsTail t := by decide +kernel
  exact fun s hs t ht => (hfirst s hs).isShort_append (hlast t ht)

theorem isShort_hobbies : ∀ t ∈ hobbies, IsShort t := by
  decide +kernel

theorem isShort_digital : ∀ t ∈ digital, IsShort t := by
  decide +kernel

theorem isShort_foods : ∀ t ∈ foods, IsShort t := by
  decide +kernel

theorem isShort_musics : ∀ t ∈ musics, IsShort t := by
  decide +kernel

theorem isShort_abouts : ∀ t ∈ abouts, IsShort t := by
  decide +kernel

theorem isShort_wishes : ∀ s ∈ wishHeads, ∀ t ∈ wishTails, IsShort (s ++ t) := by
  have hhead : ∀ s ∈ wishHeads, IsHead s := by decide +kernel
  have htail : ∀ t ∈ wishTails, IsTail t := by decide +kernel
  exact fun s hs t ht => (hhead s hs).isShort_append (htail t ht)

theorem isShort_cities {α : Type} [Scalar α] : ∀ c ∈ cities (α := α), IsShort c.name := by
  have hnames : ∀ t ∈ ["Helsinki", "Espoo", "Tampere", "Turku", "Oulu"], IsShort t := by
    decide +kernel
  intro c hc
  exact hnames c.name (List.mem_map_of_mem (f := City.name) hc)

/-! ## Draws -/

section Draws

variable {σ : Type} [Source σ]

theorem gives_twoTexts {texts : List String} (h : ∀ t ∈ texts, IsShort t)
    (htwo : 2 ≤ texts.length) :
    Gives (twoTexts texts : Draw σ (List String)) fun ts =>
      Facets.IsNormalList (ts.map .plain) := by
  refine gives_bind (gives_sample htwo) fun two hdrawn => gives_pure ?_
  obtain ⟨hlength, hmem⟩ := hdrawn
  obtain ⟨hnodup, hle⟩ := nodup_eraseDups (two.mergeSort fun s t => !(t < s))
  rw [List.length_mergeSort, hlength] at hle
  refine ⟨fun t ht => ?_, hnodup.map fun _ _ => Phrase.plain.inj, ?_⟩
  · obtain ⟨s, hs, rfl⟩ := List.mem_map.1 ht
    rw [List.mem_eraseDups, List.mem_mergeSort] at hs
    exact (h s (hmem s hs)).isTidy
  · rw [List.length_map]
    exact Nat.le_trans hle (by decide)

theorem gives_weights : Gives (weights : Draw σ Weights) fun w => ∀ d, w.get d ≤ Weights.limit := by
  have hfive : Gives (below 5 : Draw σ Nat) (· < 5) := gives_below (by decide)
  have hthree : Gives (below 3 : Draw σ Nat) (· < 3) := gives_below (by decide)
  refine gives_bind hfive fun a ha => gives_bind hfive fun b hb => gives_bind hfive fun c hc => ?_
  refine gives_bind hthree fun d hd => gives_bind hthree fun e he => ?_
  refine gives_bind hthree fun f hf => ?_
  have hlimit : Weights.limit = 10 := rfl
  refine gives_pure fun dim => ?_
  cases dim <;> simp only [PerDimension.get] <;> omega

/-- A drawn profile: facets make it that are in normal form, as soon as its place is on the globe,
and its coordinates are drawn near a city. -/
structure IsDrawn (Lat Lon : Float → Prop) (p : Profile) : Prop where
  made : ∃ f : Facets, p.IsOf f ∧ (Facets.IsNormalPlace p.lat p.lon → f.IsNormal)
  place : ∃ lat lon, p.lat = some (.real lat) ∧ p.lon = some (.real lon) ∧ Lat lat ∧ Lon lon

variable {α : Type} [Sampling α] {Lat Lon : Float → Prop}

/-- **A drawn profile is one that facets in normal form make**, once its place is known. -/
theorem gives_profile (hlat : ∀ c ∈ cities (α := α), Gives (nearby c.lat : Draw σ Float) Lat)
    (hlon : ∀ c ∈ cities (α := α), Gives (nearby c.lon : Draw σ Float) Lon) (user : Int) :
    Gives (profile α user : Draw σ Profile) fun p => p.user = user ∧ IsDrawn Lat Lon p := by
  refine gives_bind (gives_choice (by simp [cities])) fun city hcity => ?_
  refine gives_bind (gives_choice (by decide)) fun first hfirst => ?_
  refine gives_bind (gives_choice (by decide)) fun last hlast => ?_
  refine gives_bind (gives_choice (by decide)) fun about habout => ?_
  refine gives_bind (hlat city hcity) fun lat hlat' => ?_
  refine gives_bind (hlon city hcity) fun lon hlon' => ?_
  refine gives_bind (gives_true (below 40)) fun radius _ => ?_
  refine gives_bind (gives_twoTexts isShort_hobbies (by decide)) fun passions hpassions => ?_
  refine gives_bind (gives_twoTexts isShort_digital (by decide)) fun delights hdelights => ?_
  refine gives_bind (gives_choice (by decide)) fun head hhead => ?_
  refine gives_bind (gives_choice (by decide)) fun tail htail => ?_
  refine gives_bind (gives_choice (by decide)) fun food hfood => ?_
  refine gives_bind (gives_choice (by decide)) fun music hmusic => ?_
  refine gives_bind gives_weights fun w hw => gives_pure ⟨rfl, ?_, lat, lon, rfl, rfl, hlat', hlon'⟩
  refine ⟨{ displayName := first ++ " " ++ last, aboutMe := some (.plain about),
            city := some (.plain city.name), collaboration := some (.plain (head ++ tail)),
            food := some (.plain food), music := some (.plain music),
            analogPassions := passions.map .plain, digitalDelights := delights.map .plain,
            lat := some (.real lat), lon := some (.real lon),
            radius := some (.whole (10 + radius : Nat)), weights := w },
    ⟨⟨rfl, rfl, rfl, rfl, rfl, rfl, rfl, rfl, rfl, rfl⟩, rfl, rfl, rfl⟩, fun hplace => ?_⟩
  have hname := isShort_names first hfirst last hlast
  have hradius : Quantity.isNegative (.whole (10 + radius : Nat)) = false :=
    decide_eq_false (not_lt.2 (Int.natCast_nonneg (10 + radius)))
  refine ⟨hname.isTidy, hname.2, fun k => ?_, fun k => ?_, hplace, ?_, hw⟩
  · cases k with
    | aboutMe =>
      rintro t ⟨⟩
      exact (isShort_abouts about habout).isNormalText _
    | city =>
      rintro t ⟨⟩
      exact (isShort_cities city hcity).isNormalText _
    | collaboration =>
      rintro t ⟨⟩
      exact (isShort_wishes head hhead tail htail).isNormalText _
    | food =>
      rintro t ⟨⟩
      exact (isShort_foods food hfood).isNormalText _
    | music =>
      rintro t ⟨⟩
      exact (isShort_musics music hmusic).isNormalText _
  · cases k with
    | analogPassions => exact hpassions
    | digitalDelights => exact hdelights
  · rintro q ⟨⟩
    exact hradius

theorem gives_profiles (hlat : ∀ c ∈ cities (α := α), Gives (nearby c.lat : Draw σ Float) Lat)
    (hlon : ∀ c ∈ cities (α := α), Gives (nearby c.lon : Draw σ Float) Lon) (users : List Int) :
    Gives (profiles α users : Draw σ (List Profile)) fun ps =>
      ps.map Profile.user = users ∧ ∀ p ∈ ps, IsDrawn Lat Lon p := by
  induction users with
  | nil => exact gives_pure ⟨rfl, by simp⟩
  | cons user users ih =>
    refine gives_bind (gives_profile hlat hlon user) fun p hp => ?_
    refine gives_bind ih fun ps hps => gives_pure ⟨?_, ?_⟩
    · rw [List.map_cons, hp.1, hps.1]
    · exact List.forall_mem_cons.2 ⟨hp.2, hps.2⟩

end Draws

end Seed

end Matchmaker
