import Matchmaker.Proofs.Normal

/-!
# Validation is a normaliser

The facets that validation gives are what the payload states, member by member, in normal form, and
what is in normal form is given again. A list is cut down to the first places of its items, which
are found by a loop that keeps what it has not kept before.

* `IsFirsts`, **`isFirsts_iff`**: the items of a list in the order of their first places;
* `Facets.IsFormOf`, `isFormOf_of_validate`: facets and what the payload says about each;
* **`isNormal_iff`**: what validation leaves as it is;
* **`validation_normalises`**: what is accepted is accepted again for what it is.
-/

namespace Matchmaker

open Json (Value)

/-! ## First places -/

section Firsts

variable {α : Type} [BEq α] {xs ys : List α}

/-- The items of `xs`, each once, in the order of their first places. -/
structure IsFirsts (xs ys : List α) : Prop where
  mem : ∀ x, x ∈ ys ↔ x ∈ xs
  order : ys.Pairwise fun x y => xs.idxOf x < xs.idxOf y

variable [LawfulBEq α]

theorem pairwise_distinct (xs : List α) :
    (distinct xs).Pairwise fun x y => xs.idxOf x < xs.idxOf y := by
  induction xs with
  | nil => exact .nil
  | cons x xs ih =>
    -- an item that is kept after the first has its place one further on
    have hplace : ∀ y ∈ (distinct xs).filter fun y => !(y == x),
        (x :: xs).idxOf y = xs.idxOf y + 1 := by
      intro y hy
      have hne : x ≠ y := fun he => by simp [he] at hy
      exact List.idxOf_cons_ne xs hne
    rw [distinct, List.pairwise_cons]
    refine ⟨fun y hy => ?_, (ih.filter _).imp_of_mem fun {y z} hy hz hlt => ?_⟩
    · rw [List.idxOf_cons_self, hplace y hy]
      exact Nat.succ_pos _
    · rw [hplace y hy, hplace z hz]
      exact Nat.succ_lt_succ hlt

/-- **The items of a list in the order of their first places are those that the loop keeps.** -/
theorem isFirsts_iff : IsFirsts xs ys ↔ ys = distinct xs := by
  constructor
  · intro h
    have hnodup : ys.Nodup := h.order.imp fun hlt he => absurd hlt (by simp [he])
    have hperm : ys.Perm (distinct xs) :=
      (List.perm_ext_iff_of_nodup hnodup (nodup_distinct xs)).2 fun x => by
        rw [h.mem, mem_distinct]
    exact hperm.eq_of_pairwise (fun _ _ _ _ hlt hlt' => absurd hlt (Nat.lt_asymm hlt'))
      h.order (pairwise_distinct xs)
  · rintro rfl
    exact ⟨fun _ => mem_distinct, pairwise_distinct xs⟩

end Firsts

/-! ## What a payload states -/

theorem Quantity.toValue_of_ofValue? {v : Value} {q : Quantity} (h : ofValue? v = some q) :
    q.toValue = v := by
  unfold ofValue? at h
  split at h
  · cases h
    rfl
  · cases h
    rfl
  · cases h
    rfl
  · cases h

namespace Weights

variable {preferences : Option Value} {w : Weights}

/-- The weight that preferences give to a dimension, 0 where they give none. -/
def given (preferences : Option Value) (d : Dimension) : Value :=
  (preferences.bind (·.member? d.name)).getD (.int 0)

theorem exists_of_ofValue {d : Dimension} {v : Value} {n : Nat} (h : ofValue d v = .ok n) :
    ∃ q, Quantity.ofValue? v = some q ∧ q.whole? = some (n : Int) := by
  unfold ofValue at h
  split at h
  · cases h
  · rename_i m hm
    obtain ⟨q, hq, hwhole⟩ := Option.bind_eq_some_iff.1 hm
    split at h
    · rename_i hrange
      obtain rfl := Except.ok.inj h
      rw [Bool.and_eq_true, decide_eq_true_eq] at hrange
      exact ⟨q, hq, by rw [hwhole, Int.toNat_of_nonneg hrange.1]⟩
    · exact absurd h (refuseOutside_ne_ok _ _ _)

theorem exists_of_resolve (h : resolve preferences = .ok w) (d : Dimension) :
    ∃ q, Quantity.ofValue? (given preferences d) = some q ∧ q.whole? = some (w.get d : Int) := by
  have hzero : (PerDimension.ofFn fun _ => 0) = w →
      ∃ q, Quantity.ofValue? (.int 0) = some q ∧ q.whole? = some (w.get d : Int) := by
    rintro rfl
    exact ⟨.whole 0, rfl, by rw [PerDimension.get_ofFn]; rfl⟩
  unfold resolve at h
  split at h
  · exact hzero (Except.ok.inj h)
  · exact hzero (Except.ok.inj h)
  · exact exists_of_ofValue (PerDimension.ofExcept_eq_ok_iff.1 h d)
  · cases h

end Weights

namespace Facets

variable {payload : Value} {f : Facets}

/-- The texts that a payload lists, none where the list is missing or null. -/
def ListsTexts (payload : Value) (k : ListFacet) (texts : List Phrase) : Prop :=
  payload.given? k.name = none ∧ texts = [] ∨
    ∃ items, payload.given? k.name = some (.arr items) ∧ items.map Value.text? = texts.map some

/-- The facets are what a payload states, one by one: texts without blanks at their ends, those of
other values their spellings, and blank ones missing; lists of the distinct texts of at most 50, in
the order of their first places; numbers as they are given; and weights equal to the given ones. -/
structure IsFormOf (f : Facets) (payload : Value) : Prop where
  displayName : ∃ s, (payload.member? "display_name").bind Value.text? = some s ∧
    f.displayName = s.strip
  texts : ∀ k, ∃ s, spelled payload k.name = .ok s ∧ f.text k = s.bind tidy
  lists : ∀ k, ∃ texts, ListsTexts payload k texts ∧ texts.length ≤ maxItems ∧
    IsFirsts ((texts.map Phrase.strip).filter (· ≠ .plain "")) (f.list k)
  lat : f.lat.map Quantity.toValue = payload.given? "location_lat"
  lon : f.lon.map Quantity.toValue = payload.given? "location_lon"
  radius : f.radius.map Quantity.toValue = payload.given? "max_radius_km"
  weights : ∀ d, ∃ q,
    Quantity.ofValue? (Weights.given (payload.member? "match_preferences") d) = some q ∧
      q.whole? = some (f.weights.get d : Int)

theorem exists_of_displayNameOf {name : Phrase} (h : displayNameOf payload = .ok name) :
    ∃ s, (payload.member? "display_name").bind Value.text? = some s ∧ name = s.strip := by
  obtain ⟨s, hs, hname⟩ := displayNameOf_eq_ok h
  exact ⟨s, hs, (nameOfText_eq_ok_iff.1 hname).1⟩

theorem exists_of_textOf {k : TextFacet} {o : Option Phrase} (h : textOf payload k = .ok o) :
    ∃ s, spelled payload k.name = .ok s ∧ o = s.bind tidy := by
  obtain ⟨s, hs, hfitted⟩ := textOf_eq_ok_iff.1 h
  exact ⟨s, hs, (fitted_eq_ok_iff.1 hfitted).1⟩

theorem exists_of_listOf {k : ListFacet} {ts : List Phrase} (h : listOf payload k = .ok ts) :
    ∃ texts, ListsTexts payload k texts ∧ texts.length ≤ maxItems ∧
      IsFirsts ((texts.map Phrase.strip).filter (· ≠ .plain "")) ts := by
  unfold listOf at h
  split at h
  · rename_i hnone
    obtain rfl := Except.ok.inj h
    exact ⟨[], Or.inl ⟨hnone, rfl⟩, Nat.zero_le _, isFirsts_iff.2 rfl⟩
  · rename_i items hitems
    split at h
    · exact absurd h (refuse_ne_ok _ _)
    · rename_i hlength
      obtain ⟨stripped, hstripped, rfl⟩ := map_eq_ok_iff.1 h
      obtain ⟨texts, htexts, rfl⟩ := textsOf_eq_ok_iff.1 hstripped
      have hsame : texts.length = items.length := by
        simpa using (congrArg List.length htexts).symm
      exact ⟨texts, Or.inr ⟨items, hitems, htexts⟩, by omega, isFirsts_iff.2 rfl⟩
  · exact absurd h (refuse_ne_ok _ _)

theorem quantityOf_eq_ok {v : Value} {q : Quantity} (h : quantityOf v = .ok q) : q.toValue = v := by
  unfold quantityOf at h
  split at h
  · rename_i p hp
    rw [← Except.ok.inj h]
    exact Quantity.toValue_of_ofValue? hp
  · exact absurd h (broken_ne_ok _ _)

theorem given?_of_placeOf {place : Option (Quantity × Quantity)} (h : placeOf payload = .ok place) :
    (place.map Prod.fst).map Quantity.toValue = payload.given? "location_lat" ∧
      (place.map Prod.snd).map Quantity.toValue = payload.given? "location_lon" := by
  unfold placeOf at h
  split at h
  · rename_i hlat hlon
    rw [hlat, hlon, ← Except.ok.inj h]
    exact ⟨rfl, rfl⟩
  · rename_i v w hlat hlon
    obtain ⟨lat, hv, h⟩ := bind_eq_ok_iff.1 h
    obtain ⟨lon, hw, h⟩ := bind_eq_ok_iff.1 h
    rw [hlat, hlon, ← pure_eq_ok_iff.1 h, ← quantityOf_eq_ok (coordinateOf_eq_ok_iff.1 hv).1,
      ← quantityOf_eq_ok (coordinateOf_eq_ok_iff.1 hw).1]
    exact ⟨rfl, rfl⟩
  · exact absurd h (refuse_ne_ok _ _)

theorem given?_of_radiusOf {o : Option Quantity} (h : radiusOf payload = .ok o) :
    o.map Quantity.toValue = payload.given? "max_radius_km" := by
  cases o with
  | some q =>
    obtain ⟨v, hv, hq, -⟩ := radiusOf_eq_ok h
    rw [hv, ← quantityOf_eq_ok hq]
    rfl
  | none =>
    unfold radiusOf at h
    split at h
    · rename_i hnone
      rw [hnone]
      rfl
    · obtain ⟨q, -, h⟩ := bind_eq_ok_iff.1 h
      split at h
      · cases pure_eq_ok_iff.1 h
      · exact absurd h (refuseNumber_ne_ok _ _ _)

/-- **What is accepted is what the payload states.** -/
theorem isFormOf_of_validate (h : validate payload = .ok f) : f.IsFormOf payload := by
  have hs := validate_eq_ok_iff.1 h
  obtain ⟨place, hplace, hlat, hlon⟩ := hs.place
  obtain ⟨hgivenLat, hgivenLon⟩ := given?_of_placeOf hplace
  refine ⟨exists_of_displayNameOf hs.displayName, fun k => ?_, fun k => ?_, hlat ▸ hgivenLat,
    hlon ▸ hgivenLon, given?_of_radiusOf hs.radius,
    Weights.exists_of_resolve hs.weights⟩
  · cases k with
    | aboutMe => exact exists_of_textOf hs.aboutMe
    | city => exact exists_of_textOf hs.city
    | collaboration => exact exists_of_textOf hs.collaboration
    | food => exact exists_of_textOf hs.food
    | music => exact exists_of_textOf hs.music
  · cases k with
    | analogPassions => exact exists_of_listOf hs.analogPassions
    | digitalDelights => exact exists_of_listOf hs.digitalDelights

theorem isNormal_iff : f.IsNormal ↔ validate f.toValue = .ok f :=
  ⟨validate_toValue, isNormal_of_validate⟩

/-- **Validation is a normaliser.** What is accepted is in normal form, is what the payload states,
and is accepted again for what it is. Its preferences have the six dimensions and no other. -/
theorem validation_normalises (h : validate payload = .ok f) :
    validate f.toValue = .ok f ∧ f.IsNormal ∧ f.IsFormOf payload ∧
      f.toValue.member? "match_preferences" =
        some (.obj (Dimension.all.map fun d => (d.name, .int (f.weights.get d)))) :=
  ⟨isNormal_iff.1 (isNormal_of_validate h), isNormal_of_validate h, isFormOf_of_validate h, rfl⟩

/-- A payload with blanks, a repeated passion, numbers of several forms and a member under a name of
no dimension. -/
def untidy : Value :=
  .obj [("display_name", .str " Mia Laine "), ("about_me", .int 5), ("location_city", .str "  "),
    ("analog_passions", .arr [.str "hiking", .str " hiking", .str "", .str "guitar"]),
    ("location_lat", .bool true), ("location_lon", .real 24.5), ("max_radius_km", .real 25.0),
    ("match_preferences",
      .obj [("location", .real 7.0), ("analog_passions", .int 8), ("retired", .null)])]

/-- The facets that it is accepted for. -/
def tidied : Facets where
  displayName := "Mia Laine"
  aboutMe := some (.plain "5")
  city := none
  collaboration := none
  food := none
  music := none
  analogPassions := ["hiking", "guitar"]
  digitalDelights := []
  lat := some (.flag true)
  lon := some (.real 24.5)
  radius := some (.real 25.0)
  weights := ⟨8, 0, 0, 0, 0, 7⟩

theorem validation_normalises_sample :
    validate untidy = .ok tidied ∧ validate tidied.toValue = .ok tidied ∧ tidied.IsNormal ∧
      tidied.IsFormOf untidy := by
  have h : validate untidy = .ok tidied := rfl
  obtain ⟨hagain, hnormal, hform, -⟩ := validation_normalises h
  exact ⟨h, hagain, hnormal, hform⟩

end Facets

end Matchmaker
