import Matchmaker.Proofs.Encodable
import Matchmaker.Proofs.Preferences
import Matchmaker.Proofs.Replacing

/-!
# Payloads of the right types

A payload whose members have the types of their columns is accepted or refused for a fault of it,
unless it would be refused for a whole number that has too many digits to be shown. What is accepted
keeps every constraint of the table of profiles and fits its columns, with one exception: no limit
is put on the radius, so that a whole number that 64 bits do not hold is accepted and cannot be
stored.

* `Facets.IsTyped`: a payload whose members have the right types;
* `Facets.ShowsLong`: a number out of range that has too many digits to be shown;
* `Facets.Answers`, **`validate_answers`**: it is accepted or refused, or shows such a number;
* `Profile.FitsTable`, **`fitsTable_ofFacets`**: the row keeps the constraints and fits the columns;
* `Store.Saves`, **`upsert_saves`**: the four ways in which saving such a payload ends.
-/

namespace Matchmaker

open Json (Value)

namespace Json.Value

variable {payload v : Value}

theorem mem_given?_iff {name : String} :
    v ∈ payload.given? name ↔ payload.member? name = some v ∧ v ≠ .null := by
  unfold given?
  split
  · rename_i hnull
    rw [hnull]
    constructor
    · rintro ⟨⟩
    · rintro ⟨⟨⟩, hne⟩
      exact absurd rfl hne
  · rename_i hnull
    exact ⟨fun h => ⟨h, fun he => hnull (he ▸ h)⟩, And.left⟩

end Json.Value

open Json.Value (mem_given?_iff)

namespace Facets

variable {β γ : Type} {payload : Value} {f : Facets}

/-! ## Types -/

/-- The members of a payload have the types of their columns, where they are given: texts, lists of
texts, numbers, a whole number as radius and an object as preferences. -/
structure IsTyped (payload : Value) : Prop where
  displayName : ∀ v ∈ payload.given? "display_name", v.text?.isSome = true
  texts : ∀ k : TextFacet, ∀ v ∈ payload.given? k.name, v.text?.isSome = true
  lists : ∀ k : ListFacet, ∀ v ∈ payload.given? k.name,
    ∃ items, v = .arr items ∧ ∀ item ∈ items, item.text?.isSome = true
  lat : ∀ v ∈ payload.given? "location_lat", (Quantity.ofValue? v).isSome = true
  lon : ∀ v ∈ payload.given? "location_lon", (Quantity.ofValue? v).isSome = true
  radius : ∀ v ∈ payload.given? "max_radius_km", ∃ n, v = .int n
  preferences : ∀ v ∈ payload.given? "match_preferences", ∃ members, v = .obj members

/-- A payload gives a whole number that is out of range and has too many digits to be shown: as a
coordinate, as a radius below zero or as a weight. -/
inductive ShowsLong (payload : Value) : Prop
  | lat {n : Int} (h : payload.given? "location_lat" = some (.int n))
      (hlong : Decimal.isLong n = true)
  | lon {n : Int} (h : payload.given? "location_lon" = some (.int n))
      (hlong : Decimal.isLong n = true)
  | radius {n : Int} (h : payload.given? "max_radius_km" = some (.int n)) (hn : n < 0)
      (hlong : Decimal.isLong n = true)
  | weight {members : Json.Members} {d : Dimension} {n : Int}
      (h : payload.member? "match_preferences" = some (.obj members))
      (hd : Json.Members.find? d.name members = some (.int n))
      (hlong : Decimal.isLong n = true)

/-! ## What is answered to a payload -/

/-- The outcome is a value, the refusal of a payload or, in one case only, the fault that a number
cannot be shown. -/
inductive Answers (P : Prop) : Except Failure β → Prop
  | ok (b : β) : Answers P (.ok b)
  | refused (fault : FacetFault) : Answers P (refuse (.payload fault))
  | unshown (h : P) : Answers P (broken .tooLong)

variable {P Q : Prop}

theorem Answers.bind {x : Except Failure β} {g : β → Except Failure γ} (hx : Answers P x)
    (hg : ∀ b, x = .ok b → Answers P (g b)) : Answers P (x >>= g) := by
  cases hx with
  | ok b => exact hg b rfl
  | refused fault => exact .refused fault
  | unshown h => exact .unshown h

theorem Answers.map {x : Except Failure β} (hx : Answers P x) (g : β → γ) :
    Answers P (x.map g) := by
  cases hx with
  | ok b => exact .ok (g b)
  | refused fault => exact .refused fault
  | unshown h => exact .unshown h

theorem nameOfText_answers (s : Phrase) : Answers P (nameOfText s) := by
  unfold nameOfText
  simp only
  split
  · exact .refused _
  · split
    · exact .refused _
    · exact .ok _

theorem displayNameOf_answers (h : ∀ v ∈ payload.given? "display_name", v.text?.isSome = true) :
    Answers P (displayNameOf payload) := by
  unfold displayNameOf
  simp only
  split
  · exact .refused _
  · rename_i hmissing
    -- what is there and does not count as missing is given, and so it is a text
    cases hv : payload.member? "display_name" with
    | none =>
      rw [hv] at hmissing
      exact absurd rfl hmissing
    | some v =>
      rw [hv, Option.getD_some] at hmissing
      have hnull : v ≠ .null := fun he => hmissing (he ▸ rfl)
      obtain ⟨s, hs⟩ := Option.isSome_iff_exists.1 (h v (mem_given?_iff.2 ⟨hv, hnull⟩))
      rw [Option.getD_some, hs]
      exact nameOfText_answers s

theorem textOf_answers {k : TextFacet}
    (h : ∀ v ∈ payload.given? k.name, v.text?.isSome = true) : Answers P (textOf payload k) := by
  have hspelled : ∃ s, spelled payload k.name = .ok s := by
    unfold spelled
    split
    · exact ⟨none, rfl⟩
    · rename_i v hv
      obtain ⟨s, hs⟩ := Option.isSome_iff_exists.1 (h v hv)
      rw [Value.text?_eq_some_iff.1 hs]
      exact ⟨some s, rfl⟩
  obtain ⟨s, hs⟩ := hspelled
  rw [textOf, hs]
  show Answers P (fitted k s)
  unfold fitted
  split
  · exact .ok _
  · split
    · exact .refused _
    · exact .ok _

theorem textsOf_answers (k : ListFacet) (items : List Value) : Answers P (textsOf k items) := by
  fun_induction textsOf k items with
  | case1 => exact .ok _
  | case2 v vs s hs ih => exact ih.map _
  | case3 => exact .refused _

theorem listOf_answers (payload : Value) (k : ListFacet) : Answers P (listOf payload k) := by
  unfold listOf
  split
  · exact .ok _
  · split
    · exact .refused _
    · exact (textsOf_answers k _).map _
  · exact .refused _

theorem quantityOf_answers {v : Value} (h : (Quantity.ofValue? v).isSome = true) :
    Answers P (quantityOf v) := by
  unfold quantityOf
  split
  · exact .ok _
  · rename_i hnone
    rw [hnone] at h
    cases h

theorem refuseNumber_answers {fault : String → FacetFault} {q : Quantity}
    (h : ∀ n, q = .whole n → Decimal.isLong n = true → P) :
    Answers P (refuseNumber fault q : Except Failure β) := by
  unfold refuseNumber Quantity.text
  cases q with
  | flag b => cases b <;> exact .refused _
  | real x => exact .refused _
  | whole n =>
    rw [Quantity.toValue, Value.spelling, Decimal.written]
    cases hlong : Decimal.isLong n with
    | true => exact .unshown (h n rfl hlong)
    | false => exact .refused _

theorem coordinateOf_answers {bound : Nat} {fault : String → FacetFault} {v : Value}
    (hv : (Quantity.ofValue? v).isSome = true)
    (h : ∀ n, v = .int n → Decimal.isLong n = true → P) :
    Answers P (coordinateOf bound fault v) := by
  refine (quantityOf_answers hv).bind fun q hq => ?_
  split
  · exact .ok _
  · refine refuseNumber_answers fun n hn => h n ?_
    rw [← quantityOf_eq_ok hq, hn]
    rfl

theorem placeOf_answers (h : IsTyped payload) : Answers (ShowsLong payload) (placeOf payload) := by
  unfold placeOf
  split
  · exact .ok _
  · rename_i v w hlat hlon
    refine (coordinateOf_answers (h.lat v hlat) fun n hn => ?_).bind fun lat _ => ?_
    · exact .lat (hn ▸ hlat)
    · refine (coordinateOf_answers (h.lon w hlon) fun n hn => ?_).bind fun lon _ => .ok _
      exact .lon (hn ▸ hlon)
  · exact .refused _

theorem radiusOf_answers (h : IsTyped payload) :
    Answers (ShowsLong payload) (radiusOf payload) := by
  unfold radiusOf
  split
  · exact .ok _
  · rename_i v hv
    obtain ⟨n, rfl⟩ := h.radius v hv
    refine (quantityOf_answers rfl).bind fun q hq => ?_
    split
    · exact .ok _
    · rename_i hradius
      refine refuseNumber_answers fun m hm hlong => ?_
      obtain rfl : m = n := by
        have hvalue := quantityOf_eq_ok hq
        rw [hm] at hvalue
        exact Value.int.inj hvalue
      refine .radius hv ?_ hlong
      simpa [hm, isRadius, Quantity.isNegative] using hradius

theorem weightsOf_answers (payload : Value) :
    Answers (ShowsLong payload) (weightsOf payload) := by
  unfold weightsOf
  cases hresolve : Weights.resolve (payload.member? "match_preferences") with
  | ok w => exact .ok w
  | error e =>
    cases hp : payload.member? "match_preferences" with
    | none =>
      rw [hp] at hresolve
      cases hresolve
    | some p =>
      rw [hp] at hresolve
      by_cases hobj : ∃ members, p = .obj members
      · obtain ⟨members, rfl⟩ := hobj
        obtain ⟨-, d, -, -, -, hoffends⟩ := Weights.exists_of_resolve_eq_error hresolve
        cases hoffends with
        | notWhole | outOfRange => exact .refused _
        | tooLong hv hwhole _ hlong =>
          cases hwhole with
          | int => exact .unshown (.weight hp hv hlong)
          | real hx =>
            -- a double that is a whole number can always be shown
            have hshort := Decimal.isLong_of_whole? (Decimal.Binary.whole?_eq_some_iff.2 hx)
            rw [hshort] at hlong
            cases hlong
      · rw [Weights.eq_notObject_of_resolve hresolve fun members hm => hobj ⟨members, hm⟩]
        exact .refused _

/-- **A payload of the right types is accepted or refused**, unless it shows too long a number. -/
theorem validate_answers (h : IsTyped payload) :
    Answers (ShowsLong payload) (validate payload) := by
  refine (displayNameOf_answers h.displayName).bind fun _ _ => ?_
  refine (textOf_answers (h.texts .aboutMe)).bind fun _ _ => ?_
  refine (textOf_answers (h.texts .city)).bind fun _ _ => ?_
  refine (textOf_answers (h.texts .collaboration)).bind fun _ _ => ?_
  refine (textOf_answers (h.texts .food)).bind fun _ _ => ?_
  refine (textOf_answers (h.texts .music)).bind fun _ _ => ?_
  refine (listOf_answers payload .analogPassions).bind fun _ _ => ?_
  refine (listOf_answers payload .digitalDelights).bind fun _ _ => ?_
  refine (placeOf_answers h).bind fun _ _ => ?_
  refine (radiusOf_answers h).bind fun _ _ => ?_
  refine (weightsOf_answers payload).bind fun _ _ => ?_
  exact .ok _

/-! ## The radius -/

theorem exists_radius (h : IsTyped payload) (hf : validate payload = .ok f) {q : Quantity}
    (hq : q ∈ f.radius) :
    ∃ n, payload.given? "max_radius_km" = some (.int n) ∧ q = .whole n ∧ 0 ≤ n := by
  have hgiven := given?_of_radiusOf (validate_eq_ok_iff.1 hf).radius
  have hnormal : IsNormalRadius q := (isNormal_of_validate hf).radius q hq
  rw [Option.mem_def.1 hq, Option.map_some] at hgiven
  obtain ⟨n, hn⟩ := h.radius _ hgiven.symm
  cases q with
  | whole m =>
    obtain rfl : m = n := Value.int.inj hn
    refine ⟨m, hgiven.symm, rfl, ?_⟩
    simpa [IsNormalRadius, Quantity.isNegative] using hnormal
  | flag b => cases hn
  | real x => cases hn

theorem radius_of_given? (hf : validate payload = .ok f) {n : Int}
    (h : payload.given? "max_radius_km" = some (.int n)) : f.radius = some (.whole n) := by
  have hgiven := given?_of_radiusOf (validate_eq_ok_iff.1 hf).radius
  rw [h] at hgiven
  obtain ⟨q, hq, hqn⟩ := Option.map_eq_some_iff.1 hgiven
  cases q with
  | whole m => rw [hq, Value.int.inj hqn]
  | flag b => cases hqn
  | real x => cases hqn

theorem IsNormal.withoutRadius (h : f.IsNormal) : IsNormal { f with radius := none } := by
  refine { h with texts := fun k => ?_, lists := fun k => ?_, radius := nofun }
  · have htexts := h.texts k
    cases k <;> exact htexts
  · have hlists := h.lists k
    cases k <;> exact hlists

end Facets

/-! ## Rows that fit -/

theorem isStorable_iff_of_nonneg {n : Int} (hn : 0 ≤ n) :
    isStorable n = true ↔ n < 0x8000000000000000 := by
  rw [isStorable, Bool.and_eq_true, decide_eq_true_eq, decide_eq_true_eq]
  omega

namespace Profile

variable {user : Int} {f : Facets} {p : Profile}

/-- A row that keeps the constraints of the table of profiles and fits its columns: names and short
texts of at most 100 characters, doubles as coordinates and a whole number of 64 bits as radius. -/
structure FitsTable (p : Profile) : Prop where
  admits : Store.admitsProfile p = true
  displayName : p.displayName.length ≤ Facets.maxLength
  city : ∀ t ∈ p.city, t.length ≤ Facets.maxLength
  food : ∀ t ∈ p.food, t.length ≤ Facets.maxLength
  music : ∀ t ∈ p.music, t.length ≤ Facets.maxLength
  lat : ∀ q ∈ p.lat, ∃ x, q = .real x
  lon : ∀ q ∈ p.lon, ∃ x, q = .real x
  maxRadius : ∀ q ∈ p.maxRadius, ∃ n, q = .whole n ∧ isStorable n = true

theorem exists_real_of_coordinateColumn {o r : Option Quantity} (h : coordinateColumn o = .ok r) :
    ∀ q ∈ r, ∃ x, q = .real x := by
  rintro q rfl
  cases o with
  | none => cases h
  | some q' =>
    cases q' with
    | flag b =>
      obtain rfl := Option.some.inj (Except.ok.inj h)
      exact ⟨_, rfl⟩
    | whole n =>
      simp only [coordinateColumn] at h
      split at h
      · obtain rfl := Option.some.inj (Except.ok.inj h)
        exact ⟨_, rfl⟩
      · exact absurd h (broken_ne_ok _ _)
    | real x =>
      simp only [coordinateColumn, Except.ok.injEq] at h
      split at h
      · cases h
      · obtain rfl := Option.some.inj h
        exact ⟨_, rfl⟩

theorem radiusColumn_whole_eq_ok {n : Int} {r : Option Quantity}
    (h : radiusColumn (some (.whole n)) = .ok r) : r = some (.whole n) ∧ isStorable n = true := by
  simp only [radiusColumn] at h
  split at h
  · rename_i hn
    exact ⟨(Except.ok.inj h).symm, hn⟩
  · exact absurd h (broken_ne_ok _ _)

/-- **The row that facets make fits**, where their radius is a whole number. -/
theorem fitsTable_ofFacets (hf : f.IsNormal) (hradius : ∀ q ∈ f.radius, ∃ n, q = .whole n)
    (hp : ofFacets user f = .ok p) : p.FitsTable := by
  have hadmits := admitsProfile_of_facets (Facets.validate_toValue hf) hp
  have hmade := ofFacets_eq_ok_iff.1 hp
  have hshort : ∀ (k : TextFacet) {o : Option String}, k.isShort = true →
      f.text k = o.map .plain → ∀ t ∈ o, t.length ≤ Facets.maxLength := by
    rintro k _ hk htext t rfl
    exact (hf.texts k (.plain t) htext).length hk
  refine ⟨hadmits, ?_, hshort .city rfl hmade.city, hshort .food rfl hmade.food,
    hshort .music rfl hmade.music,
    exists_real_of_coordinateColumn hmade.lat, exists_real_of_coordinateColumn hmade.lon, ?_⟩
  · have hlength := hf.displayNameLength
    rwa [hmade.displayName] at hlength
  · intro q hq
    have hr := hmade.maxRadius
    cases hq' : f.radius with
    | none =>
      rw [hq', hq] at hr
      cases hr
    | some q' =>
      obtain ⟨n, rfl⟩ := hradius q' hq'
      rw [hq'] at hr
      obtain ⟨hsome, hn⟩ := radiusColumn_whole_eq_ok hr
      exact ⟨n, Option.some.inj (hq.symm.trans hsome), hn⟩

theorem exists_withoutRadius (hf : f.IsNormal) (hencodable : f.IsEncodable) (user : Int) :
    ∃ p, ofFacets user { f with radius := none } = .ok p ∧ p.FitsTable := by
  have hfits : Facets.FitColumns { f with radius := none } := by
    refine ⟨hencodable.displayName, fun k => ?_, nofun⟩
    have htexts := hencodable.texts k
    cases k <;> exact htexts
  obtain ⟨p, hp, -⟩ := ofFacets_keeps hf.withoutRadius hfits user
  exact ⟨p, hp, fitsTable_ofFacets hf.withoutRadius nofun hp⟩

theorem ofFacets_eq_broken (hf : f.IsNormal) (hencodable : f.IsEncodable) {n : Int}
    (hr : f.radius = some (.whole n)) (hn : isStorable n = false) (user : Int) :
    ofFacets user f = broken .unstorable := by
  obtain ⟨p, hp, -⟩ := exists_withoutRadius hf hencodable user
  have hmade := ofFacets_eq_ok_iff.1 hp
  have hradius : radiusColumn f.radius = broken .unstorable := by
    rw [hr, radiusColumn, if_neg (Bool.eq_false_iff.1 hn)]
  rw [ofFacets, textColumn_eq_ok_iff.2 hmade.displayName, optionalColumn_eq_ok_iff.2 hmade.aboutMe,
    optionalColumn_eq_ok_iff.2 hmade.city, hmade.lat, hmade.lon, hradius]
  rfl

end Profile

/-! ## Saving -/

namespace Store

variable {s : Store} {user : Int} {payload : Value}

theorem upsert_of_accepted {f : Facets} (hf : Facets.validate payload = .ok f)
    (huser : (s.user? user).isSome = true) :
    s.upsert user payload = (Profile.ofFacets user f).map fun p => (p, s.putProfile p) := by
  obtain ⟨u, hu⟩ := Option.isSome_iff_exists.1 huser
  rw [upsert_eq, hf, hu]
  show (Profile.ofFacets user f >>= fun p => pure (p, s.putProfile p)) = _
  cases Profile.ofFacets user f <;> rfl

theorem upsert_of_not_accepted {e : Failure} (h : Facets.validate payload = .error e) :
    s.upsert user payload = .error e := by
  rw [upsert_eq, h]
  rfl

/-- How saving a payload of the right types ends: the payload is refused; or it cannot be refused,
since the number to be shown has too many digits; or the profile that keeps its facets is stored; or
only the radius, 2⁶³ or more, does not fit its column. -/
inductive Saves (s : Store) (user : Int) (payload : Value) : Except Failure (Profile × Store) → Prop
  | refused {fault : FacetFault} (h : Facets.validate payload = refuse (.payload fault)) :
      Saves s user payload (refuse (.payload fault))
  | unshown (h : Facets.validate payload = broken .tooLong) (hlong : Facets.ShowsLong payload) :
      Saves s user payload (broken .tooLong)
  | stored {f : Facets} {p : Profile} (hf : Facets.validate payload = .ok f)
      (hkeeps : p.Keeps user f) (hfits : p.FitsTable)
      (hradius : ∀ n, payload.given? "max_radius_km" = some (.int n) → n < 0x8000000000000000) :
      Saves s user payload (.ok (p, s.putProfile p))
  | unstorable {f : Facets} {p : Profile} {n : Int} (hf : Facets.validate payload = .ok f)
      (hgiven : payload.given? "max_radius_km" = some (.int n)) (hlarge : 0x8000000000000000 ≤ n)
      (hrest : Profile.ofFacets user { f with radius := none } = .ok p) (hfits : p.FitsTable) :
      Saves s user payload (broken .unstorable)

/-- **What is accepted of a payload of the right types is stored, but for a radius of 2⁶³ or
more.** -/
theorem upsert_saves (huser : (s.user? user).isSome = true) (ht : Facets.IsTyped payload)
    (hencodable : payload.isEncodable = true) :
    s.Saves user payload (s.upsert user payload) := by
  have hanswers := Facets.validate_answers ht
  generalize hvalid : Facets.validate payload = outcome at hanswers
  cases hanswers with
  | refused fault =>
    rw [upsert_of_not_accepted hvalid]
    exact .refused hvalid
  | unshown hlong =>
    rw [upsert_of_not_accepted hvalid]
    exact .unshown hvalid hlong
  | ok f =>
    have hnormal := Facets.isNormal_of_validate hvalid
    have hwritten := Facets.isEncodable_of_validate hencodable hvalid
    have hwhole : ∀ q ∈ f.radius, ∃ n, q = .whole n := by
      intro q hq
      obtain ⟨n, -, hn, -⟩ := Facets.exists_radius ht hvalid hq
      exact ⟨n, hn⟩
    by_cases hfits : ∀ q ∈ f.radius, q.Fits
    · obtain ⟨p, hp, hkeeps⟩ := Profile.ofFacets_keeps hnormal
        ⟨hwritten.displayName, hwritten.texts, hfits⟩ user
      rw [upsert_of_accepted hvalid huser, hp]
      refine .stored hvalid hkeeps (Profile.fitsTable_ofFacets hnormal hwhole hp) fun n hn => ?_
      have hradius := Facets.radius_of_given? hvalid hn
      obtain ⟨_, -, ⟨⟩, hnonneg⟩ := Facets.exists_radius ht hvalid hradius
      exact (isStorable_iff_of_nonneg hnonneg).1 (hfits _ hradius)
    · push Not at hfits
      obtain ⟨q, hq, hnot⟩ := hfits
      obtain ⟨n, hgiven, rfl, hnonneg⟩ := Facets.exists_radius ht hvalid hq
      have hn : isStorable n = false := Bool.eq_false_iff.2 hnot
      obtain ⟨p, hp, hrow⟩ := Profile.exists_withoutRadius hnormal hwritten user
      have hlarge : 0x8000000000000000 ≤ n :=
        not_lt.1 fun hlt => hnot ((isStorable_iff_of_nonneg hnonneg).2 hlt)
      rw [upsert_of_accepted hvalid huser, Profile.ofFacets_eq_broken hnormal hwritten hq hn]
      exact .unstorable hvalid hgiven hlarge hp hrow

end Store

end Matchmaker
