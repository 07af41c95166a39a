import Mathlib.Data.List.DropRight
import Matchmaker.Proofs.Orderly
import Matchmaker.Proofs.Usable

/-!
# Facets in normal form

What a payload is accepted for is in normal form: texts without blanks at their ends, none of them
blank or too long, lists of such texts without repetitions, coordinates in range, a radius that is
not negative and weights up to the limit. Facets in normal form, written as a payload, are accepted
again for what they are.

* `Phrase.IsTidy`, `strip_strip`: texts without blanks at their ends;
* `Facets.IsNormal`, **`isNormal_of_validate`**, **`validate_toValue`**: what validation gives, and
  what it leaves as it is;
* `Profile.IsFixed`, **`isFixed_ofFacets`**: the columns of a profile that is saved are accepted
  again for what they are.
-/

namespace Matchmaker

open Json (Value)

/-! ## Texts -/

namespace Text

theorem trim_trim {α : Type} (p : α → Bool) (xs : List α) : trim p (trim p xs) = trim p xs := by
  have hpre : trim p xs <+: xs.dropWhile p := List.rdropWhile_prefix p _
  -- the front of what is trimmed is the front of what its tail was taken off
  have hfront : (trim p xs).dropWhile p = trim p xs := by
    rw [List.dropWhile_eq_self_iff]
    intro hpos
    have hlength : 0 < (xs.dropWhile p).length := Nat.lt_of_lt_of_le hpos hpre.length_le
    rw [hpre.getElem hpos]
    exact List.dropWhile_get_zero_not p xs hlength
  show ((trim p xs).dropWhile p).rdropWhile p = trim p xs
  rw [hfront]
  exact List.rdropWhile_idempotent p _

theorem strip_strip (s : String) : strip (strip s) = strip s := by
  rw [strip, toList_strip, trim_trim, strip]

theorem trim_eq_self_of_ends {p : Char → Bool} {c d : Char} (hc : p c = false) (hd : p d = false)
    (cs : List Char) : trim p (c :: cs ++ [d]) = c :: cs ++ [d] := by
  have hfirst : ((c :: cs ++ [d]).dropWhile p) = c :: cs ++ [d] :=
    List.dropWhile_cons_of_neg (Bool.not_eq_true _ ▸ hc)
  have hlast : ((c :: cs ++ [d]).reverse.dropWhile p) = (c :: cs ++ [d]).reverse := by
    rw [List.reverse_concat]
    exact List.dropWhile_cons_of_neg (Bool.not_eq_true _ ▸ hd)
  rw [trim, hfirst, hlast, List.reverse_reverse]

end Text

namespace Phrase

theorem strip_strip (s : Phrase) : s.strip.strip = s.strip := by
  cases s with
  | plain s => exact congrArg plain (Text.strip_strip s)
  | halved t => simp only [strip, Text.Halved.strip, Text.trim_trim]

/-- A text without blanks at its ends that is not empty. -/
structure IsTidy (s : Phrase) : Prop where
  strip : s.strip = s
  isEmpty : s.isEmpty = false

theorem isTidy_strip {s : Phrase} (h : s.strip.isEmpty = false) : s.strip.IsTidy :=
  ⟨strip_strip s, h⟩

end Phrase

/-! ## Lists -/

section Distinct

variable {α : Type} [BEq α] [LawfulBEq α]

theorem distinct_eq_self {xs : List α} (h : xs.Nodup) : distinct xs = xs := by
  induction xs with
  | nil => rfl
  | cons x xs ih =>
    obtain ⟨hx, hxs⟩ := List.nodup_cons.1 h
    rw [distinct, ih hxs, List.filter_eq_self.2]
    intro y hy
    simpa using fun hyx : y = x => hx (hyx ▸ hy)

omit [LawfulBEq α] in
theorem length_distinct_le (xs : List α) : (distinct xs).length ≤ xs.length := by
  induction xs with
  | nil => exact Nat.le_refl _
  | cons x xs ih =>
    rw [distinct, List.length_cons, List.length_cons]
    exact Nat.succ_le_succ (Nat.le_trans (List.length_filter_le _ _) ih)

end Distinct

/-! ## Normal facets -/

namespace Facets

/-- A free text. -/
def text (f : Facets) : TextFacet → Option Phrase
  | .aboutMe => f.aboutMe
  | .city => f.city
  | .collaboration => f.collaboration
  | .food => f.food
  | .music => f.music

/-- A list of texts. -/
def list (f : Facets) : ListFacet → List Phrase
  | .analogPassions => f.analogPassions
  | .digitalDelights => f.digitalDelights

/-- A text of a facet in normal form. -/
structure IsNormalText (k : TextFacet) (t : Phrase) : Prop where
  isTidy : t.IsTidy
  length : k.isShort = true → t.length ≤ maxLength

/-- A list in normal form. -/
structure IsNormalList (ts : List Phrase) : Prop where
  isTidy : ∀ t ∈ ts, t.IsTidy
  nodup : ts.Nodup
  length : ts.length ≤ maxItems

/-- Coordinates in normal form, both or none. -/
def IsNormalPlace (lat lon : Option Quantity) : Prop :=
  ∃ place : Option (Quantity × Quantity), lat = place.map Prod.fst ∧ lon = place.map Prod.snd ∧
    ∀ x ∈ place, x.1.within 90 = true ∧ x.2.within 180 = true

/-- A radius in normal form. -/
def IsNormalRadius : Quantity → Prop
  | .flag _ => False
  | q => q.isNegative = false

/-- Facets in normal form. -/
structure IsNormal (f : Facets) : Prop where
  displayName : f.displayName.IsTidy
  displayNameLength : f.displayName.length ≤ maxLength
  texts : ∀ k, ∀ t ∈ f.text k, IsNormalText k t
  lists : ∀ k, IsNormalList (f.list k)
  place : IsNormalPlace f.lat f.lon
  radius : ∀ q ∈ f.radius, IsNormalRadius q
  weights : ∀ d, f.weights.get d ≤ Weights.limit

variable {payload : Value} {f : Facets}

/-! ### What validation gives -/

theorem isTidy_of_displayNameOf {name : Phrase} (h : displayNameOf payload = .ok name) :
    name.IsTidy ∧ name.length ≤ maxLength := by
  obtain ⟨s, -, hs⟩ := displayNameOf_eq_ok h
  obtain ⟨rfl, hempty, hlength⟩ := nameOfText_eq_ok_iff.1 hs
  exact ⟨Phrase.isTidy_strip hempty, hlength⟩

theorem isTidy_of_tidy {s t : Phrase} (h : tidy s = some t) : t.IsTidy := by
  unfold tidy at h
  simp only at h
  split at h
  · cases h
  · rename_i hempty
    cases h
    exact Phrase.isTidy_strip (Bool.eq_false_iff.2 hempty)

theorem fitted_eq_ok_iff {k : TextFacet} {s o : Option Phrase} : fitted k s = .ok o ↔
    o = s.bind tidy ∧ ∀ t ∈ o, k.isShort = true → t.length ≤ maxLength := by
  unfold fitted
  cases s.bind tidy with
  | none =>
    constructor
    · intro h
      cases h
      exact ⟨rfl, nofun⟩
    · rintro ⟨rfl, -⟩
      rfl
  | some t =>
    dsimp only
    split
    · rename_i hlong
      rw [Bool.and_eq_true, decide_eq_true_eq] at hlong
      refine iff_of_false (refuse_ne_ok _ _) ?_
      rintro ⟨rfl, hshort⟩
      exact absurd (hshort t rfl hlong.1) (Nat.not_le.2 hlong.2)
    · rename_i hlong
      constructor
      · intro h
        cases h
        refine ⟨rfl, ?_⟩
        rintro _ ⟨⟩ hshort
        simpa [hshort] using hlong
      · rintro ⟨rfl, -⟩
        rfl

theorem textOf_eq_ok_iff {k : TextFacet} {o : Option Phrase} : textOf payload k = .ok o ↔
    ∃ s, spelled payload k.name = .ok s ∧ fitted k s = .ok o :=
  bind_eq_ok_iff

theorem isNormalText_of_textOf {k : TextFacet} {o : Option Phrase}
    (h : textOf payload k = .ok o) : ∀ t ∈ o, IsNormalText k t := by
  rintro t rfl
  obtain ⟨s, -, hs⟩ := textOf_eq_ok_iff.1 h
  obtain ⟨htidy, hshort⟩ := fitted_eq_ok_iff.1 hs
  obtain ⟨v, -, hv⟩ := Option.bind_eq_some_iff.1 htidy.symm
  exact ⟨isTidy_of_tidy hv, hshort t rfl⟩

theorem textsOf_eq_ok_iff {k : ListFacet} {items : List Value} {stripped : List Phrase} :
    textsOf k items = .ok stripped ↔
      ∃ texts : List Phrase,
        items.map Value.text? = texts.map some ∧ stripped = texts.map Phrase.strip := by
  fun_induction textsOf k items generalizing stripped with
  | case1 =>
    constructor
    · intro h
      exact ⟨[], rfl, (Except.ok.inj h).symm⟩
    · rintro ⟨texts, htexts, rfl⟩
      rw [List.map_eq_nil_iff.1 htexts.symm]
      rfl
  | case2 v vs s hv ih =>
    rw [map_eq_ok_iff, List.map_cons, hv]
    constructor
    · rintro ⟨rest, hrest, rfl⟩
      obtain ⟨texts, htexts, rfl⟩ := ih.1 hrest
      exact ⟨s :: texts, by rw [List.map_cons, htexts], rfl⟩
    · rintro ⟨texts, htexts, rfl⟩
      cases texts with
      | nil => cases htexts
      | cons t texts =>
        obtain ⟨hs, hrest⟩ := List.cons.inj htexts
        obtain rfl := Option.some.inj hs
        exact ⟨texts.map Phrase.strip, ih.2 ⟨texts, hrest, rfl⟩, rfl⟩
  | case3 v vs hv =>
    refine iff_of_false (refuse_ne_ok _ _) ?_
    rintro ⟨texts, htexts, -⟩
    cases texts with
    | nil => cases htexts
    | cons t texts => exact absurd (List.cons.inj htexts).1 (by simp [hv])

theorem isNormalList_of_listOf {k : ListFacet} {ts : List Phrase}
    (h : listOf payload k = .ok ts) : IsNormalList ts := by
  unfold listOf at h
  split at h
  · cases h
    exact ⟨nofun, .nil, Nat.zero_le _⟩
  · rename_i items _
    split at h
    · exact absurd h (refuse_ne_ok _ _)
    · rename_i hitems
      obtain ⟨stripped, hstripped, rfl⟩ := map_eq_ok_iff.1 h
      obtain ⟨texts, htexts, rfl⟩ := textsOf_eq_ok_iff.1 hstripped
      have hlength : texts.length = items.length := by
        simpa using (congrArg List.length htexts).symm
      refine ⟨fun t ht => ?_, nodup_distinct _, ?_⟩
      · obtain ⟨hmem, hne⟩ := List.mem_filter.1 (mem_distinct.1 ht)
        obtain ⟨s, -, rfl⟩ := List.mem_map.1 hmem
        exact ⟨Phrase.strip_strip s, Phrase.isEmpty_eq_false_iff.2 (by simpa using hne)⟩
      · calc (distinct ((texts.map Phrase.strip).filter (· ≠ .plain ""))).length
          _ ≤ ((texts.map Phrase.strip).filter (· ≠ .plain "")).length := length_distinct_le _
          _ ≤ (texts.map Phrase.strip).length := List.length_filter_le _ _
          _ = items.length := by rw [List.length_map, hlength]
          _ ≤ maxItems := Nat.not_lt.1 hitems
  · exact absurd h (refuse_ne_ok _ _)

theorem isNormalRadius_of_isRadius {q : Quantity} (h : isRadius q = true) : IsNormalRadius q := by
  cases q with
  | flag b => cases h
  | whole n | real x => exact isNegative_eq_false_of_isRadius h

theorem isNormalRadius_of_radiusOf {o : Option Quantity} (h : radiusOf payload = .ok o) :
    ∀ q ∈ o, IsNormalRadius q := by
  rintro q rfl
  obtain ⟨-, -, -, hq⟩ := radiusOf_eq_ok h
  exact isNormalRadius_of_isRadius hq

/-- **What is accepted is in normal form.** -/
theorem isNormal_of_validate (h : validate payload = .ok f) : f.IsNormal := by
  have hs := validate_eq_ok_iff.1 h
  obtain ⟨htidy, hlength⟩ := isTidy_of_displayNameOf hs.displayName
  refine ⟨htidy, hlength, fun k => ?_, fun k => ?_, ?_, isNormalRadius_of_radiusOf hs.radius,
    Weights.le_limit_of_resolve hs.weights⟩
  · cases k with
    | aboutMe => exact isNormalText_of_textOf hs.aboutMe
    | city => exact isNormalText_of_textOf hs.city
    | collaboration => exact isNormalText_of_textOf hs.collaboration
    | food => exact isNormalText_of_textOf hs.food
    | music => exact isNormalText_of_textOf hs.music
  · cases k with
    | analogPassions => exact isNormalList_of_listOf hs.analogPassions
    | digitalDelights => exact isNormalList_of_listOf hs.digitalDelights
  · obtain ⟨place, hplace, hlat, hlon⟩ := hs.place
    refine ⟨place, hlat, hlon, ?_⟩
    rintro x rfl
    exact placeOf_within hplace

/-! ### What validation leaves as it is -/

theorem given?_of_member? {v : Value} {name : String} (o : Option Value) (ho : o ≠ some .null)
    (h : v.member? name = some (o.getD .null)) : v.given? name = o := by
  unfold Value.given?
  rw [h]
  cases o with
  | none => rfl
  | some x =>
    cases x with
    | null => exact absurd rfl ho
    | _ => rfl

theorem ofPhrase?_eq (o : Option Phrase) : ofPhrase? o = (o.map Value.str).getD .null := by
  cases o <;> rfl

theorem given?_text (f : Facets) (k : TextFacet) :
    f.toValue.given? k.name = (f.text k).map .str := by
  apply given?_of_member?
  · simp
  · rw [← ofPhrase?_eq]
    cases k <;> rfl

theorem given?_list (f : Facets) (k : ListFacet) :
    f.toValue.given? k.name = some (Value.ofTexts (f.list k)) := by
  cases k <;> rfl

theorem tidy_eq_self {t : Phrase} (h : t.IsTidy) : tidy t = some t := by
  unfold tidy
  simp only [h.strip, h.isEmpty, Bool.false_eq_true, if_false]

theorem displayNameOf_toValue (h : f.IsNormal) : displayNameOf f.toValue = .ok f.displayName := by
  have hgiven : (f.toValue.member? "display_name").getD .null = .str f.displayName := rfl
  have hmissing : isMissing (.str f.displayName) = false := by
    have hne := Phrase.isEmpty_eq_false_iff.1 h.displayName.isEmpty
    simp [isMissing, hne]
  unfold displayNameOf
  simp only [hgiven, hmissing, Bool.false_eq_true, if_false]
  exact nameOfText_eq_ok_iff.2
    ⟨h.displayName.strip.symm, h.displayName.isEmpty, h.displayNameLength⟩

theorem spelled_toValue (f : Facets) (k : TextFacet) :
    spelled f.toValue k.name = .ok (f.text k) := by
  unfold spelled
  rw [given?_text]
  cases f.text k <;> rfl

theorem textOf_toValue (h : f.IsNormal) (k : TextFacet) : textOf f.toValue k = .ok (f.text k) := by
  refine textOf_eq_ok_iff.2 ⟨f.text k, spelled_toValue f k, fitted_eq_ok_iff.2 ⟨?_, ?_⟩⟩
  · cases ht : f.text k with
    | none => rfl
    | some t => exact (tidy_eq_self (h.texts k t ht).isTidy).symm
  · exact fun t ht => (h.texts k t ht).length

theorem listOf_toValue (h : f.IsNormal) (k : ListFacet) : listOf f.toValue k = .ok (f.list k) := by
  have hnormal := h.lists k
  have hstrip : (f.list k).map Phrase.strip = f.list k :=
    (List.map_congr_left fun t ht => (hnormal.isTidy t ht).strip).trans (List.map_id _)
  have htexts : textsOf k ((f.list k).map .str) = .ok (f.list k) :=
    textsOf_eq_ok_iff.2 ⟨f.list k, by rw [List.map_map]; rfl, hstrip.symm⟩
  have hfilter : (f.list k).filter (· ≠ .plain "") = f.list k :=
    List.filter_eq_self.2 fun t ht => by
      simpa using Phrase.isEmpty_eq_false_iff.1 (hnormal.isTidy t ht).isEmpty
  unfold listOf
  rw [given?_list]
  simp only [Value.ofTexts, List.length_map, if_neg (Nat.not_lt.2 hnormal.length)]
  rw [htexts]
  show Except.ok (distinct ((f.list k).filter (· ≠ .plain ""))) = _
  rw [hfilter, distinct_eq_self hnormal.nodup]

theorem quantityOf_toValue (q : Quantity) : quantityOf q.toValue = .ok q := by
  rw [quantityOf, Quantity.ofValue?_toValue]

theorem given?_quantity {v : Value} {name : String} (o : Option Quantity)
    (h : v.member? name = some ((o.map Quantity.toValue).getD .null)) :
    v.given? name = o.map Quantity.toValue := by
  refine given?_of_member? _ ?_ h
  rcases o with _ | (_ | _ | _) <;> simp [Quantity.toValue]

theorem placeOf_toValue (h : f.IsNormal) :
    ∃ place, placeOf f.toValue = .ok place ∧ f.lat = place.map Prod.fst ∧
      f.lon = place.map Prod.snd := by
  have hlat : f.toValue.given? "location_lat" = f.lat.map Quantity.toValue := given?_quantity _ rfl
  have hlon : f.toValue.given? "location_lon" = f.lon.map Quantity.toValue := given?_quantity _ rfl
  obtain ⟨place, hflat, hflon, hwithin⟩ := h.place
  refine ⟨place, ?_, hflat, hflon⟩
  unfold placeOf
  rw [hlat, hlon, hflat, hflon]
  cases place with
  | none => rfl
  | some x =>
    obtain ⟨h90, h180⟩ := hwithin x rfl
    refine bind_eq_ok_iff.2 ⟨x.1, ?_, bind_eq_ok_iff.2 ⟨x.2, ?_, rfl⟩⟩
    · exact coordinateOf_eq_ok_iff.2 ⟨quantityOf_toValue _, h90⟩
    · exact coordinateOf_eq_ok_iff.2 ⟨quantityOf_toValue _, h180⟩

theorem isRadius_of_isNormalRadius {q : Quantity} (h : IsNormalRadius q) : isRadius q = true := by
  cases q with
  | flag b => exact h.elim
  | whole n | real x => exact congrArg not h

theorem radiusOf_toValue (h : f.IsNormal) : radiusOf f.toValue = .ok f.radius := by
  have hgiven : f.toValue.given? "max_radius_km" = f.radius.map Quantity.toValue :=
    given?_quantity _ rfl
  unfold radiusOf
  rw [hgiven]
  cases hr : f.radius with
  | none => rfl
  | some q =>
    refine bind_eq_ok_iff.2 ⟨q, quantityOf_toValue q, ?_⟩
    rw [if_pos (isRadius_of_isNormalRadius (h.radius q hr))]
    rfl

theorem weightsOf_toValue (h : f.IsNormal) : weightsOf f.toValue = .ok f.weights :=
  Weights.resolve_toValue h.weights

/-- **Facets in normal form are accepted for what they are.** -/
theorem validate_toValue (h : f.IsNormal) : validate f.toValue = .ok f :=
  validate_eq_ok_iff.2
    { displayName := displayNameOf_toValue h
      aboutMe := textOf_toValue h .aboutMe
      city := textOf_toValue h .city
      collaboration := textOf_toValue h .collaboration
      food := textOf_toValue h .food
      music := textOf_toValue h .music
      analogPassions := listOf_toValue h .analogPassions
      digitalDelights := listOf_toValue h .digitalDelights
      place := placeOf_toValue h
      radius := radiusOf_toValue h
      weights := weightsOf_toValue h }

end Facets

/-! ## Normal profiles -/

namespace Profile

/-- The payload that states the columns of a profile. -/
def payload (p : Profile) : Value :=
  .obj [("display_name", .str p.displayName), ("about_me", Value.ofText? p.aboutMe),
    ("location_city", Value.ofText? p.city),
    ("collaboration_interests", Value.ofText? p.collaboration),
    ("favorite_food", Value.ofText? p.food), ("favorite_music", Value.ofText? p.music),
    ("analog_passions", p.analogPassions.getD .null),
    ("digital_delights", p.digitalDelights.getD .null),
    ("location_lat", (p.lat.map Quantity.toValue).getD .null),
    ("location_lon", (p.lon.map Quantity.toValue).getD .null),
    ("max_radius_km", (p.maxRadius.map Quantity.toValue).getD .null),
    ("match_preferences", p.preferences.getD .null)]

/-- The columns of a profile are accepted for what they are. -/
def IsFixed (p : Profile) : Prop :=
  ∃ f, Facets.validate p.payload = .ok f ∧ f.toValue = p.payload

theorem isFixed_of_isNormal {p : Profile} {f : Facets} (hf : f.IsNormal)
    (hp : p.payload = f.toValue) : p.IsFixed :=
  ⟨f, by rw [hp, Facets.validate_toValue hf], hp.symm⟩

theorem exists_of_coordinateColumn {bound : Nat} (hb : bound ∈ coordinateBounds) {q : Quantity}
    {r : Option Quantity} (hq : q.within bound = true) (h : coordinateColumn (some q) = .ok r) :
    ∃ q', r = some q' ∧ q'.within bound = true := by
  have hwithin := within_coordinateColumn hb hq h
  cases r with
  | some q' => exact ⟨q', rfl, hwithin⟩
  | none =>
    -- only what is no number is not kept, and that lies in no range
    cases q with
    | flag b => cases h
    | whole n =>
      simp only [coordinateColumn] at h
      split at h
      · cases h
      · exact absurd h (broken_ne_ok _ _)
    | real x =>
      simp only [coordinateColumn, Except.ok.injEq] at h
      split at h
      · rename_i hnan
        have hx : x.toModel.unpack = .notANumber := Doubles.isNaN_iff.1 hnan
        simp [Quantity.within, Doubles.not_le_of_nan hx] at hq
      · cases h

theorem isNormalRadius_of_radiusColumn {q q' : Quantity} (hq : Facets.IsNormalRadius q)
    (h : radiusColumn (some q) = .ok (some q')) : Facets.IsNormalRadius q' := by
  have hnegative : q.isNegative = false := by
    cases q with
    | flag b => exact hq.elim
    | whole n | real x => exact hq
  have hnegative' : q'.isNegative = false := not_isNegative_radiusColumn hnegative h
  cases q' with
  | whole n | real x => exact hnegative'
  | flag b =>
    -- the column makes whole numbers of flags
    cases q with
    | flag b => exact hq.elim
    | whole n =>
      simp only [radiusColumn] at h
      split at h
      · cases h
      · exact absurd h (broken_ne_ok _ _)
    | real x =>
      simp only [radiusColumn, realColumn] at h
      split at h
      · cases h
      · split at h
        · split at h <;> cases h
        · cases h

theorem ofText?_eq (o : Option String) : Value.ofText? o = Facets.ofPhrase? (o.map .plain) := by
  cases o <;> rfl

theorem payload_of_hasTexts {p : Profile} {f : Facets} (h : p.HasTexts f) :
    p.payload = Facets.toValue { f with lat := p.lat, lon := p.lon, radius := p.maxRadius } := by
  simp only [payload, Facets.toValue, ofText?_eq, h.displayName, h.aboutMe, h.city,
    h.collaboration, h.food, h.music, h.analogPassions, h.digitalDelights, h.preferences,
    Option.getD_some]

theorem isNormal_ofFacets {user : Int} {f : Facets} {p : Profile} (hf : f.IsNormal)
    (h : ofFacets user f = .ok p) :
    Facets.IsNormal { f with lat := p.lat, lon := p.lon, radius := p.maxRadius } := by
  have hmade := ofFacets_eq_ok_iff.1 h
  have hlat := hmade.lat
  have hlon := hmade.lon
  have hr := hmade.maxRadius
  refine { hf with
    texts := fun k => ?_, lists := fun k => ?_, place := ?_, radius := fun q hq => ?_ }
  · have htexts := hf.texts k
    cases k <;> exact htexts
  · have hlists := hf.lists k
    cases k <;> exact hlists
  · obtain ⟨place, hflat, hflon, hwithin⟩ := hf.place
    rw [hflat] at hlat
    rw [hflon] at hlon
    cases place with
    | none => exact ⟨none, (Except.ok.inj hlat).symm, (Except.ok.inj hlon).symm, nofun⟩
    | some x =>
      obtain ⟨h90, h180⟩ := hwithin x rfl
      obtain ⟨lat, hlat, hlatin⟩ := exists_of_coordinateColumn (by decide) h90 hlat
      obtain ⟨lon, hlon, hlonin⟩ := exists_of_coordinateColumn (by decide) h180 hlon
      refine ⟨some (lat, lon), hlat, hlon, ?_⟩
      rintro _ ⟨⟩
      exact ⟨hlatin, hlonin⟩
  · have hq : p.maxRadius = some q := hq
    rw [hq] at hr
    cases hfr : f.radius with
    | none =>
      rw [hfr] at hr
      cases hr
    | some q₀ =>
      rw [hfr] at hr
      exact isNormalRadius_of_radiusColumn (hf.radius q₀ hfr) hr

/-- **The columns of a profile that is saved are accepted for what they are.** -/
theorem isFixed_ofFacets {payload : Value} {f : Facets} {user : Int} {p : Profile}
    (hf : Facets.validate payload = .ok f) (hp : ofFacets user f = .ok p) : p.IsFixed :=
  isFixed_of_isNormal (isNormal_ofFacets (Facets.isNormal_of_validate hf) hp)
    (payload_of_hasTexts (ofFacets_eq_ok_iff.1 hp).toHasTexts)

end Profile

end Matchmaker
