import Matchmaker.Proofs.Normalising

/-!
# Values that an encoding can write

A payload whose texts hold no half of a surrogate pair is accepted, if it is, for facets that hold
none. An encoding can write what is made of them.

* `Json.Value.isEncodable_strict`: strict JSON writes the same texts;
* `isEncodable_of_member?`, `isEncodable_ofTexts`: members of an object and lists of texts;
* `Facets.IsEncodable`, **`isEncodable_of_validate`**: facets without halves of surrogate pairs.
-/

namespace Matchmaker

namespace Json.Value

variable {v : Value} {members : Members} {name : String}

/-! ## Parts of a value -/

theorem areEncodable_iff {vs : List Value} :
    areEncodable vs = true ↔ ∀ v ∈ vs, v.isEncodable = true := by
  induction vs with
  | nil => exact iff_of_true rfl nofun
  | cons v vs ih => rw [areEncodable, Bool.and_eq_true, ih, List.forall_mem_cons]

theorem isEncodable_of_find? (h : memberAreEncodable members = true)
    (hv : Members.find? name members = some v) : v.isEncodable = true := by
  induction members with
  | nil => cases hv
  | cons m rest ih =>
    obtain ⟨key, w⟩ := m
    rw [memberAreEncodable, Bool.and_eq_true, Bool.and_eq_true] at h
    rw [Members.find?] at hv
    split at hv
    · exact Option.some.inj hv ▸ h.1.2
    · exact ih h.2 hv

theorem isEncodable_of_member? {payload : Value} (h : payload.isEncodable = true)
    (hv : payload.member? name = some v) : v.isEncodable = true := by
  cases payload with
  | obj members => exact isEncodable_of_find? h hv
  | null | bool | int | real | str | arr => cases hv

theorem member?_of_given? {payload : Value} (h : payload.given? name = some v) :
    payload.member? name = some v := by
  unfold given? at h
  split at h
  · cases h
  · exact h

theorem isEncodable_ofTexts {ts : List Phrase} :
    (ofTexts ts).isEncodable = true ↔ ∀ t ∈ ts, t.encoded.isSome = true := by
  rw [ofTexts, isEncodable, areEncodable_iff, List.forall_mem_map]
  rfl

theorem isEncodable_ofText? (o : Option String) : (ofText? o).isEncodable = true := by
  cases o <;> rfl

mutual

theorem isEncodable_strict : ∀ v : Value, v.strict.isEncodable = v.isEncodable
  | real x => by
    rw [strict]
    split <;> rfl
  | arr items => by rw [strict, isEncodable, isEncodable, areEncodable_stricts items]
  | obj members => by rw [strict, isEncodable, isEncodable, memberAreEncodable_stricts members]
  | null | bool _ | int _ | str _ => rfl

theorem areEncodable_stricts : ∀ vs : List Value, areEncodable (stricts vs) = areEncodable vs
  | [] => rfl
  | v :: vs => by
    rw [stricts, areEncodable, areEncodable, isEncodable_strict v, areEncodable_stricts vs]

theorem memberAreEncodable_stricts :
    ∀ ms : List (Phrase × Value), memberAreEncodable (memberStricts ms) = memberAreEncodable ms
  | [] => rfl
  | (_, v) :: ms => by
    rw [memberStricts, memberAreEncodable, memberAreEncodable, isEncodable_strict v,
      memberAreEncodable_stricts ms]

end

/-- What a value is spelled as in a message holds no half of a pair, unless it is a text that
does. -/
theorem encoded_of_text {t : Phrase} (h : v.isEncodable = true) (ht : v.text = .ok t) :
    t.encoded.isSome = true := by
  unfold text at ht
  split at ht
  · obtain rfl := Except.ok.inj ht
    exact h
  · obtain ⟨spelled, -, rfl⟩ := map_eq_ok_iff.1 ht
    rfl

end Json.Value

open Json (Value)

/-! ## Facets -/

theorem Phrase.encoded_strip {t : Phrase} (h : t.encoded.isSome = true) :
    t.strip.encoded.isSome = true := by
  cases t with
  | plain s => rfl
  | halved t => cases h

namespace Facets

variable {payload : Value} {f : Facets}

/-- No text of the facets holds half of a surrogate pair. -/
structure IsEncodable (f : Facets) : Prop where
  displayName : f.displayName.encoded.isSome = true
  texts : ∀ k, ∀ t ∈ f.text k, t.encoded.isSome = true
  lists : ∀ k, ∀ t ∈ f.list k, t.encoded.isSome = true

theorem encoded_of_tidy {s t : Phrase} (hs : s.encoded.isSome = true) (h : tidy s = some t) :
    t.encoded.isSome = true := by
  unfold tidy at h
  simp only at h
  split at h
  · cases h
  · exact Option.some.inj h ▸ Phrase.encoded_strip hs

theorem encoded_of_spelled {name : String} {s : Option Phrase} (hp : payload.isEncodable = true)
    (h : spelled payload name = .ok s) : ∀ t ∈ s, t.encoded.isSome = true := by
  rintro t rfl
  unfold spelled at h
  split at h
  · cases h
  · rename_i v hv
    have hencodable := Value.isEncodable_of_member? hp (Value.member?_of_given? hv)
    obtain ⟨u, hu, hut⟩ := map_eq_ok_iff.1 h
    cases hut
    cases htext : v.text with
    | error what =>
      rw [htext] at hu
      cases hu
    | ok w =>
      rw [htext] at hu
      cases hu
      exact Value.encoded_of_text hencodable htext

theorem encoded_of_listsTexts {k : ListFacet} {texts : List Phrase}
    (hp : payload.isEncodable = true) (h : ListsTexts payload k texts) :
    ∀ t ∈ texts, t.encoded.isSome = true := by
  rcases h with ⟨-, rfl⟩ | ⟨items, hgiven, htexts⟩
  · exact nofun
  · intro t ht
    have hitems : (Value.arr items).isEncodable = true :=
      Value.isEncodable_of_member? hp (Value.member?_of_given? hgiven)
    rw [Value.isEncodable, Value.areEncodable_iff] at hitems
    obtain ⟨v, hv, hvt⟩ := List.mem_map.1 (htexts ▸ List.mem_map_of_mem ht)
    rw [Value.text?_eq_some_iff] at hvt
    have hencodable := hitems v hv
    rwa [hvt] at hencodable

/-- **What is accepted without halves of surrogate pairs is stored without them.** -/
theorem isEncodable_of_validate (hp : payload.isEncodable = true) (h : validate payload = .ok f) :
    f.IsEncodable := by
  have hform := isFormOf_of_validate h
  refine ⟨?_, fun k t ht => ?_, fun k t ht => ?_⟩
  · obtain ⟨s, hs, hname⟩ := hform.displayName
    obtain ⟨v, hv, hvs⟩ := Option.bind_eq_some_iff.1 hs
    have hencodable := Value.isEncodable_of_member? hp hv
    rw [Value.text?_eq_some_iff.1 hvs] at hencodable
    exact hname ▸ Phrase.encoded_strip hencodable
  · obtain ⟨s, hs, htext⟩ := hform.texts k
    rw [Option.mem_def, htext] at ht
    obtain ⟨u, hu, hut⟩ := Option.bind_eq_some_iff.1 ht
    exact encoded_of_tidy (encoded_of_spelled hp hs u hu) hut
  · obtain ⟨texts, htexts, -, hfirsts⟩ := hform.lists k
    obtain ⟨hmem, -⟩ := List.mem_filter.1 ((hfirsts.mem t).1 ht)
    obtain ⟨s, hs, rfl⟩ := List.mem_map.1 hmem
    exact Phrase.encoded_strip (encoded_of_listsTexts hp htexts s hs)

end Facets

end Matchmaker
