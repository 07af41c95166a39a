import Matchmaker.Compatibility.Scorecard
import Matchmaker.Proofs.Completeness

/-!
# Profiles that can be used

What is read of a profile later must have the form that it was saved in: its preferences state
weights and its lists hold texts. Profiles that the service saves are of that form, so a store of
them stays one; only what comes from elsewhere is not.

* `resolve_toValue`: weights that are written down are read again;
* `Profile.IsUsable`, **`isUsable_of_facets`**: a profile that is saved can be used;
* `Store.IsUsable`, **`IsUsable.afterAll`**: the stores on which nothing that is stored can fail.
-/

namespace Matchmaker

open Json (Value Members)

/-! ## Weights -/

namespace PerDimension

variable {α ε : Type} {f : Dimension → Except ε α} {p : PerDimension α}

theorem ofExcept_eq_ok_iff : ofExcept f = .ok p ↔ ∀ d, f d = .ok (p.get d) := by
  simp only [ofExcept, bind_eq_ok_iff, pure_eq_ok_iff]
  constructor
  · rintro ⟨_, h₁, _, h₂, _, h₃, _, h₄, _, h₅, _, h₆, rfl⟩ d
    cases d <;> assumption
  · intro h
    exact ⟨_, h .analogPassions, _, h .digitalDelights, _, h .collaboration, _, h .food, _,
      h .music, _, h .location, rfl⟩

end PerDimension

namespace Weights

variable {preferences : Option Value} {w : Weights}

@[simp] theorem refuseOutside_ne_ok {β : Type} (d : Dimension) (n : Int) (b : β) :
    refuseOutside d n ≠ .ok b := by
  unfold refuseOutside
  cases Decimal.written n <;> nofun

theorem le_limit_of_ofValue {d : Dimension} {v : Value} {n : Nat} (h : ofValue d v = .ok n) :
    n ≤ limit := by
  unfold ofValue at h
  split at h
  · cases h
  · split at h
    · rename_i hn
      obtain rfl := Except.ok.inj h
      rw [Bool.and_eq_true, decide_eq_true_eq, decide_eq_true_eq] at hn
      omega
    · exact absurd h (refuseOutside_ne_ok _ _ _)

theorem le_limit_of_resolve (h : resolve preferences = .ok w) (d : Dimension) :
    w.get d ≤ limit := by
  unfold resolve at h
  split at h
  · rw [← Except.ok.inj h, PerDimension.get_ofFn]
    exact Nat.zero_le _
  · rw [← Except.ok.inj h, PerDimension.get_ofFn]
    exact Nat.zero_le _
  · exact le_limit_of_ofValue (PerDimension.ofExcept_eq_ok_iff.1 h d)
  · cases h

theorem find?_toMembers (w : Weights) (d : Dimension) :
    Members.find? d.name w.toMembers = some (.int (w.get d)) := by
  cases d <;> rfl

/-- **Weights that are written down are read again.** -/
theorem resolve_toValue (h : ∀ d, w.get d ≤ limit) : resolve (some w.toValue) = .ok w := by
  refine PerDimension.ofExcept_eq_ok_iff.2 fun d => ?_
  rw [ofMembers, find?_toMembers, Option.getD_some]
  exact ofValue_int d (h d)

end Weights

/-! ## Lists -/

theorem isTexts?_ofTexts (ss : List Phrase) : Value.isTexts? (some (Value.ofTexts ss)) = true := by
  simp [Value.isTexts?, Value.ofTexts, Value.text?]

theorem isListed_of_isTexts? {column : Option Value} (h : Value.isTexts? column = true) :
    Interests.isListed column = true := by
  unfold Value.isTexts? at h
  split at h
  · rfl
  · rfl
  · rename_i items
    rw [List.all_eq_true] at h
    refine List.all_eq_true.2 fun v hv => ?_
    obtain ⟨s, hs⟩ := Option.isSome_iff_exists.1 (h v hv)
    obtain rfl := Value.text?_eq_some_iff.1 hs
    rfl
  · cases h

/-! ## Profiles -/

/-- The preferences of a profile state weights and its lists hold texts. -/
structure Profile.IsUsable (p : Profile) : Prop where
  weights : ∃ w, Weights.resolve p.preferences = .ok w
  analogPassions : Value.isTexts? p.analogPassions = true
  digitalDelights : Value.isTexts? p.digitalDelights = true

namespace Profile

theorem IsUsable.admits {p : Profile} (h : p.IsUsable) : Scorecard.admits p = true := by
  rw [Scorecard.admits, Bool.and_eq_true]
  exact ⟨isListed_of_isTexts? h.analogPassions, isListed_of_isTexts? h.digitalDelights⟩

/-- **A profile that is saved can be used.** -/
theorem isUsable_of_facets {payload : Value} {f : Facets} {user : Int} {p : Profile}
    (hf : Facets.validate payload = .ok f) (hp : ofFacets user f = .ok p) : p.IsUsable := by
  have hmade := ofFacets_eq_ok_iff.1 hp
  refine ⟨⟨f.weights, ?_⟩, ?_, ?_⟩
  · rw [hmade.preferences]
    exact Weights.resolve_toValue
      (Weights.le_limit_of_resolve (Facets.validate_eq_ok_iff.1 hf).weights)
  · rw [hmade.analogPassions]
    exact isTexts?_ofTexts _
  · rw [hmade.digitalDelights]
    exact isTexts?_ofTexts _

end Profile

/-! ## Stores -/

namespace Store

variable {s s' : Store}

/-- A lawful store with connections between complete profiles, and all profiles can be used. -/
structure IsUsable (s : Store) : Prop extends IsLawful s where
  anchored : s.IsAnchored
  usable : ∀ p ∈ s.profiles, p.IsUsable

theorem IsUsable.call (h : s.IsUsable) {now : Instant} {c : Call} {reply : Reply}
    (hc : c.run now s = .ok (reply, s')) : s'.IsUsable := by
  refine { h.toIsLawful.call hc with anchored := h.anchored.call hc, usable := fun p hp => ?_ }
  cases Call.run_eq_ok_iff.1 hc with
  | transition ht =>
    rw [profiles_of_run ht] at hp
    exact h.usable p hp
  | dismiss hd =>
    rw [profiles_of_dismiss hd] at hp
    exact h.usable p hp
  | upsert hu =>
    obtain ⟨f, hf, -, hq, hs⟩ := upsert_eq_ok_iff.1 hu
    rw [hs] at hp
    rcases mem_putProfile hp with rfl | hp
    · exact Profile.isUsable_of_facets hf hq
    · exact h.usable p hp

/-- **What can be used stays so.** -/
theorem IsUsable.afterAll (h : s.IsUsable) (calls : List (Instant × Call)) :
    (s.afterAll calls).IsUsable :=
  afterAll_induction (fun _ _ _ _ _ hs hc => hs.call hc) h

end Store

end Matchmaker
