import Matchmaker.Proofs.Calls

/-!
# Complete profiles

A save completes a profile, and no call takes a profile away or makes it incomplete again. Whoever
is complete once stays so, and the members of a connection, who were complete when it was asked for,
stay so with it.

* `profile?_putProfile`: what is looked up after a save;
* **`isComplete_afterAll`**: a complete profile outlasts every run;
* `Store.IsAnchored`, `IsAnchored.call`: connections are between complete profiles.
-/

namespace Matchmaker.Store

variable {s s' : Store} {user : Int} {p : Profile}

/-! ## Saves -/

/-- **What is looked up after a save.** -/
theorem profile?_putProfile (s : Store) (p : Profile) (user : Int) :
    (s.putProfile p).profile? user = if p.user = user then some p else s.profile? user := by
  unfold putProfile
  split
  · rename_i hany
    -- the row that was there is found as before, with the new one in its place
    have hkey : ((fun q : Profile => q.user == user) ∘ fun q => if q.user == p.user then p else q) =
        fun q => q.user == user := by
      funext q
      simp only [Function.comp_apply]
      split
      · rename_i hq
        rw [beq_iff_eq.1 hq]
      · rfl
    unfold profile?
    rw [List.find?_map, hkey]
    cases hfound : s.profiles.find? (·.user == user) with
    | none =>
      obtain ⟨q, hq, hqp⟩ := List.any_eq_true.1 hany
      have hne : p.user ≠ user := fun h =>
        List.find?_eq_none.1 hfound q hq (by rw [beq_iff_eq.1 hqp, beq_iff_eq.2 h])
      rw [if_neg hne]
      rfl
    | some q =>
      have hq : q.user = user := (mem_of_profile? hfound).2
      by_cases h : p.user = user
      · simp [hq, h]
      · simp [hq, h, Ne.symm h]
  · rename_i hany
    rw [Bool.not_eq_true, List.any_eq_false] at hany
    unfold profile?
    rw [List.find?_append]
    by_cases h : p.user = user
    · have hnone : s.profiles.find? (·.user == user) = none :=
        List.find?_eq_none.2 fun q hq => h ▸ hany q hq
      rw [hnone, if_pos h]
      simp [h]
    · rw [if_neg h]
      simp [h]

theorem isComplete_putProfile (hp : p.complete = true) (h : s.isComplete user = true) :
    (s.putProfile p).isComplete user = true := by
  rw [isComplete_iff, profile?_putProfile]
  split
  · exact ⟨p, rfl, hp⟩
  · exact isComplete_iff.1 h

/-! ## Calls -/

theorem isComplete_congr (h : s'.profiles = s.profiles) (user : Int) :
    s'.isComplete user = s.isComplete user := by
  unfold isComplete profile?
  rw [h]

theorem isComplete_call {now : Instant} {c : Call} {reply : Reply}
    (hc : c.run now s = .ok (reply, s')) (h : s.isComplete user = true) :
    s'.isComplete user = true := by
  cases Call.run_eq_ok_iff.1 hc with
  | transition ht => rwa [isComplete_congr (profiles_of_run ht)]
  | dismiss hd => rwa [isComplete_congr (profiles_of_dismiss hd)]
  | upsert hu =>
    obtain ⟨f, -, -, hp, rfl⟩ := upsert_eq_ok_iff.1 hu
    exact isComplete_putProfile (Profile.ofFacets_eq_ok_iff.1 hp).complete h

/-- **A complete profile outlasts every run.** -/
theorem isComplete_afterAll (h : s.isComplete user = true) (calls : List (Instant × Call)) :
    (s.afterAll calls).isComplete user = true :=
  afterAll_induction (P := fun s => s.isComplete user = true)
    (fun _ _ _ _ _ hs hc => isComplete_call hc hs) h

/-! ## Connections -/

/-- Every connection is between members with complete profiles. -/
def IsAnchored (s : Store) : Prop :=
  ∀ c ∈ s.connections, s.isComplete c.requester = true ∧ s.isComplete c.target = true

/-- **Connections stay between complete profiles.** -/
theorem IsAnchored.call (h : s.IsAnchored) {now : Instant} {c : Call} {reply : Reply}
    (hc : c.run now s = .ok (reply, s')) : s'.IsAnchored := by
  have hkept : ∀ {user}, s.isComplete user = true → s'.isComplete user = true :=
    fun hcomplete => isComplete_call hc hcomplete
  cases Call.run_eq_ok_iff.1 hc with
  | transition ht =>
    obtain ⟨-, w, hw, -, rfl⟩ := Transition.run_eq_ok_iff.1 ht
    intro d hd
    rw [write_eq] at hd
    rcases origin_of_mem_apply hw.isOn hd with ⟨e, he, -, hr, ht⟩ | ⟨rfl, rfl⟩
    · rw [hr, ht]
      exact ⟨hkept (h e he).1, hkept (h e he).2⟩
    · -- a new row is one that a member with a complete profile asked another with one for
      obtain ⟨-, hcaller, hother, -, -⟩ := hw.of_insert
      exact ⟨hkept hcaller, hkept hother⟩
  | dismiss hd =>
    intro d hmem
    rw [connections_of_dismiss hd] at hmem
    exact ⟨hkept (h d hmem).1, hkept (h d hmem).2⟩
  | upsert hu =>
    intro d hmem
    rw [connections_of_upsert hu] at hmem
    exact ⟨hkept (h d hmem).1, hkept (h d hmem).2⟩

end Matchmaker.Store
