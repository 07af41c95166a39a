import Matchmaker.Proofs.Ledger
import Matchmaker.Proofs.Normal

/-!
# Stores that only the service has written

Where all rows come from calls, every profile is complete and accepted again for what it is, its
preferences state weights up to the limit, and connections and dismissals lead to complete profiles.
Such profiles serve every search: recommendations are refused to whoever has no profile and to
nobody else.

* `Store.IsSaved`, **`IsSaved.afterAll`**: the stores that only calls have written;
* `recommend_eq_refuse_iff`: to whom recommendations are refused, with distances on the sphere;
* **`saved_profiles_stay_usable`**: what holds after every run from tables without rows.
-/

namespace Matchmaker

/-! ## Searches that are not refused -/

theorem bind_ne_refuse {β γ : Type} {x : Except Failure β} {f : β → Except Failure γ}
    {why : Refusal} (hx : x ≠ refuse why) (hf : ∀ b, x = .ok b → f b ≠ refuse why) :
    (x >>= f) ≠ refuse why := by
  cases x with
  | ok b => exact hf b rfl
  | error e => exact fun h => hx (Except.error.inj h ▸ rfl)

theorem ok_ne_refuse {β : Type} (b : β) (why : Refusal) : .ok b ≠ refuse why :=
  (refuse_ne_ok why b).symm

theorem orBroken_ne_refuse {β : Type} (x : Except Fault β) (why : Refusal) :
    orBroken x ≠ refuse why := by
  cases x with
  | ok b => exact ok_ne_refuse b why
  | error what => exact fun h => by cases h

namespace Store

variable {α : Type} [Trig α] {s s' : Store} {me : Profile} {user : Int} {why : Refusal}

theorem between_sphere_ne_refuse (p q : Profile) (why : Refusal) :
    (Geometry.sphere α).between p q ≠ refuse why := by
  unfold Geometry.between
  split
  · exact bind_ne_refuse (orBroken_ne_refuse _ why) fun _ _ => ok_ne_refuse _ why
  · exact ok_ne_refuse _ why

theorem near_sphere_ne_refuse (x : Point Quantity) (r : α) (why : Refusal) :
    (Geometry.sphere α).near x r ≠ refuse why :=
  bind_ne_refuse (orBroken_ne_refuse _ why) fun _ _ => ok_ne_refuse _ why

theorem measured_sphere_ne_refuse (me : Profile) (ps : List Profile) (why : Refusal) :
    measured (Geometry.sphere α) me ps ≠ refuse why := by
  induction ps with
  | nil => exact ok_ne_refuse _ why
  | cons p ps ih =>
    refine bind_ne_refuse (between_sphere_ne_refuse me p why) fun _ _ => ?_
    exact bind_ne_refuse ih fun _ _ => ok_ne_refuse _ why

theorem candidates_sphere_ne_refuse (s : Store) (hcomplete : me.complete = true) (why : Refusal) :
    s.candidates (Geometry.sphere α) me ≠ refuse why := by
  cases hradius : me.radius.isPositive with
  | false =>
    rw [candidates_of_unlimited hcomplete hradius]
    exact measured_sphere_ne_refuse me _ why
  | true =>
    simp only [candidates, hcomplete, hradius, Bool.not_true, Bool.false_eq_true, if_false, if_true]
    cases me.place? with
    | none => exact ok_ne_refuse _ why
    | some x =>
      refine bind_ne_refuse (near_sphere_ne_refuse x _ why) fun _ _ => ?_
      exact bind_ne_refuse (measured_sphere_ne_refuse me _ why) fun _ _ => ok_ne_refuse _ why

theorem recommend_sphere_ne_refuse (hme : s.profile? user = some me)
    (hcomplete : me.complete = true) {w : Weights} (hw : Weights.resolve me.preferences = .ok w)
    (why : Refusal) : s.recommend (Geometry.sphere α) user ≠ refuse why := by
  by_cases htotal : w.total = 0
  · rw [recommend_of_total_eq_zero hme hcomplete hw htotal]
    exact ok_ne_refuse _ why
  · cases hcs : s.candidates (Geometry.sphere α) me with
    | ok cs =>
      rw [recommend_of_candidates hme hcomplete hw htotal hcs]
      split
      · exact ok_ne_refuse _ why
      · exact fun h => by cases h
    | error e =>
      unfold recommend compared
      rw [seeker_eq_ok_iff.2 ⟨hme, hcomplete⟩]
      simp only [bind, Except.bind, hw, htotal, hcs, if_false]
      exact fun h => candidates_sphere_ne_refuse s hcomplete why (hcs.trans (by cases h; rfl))

/-! ## Stores that calls have written -/

/-- What holds of all profiles after a call is what held before it, and holds of a new profile. -/
theorem forall_profiles_call {P : Profile → Prop} {now : Instant} {c : Call} {reply : Reply}
    (h : ∀ p ∈ s.profiles, P p)
    (hnew : ∀ (payload : Json.Value) (f : Facets) (user : Int) (p : Profile),
      Facets.validate payload = .ok f → Profile.ofFacets user f = .ok p → P p)
    (hc : c.run now s = .ok (reply, s')) : ∀ p ∈ s'.profiles, P p := by
  intro p hp
  cases Call.run_eq_ok_iff.1 hc with
  | transition ht =>
    rw [profiles_of_run ht] at hp
    exact h p hp
  | dismiss hd =>
    rw [profiles_of_dismiss hd] at hp
    exact h p hp
  | upsert hu =>
    obtain ⟨f, hf, -, hq, hs⟩ := upsert_eq_ok_iff.1 hu
    rw [hs] at hp
    rcases mem_putProfile hp with rfl | hp
    · exact hnew _ f _ p hf hq
    · exact h p hp

/-- A store that only calls have written: all profiles are complete, are accepted again for what
they are and state weights, and connections and dismissals lead to such profiles. -/
structure IsSaved (s : Store) : Prop where
  complete : ∀ p ∈ s.profiles, p.complete = true
  fixed : ∀ p ∈ s.profiles, p.IsFixed
  weights : ∀ p ∈ s.profiles, ∃ w, Weights.resolve p.preferences = .ok w ∧
    ∀ d, w.get d ≤ Weights.limit
  anchored : s.IsAnchored
  ledger : ∀ d ∈ s.dismissals, s.isComplete d.dismissed = true

theorem isSaved_of_noRows (hp : s.profiles = []) (hc : s.connections = [])
    (hd : s.dismissals = []) : s.IsSaved where
  complete p h := by simp [hp] at h
  fixed p h := by simp [hp] at h
  weights p h := by simp [hp] at h
  anchored c h := by simp [hc] at h
  ledger d h := by simp [hd] at h

namespace IsSaved

theorem isComplete (h : s.IsSaved) {p : Profile} (hp : s.profile? user = some p) :
    s.isComplete user = true :=
  isComplete_iff.2 ⟨p, hp, h.complete p (mem_of_profile? hp).1⟩

theorem call (h : s.IsSaved) {now : Instant} {c : Call} {reply : Reply}
    (hc : c.run now s = .ok (reply, s')) : s'.IsSaved where
  complete := forall_profiles_call h.complete
    (fun _ _ _ _ _ hq => (Profile.ofFacets_eq_ok_iff.1 hq).complete) hc
  fixed := forall_profiles_call h.fixed (fun _ _ _ _ hf hq => Profile.isFixed_ofFacets hf hq) hc
  weights := by
    refine forall_profiles_call h.weights (fun _ f _ _ hf hq => ?_) hc
    have hlimit := (Facets.isNormal_of_validate hf).weights
    have hpreferences := (Profile.ofFacets_eq_ok_iff.1 hq).preferences
    exact ⟨f.weights, hpreferences ▸ Weights.resolve_toValue hlimit, hlimit⟩
  anchored := h.anchored.call hc
  ledger := by
    intro d hd
    have hkept : d ∈ s.dismissals → s'.isComplete d.dismissed = true :=
      fun hold => isComplete_call hc (h.ledger d hold)
    cases Call.run_eq_ok_iff.1 hc with
    | transition ht => exact hkept (dismissals_of_run ht ▸ hd)
    | upsert hu => exact hkept (dismissals_of_upsert hu ▸ hd)
    | dismiss hdismiss =>
      rw [dismissals_of_dismiss hdismiss, mem_enter] at hd
      rcases hd with hold | rfl
      · exact hkept hold
      · -- whom a member dismisses has a complete profile
        exact isComplete_call hc (dismiss_eq_ok_iff.1 hdismiss).2.1

/-- **What only calls have written stays so.** -/
theorem afterAll (h : s.IsSaved) (calls : List (Instant × Call)) : (s.afterAll calls).IsSaved :=
  afterAll_induction (fun _ _ _ _ _ hs hc => hs.call hc) h

theorem recommend_eq_refuse_iff (h : s.IsSaved) :
    s.recommend (Geometry.sphere α) user = refuse why ↔
      s.profile? user = none ∧ why = .completeToMatch := by
  have hnobody (hnone : s.profile? user = none) :
      s.recommend (Geometry.sphere α) user = refuse .completeToMatch :=
    recommend_of_seeker_eq_error (by rw [seeker, hnone]; rfl)
  constructor
  · intro hrefused
    cases hme : s.profile? user with
    | some me =>
      have hmem := (mem_of_profile? hme).1
      obtain ⟨w, hw, -⟩ := h.weights me hmem
      exact absurd hrefused (recommend_sphere_ne_refuse hme (h.complete me hmem) hw why)
    | none =>
      rw [hnobody hme] at hrefused
      cases hrefused
      exact ⟨rfl, rfl⟩
  · rintro ⟨hnone, rfl⟩
    exact hnobody hnone

end IsSaved

/-! ## Runs from tables without rows -/

/-- **Saved profiles stay usable.** After every run from tables without rows, all profiles are
complete, accepted again for what they are and state weights up to the limit; connections are
between complete profiles and dismissals lead to them; whoever has a profile has a complete one
after every further run; and recommendations are refused to whoever has no profile and to nobody
else, never for what a profile states. -/
theorem saved_profiles_stay_usable (hp : s.profiles = []) (hc : s.connections = [])
    (hd : s.dismissals = []) (calls : List (Instant × Call)) :
    (s.afterAll calls).IsSaved ∧
      (∀ user p, (s.afterAll calls).profile? user = some p →
        ∀ later, ((s.afterAll calls).afterAll later).isComplete user = true) ∧
      ∀ (α : Type) [Trig α] (user : Int) (why : Refusal),
        (s.afterAll calls).recommend (Geometry.sphere α) user = refuse why ↔
          (s.afterAll calls).profile? user = none ∧ why = .completeToMatch := by
  have hsaved : (s.afterAll calls).IsSaved := (isSaved_of_noRows hp hc hd).afterAll calls
  refine ⟨hsaved, fun user p hprofile later => ?_, fun α _ user why => ?_⟩
  · exact isComplete_afterAll (hsaved.isComplete hprofile) later
  · exact hsaved.recommend_eq_refuse_iff

/-- Three members who have not told anything about themselves yet. -/
def newcomers : Store :=
  { empty with users := [⟨1, "first"⟩, ⟨2, "second"⟩, ⟨3, "third"⟩] }

/-- The first two introduce themselves, the first with more blanks and passions than are kept; the
first asks the second for a connection, who dismisses the first. -/
def introductions : List (Instant × Call) :=
  [(1, .upsert 1 (.obj [("display_name", .str " first "), ("location_city", .str " "),
      ("analog_passions", .arr [.str "chess", .str " chess"]), ("location_lat", .real 60.5),
      ("location_lon", .int 25), ("max_radius_km", .bool false)])),
    (2, .upsert 1 (.obj [("display_name", .str " first "), ("location_city", .str " "),
      ("analog_passions", .arr [.str "chess", .str " chess"]), ("location_lat", .real 60.5),
      ("location_lon", .int 25), ("max_radius_km", .int 50)])),
    (3, .upsert 2 (.obj [("display_name", .str "second"),
      ("match_preferences", .obj [("location", .int 10)])])),
    (4, .transition .request 1 2), (5, .dismiss 2 1)]

/-- The first save fails, since a flag is no radius; the others make the first two complete, and
only the third is refused recommendations. -/
theorem saved_profiles_stay_usable_sample :
    newcomers.profiles = [] ∧ newcomers.connections = [] ∧ newcomers.dismissals = [] ∧
      (newcomers.afterAll introductions).profiles.map Profile.displayName = ["first", "second"] ∧
      (newcomers.afterAll introductions).connections = [⟨1, 1, 2, .pending, 4, 4⟩] ∧
      (newcomers.afterAll introductions).dismissals = [⟨2, 1⟩] ∧
      (newcomers.afterAll introductions).IsSaved ∧
      (newcomers.afterAll introductions).recommend (Geometry.sphere Float) 3 =
        refuse .completeToMatch ∧
      ∀ why, (newcomers.afterAll introductions).recommend (Geometry.sphere Float) 1 ≠
        refuse why := by
  obtain ⟨hsaved, -, hrefused⟩ :=
    saved_profiles_stay_usable (s := newcomers) rfl rfl rfl introductions
  have hthird : (newcomers.afterAll introductions).profile? 3 = none := by
    rw [← Option.isNone_iff_eq_none]
    decide +kernel
  have hfirst : (newcomers.afterAll introductions).profile? 1 ≠ none := by
    rw [Ne, ← Option.isNone_iff_eq_none]
    decide +kernel
  refine ⟨rfl, rfl, rfl, by decide +kernel, by decide +kernel, by decide +kernel, hsaved, ?_, ?_⟩
  · exact (hrefused Float 3 .completeToMatch).2 ⟨hthird, rfl⟩
  · exact fun why h => hfirst ((hrefused Float 1 why).1 h).1

end Store

end Matchmaker
