import Matchmaker.Proofs.Coordinates
import Matchmaker.Proofs.Fixtures

/-!
# Runs of the seeder

A run adds the rows that are drawn behind those of a store, table by table. It fails for an address
that is in use and for a number that cannot be computed, which exact ones can, and what fails
changes nothing.

* `isGraph_firstLink_append`: the connection of the first two users;
* `Computes`, **`exists_of_populate`**: how a run ends where no address is in use;
* `populate_of_not_isUnused`: how it ends where one is;
* **`seeding_keeps_the_rules`**: how it ends in exact numbers.
-/

namespace Matchmaker.Seed

/-! ## Graphs with the first connection -/

theorem IsGraph.mono {us vs : List Int} {rows : List Store.Link} (h : IsGraph us rows)
    (hsub : us ⊆ vs) : IsGraph vs rows where
  requester l hl := hsub (h.requester l hl)
  target l hl := hsub (h.target l hl)
  ends := h.ends
  pairs := h.pairs

/-- The connection of the first two users joins none of the others, which the drawn ones do. -/
theorem isGraph_firstLink_append {ids : List Int} (hids : ids.Nodup) {drawn : List Store.Link}
    (h : IsGraph (ids.drop 2) drawn) : IsGraph ids (firstLink ids ++ drawn) := by
  match ids with
  | [] => exact h
  | [a] => exact h.mono (List.nil_subset _)
  | a :: b :: rest =>
    obtain ⟨ha, hb⟩ := List.nodup_cons.1 hids
    have hsub : rest ⊆ a :: b :: rest := fun x hx =>
      List.mem_cons_of_mem _ (List.mem_cons_of_mem _ hx)
    have hrest := IsGraph.mono h hsub
    have hab : a ≠ b := fun hab => ha (hab ▸ List.mem_cons_self)
    refine ⟨List.forall_mem_cons.2 ⟨List.mem_cons_self, hrest.requester⟩,
      List.forall_mem_cons.2 ⟨by simp, hrest.target⟩, List.forall_mem_cons.2 ⟨hab, hrest.ends⟩, ?_⟩
    refine List.nodup_cons.2 ⟨fun hmem => ?_, hrest.pairs⟩
    obtain ⟨l, hl, hpair⟩ := List.mem_map.1 hmem
    have hr : l.requester ∈ rest := h.requester l hl
    rcases Lock.key_eq_iff.1 hpair with ⟨hla, -⟩ | ⟨hlb, -⟩
    · rw [hla] at hr
      exact ha (List.mem_cons_of_mem _ hr)
    · rw [hlb] at hr
      exact (List.nodup_cons.1 hb).1 hr

/-! ## Runs -/

section Steps

variable {β γ : Type} {b : β} {x : Except Failure β} (f : β → Except Stop γ)

theorem settle_bind_of_ok (hx : x = .ok b) : settle x >>= f = f b := by
  rw [hx]
  rfl

theorem limited_bind_of_ok {x : Option (Except Failure β)} (hx : x = some (.ok b)) :
    limited x >>= f = f b := by
  rw [hx]
  rfl

theorem ended_settle_bind_of_error {e : Failure} (hx : x = .error e) :
    ended (settle x >>= f) = some (.error e) := by
  rw [hx]
  rfl

end Steps

/-- How many rows each table has. -/
def countsOf (s : Store) : Counts :=
  ⟨s.users.length, s.profiles.length, s.connections.length, s.dismissals.length⟩

variable {α : Type} [Sampling α] {σ : Type} [Source σ] {fuel : Nat} {now : Instant} {plan : Plan α}
  {draws : σ} {s : Store} {outcome : Except Failure (Counts × Store)}

/-- The numbers that a run depends on can be computed: coordinates are on the globe, and the rates
lead to numbers of rows. -/
structure Computes (σ : Type) [Source σ] (fuel : Nat) (plan : Plan α) : Prop where
  lat : ∀ c ∈ cities (α := α), Gives (nearby c.lat : Draw σ Float) fun x =>
    (Quantity.real x).within 90 = true
  lon : ∀ c ∈ cities (α := α), Gives (nearby c.lon : Draw σ Float) fun x =>
    (Quantity.real x).within 180 = true
  connections : ∀ (users : List Int) (draws : σ) (e : Failure),
    connections fuel plan.rates users draws ≠ some (.error e)
  dismissRate : ∃ rate, Scalar.settled plan.dismissRate = .ok rate

theorem IsDrawn.admits {p : Profile} (h : IsDrawn (fun x => (Quantity.real x).within 90 = true)
    (fun x => (Quantity.real x).within 180 = true) p) : Store.admitsProfile p = true := by
  obtain ⟨f, hmade, hnormal⟩ := h.made
  obtain ⟨lat, lon, hlat, hlon, hlatin, hlonin⟩ := h.place
  refine hmade.admitsProfile (hnormal ⟨some (.real lat, .real lon), hlat, hlon, ?_⟩)
  rintro x ⟨⟩
  exact ⟨hlatin, hlonin⟩

omit [Sampling α] in
theorem Plan.check_eq_ok (hcount : 1 ≤ plan.count) : plan.check = .ok () := by
  rw [check, if_neg (by omega)]

/-- **How a run ends where no address is in use**, whatever the numbers and the draws: behind the
rows of the store lie those of one that the service might have written. -/
theorem exists_of_populate (hcount : 1 ≤ plan.count) (hcomputes : Computes σ fuel plan)
    (hs : s.IsLawful) (hlinked : s.IsLinked) (hunused : IsUnused plan.seed plan.count.toNat s)
    (h : ended ((populate fuel now plan draws).outcome s) = some outcome) :
    ∃ t, outcome = .ok (countsOf t, s.append t) ∧ IsSeeded plan.count.toNat t ∧
      (s.append t).IsLawful := by
  unfold populate at h
  rw [Transaction.outcome_reading_bind, settle_bind_of_ok _ (Plan.check_eq_ok hcount),
    Transaction.outcome_reading_bind, pure_bind] at h
  have hlength : (newUsers plan.seed (Store.nextId (s.users.map User.id)) plan.count.toNat).length =
      plan.count.toNat := by simp [newUsers]
  have husers := isLawful_withUsers hs hunused
  generalize newUsers plan.seed (Store.nextId (s.users.map User.id)) plan.count.toNat = us at *
  have hids : (us.map User.id).Nodup := (List.map_append ▸ husers.userIds).of_append_right
  have hps := gives_profiles hcomputes.lat hcomputes.lon (us.map User.id) draws
  dsimp only at h
  generalize (profiles α (us.map User.id)).run draws = drawnProfiles at h hps
  obtain ⟨ps, draws₁⟩ := drawnProfiles
  have hadmits : ∀ p ∈ ps, Store.admitsProfile p = true := fun p hp => (hps.2 p hp).admits
  have hprofiles := isLawful_withProfiles husers hlinked hps.1 hadmits
  rw [Transaction.outcome_writing_bind, settle_bind_of_ok _ (Store.addAll_users husers),
    Transaction.outcome_writing_bind, settle_bind_of_ok _ (Store.addAll_profiles hprofiles),
    Transaction.outcome_reading_bind] at h
  cases hdrawn : connections fuel plan.rates ((us.map User.id).drop 2) draws₁ with
  | none =>
    -- a run that is cut off has no outcome
    rw [hdrawn] at h
    cases h
  | some x =>
    cases x with
    | error e => exact absurd hdrawn (hcomputes.connections _ _ e)
    | ok x =>
      obtain ⟨drawn, draws₂⟩ := x
      rw [limited_bind_of_ok _ hdrawn] at h
      have hgraph := isGraph_firstLink_append hids
        (isGraph_of_connections (hids.sublist (List.drop_sublist 2 _)) hdrawn)
      obtain ⟨cs, hadd, hends, hlinks⟩ := exists_addAll_links now hprofiles hlinked hgraph
      obtain ⟨rate, hrate⟩ := hcomputes.dismissRate
      have hsettled : orBroken (Scalar.settled plan.dismissRate) = .ok rate := by
        rw [hrate]
        rfl
      rw [Transaction.outcome_writing_bind, settle_bind_of_ok _ hadd,
        Transaction.outcome_reading_bind, settle_bind_of_ok _ hsettled] at h
      have hds := gives_dismissals rate (us.map User.id) draws₂
      generalize (dismissals rate (us.map User.id)).run draws₂ = drawnDismissals at h hds
      obtain ⟨ds, draws₃⟩ := drawnDismissals
      have hlawful := isLawful_withDismissals hlinks hlinked hds.1 hds.2
      rw [Transaction.outcome_writing_bind,
        settle_bind_of_ok _ (Store.addAll_dismissals hlawful)] at h
      have hseeded : IsSeeded us.length ⟨us, ps, cs, ds⟩ :=
        isSeeded_of_isLawful hlawful.of_append hps.1 hps.2 hends hgraph fun d hd =>
          ⟨Store.hasUser_iff.2 (hds.2 d hd).1, Store.hasUser_iff.2 (hds.2 d hd).2.1⟩
      have hconnections : cs.length = (firstLink (us.map User.id) ++ drawn).length := by
        simpa using congrArg List.length hends
      cases h
      refine ⟨⟨us, ps, cs, ds⟩, ?_, hlength ▸ hseeded, hlawful⟩
      rw [countsOf, hconnections]
      rfl

theorem populate_of_not_isUnused (hcount : 1 ≤ plan.count)
    (hused : ¬ IsUnused plan.seed plan.count.toNat s) :
    ended ((populate fuel now plan draws).outcome s) = some (broken .constraint) := by
  have hadd : Store.addAll Store.addUser
      (newUsers plan.seed (Store.nextId (s.users.map User.id)) plan.count.toNat) s =
        broken .constraint := by
    simp only [IsUnused, not_forall, not_not] at hused
    obtain ⟨u, hu, i, hi, he⟩ := hused
    exact Store.addAll_users_of_used
      ⟨_, List.mem_map_of_mem (List.mem_range.2 hi), u, hu, he⟩
  rw [populate, Transaction.outcome_reading_bind, settle_bind_of_ok _ (Plan.check_eq_ok hcount),
    Transaction.outcome_reading_bind]
  show ended (Transaction.outcome (.writing _ >>= _) s) = _
  rw [Transaction.outcome_writing_bind]
  exact ended_settle_bind_of_error _ hadd

/-! ## Exact numbers -/

/-- The store that a run fills. -/
def Plan.base (plan : Plan α) (s : Store) : Store :=
  if plan.truncate then Store.empty else s

omit [Sampling α] in
theorem Plan.base_of_keeping (h : plan.truncate = false) (s : Store) : plan.base s = s := by
  rw [base, h]
  rfl

theorem outcome_work (fuel : Nat) (now : Instant) (plan : Plan α) (draws : σ) (s : Store) :
    (work fuel now plan draws).outcome s =
      (populate fuel now plan draws).outcome (plan.base s) := by
  rw [work, Plan.prepare, Transaction.outcome_writing_bind]
  rfl

theorem ended_eq_ok {β : Type} {x : Except Stop β} {b : β} (h : ended x = some (.ok b)) :
    x = .ok b := by
  rcases x with (_ | _) | _ <;> cases h
  rfl

theorem ended_eq_error {β : Type} {x : Except Stop β} {why : Failure}
    (h : ended x = some (.error why)) : x = .error (.failed why) := by
  rcases x with (_ | _) | _ <;> cases h
  rfl

open scoped Exact

theorem computes (fuel : Nat) (plan : Plan ℚ) : Computes σ fuel plan where
  lat c hc := (gives_nearby (cities_inside c hc).1.1 (cities_inside c hc).1.2).imp fun _ h => h.1
  lon c hc := (gives_nearby (cities_inside c hc).2.1 (cities_inside c hc).2.2).imp fun _ h => h.2
  connections users draws e h := by
    unfold connections at h
    rw [show Scalar.settled plan.rates.total = .ok plan.rates.total from rfl] at h
    dsimp only at h
    split at h
    · cases h
    · rw [show target plan.rates users.length = .ok _ from rfl] at h
      dsimp only at h
      obtain ⟨x, -, hx⟩ := Option.map_eq_some_iff.1 h
      cases hx
  dismissRate := ⟨plan.dismissRate, rfl⟩

/-- **Seeding keeps the rules**, whatever is drawn. In an empty or emptied store a run that ends
leaves as many users as are asked for, with a complete profile each, and what else the service might
have written, and reports how many rows there are. Elsewhere it adds such rows behind those that are
there, or fails for an address in use. What fails is undone, the emptying too. -/
theorem seeding_keeps_the_rules {plan : Plan ℚ} (hcount : 1 ≤ plan.count)
    (h : ended ((work fuel now plan draws).outcome s) = some outcome) :
    let after := ((work fuel now plan draws).commit s).2
    (s = Store.empty ∨ plan.truncate = true →
      ∃ s', outcome = .ok (countsOf s', s') ∧ after = s' ∧ IsSeeded plan.count.toNat s') ∧
    (plan.truncate = false → s.IsLawful → s.IsLinked → IsUnused plan.seed plan.count.toNat s →
      ∃ t, outcome = .ok (countsOf t, s.append t) ∧ after = s.append t ∧
        IsSeeded plan.count.toNat t ∧ (s.append t).IsLawful ∧ (s.IsKept → (s.append t).IsKept)) ∧
    (plan.truncate = false → ¬ IsUnused plan.seed plan.count.toNat s →
      outcome = broken .constraint) ∧
    ∀ e, outcome = .error e → after = s := by
  intro after
  have hdone : ∀ {counts s'}, outcome = .ok (counts, s') → after = s' := by
    rintro counts s' rfl
    exact Transaction.snd_commit_of_ok (ended_eq_ok h)
  have hundone : ∀ e, outcome = .error e → after = s := by
    rintro e rfl
    exact Transaction.snd_commit_of_error (ended_eq_error h)
  rw [outcome_work] at h
  refine ⟨fun hs => ?_, fun hkeep hs hlinked hunused => ?_, fun hkeep hused => ?_, hundone⟩
  · have hbase : plan.base s = Store.empty := by
      unfold Plan.base
      split
      · rfl
      · exact hs.resolve_right ‹_›
    rw [hbase] at h
    obtain ⟨t, rfl, ht, -⟩ := exists_of_populate hcount (computes fuel plan) Store.isLawful_empty
      Store.isKept_empty.linked (fun u hu => absurd hu List.not_mem_nil) h
    exact ⟨t, rfl, hdone rfl, ht⟩
  · rw [Plan.base_of_keeping hkeep] at h
    obtain ⟨t, rfl, ht, hlawful⟩ :=
      exists_of_populate hcount (computes fuel plan) hs hlinked hunused h
    exact ⟨t, rfl, hdone rfl, ht, hlawful, fun hs => hs.append ht.toIsKept hlawful⟩
  · rw [Plan.base_of_keeping hkeep, populate_of_not_isUnused hcount hused] at h
    exact (Option.some.inj h).symm

/-- Five users in an emptied store, with connections and without dismissals. -/
def fivePlan : Plan ℚ where
  count := 5
  seed := 42
  truncate := true
  rates := ⟨3 / 5, 1 / 10, 1 / 20⟩
  dismissRate := 0

theorem seeding_keeps_the_rules_sample : ∃ s',
    run 20 0 fivePlan Store.sample = some (.ok (countsOf s', s')) ∧ IsSeeded 5 s' ∧
      ((work 20 0 fivePlan (Generator.ofSeed 42)).commit Store.sample).2 = s' := by
  have hcount : 1 ≤ fivePlan.count := by decide
  have hsome : (run 20 0 fivePlan Store.sample).isSome = true := by decide +kernel
  obtain ⟨outcome, h⟩ := Option.isSome_iff_exists.1 hsome
  obtain ⟨s', hs', hafter, hseeded⟩ := (seeding_keeps_the_rules hcount h).1 (Or.inr rfl)
  exact ⟨s', hs' ▸ h, hseeded, hafter⟩

end Matchmaker.Seed
