import Matchmaker.Proofs.Lawful

/-!
# Runs of calls

Members call the service in any order; a call that fails leaves the store as it is. What every
successful call keeps therefore holds after every run.

* `Call`, `Reply`, `Call.work`, `Call.run`: one call;
* **`Call.failsFirst_work`**: a call that fails has written nothing;
* `Store.after`, `Store.afterAll`: the store after calls;
* **`afterAll_induction`**: an invariant of the calls is an invariant of the runs;
* `Store.IsClean`, **`IsClean.afterAll`**: a lawful store with one row for each pair stays so;
* `Store.IsLinked`, `IsLinked.afterAll`: references to users stay so.
-/

namespace Matchmaker

/-! ## Work that checks before it writes -/

theorem Transition.failsFirst_work (now : Instant) (t : Transition) (a b : Int) :
    (t.work now a b).FailsFirst := by
  refine (Transaction.reads_reading _).bind_failsFirst fun plan => ?_
  refine (Transaction.reads_reading _).bind_failsFirst fun connection => ?_
  exact (Transaction.failsFirst_writing _).bind_pure _

namespace Store

theorem failsFirst_dismissWork (a b : Int) : (dismissWork a b).FailsFirst := by
  refine (Transaction.reads_reading _).bind_failsFirst fun _ => ?_
  refine (Transaction.reads_reading _).bind_failsFirst fun old => ?_
  cases old with
  | true => exact (Transaction.reads_pure false).failsFirst
  | false => exact (Transaction.failsFirst_writing _).bind_pure _

theorem failsFirst_upsertWork (user : Int) (payload : Json.Value) :
    (upsertWork user payload).FailsFirst := by
  refine (Transaction.reads_reading _).bind_failsFirst fun profile => ?_
  exact (Transaction.failsFirst_writing _).bind_pure _

end Store

/-! ## Calls -/

/-- What a member asks of the service. -/
inductive Call where
  | transition (t : Transition) (a b : Int)
  | dismiss (a b : Int)
  | upsert (user : Int) (payload : Json.Value)

/-- What a successful call answers. -/
inductive Reply where
  | transition (o : Transition.Outcome)
  | dismiss (isNew : Bool)
  | upsert (p : Profile)

namespace Call

/-- A call at an instant. -/
def work (now : Instant) : Call → Transaction Failure Store Reply
  | transition t a b => do return .transition (← t.work now a b)
  | dismiss a b => do return .dismiss (← Store.dismissWork a b)
  | upsert user payload => do return .upsert (← Store.upsertWork user payload)

/-- How a call at an instant ends. -/
def run (now : Instant) (s : Store) (c : Call) : Except Failure (Reply × Store) :=
  (c.work now).outcome s

section Run

variable (now : Instant) (s : Store) (t : Transition) (a b user : Int) (payload : Json.Value)

theorem run_transition : (transition t a b).run now s =
    (t.run now a b s).map fun x => (.transition x.1, x.2) := by
  rw [run, work, Transaction.outcome_bind_pure]
  rfl

theorem run_dismiss : (dismiss a b).run now s =
    (s.dismiss a b).map fun x => (.dismiss x.1, x.2) := by
  rw [run, work, Transaction.outcome_bind_pure]
  rfl

theorem run_upsert : (upsert user payload).run now s =
    (s.upsert user payload).map fun x => (.upsert x.1, x.2) := by
  rw [run, work, Transaction.outcome_bind_pure]
  rfl

end Run

/-- How a call succeeds. -/
inductive Succeeds (now : Instant) (s : Store) : Call → Reply → Store → Prop
  | transition {t : Transition} {a b : Int} {o : Transition.Outcome} {s' : Store}
      (h : t.run now a b s = .ok (o, s')) : Succeeds now s (transition t a b) (.transition o) s'
  | dismiss {a b : Int} {isNew : Bool} {s' : Store} (h : s.dismiss a b = .ok (isNew, s')) :
      Succeeds now s (dismiss a b) (.dismiss isNew) s'
  | upsert {user : Int} {payload : Json.Value} {p : Profile} {s' : Store}
      (h : s.upsert user payload = .ok (p, s')) :
      Succeeds now s (upsert user payload) (.upsert p) s'

theorem run_eq_ok_iff {now : Instant} {s s' : Store} {c : Call} {reply : Reply} :
    c.run now s = .ok (reply, s') ↔ Succeeds now s c reply s' := by
  constructor
  · intro h
    cases c with
    | transition t a b | dismiss a b | upsert user payload =>
      simp only [run_transition, run_dismiss, run_upsert] at h
      obtain ⟨⟨x, s''⟩, hx, he⟩ := map_eq_ok_iff.1 h
      cases he
      constructor
      exact hx
  · rintro (h | h | h) <;> simp [run_transition, run_dismiss, run_upsert, h, Except.map]

/-- **A call that fails has written nothing.** -/
theorem failsFirst_work (now : Instant) (c : Call) : (c.work now).FailsFirst := by
  cases c with
  | transition t a b => exact (t.failsFirst_work now a b).bind_pure _
  | dismiss a b => exact (Store.failsFirst_dismissWork a b).bind_pure _
  | upsert user payload => exact (Store.failsFirst_upsertWork user payload).bind_pure _

end Call

namespace Store

/-- The store after a call, which is a transaction. -/
def after (s : Store) (step : Instant × Call) : Store :=
  ((step.2.work step.1).commit s).2

/-- The store after a sequence of calls. -/
def afterAll (s : Store) (calls : List (Instant × Call)) : Store :=
  calls.foldl after s

variable {s s' : Store}

/-- A call leaves what it has written: where it fails, there is nothing to undo. -/
theorem after_eq_ending (s : Store) (step : Instant × Call) :
    s.after step = ((step.2.work step.1).ending s).2 := by
  rw [after, (step.2.failsFirst_work step.1).commit_eq_ending]

theorem after_eq (s : Store) (step : Instant × Call) : s.after step =
    match step.2.run step.1 s with
    | .ok (_, s') => s'
    | .error _ => s := by
  rw [after, Transaction.commit_eq, Call.run]
  cases (step.2.work step.1).outcome s <;> rfl

theorem after_transition (s : Store) (now : Instant) (t : Transition) (a b : Int) :
    s.after (now, .transition t a b) =
      match t.run now a b s with
      | .ok (_, s') => s'
      | .error _ => s := by
  rw [after_eq, Call.run_transition]
  cases t.run now a b s <;> rfl

/-- **What every successful call keeps holds after every run.** -/
theorem afterAll_induction {P : Store → Prop} {calls : List (Instant × Call)}
    (hcall : ∀ step ∈ calls, ∀ s s' reply, P s → step.2.run step.1 s = .ok (reply, s') → P s')
    (hs : P s) : P (s.afterAll calls) := by
  induction calls generalizing s with
  | nil => exact hs
  | cons step calls ih =>
    refine ih (fun x hx => hcall x (List.mem_cons_of_mem _ hx)) ?_
    rw [after_eq]
    split
    · rename_i reply t ht
      exact hcall step List.mem_cons_self s t reply hs ht
    · exact hs

/-! ## What a call leaves alone -/

section Frame

variable {now : Instant} {t : Transition} {a b user : Int} {o : Transition.Outcome} {isNew : Bool}
  {payload : Json.Value} {p : Profile}

theorem eq_of_run (h : t.run now a b s = .ok (o, s')) :
    s' = { s with connections := s'.connections } := by
  obtain ⟨-, w, -, -, rfl⟩ := Transition.run_eq_ok_iff.1 h
  rw [write_eq]

theorem users_of_run (h : t.run now a b s = .ok (o, s')) : s'.users = s.users := by
  rw [eq_of_run h]

theorem profiles_of_run (h : t.run now a b s = .ok (o, s')) : s'.profiles = s.profiles := by
  rw [eq_of_run h]

theorem dismissals_of_run (h : t.run now a b s = .ok (o, s')) : s'.dismissals = s.dismissals := by
  rw [eq_of_run h]

theorem eq_of_dismiss (h : s.dismiss a b = .ok (isNew, s')) :
    s' = { s with dismissals := s'.dismissals } := by
  obtain ⟨-, -, -, rfl⟩ := dismiss_eq_ok_iff.1 h
  split <;> rfl

theorem users_of_dismiss (h : s.dismiss a b = .ok (isNew, s')) : s'.users = s.users := by
  rw [eq_of_dismiss h]

theorem profiles_of_dismiss (h : s.dismiss a b = .ok (isNew, s')) : s'.profiles = s.profiles := by
  rw [eq_of_dismiss h]

theorem connections_of_dismiss (h : s.dismiss a b = .ok (isNew, s')) :
    s'.connections = s.connections := by
  rw [eq_of_dismiss h]

theorem eq_of_upsert (h : s.upsert user payload = .ok (p, s')) :
    s' = { s with profiles := s'.profiles } := by
  obtain ⟨f, -, -, -, rfl⟩ := upsert_eq_ok_iff.1 h
  unfold putProfile
  split <;> rfl

theorem users_of_upsert (h : s.upsert user payload = .ok (p, s')) : s'.users = s.users := by
  rw [eq_of_upsert h]

theorem connections_of_upsert (h : s.upsert user payload = .ok (p, s')) :
    s'.connections = s.connections := by
  rw [eq_of_upsert h]

theorem dismissals_of_upsert (h : s.upsert user payload = .ok (p, s')) :
    s'.dismissals = s.dismissals := by
  rw [eq_of_upsert h]

end Frame

/-! ## Lawful and clean stores -/

theorem IsLawful.call (h : s.IsLawful) {now : Instant} {c : Call} {reply : Reply}
    (hc : c.run now s = .ok (reply, s')) : s'.IsLawful := by
  cases Call.run_eq_ok_iff.1 hc with
  | transition ht => exact h.run ht
  | dismiss hd => exact h.dismiss hd
  | upsert hu => exact h.upsert hu

theorem IsLawful.afterAll (h : s.IsLawful) (calls : List (Instant × Call)) :
    (s.afterAll calls).IsLawful :=
  afterAll_induction (fun _ _ _ _ _ hs hc => hs.call hc) h

/-- A lawful store with at most one row for each pair. -/
structure IsClean (s : Store) : Prop extends IsLawful s where
  onePerPair : ∀ a b, (s.pairRows a b).length ≤ 1

theorem connections_after {now : Instant} {c : Call} (h : ∀ t a b, c ≠ .transition t a b) :
    (s.after (now, c)).connections = s.connections := by
  rw [after_eq]
  split
  · rename_i hc
    cases Call.run_eq_ok_iff.1 hc with
    | transition => exact absurd rfl (h _ _ _)
    | dismiss hd => exact connections_of_dismiss hd
    | upsert hu => exact connections_of_upsert hu
  · rfl

theorem IsClean.call (h : s.IsClean) {now : Instant} {c : Call} {reply : Reply}
    (hc : c.run now s = .ok (reply, s')) : s'.IsClean := by
  refine { h.toIsLawful.call hc with onePerPair := ?_ }
  have hone : ∀ a b, (rowsOf s.connections a b).length ≤ 1 := h.onePerPair
  show ∀ a b, (rowsOf s'.connections a b).length ≤ 1
  cases Call.run_eq_ok_iff.1 hc with
  | transition ht =>
    obtain ⟨-, w, hw, -, rfl⟩ := Transition.run_eq_ok_iff.1 ht
    rw [write_eq, ← nodup_pairs_iff]
    exact nodup_pairs_apply (nodup_pairs_iff.2 hone) hw.isOn
  | dismiss hd => rwa [connections_of_dismiss hd]
  | upsert hu => rwa [connections_of_upsert hu]

/-- **A clean store stays clean.** -/
theorem IsClean.afterAll (h : s.IsClean) (calls : List (Instant × Call)) :
    (s.afterAll calls).IsClean :=
  afterAll_induction (fun _ _ _ _ _ hs hc => hs.call hc) h

/-! ## References -/

/-- The member is a user. -/
def HasUser (s : Store) (id : Int) : Prop :=
  ∃ u ∈ s.users, u.id = id

/-- Every reference to a user leads to one. -/
structure IsLinked (s : Store) : Prop where
  profiles : ∀ p ∈ s.profiles, s.HasUser p.user
  connections : ∀ c ∈ s.connections, s.HasUser c.requester ∧ s.HasUser c.target
  dismissals : ∀ d ∈ s.dismissals, s.HasUser d.user ∧ s.HasUser d.dismissed

/-- A member who dismisses is a user. -/
def HasDismisser (s : Store) : Call → Prop
  | .dismiss a _ => s.HasUser a
  | _ => True

theorem users_of_call {now : Instant} {c : Call} {reply : Reply}
    (hc : c.run now s = .ok (reply, s')) : s'.users = s.users := by
  cases Call.run_eq_ok_iff.1 hc with
  | transition ht => exact users_of_run ht
  | dismiss hd => exact users_of_dismiss hd
  | upsert hu => exact users_of_upsert hu

theorem IsLinked.hasUser (h : s.IsLinked) {user : Int} (hc : s.isComplete user = true) :
    s.HasUser user := by
  obtain ⟨p, hp, -⟩ := isComplete_iff.1 hc
  obtain ⟨hmem, rfl⟩ := mem_of_profile? hp
  exact h.profiles p hmem

theorem mem_putProfile {p q : Profile} (hq : q ∈ (s.putProfile p).profiles) :
    q = p ∨ q ∈ s.profiles := by
  unfold putProfile at hq
  split at hq
  · obtain ⟨r, hr, hrq⟩ := List.mem_map.1 hq
    split at hrq
    · exact Or.inl hrq.symm
    · exact Or.inr (hrq ▸ hr)
  · rcases List.mem_append.1 hq with hq | hq
    · exact Or.inr hq
    · exact Or.inl (List.mem_singleton.1 hq)

theorem IsLinked.run (h : s.IsLinked) {now : Instant} {t : Transition} {a b : Int}
    {o : Transition.Outcome} (ht : t.run now a b s = .ok (o, s')) : s'.IsLinked := by
  obtain ⟨-, w, hw, -, rfl⟩ := Transition.run_eq_ok_iff.1 ht
  rw [write_eq]
  refine { h with connections := fun c hc => ?_ }
  rcases origin_of_mem_apply hw.isOn hc with ⟨d, hd, -, hr, ht⟩ | ⟨rfl, rfl⟩
  · rw [hr, ht]
    exact h.connections d hd
  · obtain ⟨-, hcaller, hother, -, -⟩ := hw.of_insert
    exact ⟨h.hasUser hcaller, h.hasUser hother⟩

theorem IsLinked.dismiss (h : s.IsLinked) {a b : Int} {isNew : Bool} (ha : s.HasUser a)
    (hd : s.dismiss a b = .ok (isNew, s')) : s'.IsLinked := by
  obtain ⟨-, hb, -, rfl⟩ := dismiss_eq_ok_iff.1 hd
  split
  · exact h
  · refine { h with dismissals := fun d hd => ?_ }
    rcases List.mem_append.1 hd with hd | hd
    · exact h.dismissals d hd
    · rw [List.mem_singleton.1 hd]
      exact ⟨ha, h.hasUser hb⟩

theorem IsLinked.upsert (h : s.IsLinked) {user : Int} {payload : Json.Value} {p : Profile}
    (hu : s.upsert user payload = .ok (p, s')) : s'.IsLinked := by
  have husers : ∀ id, s'.HasUser id ↔ s.HasUser id := fun id => by
    simp only [HasUser, users_of_upsert hu]
  obtain ⟨f, -, huser, hp, hs⟩ := upsert_eq_ok_iff.1 hu
  refine ⟨fun q hq => ?_, fun c hc => ?_, fun d hd => ?_⟩
  · rw [husers]
    rw [hs] at hq
    rcases mem_putProfile hq with rfl | hq
    · obtain ⟨u, hu⟩ := Option.isSome_iff_exists.1 huser
      rw [(Profile.ofFacets_eq_ok_iff.1 hp).user]
      exact ⟨u, List.mem_of_find?_eq_some hu, by simpa using List.find?_some hu⟩
    · exact h.profiles q hq
  · rw [connections_of_upsert hu] at hc
    rw [husers, husers]
    exact h.connections c hc
  · rw [dismissals_of_upsert hu] at hd
    rw [husers, husers]
    exact h.dismissals d hd

theorem IsLinked.call (h : s.IsLinked) {now : Instant} {c : Call} {reply : Reply}
    (hby : s.HasDismisser c) (hc : c.run now s = .ok (reply, s')) : s'.IsLinked := by
  cases Call.run_eq_ok_iff.1 hc with
  | transition ht => exact h.run ht
  | dismiss hd => exact h.dismiss hby hd
  | upsert hu => exact h.upsert hu

theorem hasDismisser_congr (h : s'.users = s.users) (c : Call) :
    s'.HasDismisser c ↔ s.HasDismisser c := by
  cases c <;> simp only [HasDismisser, HasUser, h]

/-- **References lead to users after every run, if only users dismiss.** -/
theorem IsLinked.afterAll (h : s.IsLinked) {calls : List (Instant × Call)}
    (hby : ∀ step ∈ calls, s.HasDismisser step.2) : (s.afterAll calls).IsLinked := by
  have key : (s.afterAll calls).IsLinked ∧ (s.afterAll calls).users = s.users := by
    refine afterAll_induction (P := fun t => t.IsLinked ∧ t.users = s.users) ?_ ⟨h, rfl⟩
    rintro step hstep t t' reply ⟨ht, husers⟩ hc
    refine ⟨ht.call ((hasDismisser_congr husers step.2).2 (hby step hstep)) hc, ?_⟩
    rw [users_of_call hc, husers]
  exact key.1

/-! ## A store to look at -/

/-- Three members with complete profiles; the first has asked the second for a connection, and the
third has dismissed the first. -/
def sample : Store where
  users := [⟨1, "first"⟩, ⟨2, "second"⟩, ⟨3, "third"⟩]
  profiles := [1, 2, 3].map fun user =>
    { (default : Profile) with user, displayName := "member", complete := true }
  connections := [⟨1, 1, 2, .pending, 0, 0⟩]
  dismissals := [⟨3, 1⟩]

theorem isClean_sample : sample.IsClean where
  emails := by decide
  userIds := by decide
  userEmails := by decide
  profiles := by decide
  profileUsers := by decide
  ends := by decide
  ids := by decide
  directions := by decide
  dismissals := by decide
  ledger := by decide
  onePerPair := nodup_pairs_iff.1 (by decide)

end Store

end Matchmaker
