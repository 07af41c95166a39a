import Matchmaker.Proofs.Pools

/-!
# Ended pairs

A pair whose deciding row is disconnected, or has the terminal status that no transition writes, has
come to its end: no transition on it succeeds any more, also where an older row that is pending or
accepted hides behind the deciding one. Transitions on other pairs, dismissals and profiles leave
its rows, so that the end lasts.

* `Store.IsEnded`: the state of a pair that has ended;
* `IsEnded.run_eq_error`, `IsEnded.pairRows_call`: what a call finds and what it leaves;
* `Store.IsOver`: neither member can do anything about the other, or is shown them;
* **`ended_forever`**: an ended pair is over after every run.
-/

namespace Matchmaker.Store

variable {s s' : Store} {a b x y : Int}

/-- The pair was disconnected, or dismissed for good. -/
def IsEnded (s : Store) (a b : Int) : Prop :=
  s.relationship a b = .disconnected ∨ s.relationship a b = .dismissed

theorem isEnded_iff : s.IsEnded a b ↔
    ∃ c, s.deciding? a b = some c ∧ (c.status = .disconnected ∨ c.status = .dismissed) := by
  rw [IsEnded, relationship, Relationship.of_eq_disconnected_iff,
    Relationship.of_eq_dismissed_iff, ← exists_or]
  exact exists_congr fun c => and_or_left.symm

theorem IsEnded.congr (h : s.IsEnded a b) (hkey : Lock.key x y = Lock.key a b) :
    s.IsEnded x y := by
  rw [isEnded_iff, deciding?_congr hkey]
  exact isEnded_iff.1 h

theorem IsEnded.comm (h : s.IsEnded a b) : s.IsEnded b a :=
  h.congr (Lock.key_comm b a)

theorem IsEnded.relationship_comm (h : s.IsEnded a b) :
    s.relationship b a = s.relationship a b := by
  rw [relationship_swap s a b, relationship]
  rcases h with h | h
  · rw [relationship] at h
    rw [h, Relationship.of_eq_disconnected_iff]
    exact Relationship.of_eq_disconnected_iff.1 h
  · rw [relationship] at h
    rw [h, Relationship.of_eq_dismissed_iff]
    exact Relationship.of_eq_dismissed_iff.1 h

/-! ## Calls -/

theorem IsEnded.not_decided (h : s.IsEnded a b) {t : Transition} {result : Transition.Result}
    {w : Transition.Write} : ¬ Transition.Decided a b (s.read a b) t result w := by
  obtain ⟨c, hc, hstatus⟩ := isEnded_iff.1 h
  intro hw
  -- a request needs that there is no row; all else needs a pending or an accepted one
  cases hw with
  | ask _ _ hrow _ =>
    rw [show s.deciding? a b = none from hrow] at hc
    cases hc
  | agree _ _ hrow hd _ | accept hrow hd _ | decline hrow hd _ | cancel hrow hd _
  | disconnect hrow hd =>
    obtain rfl := Option.some.inj (hc.symm.trans hrow)
    rw [hd] at hstatus
    rcases hstatus with hstatus | hstatus <;> cases hstatus

/-- **No transition on an ended pair succeeds.** -/
theorem IsEnded.run_eq_error (h : s.IsEnded a b) (now : Instant) (t : Transition) :
    ∃ e, t.run now a b s = .error e := by
  cases hrun : t.run now a b s with
  | error e => exact ⟨e, rfl⟩
  | ok x =>
    obtain ⟨-, w, hw, -, -⟩ := Transition.run_eq_ok_iff.1 hrun
    exact absurd hw h.not_decided

/-- **No call touches the rows of an ended pair.** -/
theorem IsEnded.pairRows_call (h : s.IsEnded a b) (hs : s.IsLawful) {now : Instant} {c : Call}
    {reply : Reply} (hc : c.run now s = .ok (reply, s')) : s'.pairRows a b = s.pairRows a b := by
  cases Call.run_eq_ok_iff.1 hc with
  | @transition t x y o _ ht =>
    -- on the pair itself it fails, and elsewhere it does not touch the rows of this pair
    by_cases hkey : Lock.key x y = Lock.key a b
    · obtain ⟨e, he⟩ := (h.congr hkey).run_eq_error now t
      rw [he] at ht
      cases ht
    · obtain ⟨-, w, hw, -, rfl⟩ := Transition.run_eq_ok_iff.1 ht
      exact pairRows_write_of_ne hs.ids hw.isOn (Ne.symm hkey)
  | dismiss hd => rw [pairRows, pairRows, connections_of_dismiss hd]
  | upsert hu => rw [pairRows, pairRows, connections_of_upsert hu]

/-! ## Runs -/

theorem relationship_of_pairRows (h : s'.pairRows a b = s.pairRows a b) :
    s'.relationship a b = s.relationship a b := by
  rw [relationship, relationship, deciding?, deciding?, h]

theorem IsEnded.pairRows_afterAll (h : s.IsEnded a b) (hs : s.IsLawful)
    (calls : List (Instant × Call)) : (s.afterAll calls).pairRows a b = s.pairRows a b := by
  -- as long as the rows stay, the pair stays ended, and the next call leaves them too
  have key : (s.afterAll calls).IsLawful ∧ (s.afterAll calls).pairRows a b = s.pairRows a b := by
    refine afterAll_induction
      (P := fun t => t.IsLawful ∧ t.pairRows a b = s.pairRows a b) ?_ ⟨hs, rfl⟩
    rintro step - t t' reply ⟨ht, hrows⟩ hc
    have hended : t.IsEnded a b := by
      unfold IsEnded
      rw [relationship_of_pairRows hrows]
      exact h
    exact ⟨ht.call hc, (hended.pairRows_call ht hc).trans hrows⟩
  exact key.2

/-! ## Nothing more to come -/

/-- `a` can do nothing more about `b`, and is not shown them. -/
structure IsOver (s : Store) (a b : Int) : Prop where
  apart : s.areConnected a b = false
  refused : ∀ now t, ∃ e, Transition.run now t a b s = .error e
  candidates : ∀ {α : Type} [Scalar α] (g : Geometry α) (me : Profile) cs, me.user = a →
    s.candidates g me = .ok cs → ∀ c ∈ cs, c.profile.user ≠ b
  recommended : ∀ {α : Type} [Scalar α] (g : Geometry α) ids,
    s.recommendedIds g a = .ok ids → b ∉ ids

theorem IsEnded.isUnseen (h : s.IsEnded a b) : s.IsUnseen a b := by
  obtain ⟨c, hc, -⟩ := isEnded_iff.1 h
  exact isUnseen_of_deciding? hc

theorem IsEnded.isOver (h : s.IsEnded a b) : s.IsOver a b where
  apart := by
    unfold areConnected
    rcases h with h | h <;> rw [h] <;> rfl
  refused := h.run_eq_error
  candidates := h.isUnseen.candidates
  recommended := h.isUnseen.recommended

/-- **The end of a pair is for good.** After every run of calls an ended pair has the rows and the
state that it had, and it is over for both members. -/
theorem ended_forever (hs : s.IsLawful)
    (h : s.relationship a b = .disconnected ∨ s.relationship a b = .dismissed)
    (calls : List (Instant × Call)) :
    (s.afterAll calls).pairRows a b = s.pairRows a b ∧
      (s.afterAll calls).relationship a b = s.relationship a b ∧
      (s.afterAll calls).relationship b a = s.relationship a b ∧
      (s.afterAll calls).IsOver a b ∧ (s.afterAll calls).IsOver b a := by
  have hended : s.IsEnded a b := h
  have hrows := hended.pairRows_afterAll hs calls
  have hstate := relationship_of_pairRows hrows
  have hstill : (s.afterAll calls).IsEnded a b := by
    unfold IsEnded
    rw [hstate]
    exact h
  exact ⟨hrows, hstate, hstill.relationship_comm.trans hstate, hstill.isOver, hstill.comm.isOver⟩

/-- A request of the second member hides behind a disconnected row, and cannot be accepted. -/
theorem ended_forever_sample :
    let s : Store := { sample with
      connections := [⟨1, 2, 1, .pending, 0, 1⟩, ⟨2, 1, 2, .disconnected, 1, 4⟩] }
    let calls : List (Instant × Call) := [(5, .transition .accept 1 2),
      (6, .transition .request 3 2), (7, .transition .request 2 1), (8, .dismiss 3 2)]
    s.IsLawful ∧ s.relationship 1 2 = .disconnected ∧
      (s.afterAll calls).relationship 2 1 = .disconnected ∧
      (s.afterAll calls).connections.length = 3 ∧ (s.afterAll calls).IsOver 1 2 := by
  intro s calls
  have hs : s.IsLawful :=
    { isClean_sample.toIsLawful with ends := by decide, ids := by decide, directions := by decide }
  have hstate : s.relationship 1 2 = .disconnected := by decide
  obtain ⟨-, -, hother, hover, -⟩ := ended_forever hs (Or.inl hstate) calls
  exact ⟨hs, hstate, hother.trans hstate, by decide, hover⟩

end Matchmaker.Store
