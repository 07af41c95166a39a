import Matchmaker.Proofs.Calls

/-!
# Requests to dismissed members

A dismissal stays in the ledger for good, but a request looks there only when the pair has no row.
So the member who dismissed another can still be connected with them by a request, when the other
has asked before, and in no other way.

* `hasDismissed_afterAll`: a dismissal outlasts every run;
* `Store.IsAskedBackBy`: the one case in which a request to a dismissed member goes through;
* **`request_of_dismissed`**: in that case the other's request is accepted, in every other case
  nothing happens;
* `dismissal_does_not_block`: a request that goes through.
-/

namespace Matchmaker

namespace Store

open Transition (Decided)

variable {s s' : Store} {r t : Int}

/-! ## The ledger -/

theorem hasDismissed_iff : s.hasDismissed r t = true ↔ ⟨r, t⟩ ∈ s.dismissals := by
  rw [hasDismissed, List.contains_iff_mem]

theorem hasDismissed_dismiss {isNew : Bool} (h : s.dismiss r t = .ok (isNew, s')) :
    s'.hasDismissed r t = true := by
  obtain ⟨-, -, -, rfl⟩ := dismiss_eq_ok_iff.1 h
  split
  · assumption
  · rw [hasDismissed_iff]
    exact List.mem_append_right _ List.mem_cons_self

theorem dismissals_subset_of_call {now : Instant} {c : Call} {reply : Reply}
    (h : c.run now s = .ok (reply, s')) : s.dismissals ⊆ s'.dismissals := by
  cases Call.run_eq_ok_iff.1 h with
  | transition ht =>
    rw [dismissals_of_run ht]
    exact fun _ hd => hd
  | dismiss hd =>
    obtain ⟨-, -, -, rfl⟩ := dismiss_eq_ok_iff.1 hd
    split
    · exact fun _ hd => hd
    · exact List.subset_append_left _ _
  | upsert hu =>
    rw [dismissals_of_upsert hu]
    exact fun _ hd => hd

theorem hasDismissed_afterAll (h : s.hasDismissed r t = true) (calls : List (Instant × Call)) :
    (s.afterAll calls).hasDismissed r t = true := by
  refine afterAll_induction (P := fun s => s.hasDismissed r t = true) ?_ h
  intro step _ s s' reply hs hc
  rw [hasDismissed_iff] at hs ⊢
  exact dismissals_subset_of_call hc hs

/-! ## Requests -/

/-- Both profiles are complete, and the pair waits for `r` to answer a request of `t`. -/
def IsAskedBackBy (s : Store) (r t : Int) : Prop :=
  s.isComplete r = true ∧ s.isComplete t = true ∧
    ∃ c, s.deciding? r t = some c ∧ c.status = .pending ∧ c.requester = t

theorem decided_of_dismissed {result : Transition.Result} {w : Transition.Write}
    (hd : s.hasDismissed r t = true) (h : Decided r t (s.read r t) .request result w) :
    s.isComplete r = true ∧ s.isComplete t = true ∧ result = .accepted ∧
      ∃ c, s.deciding? r t = some c ∧ c.status = .pending ∧ c.requester = t ∧
        w = .mark c.id .accepted := by
  cases h with
  | ask _ _ _ hledger =>
    have hfalse : s.hasDismissed r t = false := hledger
    rw [hd] at hfalse
    cases hfalse
  | agree hcaller hother hrow hstatus hfrom =>
    exact ⟨hcaller, hother, rfl, _, hrow, hstatus, hfrom, rfl⟩

theorem request_ok_iff (hrt : r ≠ t) (hd : s.hasDismissed r t = true) (now : Instant) :
    (∃ o s', Transition.run now .request r t s = .ok (o, s')) ↔ s.IsAskedBackBy r t := by
  constructor
  · rintro ⟨o, s', h⟩
    obtain ⟨-, w, hw, -, -⟩ := Transition.run_eq_ok_iff.1 h
    obtain ⟨hr, ht, -, c, hc, hstatus, hfrom, -⟩ := decided_of_dismissed hd hw
    exact ⟨hr, ht, c, hc, hstatus, hfrom⟩
  · rintro ⟨hr, ht, c, hc, hstatus, hfrom⟩
    have h : Decided r t (s.read r t) .request .accepted (.mark c.id .accepted) :=
      .agree hr ht hc hstatus hfrom
    exact ⟨⟨.accepted, c.id⟩, _, Transition.run_eq_ok_iff.2 ⟨hrt, _, h, rfl, rfl⟩⟩

/-- **A dismissal blocks every request but the answer to one.** After a dismissal of `t` by `r`, and
after any run from there, a request by `r` to `t` succeeds exactly when it answers a request of `t`;
it then accepts that one, makes no row, and otherwise leaves the store as it is. -/
theorem request_of_dismissed (hrt : r ≠ t)
    (hd : s.hasDismissed r t = true ∨ ∃ s₀ isNew, dismiss r t s₀ = .ok (isNew, s))
    (calls : List (Instant × Call)) (now : Instant) :
    (s.afterAll calls).hasDismissed r t = true ∧
      ((∃ o s', Transition.run now .request r t (s.afterAll calls) = .ok (o, s')) ↔
        (s.afterAll calls).IsAskedBackBy r t) ∧
      (∀ o s', Transition.run now .request r t (s.afterAll calls) = .ok (o, s') →
        ∃ c, (s.afterAll calls).deciding? r t = some c ∧ o = ⟨.accepted, c.id⟩ ∧
          s' = (s.afterAll calls).write now (.mark c.id .accepted)) ∧
      (¬ (s.afterAll calls).IsAskedBackBy r t →
        (s.afterAll calls).after (now, .transition .request r t) = s.afterAll calls) := by
  have hs : s.hasDismissed r t = true := by
    rcases hd with hd | ⟨s₀, isNew, hd⟩
    · exact hd
    · exact hasDismissed_dismiss hd
  have hall := hasDismissed_afterAll hs calls
  have hok := request_ok_iff hrt hall now
  refine ⟨hall, hok, ?_, ?_⟩
  · intro o s' h
    obtain ⟨-, w, hw, hid, rfl⟩ := Transition.run_eq_ok_iff.1 h
    obtain ⟨-, -, hresult, c, hc, -, -, rfl⟩ := decided_of_dismissed hall hw
    refine ⟨c, hc, ?_, rfl⟩
    obtain ⟨result, id⟩ := o
    rw [show result = .accepted from hresult, show id = c.id from hid]
  · intro hno
    rw [← hok] at hno
    rw [after_transition]
    cases hrun : Transition.run now .request r t (s.afterAll calls) with
    | ok x => exact absurd ⟨x.1, x.2, hrun⟩ hno
    | error e => rfl

/-- The second member dismisses the first and then accepts the first's request by one of their
own. -/
theorem request_of_dismissed_sample :
    let s : Store := { sample with dismissals := sample.dismissals ++ [⟨2, 1⟩] }
    (2 : Int) ≠ 1 ∧ sample.dismiss 2 1 = .ok (true, s) ∧
      ∃ s', Transition.run 5 .request 2 1 (s.afterAll [(4, .dismiss 1 3)]) =
        .ok (⟨.accepted, 1⟩, s') := by
  intro s
  have hd : sample.dismiss 2 1 = .ok (true, s) := rfl
  obtain ⟨-, hok, hthen, -⟩ :=
    request_of_dismissed (by decide) (Or.inr ⟨sample, true, hd⟩) [(4, .dismiss 1 3)] 5
  have hasked : (s.afterAll [(4, .dismiss 1 3)]).IsAskedBackBy 2 1 :=
    ⟨rfl, rfl, ⟨1, 1, 2, .pending, 0, 0⟩, rfl, rfl, rfl⟩
  obtain ⟨o, s', h⟩ := hok.2 hasked
  obtain ⟨c, hc, rfl, -⟩ := hthen o s' h
  obtain rfl : ⟨1, 1, 2, .pending, 0, 0⟩ = c := Option.some.inj hc
  exact ⟨by decide, hd, s', h⟩

/-- A request that goes through right after a dismissal of the member asked. -/
theorem dismissal_does_not_block :
    ¬ ∀ (s s₁ s₂ : Store) (r t : Int) (isNew : Bool) (now : Instant) (o : Transition.Outcome),
      s.IsClean → r ≠ t → s.dismiss r t = .ok (isNew, s₁) →
        Transition.run now .request r t s₁ ≠ .ok (o, s₂) := by
  intro h
  exact h sample _ _ 2 1 true 5 ⟨.accepted, 1⟩ isClean_sample (by decide) rfl rfl

end Store

end Matchmaker
