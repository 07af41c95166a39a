import Matchmaker.Proofs.Blocking
import Matchmaker.Proofs.Completeness
import Matchmaker.Proofs.Pools

/-!
# The ledger of dismissals

Entries are made by dismissals that succeed and by nothing else, none is made twice, and none is
ever taken out. A dismissal needs that the other's profile is complete, which lasts, and so it can
be repeated for good, to no effect.

* `enter`: a ledger with one more entry;
* `Store.dismissal?`, `Store.dismissalsIn`: the pairs of the dismissals that succeed;
* `dismissals_afterAll`: the ledger after a run, entry by entry;
* `dismiss_afterAll`: a dismissal repeated;
* **`ledger_of_run`**: the ledger of a run, what dismissals answer and what they are for.
-/

namespace Matchmaker

/-- The ledger with a dismissal, which it may hold already. -/
def enter (ledger : List Dismissal) (d : Dismissal) : List Dismissal :=
  if d ∈ ledger then ledger else ledger ++ [d]

section Enter

variable {ledger ds : List Dismissal} {d e : Dismissal}

theorem mem_enter : e ∈ enter ledger d ↔ e ∈ ledger ∨ e = d := by
  unfold enter
  split
  · rename_i hd
    exact ⟨Or.inl, fun h => h.elim id fun he => he ▸ hd⟩
  · rw [List.mem_append, List.mem_singleton]

theorem prefix_enter (ledger : List Dismissal) (d : Dismissal) : ledger <+: enter ledger d := by
  unfold enter
  split
  · exact List.prefix_rfl
  · exact List.prefix_append _ _

theorem mem_foldl_enter : e ∈ ds.foldl enter ledger ↔ e ∈ ledger ∨ e ∈ ds := by
  induction ds generalizing ledger with
  | nil => simp
  | cons d ds ih => rw [List.foldl_cons, ih, mem_enter, List.mem_cons, or_assoc]

theorem prefix_foldl_enter (ledger ds : List Dismissal) : ledger <+: ds.foldl enter ledger := by
  induction ds generalizing ledger with
  | nil => exact List.prefix_rfl
  | cons d ds ih => exact (prefix_enter ledger d).trans (ih _)

end Enter

namespace Store

variable {s s' : Store} {u v : Int} {isNew : Bool}

/-! ## What a run enters -/

/-- The pair that a call dismisses, if it succeeds. -/
def dismissal? (s : Store) : Call → Option Dismissal
  | .dismiss a b =>
    match s.dismiss a b with
    | .ok _ => some ⟨a, b⟩
    | .error _ => none
  | .transition _ _ _ | .upsert _ _ => none

/-- The pairs of the dismissals that succeed in a run, in order. -/
def dismissalsIn : Store → List (Instant × Call) → List Dismissal
  | _, [] => []
  | s, step :: calls => (s.dismissal? step.2).toList ++ dismissalsIn (s.after step) calls

theorem dismissals_of_dismiss (h : s.dismiss u v = .ok (isNew, s')) :
    s'.dismissals = enter s.dismissals ⟨u, v⟩ := by
  obtain ⟨-, -, -, rfl⟩ := dismiss_eq_ok_iff.1 h
  unfold enter
  simp only [← hasDismissed_iff]
  split <;> rfl

theorem dismissals_after (s : Store) (step : Instant × Call) :
    (s.after step).dismissals = (s.dismissal? step.2).toList.foldl enter s.dismissals := by
  obtain ⟨now, c⟩ := step
  rw [after_eq]
  cases c with
  | transition t a b =>
    cases ht : (Call.transition t a b).run now s with
    | error e => rfl
    | ok x =>
      obtain ⟨reply, s'⟩ := x
      cases Call.run_eq_ok_iff.1 ht with
      | transition ht => exact dismissals_of_run ht
  | dismiss a b =>
    simp only [Call.run_dismiss, dismissal?]
    cases hd : s.dismiss a b with
    | error e => rfl
    | ok x => exact dismissals_of_dismiss hd
  | upsert user payload =>
    cases hu : (Call.upsert user payload).run now s with
    | error e => rfl
    | ok x =>
      obtain ⟨reply, s'⟩ := x
      cases Call.run_eq_ok_iff.1 hu with
      | upsert hu => exact dismissals_of_upsert hu

/-- **The ledger after a run.** -/
theorem dismissals_afterAll (s : Store) (calls : List (Instant × Call)) :
    (s.afterAll calls).dismissals = (s.dismissalsIn calls).foldl enter s.dismissals := by
  induction calls generalizing s with
  | nil => rfl
  | cons step calls ih =>
    rw [dismissalsIn, List.foldl_append, ← dismissals_after]
    exact ih (s.after step)

/-! ## Dismissals repeated -/

/-- A dismissal that has succeeded succeeds after every run, and changes nothing any more. -/
theorem dismiss_afterAll (h : s.dismiss u v = .ok (isNew, s')) (later : List (Instant × Call)) :
    (s'.afterAll later).dismiss u v = .ok (false, s'.afterAll later) := by
  obtain ⟨huv, hcomplete, -, -⟩ := dismiss_eq_ok_iff.1 h
  have hcomplete' : s'.isComplete v = true := by
    rwa [isComplete_congr (profiles_of_dismiss h)]
  have hdismissed := hasDismissed_afterAll (hasDismissed_dismiss h) later
  refine dismiss_eq_ok_iff.2 ⟨huv, isComplete_afterAll hcomplete' later, ?_, ?_⟩
  · rw [hdismissed]
    rfl
  · rw [if_pos hdismissed]

/-- **The ledger of a run.** It is the ledger that there was, with the pairs of the dismissals that
succeeded, each once and none of a member with themselves. A dismissal tells whether its pair is new
there; after it the same dismissal succeeds at all times and is never new, and the member dismissed
is not shown any more to the one who dismissed them. -/
theorem ledger_of_run (hs : s.IsLawful) (calls : List (Instant × Call)) :
    s.dismissals <+: (s.afterAll calls).dismissals ∧
      (∀ d, d ∈ (s.afterAll calls).dismissals ↔ d ∈ s.dismissals ∨ d ∈ s.dismissalsIn calls) ∧
      (s.afterAll calls).dismissals.Nodup ∧
      (∀ d ∈ (s.afterAll calls).dismissals, d.user ≠ d.dismissed) ∧
      ∀ u v isNew s', (s.afterAll calls).dismiss u v = .ok (isNew, s') →
        (isNew = true ↔ ⟨u, v⟩ ∉ (s.afterAll calls).dismissals) ∧
          ∀ later, (s'.afterAll later).dismiss u v = .ok (false, s'.afterAll later) ∧
            (s'.afterAll later).IsUnseen u v := by
  have hlawful : (s.afterAll calls).IsLawful :=
    afterAll_induction (fun _ _ _ _ _ hs hc => hs.call hc) hs
  have hledger := dismissals_afterAll s calls
  refine ⟨hledger ▸ prefix_foldl_enter _ _, fun d => hledger ▸ mem_foldl_enter, hlawful.ledger,
    hlawful.dismissals, fun u v isNew s' h => ⟨?_, fun later => ⟨dismiss_afterAll h later, ?_⟩⟩⟩
  · obtain ⟨-, -, rfl, -⟩ := dismiss_eq_ok_iff.1 h
    rw [Bool.not_eq_true', ← Bool.not_eq_true, hasDismissed_iff]
  · exact isUnseen_of_hasDismissed (hasDismissed_afterAll (hasDismissed_dismiss h) later)

/-- The third member dismisses the first once more and then the second, who dismisses them in turn;
nobody dismisses themselves. -/
theorem ledger_of_run_sample :
    let calls : List (Instant × Call) := [(1, .dismiss 3 1), (2, .dismiss 3 3), (3, .dismiss 3 2),
      (4, .transition .request 3 2), (5, .dismiss 2 3), (6, .dismiss 3 2)]
    sample.IsLawful ∧ sample.dismissalsIn calls = [⟨3, 1⟩, ⟨3, 2⟩, ⟨2, 3⟩, ⟨3, 2⟩] ∧
      (sample.afterAll calls).dismissals = [⟨3, 1⟩, ⟨3, 2⟩, ⟨2, 3⟩] ∧
      ∃ s', (sample.afterAll calls).dismiss 1 3 = .ok (true, s') ∧
        (s'.afterAll [(7, .transition .request 1 3)]).dismiss 1 3 =
          .ok (false, s'.afterAll [(7, .transition .request 1 3)]) ∧
        (s'.afterAll [(7, .transition .request 1 3)]).IsUnseen 1 3 := by
  intro calls
  obtain ⟨-, -, -, -, hthen⟩ := ledger_of_run isClean_sample.toIsLawful calls
  have hd : (sample.afterAll calls).dismiss 1 3 = .ok (true, _) := rfl
  obtain ⟨-, hlater⟩ := hthen 1 3 true _ hd
  obtain ⟨hrepeat, hunseen⟩ := hlater [(7, .transition .request 1 3)]
  exact ⟨isClean_sample.toIsLawful, by decide, by decide, _, hd, hrepeat, hunseen⟩

end Store

end Matchmaker
