import Mathlib.Data.List.Induction
import Matchmaker.Proofs.OneRow

/-!
# Requests in the order in which they were made

What calls answer tells which requests still wait: those that no later call accepts, declines or
cancels. The table keeps them in the order in which they were made, since rows are made at its end
and change in their place, and although the id of a deleted row is given again, the ids of the rows
grow along the table. So do the times at which rows were made, as long as the clock does not go
back. The lists of a member read this order backwards.

* `Asking`, `waiting`: requests, and those of a log that wait;
* **`waiting_eq_foldl`**: what one more call does to them;
* `IsChronicle`, **`IsChronicle.apply`**: rows in the order in which they were made;
* **`asked_write`**, **`asked_afterAll`**: the pending rows after a transition and after a run;
* **`requests_newest_first`**: the lists of a member after a run.
-/

namespace Matchmaker

open Transition (Decided Result Write)

/-! ## Requests in a log -/

/-- A request of one member to another. -/
structure Asking where
  requester : Int
  target : Int
  deriving DecidableEq, Repr

namespace Asking

/-- The request that a call makes. -/
def made? : Call × Reply → Option Asking
  | (.transition _ a b, .transition o) =>
    match o.result with
    | .pending => some ⟨a, b⟩
    | .accepted | .declined | .cancelled | .disconnected => none
  | _ => none

/-- The request that a call settles. -/
def settled? : Call × Reply → Option Asking
  | (.transition _ a b, .transition o) =>
    match o.result with
    | .accepted | .declined => some ⟨b, a⟩
    | .cancelled => some ⟨a, b⟩
    | .pending | .disconnected => none
  | _ => none

/-- The requests of a log that no later call settles, in the order in which they were made. -/
def waiting : List (Call × Reply) → List Asking
  | [] => []
  | e :: later =>
    ((made? e).toList.filter fun r => later.all fun e => settled? e != some r) ++ waiting later

/-- The requests that wait after one more call. -/
def follow (asked : List Asking) (e : Call × Reply) : List Asking :=
  (asked.filter fun r => settled? e != some r) ++ (made? e).toList

section Follow

variable {e : Call × Reply} {r : Asking} (asked : List Asking)

theorem follow_of_none (hmade : made? e = none) (hsettled : settled? e = none) :
    follow asked e = asked := by
  rw [follow, hmade, hsettled, Option.toList_none, List.append_nil]
  exact List.filter_eq_self.2 fun _ _ => rfl

theorem follow_of_made (hmade : made? e = some r) (hsettled : settled? e = none) :
    follow asked e = asked ++ [r] := by
  rw [follow, hmade, hsettled, Option.toList_some]
  congr 1
  exact List.filter_eq_self.2 fun _ _ => rfl

theorem follow_of_settled (hmade : made? e = none) (hsettled : settled? e = some r) :
    follow asked e = asked.filter fun x => x != r := by
  rw [follow, hmade, hsettled, Option.toList_none, List.append_nil]
  refine List.filter_congr fun x _ => ?_
  rw [Bool.eq_iff_iff, bne_iff_ne, bne_iff_ne, ne_comm, ne_eq, Option.some_inj]

end Follow

theorem waiting_concat (log : List (Call × Reply)) (e : Call × Reply) :
    waiting (log ++ [e]) = follow (waiting log) e := by
  induction log with
  | nil => simp [waiting, follow]
  | cons first log ih =>
    rw [List.cons_append, waiting, waiting, ih, follow, follow, List.filter_append,
      List.filter_filter, List.append_assoc]
    congr 1
    exact List.filter_congr fun r _ => by simp [Bool.and_comm]

/-- **The requests of a log that wait are found call by call.** -/
theorem waiting_eq_foldl (log : List (Call × Reply)) : waiting log = log.foldl follow [] := by
  induction log using List.reverseRecOn with
  | nil => rfl
  | append_singleton log e ih => rw [waiting_concat, ih, List.foldl_concat]

end Asking

open Asking

/-- The request that a row was made with. -/
def Connection.asking (c : Connection) : Asking :=
  ⟨c.requester, c.target⟩

/-- The requests of the pending rows. -/
def asked (rows : List Connection) : List Asking :=
  (rows.filter fun c => c.status == .pending).map Connection.asking

section Asked

variable {rows before after : List Connection} {c : Connection}

theorem asked_append (rows rows' : List Connection) :
    asked (rows ++ rows') = asked rows ++ asked rows' := by
  rw [asked, asked, asked, List.filter_append, List.map_append]

theorem asked_singleton (h : c.status = .pending) : asked [c] = [c.asking] := by
  simp [asked, h]

theorem asked_middle_of_ne (h : c.status ≠ .pending) :
    asked (before ++ c :: after) = asked (before ++ after) := by
  simp [asked, h]

theorem asked_insert {fresh a b : Int} {now : Instant} :
    asked ((Write.insert a b).apply fresh now rows) = asked rows ++ [⟨a, b⟩] := by
  rw [Write.apply, asked_append, asked_singleton rfl]
  rfl

theorem mem_asked {r : Asking} (h : r ∈ asked rows) : ∃ c ∈ rows, c.asking = r := by
  obtain ⟨c, hc, rfl⟩ := List.mem_map.1 h
  exact ⟨c, (List.mem_filter.1 hc).1, rfl⟩

/-- Without its row a request is gone, and no other is. -/
theorem asked_middle (hpairs : ((before ++ c :: after).map Connection.pair).Nodup)
    (h : c.status = .pending) : asked (before ++ after) =
      (asked (before ++ c :: after)).filter fun r => r != c.asking := by
  have hother : ∀ d ∈ before ++ after, d.asking ≠ c.asking := by
    intro d hd he
    rw [List.map_append, List.map_cons, List.nodup_middle, List.nodup_cons, ← List.map_append]
      at hpairs
    obtain ⟨hrequester, htarget⟩ := Asking.mk.inj he
    have hpair : d.pair = c.pair := by
      rw [Connection.pair, hrequester, htarget, Connection.pair]
    exact hpairs.1 (hpair ▸ List.mem_map_of_mem hd)
  have hkept : ∀ rows ⊆ before ++ after,
      (asked rows).filter (fun r => r != c.asking) = asked rows := by
    intro rows hrows
    refine List.filter_eq_self.2 fun r hr => ?_
    obtain ⟨d, hd, rfl⟩ := mem_asked hr
    simpa using hother d (hrows hd)
  have hmiddle : before ++ c :: after = before ++ ([c] ++ after) := rfl
  rw [hmiddle, asked_append, asked_append, asked_append, asked_singleton h, List.filter_append,
    List.filter_append, hkept before (List.subset_append_left _ _),
    hkept after (List.subset_append_right _ _)]
  simp

end Asked

/-! ## Rows in the order in which they were made -/

/-- Rows in the order in which they were made, none after an instant and no two of one pair. -/
structure IsChronicle (now : Instant) (rows : List Connection) : Prop where
  order : rows.Pairwise fun c d => c.id < d.id ∧ c.created ≤ d.created
  past : ∀ c ∈ rows, c.created ≤ now
  pairs : (rows.map Connection.pair).Nodup

namespace IsChronicle

variable {now later : Instant} {rows : List Connection}

theorem nil (now : Instant) : IsChronicle now [] :=
  ⟨.nil, by simp, .nil⟩

theorem ids (h : IsChronicle now rows) : (rows.map Connection.id).Nodup := by
  rw [List.Nodup, List.pairwise_map]
  exact h.order.imp fun hcd => Int.ne_of_lt hcd.1

theorem mono (h : IsChronicle now rows) (hlater : now ≤ later) : IsChronicle later rows :=
  { h with past := fun c hc => Nat.le_trans (h.past c hc) hlater }

/-- **Every change keeps the order in which rows were made.** -/
theorem apply (h : IsChronicle now rows) {fresh : Int} (hfresh : ∀ c ∈ rows, c.id < fresh)
    {w : Write} {a b : Int} (hw : w.IsOn rows a b) :
    IsChronicle now (w.apply fresh now rows) := by
  refine ⟨?_, ?_, nodup_pairs_apply h.pairs hw⟩
  · cases w with
    | insert x y =>
      refine List.pairwise_append.2 ⟨h.order, List.pairwise_singleton _ _, fun c hc d hd => ?_⟩
      obtain rfl := List.mem_singleton.1 hd
      exact ⟨hfresh c hc, h.past c hc⟩
    | mark id status =>
      refine List.pairwise_map.2 (h.order.imp fun hcd => ?_)
      rwa [Connection.marked_id, Connection.marked_id, Connection.marked_created,
        Connection.marked_created]
    | delete id => exact h.order.sublist List.filter_sublist
  · intro c hc
    cases w with
    | insert x y =>
      rcases List.mem_append.1 hc with hc | hc
      · exact h.past c hc
      · obtain rfl := List.mem_singleton.1 hc
        exact Nat.le_refl now
    | mark id status =>
      obtain ⟨d, hd, rfl⟩ := List.mem_map.1 hc
      rw [Connection.marked_created]
      exact h.past d hd
    | delete id => exact h.past c (List.mem_filter.1 hc).1

/-- **From the newest to the oldest is the table backwards.** -/
theorem newestFirst_filter (h : IsChronicle now rows) (p : Connection → Bool) :
    Store.newestFirst (rows.filter p) = (rows.filter p).reverse := by
  have hsub : (rows.filter p).Sublist rows := List.filter_sublist
  have hperm : (Store.newestFirst (rows.filter p)).Perm (rows.filter p).reverse :=
    (List.mergeSort_perm _ _).trans (List.reverse_perm _).symm
  refine hperm.eq_of_pairwise (fun c d hc hd hcd hdc => ?_) (List.pairwise_mergeSort ?_ ?_ _)
    (List.pairwise_reverse.2 ((h.order.sublist hsub).imp fun hcd => ?_))
  · -- rows that come before each other have the same id
    rw [hperm.mem_iff, List.mem_reverse] at hc
    rw [List.mem_reverse] at hd
    apply eq_of_key_eq h.ids (hsub.subset hc) (hsub.subset hd)
    simp only [Bool.or_eq_true, Bool.and_eq_true, decide_eq_true_eq, beq_iff_eq] at hcd hdc
    grind
  · intro c d e hcd hde
    simp only [Bool.or_eq_true, Bool.and_eq_true, decide_eq_true_eq, beq_iff_eq] at hcd hde ⊢
    grind
  · intro c d
    simp only [Bool.or_eq_true, Bool.and_eq_true, decide_eq_true_eq, beq_iff_eq]
    grind
  · simp only [Bool.or_eq_true, Bool.and_eq_true, decide_eq_true_eq, beq_iff_eq]
    grind

theorem map_newestFirst (h : IsChronicle now rows) (p : Asking → Bool) (f : Asking → Int) :
    (Store.newestFirst (rows.filter fun c => p c.asking && c.status == .pending)).map
      (fun c => f c.asking) = (((asked rows).filter p).map f).reverse := by
  rw [h.newestFirst_filter, List.map_reverse, asked, List.filter_map, List.filter_filter,
    List.map_map]
  rfl

theorem nodup_asked (h : IsChronicle now rows) : (asked rows).Nodup := by
  have hpairs : ((asked rows).map fun r => Lock.key r.requester r.target).Nodup := by
    rw [asked, List.map_map]
    exact h.pairs.sublist (List.filter_sublist.map Connection.pair)
  exact List.Nodup.of_map _ hpairs

/-! ### Pending rows after a change -/

section Change

variable {fresh : Int} {c : Connection} {status : Status}

theorem asked_mark (h : IsChronicle now rows) (hc : c ∈ rows) (hpending : c.status = .pending)
    (hstatus : status ≠ .pending) : asked ((Write.mark c.id status).apply fresh later rows) =
      (asked rows).filter fun r => r != c.asking := by
  obtain ⟨before, after, rfl⟩ := List.mem_iff_append.1 hc
  rw [apply_mark_middle h.ids, asked_middle_of_ne hstatus, asked_middle h.pairs hpending]

theorem asked_mark_of_ne (h : IsChronicle now rows) (hc : c ∈ rows) (hother : c.status ≠ .pending)
    (hstatus : status ≠ .pending) :
    asked ((Write.mark c.id status).apply fresh later rows) = asked rows := by
  obtain ⟨before, after, rfl⟩ := List.mem_iff_append.1 hc
  rw [apply_mark_middle h.ids, asked_middle_of_ne hstatus, asked_middle_of_ne hother]

theorem asked_delete (h : IsChronicle now rows) (hc : c ∈ rows) (hpending : c.status = .pending) :
    asked ((Write.delete c.id).apply fresh later rows) =
      (asked rows).filter fun r => r != c.asking := by
  obtain ⟨before, after, rfl⟩ := List.mem_iff_append.1 hc
  rw [apply_delete_middle h.ids, asked_middle h.pairs hpending]

end Change

end IsChronicle

namespace Store

variable {s : Store} {now : Instant} {t : Transition} {a b : Int}

/-! ## Runs -/

/-- A call that succeeds, with what it answers. -/
def answer? (s : Store) (step : Instant × Call) : Option (Call × Reply) :=
  match step.2.run step.1 s with
  | .ok (reply, _) => some (step.2, reply)
  | .error _ => none

/-- The calls of a run that succeed, with what they answer. -/
def log : Store → List (Instant × Call) → List (Call × Reply)
  | _, [] => []
  | s, step :: calls => (s.answer? step).toList ++ log (s.after step) calls

theorem asking_of_deciding? {c : Connection} (h : s.deciding? a b = some c) {x y : Int}
    (hfrom : c.requester = x) (hxy : (x = a ∧ y = b) ∨ (x = b ∧ y = a)) : c.asking = ⟨x, y⟩ := by
  have hends := Lock.key_eq_iff.1 (mem_of_deciding? h).2
  rw [Connection.asking, Asking.mk.injEq]
  omega

/-- **What a transition does to the pending rows is what it answers.** -/
theorem asked_write (h : IsChronicle now s.connections) {result : Result} {w : Write}
    (hw : Decided a b (s.read a b) t result w) (id : Int) (later : Instant) :
    asked (s.write later w).connections =
      follow (asked s.connections) (.transition t a b, .transition ⟨result, id⟩) := by
  rw [write_eq]
  cases hw with
  | ask => rw [follow_of_made _ rfl rfl, asked_insert]
  | agree _ _ hrow hstatus hfrom | accept hrow hstatus hfrom =>
    rw [follow_of_settled _ rfl rfl, h.asked_mark (mem_of_deciding? hrow).1 hstatus (by decide),
      asking_of_deciding? hrow hfrom (Or.inr ⟨rfl, rfl⟩)]
  | decline hrow hstatus hfrom =>
    rw [follow_of_settled _ rfl rfl, h.asked_delete (mem_of_deciding? hrow).1 hstatus,
      asking_of_deciding? hrow hfrom (Or.inr ⟨rfl, rfl⟩)]
  | cancel hrow hstatus hfrom =>
    rw [follow_of_settled _ rfl rfl, h.asked_delete (mem_of_deciding? hrow).1 hstatus,
      asking_of_deciding? hrow hfrom (Or.inl ⟨rfl, rfl⟩)]
  | disconnect hrow hstatus =>
    rw [follow_of_none _ rfl rfl, h.asked_mark_of_ne (mem_of_deciding? hrow).1
      (by rw [hstatus]; decide) (by decide)]

theorem isChronicle_after {step : Instant × Call} (h : IsChronicle now s.connections)
    (hnow : now ≤ step.1) : IsChronicle step.1 (s.after step).connections := by
  obtain ⟨later, c⟩ := step
  rw [after_eq]
  split
  · rename_i hc
    cases Call.run_eq_ok_iff.1 hc with
    | transition ht =>
      obtain ⟨-, w, hw, -, rfl⟩ := Transition.run_eq_ok_iff.1 ht
      rw [write_eq]
      exact (h.mono hnow).apply (fun _ => lt_nextConnection) hw.isOn
    | dismiss hd => exact connections_of_dismiss hd ▸ h.mono hnow
    | upsert hu => exact connections_of_upsert hu ▸ h.mono hnow
  · exact h.mono hnow

theorem asked_after (h : IsChronicle now s.connections) (step : Instant × Call) :
    asked (s.after step).connections =
      (s.answer? step).toList.foldl follow (asked s.connections) := by
  obtain ⟨later, c⟩ := step
  rw [after_eq]
  unfold answer?
  cases hc : c.run later s with
  | error e => rfl
  | ok x =>
    obtain ⟨reply, s'⟩ := x
    show asked s'.connections = follow (asked s.connections) (c, reply)
    cases Call.run_eq_ok_iff.1 hc with
    | @transition t a b o _ ht =>
      obtain ⟨-, w, hw, -, rfl⟩ := Transition.run_eq_ok_iff.1 ht
      exact asked_write h hw o.connection later
    | dismiss hd => rw [follow_of_none _ rfl rfl, connections_of_dismiss hd]
    | upsert hu => rw [follow_of_none _ rfl rfl, connections_of_upsert hu]

/-- **The pending rows after a run are the requests that wait after its calls.** -/
theorem asked_afterAll {calls : List (Instant × Call)} (h : IsChronicle now s.connections)
    (hnow : ∀ step ∈ calls, now ≤ step.1) (hclock : calls.Pairwise fun x y => x.1 ≤ y.1) :
    (∃ later, IsChronicle later (s.afterAll calls).connections) ∧
      asked (s.afterAll calls).connections = (s.log calls).foldl follow (asked s.connections) := by
  induction calls generalizing s now with
  | nil => exact ⟨⟨now, h⟩, rfl⟩
  | cons step calls ih =>
    obtain ⟨hfirst, hclock⟩ := List.pairwise_cons.1 hclock
    rw [log, List.foldl_append, ← asked_after h]
    exact ih (isChronicle_after h (hnow step List.mem_cons_self)) hfirst hclock

/-- **Requests are listed from the newest to the oldest.** In a run that starts without connections
and whose clock does not go back, however many calls fall on one instant, the members whose requests
wait for a member are listed in the reverse of the order in which these requests were made, and so
are the members whose answer they wait for. No request waits twice: one that is made again after it
was declined or cancelled counts from then on. -/
theorem requests_newest_first (h : s.connections = []) {calls : List (Instant × Call)}
    (hclock : calls.Pairwise fun x y => x.1 ≤ y.1) :
    (waiting (s.log calls)).Nodup ∧ ∀ u,
      (s.afterAll calls).incoming u =
        (((waiting (s.log calls)).filter fun r => r.target == u).map Asking.requester).reverse ∧
      (s.afterAll calls).outgoing u =
        (((waiting (s.log calls)).filter fun r => r.requester == u).map Asking.target).reverse := by
  have hstart : IsChronicle 0 s.connections := h ▸ .nil 0
  obtain ⟨⟨later, hend⟩, hasked⟩ := asked_afterAll hstart (fun _ _ => Nat.zero_le _) hclock
  have hwaiting : asked (s.afterAll calls).connections = waiting (s.log calls) := by
    rw [hasked, h, waiting_eq_foldl]
    rfl
  rw [← hwaiting]
  exact ⟨hend.nodup_asked, fun u => ⟨hend.map_newestFirst (fun r => r.target == u) Asking.requester,
    hend.map_newestFirst (fun r => r.requester == u) Asking.target⟩⟩

/-- Three members before any request. -/
def strangers : Store :=
  { sample with connections := [] }

/-- Calls at one instant. A request is cancelled and its id is given again; another one is declined
and made again. -/
def restless : List (Instant × Call) :=
  [(.request, 1, 2), (.request, 3, 2), (.cancel, 3, 2), (.request, 1, 3), (.request, 3, 2),
    (.decline, 2, 1), (.request, 1, 2)].map fun x => (7, .transition x.1 x.2.1 x.2.2)

theorem requests_newest_first_sample :
    (strangers.afterAll restless).incoming 2 = [1, 3] ∧
      (strangers.afterAll restless).outgoing 1 = [2, 3] := by
  have hclock : restless.Pairwise fun x y => x.1 ≤ y.1 := by decide
  obtain ⟨-, hlists⟩ := requests_newest_first (show strangers.connections = [] from rfl) hclock
  rw [(hlists 2).1, (hlists 1).2]
  exact ⟨by decide, by decide⟩

end Store

end Matchmaker
