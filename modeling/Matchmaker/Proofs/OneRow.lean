import Matchmaker.Database.Session
import Matchmaker.Proofs.Calls
import Matchmaker.Proofs.Deciding
import Mathlib.Data.List.Nodup

/-!
# One row at a time

A transition that fails leaves all tables. One that succeeds makes a row, changes the status of one
or deletes one, always the row that decides the state of its pair, and what it leaves decides again.

* `apply_mark_middle`, `apply_delete_middle`: a change of one row of a table;
* `Store.OneRow`: what can become of a store;
* `Store.twoWay`: a store with a row in each direction;
* **`transition_touches_one_row`**: nothing else can become of it.
-/

namespace Matchmaker

open Transition (Decided Outcome Result Write)

/-! ## A row in its table -/

section Middle

variable {before after : List Connection} {c d : Connection} {fresh : Int} {now : Instant}

theorem id_ne_of_middle (hid : ((before ++ c :: after).map Connection.id).Nodup)
    (hd : d ∈ before ++ after) : d.id ≠ c.id := by
  rw [List.map_append, List.map_cons, List.nodup_middle, List.nodup_cons, ← List.map_append] at hid
  intro h
  exact hid.1 (h ▸ List.mem_map_of_mem hd)

theorem apply_mark_middle (hid : ((before ++ c :: after).map Connection.id).Nodup)
    (status : Status) : (Write.mark c.id status).apply fresh now (before ++ c :: after) =
      before ++ { c with status, updated := now } :: after := by
  have hsame : ∀ d ∈ before ++ after, d.marked c.id status now = id d := fun d hd =>
    Connection.marked_of_ne status now (id_ne_of_middle hid hd)
  rw [List.forall_mem_append] at hsame
  rw [Write.apply, List.map_append, List.map_cons, List.map_congr_left hsame.1,
    List.map_congr_left hsame.2, List.map_id, List.map_id, c.marked_self]

theorem apply_delete_middle (hid : ((before ++ c :: after).map Connection.id).Nodup) :
    (Write.delete c.id).apply fresh now (before ++ c :: after) = before ++ after := by
  have hkeep : ∀ d ∈ before ++ after, (!(d.id == c.id)) = true := fun d hd => by
    simpa using id_ne_of_middle hid hd
  rw [List.forall_mem_append] at hkeep
  rw [Write.apply, List.filter_append, List.filter_cons_of_neg (by simp),
    List.filter_eq_self.2 hkeep.1, List.filter_eq_self.2 hkeep.2]

end Middle

theorem Session.transition_eq_run (q : Conditions) (now : Instant) (t : Transition) (a b : Int)
    (s : Store) : (∃ e, Session.transition q now t a b s = .error e) ∨
      Session.transition q now t a b s = t.run now a b s := by
  rw [Session.transition_eq]
  cases Session.checkPair q t a b s with
  | error e => exact Or.inl ⟨e, rfl⟩
  | ok _ => exact Or.inr rfl

namespace Store

variable {s s' : Store} {now : Instant} {t : Transition} {a b : Int} {o : Outcome} {w : Write}

/-- What becomes of a store when a transition by `a` on the pair with `b` succeeds. A new row has an
id of its own; a row that is changed keeps its id, its members and the time it was made. -/
inductive OneRow (now : Instant) (a b : Int) (s : Store) : Outcome → Store → Prop
  | made {id : Int} (hnone : s.deciding? a b = none) (hfresh : ∀ c ∈ s.connections, c.id ≠ id) :
      OneRow now a b s ⟨.pending, id⟩
        { s with connections := s.connections ++ [⟨id, a, b, .pending, now, now⟩] }
  | changed {before after : List Connection} {c : Connection} {result : Result} {status : Status}
      (hrows : s.connections = before ++ c :: after) (hdeciding : s.deciding? a b = some c)
      (hstatus : c.status ≠ status) : OneRow now a b s ⟨result, c.id⟩
        { s with connections := before ++ { c with status, updated := now } :: after }
  | deleted {before after : List Connection} {c : Connection} {result : Result}
      (hrows : s.connections = before ++ c :: after) (hdeciding : s.deciding? a b = some c) :
      OneRow now a b s ⟨result, c.id⟩ { s with connections := before ++ after }

namespace OneRow

theorem of_mark (hs : s.IsLawful) {c : Connection} (hdeciding : s.deciding? a b = some c)
    {status : Status} (hstatus : c.status ≠ status) (result : Result) :
    OneRow now a b s ⟨result, c.id⟩ (s.write now (.mark c.id status)) := by
  obtain ⟨before, after, hrows⟩ := List.mem_iff_append.1 (mem_of_deciding? hdeciding).1
  rw [write_eq, hrows, apply_mark_middle (hrows ▸ hs.ids)]
  exact .changed hrows hdeciding hstatus

theorem of_delete (hs : s.IsLawful) {c : Connection} (hdeciding : s.deciding? a b = some c)
    (result : Result) : OneRow now a b s ⟨result, c.id⟩ (s.write now (.delete c.id)) := by
  obtain ⟨before, after, hrows⟩ := List.mem_iff_append.1 (mem_of_deciding? hdeciding).1
  rw [write_eq, hrows, apply_delete_middle (hrows ▸ hs.ids)]
  exact .deleted hrows hdeciding

/-- **Each rule touches one row.** -/
theorem of_decided (hs : s.IsLawful) {result : Result} (h : Decided a b (s.read a b) t result w) :
    OneRow now a b s ⟨result, s.written w⟩ (s.write now w) := by
  cases h with
  | ask _ _ hrow _ => exact .made hrow fun c hc => Int.ne_of_lt (lt_nextConnection hc)
  | agree _ _ hrow hstatus _ | accept hrow hstatus _ | disconnect hrow hstatus =>
    exact of_mark hs hrow (by rw [hstatus]; decide) _
  | decline hrow _ _ | cancel hrow _ _ => exact of_delete hs hrow _

end OneRow

/-! ## What decides afterwards -/

theorem IsPast.write (h : s.IsPast now) (w : Write) : (s.write now w).IsPast now := by
  rw [write_eq]
  intro c hc
  cases w with
  | insert x y =>
    rcases List.mem_append.1 hc with hc | hc
    · exact h c hc
    · obtain rfl := List.mem_singleton.1 hc
      exact Nat.le_refl now
  | mark id status =>
    obtain ⟨d, hd, rfl⟩ := List.mem_map.1 hc
    unfold Connection.marked
    split
    · exact Nat.le_refl now
    · exact h d hd
  | delete id => exact h c (List.mem_filter.1 hc).1

theorem deciding?_of_decided (hs : s.IsLawful) (hpast : s.IsPast now) (hab : a ≠ b)
    {result : Result} (h : Decided a b (s.read a b) t result w) {c : Connection}
    (hc : c ∈ (s.write now w).connections) (hid : c.id = s.written w) :
    (s.write now w).deciding? a b = some c := by
  have hlawful : (s.write now w).IsLawful := hs.write hab h.isOn
  -- a deciding row with the id of the one written is that one
  have hrow : ∀ d, (s.write now w).deciding? a b = some d → d.id = s.written w →
      (s.write now w).deciding? a b = some c := by
    intro d hd hdid
    rw [hd, eq_of_key_eq hlawful.ids (mem_of_deciding? hd).1 hc (hdid.trans hid.symm)]
  cases h with
  | ask _ _ hnone _ => exact hrow _ (deciding?_insert (deciding?_eq_none_iff.1 hnone)) rfl
  | agree _ _ hdeciding | accept hdeciding | disconnect hdeciding =>
    exact hrow _ (deciding?_mark hs hpast hdeciding _) rfl
  | decline | cancel =>
    have hkept := (List.mem_filter.1 hc).2
    rw [Bool.not_eq_true', beq_eq_false_iff_ne] at hkept
    exact absurd hid hkept

/-! ## Transitions -/

/-- **A transition touches one row.** If it fails, for whatever reason, nothing changes. If it
succeeds, one row is made, changed or deleted; and as long as no time lies in the future, that row
decides its pair afterwards, unless it is gone. -/
theorem transition_touches_one_row (hs : s.IsLawful) (now : Instant) (t : Transition) (a b : Int) :
    (∀ e, t.run now a b s = .error e → s.after (now, .transition t a b) = s) ∧
      (∀ q, (∃ e, Session.transition q now t a b s = .error e) ∨
        Session.transition q now t a b s = t.run now a b s) ∧
      ∀ o s', t.run now a b s = .ok (o, s') →
        s.after (now, .transition t a b) = s' ∧ OneRow now a b s o s' ∧
          (s.IsPast now → s'.IsPast now ∧
            ∀ c ∈ s'.connections, c.id = o.connection → s'.deciding? a b = some c) := by
  refine ⟨fun e he => ?_, fun q => Session.transition_eq_run q now t a b s, fun o s' h => ?_⟩
  · rw [after_transition, he]
  · obtain ⟨result, id⟩ := o
    obtain ⟨hab, w, hw, rfl, rfl⟩ := Transition.run_eq_ok_iff.1 h
    refine ⟨by rw [after_transition, h], .of_decided hs hw, fun hpast => ⟨hpast.write w, ?_⟩⟩
    exact fun c hc hid => deciding?_of_decided hs hpast hab hw hc hid

/-- The first member's request waits for the second, beside an older connection that the second had
asked for; both rows are of one instant. -/
def twoWay : Store :=
  { sample with connections := [⟨1, 2, 1, .accepted, 0, 4⟩, ⟨2, 1, 2, .pending, 1, 4⟩] }

theorem isLawful_twoWay : twoWay.IsLawful :=
  { isClean_sample.toIsLawful with ends := by decide, ids := by decide, directions := by decide }

theorem isPast_twoWay (h : 4 ≤ now) : twoWay.IsPast now := by
  have hall : ∀ c ∈ twoWay.connections, c.updated = 4 := by decide
  intro c hc
  rw [hall c hc]
  exact h

/-- At the same instant once more, the newer row is accepted and decides still. -/
theorem transition_touches_one_row_sample : twoWay.IsLawful ∧ twoWay.IsPast 4 ∧
    ∃ s', Transition.run 4 .accept 2 1 twoWay = .ok (⟨.accepted, 2⟩, s') ∧
      s'.connections = [⟨1, 2, 1, .accepted, 0, 4⟩, ⟨2, 1, 2, .accepted, 1, 4⟩] ∧
      s'.deciding? 2 1 = some ⟨2, 1, 2, .accepted, 1, 4⟩ := by
  have hpast : twoWay.IsPast 4 := isPast_twoWay (by decide)
  have hrun : Transition.run 4 .accept 2 1 twoWay = .ok (⟨.accepted, 2⟩, _) := rfl
  obtain ⟨-, -, hok⟩ := transition_touches_one_row isLawful_twoWay 4 .accept 2 1
  obtain ⟨-, -, hthen⟩ := hok _ _ hrun
  refine ⟨isLawful_twoWay, hpast, _, hrun, rfl, ?_⟩
  exact (hthen hpast).2 ⟨2, 1, 2, .accepted, 1, 4⟩ (by decide) rfl

end Store

end Matchmaker
