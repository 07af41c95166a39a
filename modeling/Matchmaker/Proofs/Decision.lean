import Matchmaker.Proofs.Outcome
import Matchmaker.Proofs.Rows

/-!
# What a transition can do

A transition that succeeds does one of six things; all that follows about transitions is read off
these rules.

* `Decided`, **`decide_eq_ok_iff`**: the rules, and that no success is outside them;
* `run_eq_ok_iff`: a transition on the store;
* `Decided.isOn`: the change is one of a row of the pair.
-/

namespace Matchmaker

namespace Transition

/-- The changes that a transition by `a` on the pair with `b` can make after a reading, with what
each reports. -/
inductive Decided (a b : Int) (r : Reading) : Transition → Result → Write → Prop
  /-- A first request is a new row. -/
  | ask (hcaller : r.callerComplete = true) (hother : r.otherComplete = true) (hrow : r.row = none)
      (hledger : r.dismissed = false) : Decided a b r request .pending (.insert a b)
  /-- A request to a member who already asked accepts. -/
  | agree (hcaller : r.callerComplete = true) (hother : r.otherComplete = true) {c : Connection}
      (hrow : r.row = some c) (hstatus : c.status = .pending) (hfrom : c.requester = b) :
      Decided a b r request .accepted (.mark c.id .accepted)
  | accept {c : Connection} (hrow : r.row = some c) (hstatus : c.status = .pending)
      (hfrom : c.requester = b) : Decided a b r accept .accepted (.mark c.id .accepted)
  | decline {c : Connection} (hrow : r.row = some c) (hstatus : c.status = .pending)
      (hfrom : c.requester = b) : Decided a b r decline .declined (.delete c.id)
  | cancel {c : Connection} (hrow : r.row = some c) (hstatus : c.status = .pending)
      (hfrom : c.requester = a) : Decided a b r cancel .cancelled (.delete c.id)
  | disconnect {c : Connection} (hrow : r.row = some c) (hstatus : c.status = .accepted) :
      Decided a b r disconnect .disconnected (.mark c.id .disconnected)

section Rules

variable {a b : Int} {r : Reading} {t : Transition} {result : Result} {w : Write}

theorem pendingFrom_eq_ok_iff {x : Int} {row : Option Connection} {c : Connection} :
    pendingFrom x row = .ok c ↔ row = some c ∧ c.status = .pending ∧ c.requester = x := by
  cases row with
  | none => simp [pendingFrom]
  | some d =>
    cases hs : d.status with
    | pending =>
      by_cases hd : d.requester = x
      · simp only [pendingFrom, hs, hd, if_true, Except.ok.injEq, Option.some.injEq]
        constructor
        · rintro rfl
          exact ⟨rfl, hs, hd⟩
        · exact fun h => h.1
      · simp only [pendingFrom, hs, hd, if_false, Option.some.injEq]
        constructor
        · intro h
          cases h
        · rintro ⟨rfl, -, h⟩
          exact absurd h hd
    | accepted | dismissed | disconnected =>
      simp only [pendingFrom, hs, Option.some.injEq]
      constructor
      · intro h
        cases h
      · rintro ⟨rfl, h, -⟩
        rw [hs] at h
        cases h

theorem decideRequest_eq_ok_iff :
    decideRequest a b r = .ok (result, w) ↔ Decided a b r request result w := by
  constructor
  · intro h
    unfold decideRequest at h
    split at h
    · cases h
    · rename_i hcaller
      split at h
      · cases h
      · rename_i hother
        rw [Bool.not_eq_true, Bool.not_eq_false'] at hcaller hother
        split at h
        · rename_i hrow
          split at h
          · cases h
          · rename_i hledger
            cases h
            exact .ask hcaller hother hrow (Bool.not_eq_true _ ▸ hledger)
        · rename_i c hrow
          split at h
          · rename_i hstatus
            split at h
            · rename_i hfrom
              cases h
              exact .agree hcaller hother hrow hstatus hfrom
            · cases h
          · cases h
          · cases h
  · intro h
    cases h with
    | ask hcaller hother hrow hledger => simp [decideRequest, hcaller, hother, hrow, hledger]
    | agree hcaller hother hrow hstatus hfrom =>
      simp [decideRequest, hcaller, hother, hrow, hstatus, hfrom]

theorem decideDisconnect_eq_ok_iff :
    decideDisconnect b r = .ok (result, w) ↔ Decided a b r disconnect result w := by
  constructor
  · intro h
    unfold decideDisconnect at h
    split at h
    · cases h
    · rename_i c hrow
      split at h
      · rename_i hstatus
        cases h
        exact .disconnect hrow hstatus
      · cases h
  · rintro ⟨⟩
    rename_i c hrow hstatus
    simp [decideDisconnect, hrow, hstatus]

/-- **What a transition decides follows one of the rules.** -/
theorem decide_eq_ok_iff : t.decide a b r = .ok (result, w) ↔ Decided a b r t result w := by
  cases t with
  | request => exact decideRequest_eq_ok_iff
  | accept =>
    simp only [decide, map_eq_ok_iff, pendingFrom_eq_ok_iff, Prod.mk.injEq]
    constructor
    · rintro ⟨c, ⟨hrow, hstatus, hfrom⟩, rfl, rfl⟩
      exact .accept hrow hstatus hfrom
    · rintro ⟨⟩
      exact ⟨_, ⟨‹_›, ‹_›, ‹_›⟩, rfl, rfl⟩
  | decline =>
    simp only [decide, map_eq_ok_iff, pendingFrom_eq_ok_iff, Prod.mk.injEq]
    constructor
    · rintro ⟨c, ⟨hrow, hstatus, hfrom⟩, rfl, rfl⟩
      exact .decline hrow hstatus hfrom
    · rintro ⟨⟩
      exact ⟨_, ⟨‹_›, ‹_›, ‹_›⟩, rfl, rfl⟩
  | cancel =>
    simp only [decide, map_eq_ok_iff, pendingFrom_eq_ok_iff, Prod.mk.injEq]
    constructor
    · rintro ⟨c, ⟨hrow, hstatus, hfrom⟩, rfl, rfl⟩
      exact .cancel hrow hstatus hfrom
    · rintro ⟨⟩
      exact ⟨_, ⟨‹_›, ‹_›, ‹_›⟩, rfl, rfl⟩
  | disconnect => exact decideDisconnect_eq_ok_iff

theorem Decided.of_insert {x y : Int} (h : Decided a b r t result (.insert x y)) :
    t = .request ∧ r.callerComplete = true ∧ r.otherComplete = true ∧ r.row = none ∧
      r.dismissed = false := by
  cases h with
  | ask hcaller hother hrow hledger => exact ⟨rfl, hcaller, hother, hrow, hledger⟩

end Rules

/-! ## On the store -/

section Run

variable {now : Instant} {t : Transition} {a b : Int} {s s' : Store} {o : Outcome}
  {result : Result} {w : Write}

/-- **A transition that succeeds is between two members and makes one decided change.** -/
theorem run_eq_ok_iff : t.run now a b s = .ok (o, s') ↔
    a ≠ b ∧ ∃ w, Decided a b (s.read a b) t o.result w ∧ o.connection = s.written w ∧
      s' = s.write now w := by
  rw [run_eq]
  by_cases hab : a = b
  · simp [hab]
  · rw [if_neg hab]
    cases hd : t.decide a b (s.read a b) with
    | error why =>
      simp only [refuse_ne_ok, ← decide_eq_ok_iff, hd, reduceCtorEq, false_and, exists_false,
        and_false]
    | ok x =>
      obtain ⟨result, w⟩ := x
      simp only [← decide_eq_ok_iff, hd, Except.ok.injEq, Prod.mk.injEq]
      constructor
      · rintro ⟨rfl, rfl⟩
        exact ⟨hab, w, ⟨rfl, rfl⟩, rfl, rfl⟩
      · rintro ⟨-, v, ⟨rfl, rfl⟩, hc, hs⟩
        exact ⟨by rw [← hc], hs.symm⟩

theorem mem_pairRows_of_row {c : Connection} (h : (s.read a b).row = some c) :
    c ∈ rowsOf s.connections a b :=
  latest?_mem h

theorem Decided.isOn (h : Decided a b (s.read a b) t result w) : w.IsOn s.connections a b := by
  cases h with
  | ask _ _ hrow _ => exact ⟨rfl, rfl, latest?_eq_none_iff.1 hrow⟩
  | agree _ _ hrow | accept hrow | decline hrow | cancel hrow | disconnect hrow =>
    exact ⟨_, mem_pairRows_of_row hrow, rfl⟩

end Run

end Transition

end Matchmaker
