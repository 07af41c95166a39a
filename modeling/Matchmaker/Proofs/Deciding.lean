import Matchmaker.Connection.Query
import Matchmaker.Proofs.Lawful

/-!
# The deciding row

Of the rows of a pair the one changed last decides its state. A change on the pair is a change of
that row, or makes the first one, and what decides afterwards follows from it: a row that is marked
decides still, since no stored time lies in the future, and where a row is deleted the one in the
other direction decides, if there is one.

* `newer_eq_false_of_latest?`, `latest?_eq_some`: the row changed last is the one that no other row
  is newer than;
* `Store.IsPast`: no row was changed after an instant;
* `Relationship.of_eq_pendingIncoming_iff` and its like: how the members see the row;
* `Store.counterpart?`: the row in the other direction;
* **`deciding?_insert`**, **`deciding?_mark`**, **`deciding?_delete`**: what decides after a change.
-/

namespace Matchmaker

open Transition (Write)

/-! ## The order of change -/

namespace Connection

variable {c d e : Connection}

theorem newer_iff : c.newer d = true ↔
    d.updated < c.updated ∨ (d.updated = c.updated ∧ d.id < c.id) := by
  simp [newer]

theorem newer_eq_false_iff : c.newer d = false ↔
    c.updated < d.updated ∨ (c.updated = d.updated ∧ c.id ≤ d.id) := by
  rw [← Bool.not_eq_true, newer_iff]
  grind

theorem newer_self (c : Connection) : c.newer c = false :=
  newer_eq_false_iff.2 (Or.inr ⟨rfl, Int.le_refl _⟩)

theorem newer_asymm (h : c.newer d = true) : d.newer c = false := by
  rw [newer_iff] at h
  rw [newer_eq_false_iff]
  grind

theorem newer_eq_false_trans (hcd : c.newer d = false) (hde : d.newer e = false) :
    c.newer e = false := by
  rw [newer_eq_false_iff] at *
  grind

/-- A row that no other was newer than is newer than all others once it is changed again. -/
theorem newer_of_marked {now : Instant} (hid : d.id ≠ c.id) (h : d.newer c = false)
    (hc : c.updated ≤ now) (hd : d.updated ≤ now) (status : Status) :
    ({ c with status, updated := now } : Connection).newer d = true := by
  rw [newer_eq_false_iff] at h
  rw [newer_iff]
  show d.updated < now ∨ (d.updated = now ∧ d.id < c.id)
  grind

end Connection

section Latest

variable {rows : List Connection} {c d : Connection}

theorem newer_eq_false_of_latest? (h : latest? rows = some c) (hd : d ∈ rows) :
    d.newer c = false := by
  induction rows generalizing c d with
  | nil => cases hd
  | cons e es ih =>
    cases hl : latest? es with
    | none =>
      rw [latest?_eq_none_iff.1 hl] at h hd
      obtain rfl := List.mem_singleton.1 hd
      obtain rfl := Option.some.inj h
      exact d.newer_self
    | some f =>
      simp only [latest?, hl, Option.some.injEq] at h
      -- the last of the rest stays or gives way to the head, and none of the rest beats either
      by_cases hf : f.newer e = true
      · rw [if_pos hf] at h
        subst h
        rcases List.mem_cons.1 hd with rfl | hd
        · exact Connection.newer_asymm hf
        · exact ih hl hd
      · rw [if_neg hf] at h
        subst h
        rcases List.mem_cons.1 hd with rfl | hd
        · exact d.newer_self
        · exact Connection.newer_eq_false_trans (ih hl hd) (Bool.eq_false_iff.2 hf)

theorem latest?_eq_some (hc : c ∈ rows) (h : ∀ d ∈ rows, d ≠ c → c.newer d = true) :
    latest? rows = some c := by
  cases hl : latest? rows with
  | none =>
    rw [latest?_eq_none_iff.1 hl] at hc
    cases hc
  | some e =>
    by_cases he : e = c
    · rw [he]
    · have hnewer := h e (latest?_mem hl) he
      rw [newer_eq_false_of_latest? hl hc] at hnewer
      cases hnewer

/-- **A row that is marked is changed last, if it was before and no time lies in the future.** -/
theorem latest?_mark {now : Instant} (hid : (rows.map Connection.id).Nodup)
    (hpast : ∀ d ∈ rows, d.updated ≤ now) (h : latest? rows = some c) (status : Status) :
    latest? (rows.map (·.marked c.id status now)) = some { c with status, updated := now } := by
  have hc := latest?_mem h
  apply latest?_eq_some
  · rw [← c.marked_self status now]
    exact List.mem_map_of_mem hc
  · intro d' hd' hne
    obtain ⟨d, hd, rfl⟩ := List.mem_map.1 hd'
    have hdc : d.id ≠ c.id := by
      intro he
      apply hne
      rw [eq_of_key_eq hid hd hc he, c.marked_self]
    rw [Connection.marked_of_ne status now hdc]
    exact Connection.newer_of_marked hdc (newer_eq_false_of_latest? h hd) (hpast c hc) (hpast d hd)
      status

end Latest

/-! ## How the members see it -/

namespace Relationship

variable {x : Int} {row : Option Connection}

theorem of_eq_none_iff : of x row = .none ↔ row = Option.none := by
  cases row with
  | none => simp [of]
  | some c => grind [of]

theorem of_eq_pendingOutgoing_iff : of x row = .pendingOutgoing ↔
    ∃ c, row = some c ∧ c.status = .pending ∧ c.requester = x := by
  cases row with
  | none => simp [of]
  | some c => grind [of]

theorem of_eq_pendingIncoming_iff : of x row = .pendingIncoming ↔
    ∃ c, row = some c ∧ c.status = .pending ∧ c.requester ≠ x := by
  cases row with
  | none => simp [of]
  | some c => grind [of]

theorem of_eq_accepted_iff : of x row = .accepted ↔
    ∃ c, row = some c ∧ c.status = .accepted := by
  cases row with
  | none => simp [of]
  | some c => grind [of]

theorem of_eq_disconnected_iff : of x row = .disconnected ↔
    ∃ c, row = some c ∧ c.status = .disconnected := by
  cases row with
  | none => simp [of]
  | some c => grind [of]

theorem of_eq_dismissed_iff : of x row = .dismissed ↔
    ∃ c, row = some c ∧ c.status = .dismissed := by
  cases row with
  | none => simp [of]
  | some c => grind [of]

end Relationship

/-! ## Both directions -/

theorem same_or_opposite {rows : List Connection} {a b : Int} {c d : Connection}
    (hc : c ∈ rowsOf rows a b) (hd : d ∈ rowsOf rows a b) :
    (d.requester = c.requester ∧ d.target = c.target) ∨
      (d.requester = c.target ∧ d.target = c.requester) := by
  rw [rowsOf, List.mem_filter, Connection.joins_iff] at hc hd
  omega

namespace Store

variable {s : Store} {a b x y : Int} {c d : Connection} {now : Instant} {w : Write}

/-- No row was changed after `now`. -/
def IsPast (now : Instant) (s : Store) : Prop :=
  ∀ c ∈ s.connections, c.updated ≤ now

/-- The row between the members of a row in the other direction. -/
def counterpart? (s : Store) (c : Connection) : Option Connection :=
  s.connections.find? fun d => d.requester == c.target && d.target == c.requester

theorem IsLawful.eq_of_direction (hs : s.IsLawful) (hc : c ∈ s.connections)
    (hd : d ∈ s.connections) (hrequester : c.requester = d.requester)
    (htarget : c.target = d.target) : c = d :=
  eq_of_key_eq hs.directions hc hd (by rw [hrequester, htarget])

theorem counterpart?_eq_none_iff : s.counterpart? c = none ↔
    ∀ d ∈ s.connections, ¬ (d.requester = c.target ∧ d.target = c.requester) := by
  simp [counterpart?]

theorem of_counterpart? (h : s.counterpart? c = some d) :
    d ∈ s.connections ∧ d.requester = c.target ∧ d.target = c.requester := by
  have hfound := List.find?_some h
  rw [Bool.and_eq_true, beq_iff_eq, beq_iff_eq] at hfound
  exact ⟨List.mem_of_find?_eq_some h, hfound⟩

theorem mem_of_deciding? (h : s.deciding? a b = some c) :
    c ∈ s.connections ∧ c.pair = Lock.key a b :=
  mem_rowsOf.1 (latest?_mem h)

theorem deciding?_congr (h : Lock.key x y = Lock.key a b) : s.deciding? x y = s.deciding? a b := by
  rcases Lock.key_eq_iff.1 h with ⟨rfl, rfl⟩ | ⟨rfl, rfl⟩
  · rfl
  · rw [deciding?, pairRows_eq, rowsOf_comm]
    rfl

theorem relationship_swap (s : Store) (a b : Int) :
    s.relationship b a = .of b (s.deciding? a b) := by
  rw [relationship, deciding?_congr (Lock.key_comm b a)]

theorem deciding?_eq_none_iff : s.deciding? a b = none ↔ s.pairRows a b = [] :=
  latest?_eq_none_iff

/-! ## After a change -/

theorem pairRows_write_of_ne (hid : (s.connections.map Connection.id).Nodup)
    (hw : w.IsOn s.connections a b) (hne : Lock.key x y ≠ Lock.key a b) :
    (s.write now w).pairRows x y = s.pairRows x y := by
  rw [write_eq, pairRows_eq]
  exact rowsOf_apply_of_ne hid hw hne

/-- **The first row of a pair decides.** -/
theorem deciding?_insert (h : s.pairRows a b = []) :
    (s.write now (.insert a b)).deciding? a b =
      some ⟨s.nextConnection, a, b, .pending, now, now⟩ := by
  have hrows : rowsOf s.connections a b = [] := h
  rw [deciding?, write_eq, pairRows_eq, rowsOf_insert, hrows, List.nil_append, rowsOf_singleton rfl]
  rfl

/-- **A deciding row that is marked decides still.** -/
theorem deciding?_mark (hs : s.IsLawful) (hpast : s.IsPast now) (h : s.deciding? a b = some c)
    (status : Status) :
    (s.write now (.mark c.id status)).deciding? a b = some { c with status, updated := now } := by
  have hsub : rowsOf s.connections a b ⊆ s.connections := List.filter_sublist.subset
  rw [deciding?, write_eq, pairRows_eq, rowsOf_mark]
  exact latest?_mark (hs.ids.sublist (List.filter_sublist.map _)) (fun d hd => hpast d (hsub hd)) h
    status

/-- **Where the deciding row is deleted, the one in the other direction decides.** -/
theorem deciding?_delete (hs : s.IsLawful) (h : s.deciding? a b = some c) :
    (s.write now (.delete c.id)).deciding? a b = s.counterpart? c := by
  have hc : c ∈ rowsOf s.connections a b := latest?_mem h
  obtain ⟨hmem, hpair⟩ := mem_of_deciding? h
  rw [deciding?, write_eq, pairRows_eq, rowsOf_delete]
  -- whatever is left goes the other way
  have hleft : ∀ d ∈ (rowsOf s.connections a b).filter (fun d => !(d.id == c.id)),
      d ∈ s.connections ∧ d.requester = c.target ∧ d.target = c.requester := by
    intro d hd
    rw [List.mem_filter, Bool.not_eq_true', beq_eq_false_iff_ne] at hd
    have hd' := (mem_rowsOf.1 hd.1).1
    rcases same_or_opposite hc hd.1 with hsame | hopposite
    · exact absurd (congrArg Connection.id (hs.eq_of_direction hd' hmem hsame.1 hsame.2)) hd.2
    · exact ⟨hd', hopposite⟩
  cases hcounter : s.counterpart? c with
  | none =>
    rw [latest?_eq_none_iff, List.eq_nil_iff_forall_not_mem]
    intro d hd
    obtain ⟨hd, hopposite⟩ := hleft d hd
    exact counterpart?_eq_none_iff.1 hcounter d hd hopposite
  | some d =>
    obtain ⟨hd, hrequester, htarget⟩ := of_counterpart? hcounter
    have hdc : d.id ≠ c.id := by
      intro hid
      rw [eq_of_key_eq hs.ids hd hmem hid] at hrequester
      exact hs.ends c hmem hrequester
    apply latest?_eq_some
    · rw [List.mem_filter, mem_rowsOf, Bool.not_eq_true', beq_eq_false_iff_ne]
      refine ⟨⟨hd, ?_⟩, hdc⟩
      rw [Connection.pair, hrequester, htarget, Lock.key_comm]
      exact hpair
    · intro e he hne
      obtain ⟨he, hrequester', htarget'⟩ := hleft e he
      exact absurd (hs.eq_of_direction he hd (hrequester'.trans hrequester.symm)
        (htarget'.trans htarget.symm)) hne

end Store

end Matchmaker
