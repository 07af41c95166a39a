import Matchmaker.Connection.Lock
import Matchmaker.Connection.Transition
import Matchmaker.Proofs.Tables

/-!
# The rows of a pair

A row belongs to one unordered pair, the key under which the pair is locked. What a change does to
the table of connections is followed here pair by pair.

* `Connection.pair`, `joins_iff_pair`: the pair of a row;
* `Transition.Write.apply`: the rows after a change, a new row under a given id;
* `IsOn`, **`rowsOf_apply_of_ne`**: a change on one pair leaves the rows of the others;
* `rowsOf_insert`, `rowsOf_mark`, `rowsOf_delete`: the rows of a pair after a change;
* `lt_nextConnection`: the next id is greater than all there are.
-/

namespace Matchmaker

namespace Connection

/-- The unordered pair that a row belongs to. -/
def pair (c : Connection) : Int × Int :=
  Lock.key c.requester c.target

theorem joins_iff_pair {c : Connection} {a b : Int} :
    c.joins a b = true ↔ c.pair = Lock.key a b := by
  rw [joins_iff, pair, Lock.key_eq_iff]

/-- The row with another status, if it is the one with this id. -/
def marked (id : Int) (status : Status) (now : Instant) (c : Connection) : Connection :=
  if c.id == id then { c with status, updated := now } else c

section Marked

variable (id : Int) (status : Status) (now : Instant) (c : Connection)

@[simp] theorem marked_id : (c.marked id status now).id = c.id := by
  unfold marked
  split <;> rfl

@[simp] theorem marked_requester : (c.marked id status now).requester = c.requester := by
  unfold marked
  split <;> rfl

@[simp] theorem marked_target : (c.marked id status now).target = c.target := by
  unfold marked
  split <;> rfl

@[simp] theorem marked_created : (c.marked id status now).created = c.created := by
  unfold marked
  split <;> rfl

@[simp] theorem marked_pair : (c.marked id status now).pair = c.pair := by
  rw [pair, marked_requester, marked_target, pair]

@[simp] theorem marked_joins (a b : Int) : (c.marked id status now).joins a b = c.joins a b := by
  rw [joins, marked_requester, marked_target, joins]

theorem marked_self : c.marked c.id status now = { c with status, updated := now } := by
  simp [marked]

theorem marked_of_ne {c : Connection} {id : Int} (h : c.id ≠ id) :
    c.marked id status now = c := by
  simp [marked, h]

end Marked

end Connection

/-- The rows that belong to the pair of `a` and `b`. -/
def rowsOf (rows : List Connection) (a b : Int) : List Connection :=
  rows.filter (·.joins a b)

theorem mem_rowsOf {rows : List Connection} {a b : Int} {c : Connection} :
    c ∈ rowsOf rows a b ↔ c ∈ rows ∧ c.pair = Lock.key a b := by
  rw [rowsOf, List.mem_filter, Connection.joins_iff_pair]

theorem rowsOf_comm (rows : List Connection) (a b : Int) : rowsOf rows a b = rowsOf rows b a := by
  simp only [rowsOf, Connection.joins_comm _ a b]

theorem rowsOf_append (rows rows' : List Connection) (a b : Int) :
    rowsOf (rows ++ rows') a b = rowsOf rows a b ++ rowsOf rows' a b :=
  List.filter_append ..

theorem rowsOf_singleton {c : Connection} {a b : Int} (h : c.pair = Lock.key a b) :
    rowsOf [c] a b = [c] := by
  simp [rowsOf, Connection.joins_iff_pair, h]

theorem rowsOf_singleton_of_ne {c : Connection} {a b : Int} (h : c.pair ≠ Lock.key a b) :
    rowsOf [c] a b = [] := by
  simp [rowsOf, Connection.joins_iff_pair, h]

theorem latest?_toList {rows : List Connection} (h : rows.length ≤ 1) :
    (latest? rows).toList = rows := by
  match rows, h with
  | [], _ => rfl
  | [c], _ => rfl

theorem latest?_of_toList (row : Option Connection) : latest? row.toList = row := by
  cases row <;> rfl

/-- **No pair has two rows exactly when no two rows have the same pair.** -/
theorem nodup_pairs_iff {rows : List Connection} :
    (rows.map Connection.pair).Nodup ↔ ∀ a b, (rowsOf rows a b).length ≤ 1 := by
  induction rows with
  | nil => simp [rowsOf]
  | cons c cs ih =>
    have hcons : ∀ a b, rowsOf (c :: cs) a b = rowsOf [c] a b ++ rowsOf cs a b := fun a b =>
      rowsOf_append [c] cs a b
    rw [List.map_cons, List.nodup_cons, ih]
    constructor
    · rintro ⟨hc, hone⟩ a b
      rw [hcons, List.length_append]
      by_cases h : c.pair = Lock.key a b
      · have hnil : rowsOf cs a b = [] := by
          rw [List.eq_nil_iff_forall_not_mem]
          intro d hd
          rw [mem_rowsOf, ← h] at hd
          exact hc (List.mem_map.2 ⟨d, hd⟩)
        rw [rowsOf_singleton h, hnil]
        exact Nat.le_refl 1
      · rw [rowsOf_singleton_of_ne h, List.length_nil, Nat.zero_add]
        exact hone a b
    · intro hone
      constructor
      · intro hc
        obtain ⟨d, hd⟩ := List.mem_map.1 hc
        have h := hone c.requester c.target
        have hpos : 0 < (rowsOf cs c.requester c.target).length :=
          List.length_pos_of_mem (mem_rowsOf.2 hd)
        rw [hcons, List.length_append, rowsOf_singleton rfl, List.length_singleton] at h
        omega
      · intro a b
        have h := hone a b
        rw [hcons, List.length_append] at h
        omega

/-! ## The rows after a change -/

namespace Transition.Write

/-- The rows after a change, a new one under the id `fresh`. -/
def apply (fresh : Int) (now : Instant) (rows : List Connection) : Write → List Connection
  | insert requester target => rows ++ [⟨fresh, requester, target, .pending, now, now⟩]
  | mark id status => rows.map (·.marked id status now)
  | delete id => rows.filter fun c => !(c.id == id)

/-- The one row of a pair after a change on it. -/
def row (fresh : Int) (now : Instant) (old : Option Connection) : Write → Option Connection
  | insert requester target => some ⟨fresh, requester, target, .pending, now, now⟩
  | mark _ status => old.map fun c => { c with status, updated := now }
  | delete _ => none

/-- The change is one of a row of the pair of `a` and `b`. -/
def IsOn (rows : List Connection) (a b : Int) : Write → Prop
  | insert requester target => requester = a ∧ target = b ∧ rowsOf rows a b = []
  | mark id _ | delete id => ∃ c ∈ rowsOf rows a b, c.id = id

end Transition.Write

section Apply

open Transition (Write)

variable {rows : List Connection} {fresh : Int} {now : Instant} {a b x y : Int}

theorem rowsOf_insert :
    rowsOf ((Write.insert x y).apply fresh now rows) a b =
      rowsOf rows a b ++ rowsOf [⟨fresh, x, y, .pending, now, now⟩] a b :=
  rowsOf_append ..

theorem rowsOf_mark {id : Int} {status : Status} :
    rowsOf ((Write.mark id status).apply fresh now rows) a b =
      (rowsOf rows a b).map (·.marked id status now) := by
  simp only [rowsOf, Write.apply, List.filter_map]
  congr 1
  exact List.filter_congr fun c _ => c.marked_joins id status now a b

theorem rowsOf_delete {id : Int} :
    rowsOf ((Write.delete id).apply fresh now rows) a b =
      (rowsOf rows a b).filter fun c => !(c.id == id) := by
  simp only [rowsOf, Write.apply, List.filter_filter, Bool.and_comm]

theorem id_ne_of_pair_ne (hid : (rows.map Connection.id).Nodup)
    (hne : Lock.key x y ≠ Lock.key a b) {c d : Connection} (hc : c ∈ rowsOf rows x y)
    (hd : d ∈ rowsOf rows a b) : c.id ≠ d.id := by
  rw [mem_rowsOf] at hc hd
  intro h
  rw [eq_of_key_eq hid hc.1 hd.1 h] at hc
  exact hne (hc.2.symm.trans hd.2)

/-- **A change on one pair leaves the rows of every other.** -/
theorem rowsOf_apply_of_ne (hid : (rows.map Connection.id).Nodup) {w : Write}
    (hw : w.IsOn rows a b) (hne : Lock.key x y ≠ Lock.key a b) :
    rowsOf (w.apply fresh now rows) x y = rowsOf rows x y := by
  cases w with
  | insert r t =>
    obtain ⟨rfl, rfl, -⟩ := hw
    rw [rowsOf_insert, rowsOf_singleton_of_ne (Ne.symm hne), List.append_nil]
  | mark i status =>
    obtain ⟨d, hd, rfl⟩ := hw
    have h : ∀ c ∈ rowsOf rows x y, c.marked d.id status now = id c := fun c hc =>
      Connection.marked_of_ne status now (id_ne_of_pair_ne hid hne hc hd)
    rw [rowsOf_mark, List.map_congr_left h, List.map_id]
  | delete id =>
    obtain ⟨d, hd, rfl⟩ := hw
    rw [rowsOf_delete, List.filter_eq_self]
    intro c hc
    simpa using id_ne_of_pair_ne hid hne hc hd

theorem rowsOf_apply_self (hone : (rowsOf rows a b).length ≤ 1) {w : Write}
    (hw : w.IsOn rows a b) :
    rowsOf (w.apply fresh now rows) a b = (w.row fresh now (latest? (rowsOf rows a b))).toList := by
  cases w with
  | insert r t =>
    obtain ⟨rfl, rfl, hnil⟩ := hw
    rw [rowsOf_insert, hnil, rowsOf_singleton rfl]
    rfl
  | mark id status =>
    obtain ⟨d, hd, rfl⟩ := hw
    obtain ⟨c, hc⟩ := List.length_eq_one_iff.1 (Nat.le_antisymm hone (List.length_pos_of_mem hd))
    rw [hc, List.mem_singleton] at hd
    rw [rowsOf_mark, hc, List.map_singleton, ← hd, d.marked_self]
    rfl
  | delete id =>
    obtain ⟨d, hd, rfl⟩ := hw
    obtain ⟨c, hc⟩ := List.length_eq_one_iff.1 (Nat.le_antisymm hone (List.length_pos_of_mem hd))
    rw [hc, List.mem_singleton] at hd
    rw [rowsOf_delete, hc, hd]
    simp [Write.row]

/-! ### Keys of the table -/

theorem map_id_mark (id : Int) (status : Status) :
    ((Write.mark id status).apply fresh now rows).map Connection.id = rows.map Connection.id := by
  simp [Write.apply, Function.comp_def]

theorem nodup_ids_apply (hid : (rows.map Connection.id).Nodup) {w : Write}
    (hfresh : ∀ x y, w = .insert x y → ∀ c ∈ rows, c.id ≠ fresh) :
    ((w.apply fresh now rows).map Connection.id).Nodup := by
  cases w with
  | insert r t => exact nodup_map_concat hid (hfresh r t rfl)
  | mark id status => rwa [map_id_mark]
  | delete id => exact hid.sublist (List.filter_sublist.map _)

theorem nodup_pairs_apply (hp : (rows.map Connection.pair).Nodup) {w : Write}
    (hw : w.IsOn rows a b) : ((w.apply fresh now rows).map Connection.pair).Nodup := by
  cases w with
  | insert r t =>
    obtain ⟨rfl, rfl, hnil⟩ := hw
    refine nodup_map_concat hp fun c hc h => ?_
    exact List.eq_nil_iff_forall_not_mem.1 hnil c (mem_rowsOf.2 ⟨hc, h⟩)
  | mark id status => simpa [Write.apply, Function.comp_def] using hp
  | delete id => exact hp.sublist (List.filter_sublist.map _)

theorem nodup_directions_apply
    (hd : (rows.map fun c => (c.requester, c.target)).Nodup) {w : Write} (hw : w.IsOn rows a b) :
    ((w.apply fresh now rows).map fun c => (c.requester, c.target)).Nodup := by
  cases w with
  | insert r t =>
    obtain ⟨rfl, rfl, hnil⟩ := hw
    refine nodup_map_concat hd fun c hc h => ?_
    rw [Prod.mk.injEq] at h
    refine List.eq_nil_iff_forall_not_mem.1 hnil c (mem_rowsOf.2 ⟨hc, ?_⟩)
    rw [Connection.pair, h.1, h.2]
  | mark id status => simpa [Write.apply, Function.comp_def] using hd
  | delete id => exact hd.sublist (List.filter_sublist.map _)

/-- Every row after a change on a pair has the id and the members of one before, or it is the new
one. -/
theorem origin_of_mem_apply {w : Write} (hw : w.IsOn rows a b) {c : Connection}
    (hc : c ∈ w.apply fresh now rows) :
    (∃ d ∈ rows, c.id = d.id ∧ c.requester = d.requester ∧ c.target = d.target) ∨
      (w = .insert a b ∧ c = ⟨fresh, a, b, .pending, now, now⟩) := by
  cases w with
  | insert r t =>
    obtain ⟨rfl, rfl, -⟩ := hw
    rcases List.mem_append.1 hc with hc | hc
    · exact Or.inl ⟨c, hc, rfl, rfl, rfl⟩
    · exact Or.inr ⟨rfl, List.mem_singleton.1 hc⟩
  | mark id status =>
    obtain ⟨d, hd, rfl⟩ := List.mem_map.1 hc
    exact Or.inl ⟨d, hd, d.marked_id id status now, d.marked_requester id status now,
      d.marked_target id status now⟩
  | delete id => exact Or.inl ⟨c, (List.mem_filter.1 hc).1, rfl, rfl, rfl⟩

end Apply

/-! ## Rows of the store -/

theorem le_foldl_max {n : Int} {ns : List Int} :
    ∀ {m : Int}, n ≤ m ∨ n ∈ ns → n ≤ ns.foldl max m := by
  induction ns with
  | nil =>
    intro m h
    rcases h with h | h
    · exact h
    · cases h
  | cons k ks ih =>
    intro m h
    apply ih
    rcases h with h | h
    · exact Or.inl (by omega)
    · rcases List.mem_cons.1 h with rfl | h
      · exact Or.inl (by omega)
      · exact Or.inr h

namespace Store

variable {s : Store} {a b : Int}

theorem lt_nextId {n : Int} {ns : List Int} (h : n ∈ ns) : n < nextId ns := by
  cases ns with
  | nil => cases h
  | cons m ms =>
    have : n ≤ ms.foldl max m := le_foldl_max (by
      rcases List.mem_cons.1 h with rfl | h
      · exact Or.inl (Int.le_refl _)
      · exact Or.inr h)
    rw [nextId]
    omega

theorem lt_nextConnection {c : Connection} (hc : c ∈ s.connections) : c.id < s.nextConnection :=
  lt_nextId (List.mem_map_of_mem hc)

theorem write_eq (now : Instant) (w : Transition.Write) (s : Store) :
    s.write now w = { s with connections := w.apply s.nextConnection now s.connections } := by
  cases w <;> rfl

theorem pairRows_eq : s.pairRows a b = rowsOf s.connections a b :=
  rfl

end Store

end Matchmaker
