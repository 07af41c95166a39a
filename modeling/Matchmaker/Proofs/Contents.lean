import Matchmaker.Proofs.Decision

/-!
# Rows up to their ids

Two databases may give new rows different ids. What a row says is its content, and as long as no
pair has two rows, all that transitions decide and write is the same for tables of one content.

* `Connection.content`: the row without its id;
* `contents_apply`: a change on a pair as a change of contents;
* `latest?_contents`: the row of a pair as contents tell it;
* **`decide_content`**: a decision depends on contents.
-/

namespace Matchmaker

open Transition (Reading Write)

/-- What a row says apart from its id. -/
def Connection.content (c : Connection) : Connection :=
  { c with id := 0 }

/-- What a table says apart from the ids of its rows. -/
def contents (rows : List Connection) : List Connection :=
  rows.map Connection.content

@[simp] theorem Connection.content_joins (c : Connection) (a b : Int) :
    c.content.joins a b = c.joins a b := rfl

namespace Transition

/-- A change without the id of its row. -/
def Write.content : Write → Write
  | .insert requester target => .insert requester target
  | .mark _ status => .mark 0 status
  | .delete _ => .delete 0

/-- What a change on the pair of `a` and `b` makes of contents. -/
def Write.applyContents (a b : Int) (now : Instant) (rows : List Connection) :
    Write → List Connection
  | .insert requester target => rows ++ [⟨0, requester, target, .pending, now, now⟩]
  | .mark _ status =>
    rows.map fun c => if c.joins a b then { c with status, updated := now } else c
  | .delete _ => rows.filter fun c => !c.joins a b

/-- What a transition reads, without the id of the row. -/
def Reading.content (r : Reading) : Reading :=
  { r with row := r.row.map Connection.content }

end Transition

section Contents

variable {rows rows' : List Connection} {a b : Int} {now : Instant} {w w' : Write}

theorem applyContents_congr (h : w.content = w'.content) (cs : List Connection) :
    w.applyContents a b now cs = w'.applyContents a b now cs := by
  have key : ∀ v : Write, v.applyContents a b now cs = v.content.applyContents a b now cs :=
    fun v => by cases v <;> rfl
  rw [key w, key w', h]

theorem id_eq_iff_joins (hid : (rows.map Connection.id).Nodup)
    (hone : (rowsOf rows a b).length ≤ 1) {c d : Connection} (hd : d ∈ rowsOf rows a b)
    (hc : c ∈ rows) : c.id = d.id ↔ c.joins a b = true := by
  constructor
  · intro h
    rw [eq_of_key_eq hid hc (mem_rowsOf.1 hd).1 h, Connection.joins_iff_pair]
    exact (mem_rowsOf.1 hd).2
  · intro h
    have hc' : c ∈ rowsOf rows a b := List.mem_filter.2 ⟨hc, h⟩
    obtain ⟨e, he⟩ := List.length_eq_one_iff.1 (Nat.le_antisymm hone (List.length_pos_of_mem hd))
    rw [he, List.mem_singleton] at hc' hd
    rw [hc', hd]

/-- **A change on a pair is a change of contents.** -/
theorem contents_apply (hid : (rows.map Connection.id).Nodup)
    (hone : (rowsOf rows a b).length ≤ 1) (hw : w.IsOn rows a b) (fresh : Int) :
    contents (w.apply fresh now rows) = w.applyContents a b now (contents rows) := by
  cases w with
  | insert r t => exact List.map_append
  | mark id status =>
    obtain ⟨d, hd, rfl⟩ := hw
    simp only [contents, Write.apply, Write.applyContents, List.map_map]
    refine List.map_congr_left fun c hc => ?_
    have h := id_eq_iff_joins hid hone hd hc
    have hjoins := c.content_joins a b
    simp only [Function.comp_apply, Connection.marked, beq_iff_eq]
    by_cases hj : c.joins a b = true
    · rw [if_pos (h.2 hj), if_pos (hjoins.trans hj)]
      rfl
    · rw [if_neg (mt h.1 hj), if_neg (by rwa [hjoins])]
  | delete id =>
    obtain ⟨d, hd, rfl⟩ := hw
    simp only [contents, Write.apply, Write.applyContents, List.filter_map]
    congr 1
    refine List.filter_congr fun c hc => ?_
    have h : (c.id == d.id) = c.joins a b := by
      rw [Bool.eq_iff_iff, beq_iff_eq, id_eq_iff_joins hid hone hd hc]
    simp only [Function.comp_apply, Connection.content_joins, h]

theorem latest?_contents (hone : (rowsOf rows a b).length ≤ 1)
    (hone' : (rowsOf rows' a b).length ≤ 1) (h : contents rows = contents rows') :
    (latest? (rowsOf rows a b)).map Connection.content =
      (latest? (rowsOf rows' a b)).map Connection.content := by
  have key : ∀ rows, (rowsOf rows a b).length ≤ 1 →
      ((latest? (rowsOf rows a b)).map Connection.content).toList =
        (contents rows).filter (·.joins a b) := by
    intro rows hone
    rw [Option.toList_map, latest?_toList hone, contents, List.filter_map]
    rfl
  have heq : ((latest? (rowsOf rows a b)).map Connection.content).toList =
      ((latest? (rowsOf rows' a b)).map Connection.content).toList := by
    rw [key rows hone, key rows' hone', h]
  simpa only [latest?_of_toList] using congrArg latest? heq

end Contents

/-! ## Decisions -/

namespace Transition

theorem pendingFrom_content (x : Int) (row : Option Connection) :
    pendingFrom x (row.map Connection.content) = (pendingFrom x row).map Connection.content := by
  cases row with
  | none => rfl
  | some c =>
    show pendingFrom x (some c.content) = (pendingFrom x (some c)).map Connection.content
    have hs : c.content.status = c.status := rfl
    have hr : c.content.requester = c.requester := rfl
    unfold pendingFrom
    simp only [hs, hr]
    cases c.status with
    | pending => by_cases h : c.requester = x <;> simp [h, Except.map]
    | accepted | dismissed | disconnected => rfl

theorem decideRequest_content (a b : Int) (r : Reading) :
    decideRequest a b r.content = (decideRequest a b r).map fun x => (x.1, x.2.content) := by
  obtain ⟨callerComplete, otherComplete, row, dismissed⟩ := r
  cases callerComplete with
  | false => rfl
  | true =>
    cases otherComplete with
    | false => rfl
    | true =>
      cases row with
      | none => cases dismissed <;> rfl
      | some c =>
        simp only [decideRequest, Reading.content, Option.map_some]
        have hs : c.content.status = c.status := rfl
        have hr : c.content.requester = c.requester := rfl
        rw [hs, hr]
        cases c.status with
        | pending =>
          by_cases h : c.requester = b
          · simp only [h, if_true]
            rfl
          · simp only [h, if_false]
            rfl
        | accepted | dismissed | disconnected => rfl

theorem decideDisconnect_content (b : Int) (r : Reading) :
    decideDisconnect b r.content = (decideDisconnect b r).map fun x => (x.1, x.2.content) := by
  obtain ⟨callerComplete, otherComplete, row, dismissed⟩ := r
  cases row with
  | none => rfl
  | some c =>
    simp only [decideDisconnect, Reading.content, Option.map_some]
    have hs : c.content.status = c.status := rfl
    rw [hs]
    cases c.status <;> rfl

/-- **A decision depends on contents.** -/
theorem decide_content (t : Transition) (a b : Int) (r : Reading) :
    t.decide a b r.content = (t.decide a b r).map fun x => (x.1, x.2.content) := by
  have hrow : r.content.row = r.row.map Connection.content := rfl
  cases t with
  | request => exact decideRequest_content a b r
  | accept | decline =>
    simp only [decide, hrow, pendingFrom_content]
    cases pendingFrom b r.row <;> rfl
  | cancel =>
    simp only [decide, hrow, pendingFrom_content]
    cases pendingFrom a r.row <;> rfl
  | disconnect => exact decideDisconnect_content b r

end Transition

end Matchmaker
