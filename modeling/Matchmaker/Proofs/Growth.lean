import Mathlib.Data.Sym.Card
import Matchmaker.Proofs.Coordinates
import Matchmaker.Proofs.Graphs

/-!
# The growth of a graph

Pairs are drawn until there are enough connections, and a pair that was drawn before is passed over.
No more connections are asked for than there are pairs, so that as long as there are too few some
pair is left to be drawn, and the graph is finished once as many fresh pairs were drawn as
connections are asked for. Where the shares of the statuses are exact numbers, no status without a
share is drawn.

* `drawnPair`, **`exists_run_grow`**: a fresh pair gets a connection;
* `freshDraws`, **`isSome_growth_iff`**: when a graph is finished;
* **`exists_unseen`**: pairs that are left;
* `Rates.share`, **`Rates.Draws.share_pos`**: shares, and the statuses that are drawn;
* **`growth_draws_each_pair_once`**: what a graph goes through, when it is finished and what it is.
-/

namespace Matchmaker.Seed

variable {σ : Type} [Source σ]

/-! ## Steps -/

section Steps

variable {α : Type} [Sampling α] {r : Rates α} {users : List Int} {target : Nat} {p : Progress}
  {draws s : σ}

/-- The pair that is drawn next. -/
def drawnPair (users : List Int) (s : σ) : Int × Int :=
  Lock.key ((twoOf users).run s).1.1 ((twoOf users).run s).1.2

theorem run_grow_of_mem (r : Rates α) (h : drawnPair users s ∈ p.seen) :
    ((grow r users p).run s).1 = p := by
  unfold drawnPair at h
  unfold grow
  rw [StateT.run_bind]
  show (Id.run (StateT.run (if _ then _ else _) _)).1 = p
  rw [if_pos (List.contains_iff_mem.2 h)]
  rfl

theorem exists_run_grow (r : Rates α) (h : drawnPair users s ∉ p.seen) :
    ∃ l, l.pair = drawnPair users s ∧
      ((grow r users p).run s).1 = ⟨p.rows ++ [l], drawnPair users s :: p.seen⟩ := by
  refine ⟨((link r ((twoOf users).run s).1.1 ((twoOf users).run s).1.2).run
    ((twoOf users).run s).2).1, Lock.key_eq_iff.2 (gives_link r _ _ _).1, ?_⟩
  unfold drawnPair at h ⊢
  unfold grow
  rw [StateT.run_bind]
  show (Id.run (StateT.run (if _ then _ else _) _)).1 = _
  rw [if_neg fun hseen => h (List.contains_iff_mem.1 hseen)]
  rfl

theorem length_rows_grow (r : Rates α) (users : List Int) (p : Progress) (s : σ) :
    ((grow r users p).run s).1.rows.length =
      p.rows.length + if drawnPair users s ∈ p.seen then 0 else 1 := by
  split
  · rename_i h
    rw [run_grow_of_mem r h, Nat.add_zero]
  · rename_i h
    obtain ⟨l, -, hl⟩ := exists_run_grow r h
    rw [hl, List.length_append, List.length_singleton]

theorem Enters.length_rows_le (h : Enters r users target draws p s) : p.rows.length ≤ target := by
  induction h with
  | start => exact Nat.zero_le _
  | @next p s _ hmore _ =>
    rw [length_rows_grow]
    split <;> omega

/-- How many of the first draws are of a pair that has no connection by then. -/
def freshDraws (r : Rates α) (users : List Int) : (fuel : Nat) → Progress → σ → Nat
  | 0, _, _ => 0
  | fuel + 1, p, s => (if drawnPair users s ∈ p.seen then 0 else 1) +
      freshDraws r users fuel ((grow r users p).run s).1 ((grow r users p).run s).2

/-- **A graph is finished as soon as enough of the draws were fresh.** -/
theorem isSome_growth_iff {fuel : Nat} : (growth r users target fuel p s).isSome = true ↔
    target ≤ p.rows.length + freshDraws r users fuel p s := by
  induction fuel generalizing p s with
  | zero =>
    unfold growth freshDraws
    split
    · rename_i henough
      exact iff_of_true rfl henough
    · rename_i hmore
      exact iff_of_false Bool.false_ne_true hmore
  | succ fuel ih =>
    unfold growth freshDraws
    split
    · rename_i henough
      exact iff_of_true rfl (by omega)
    · show (growth r users target fuel ((grow r users p).run s).1 _).isSome = true ↔ _
      rw [ih, length_rows_grow, Nat.add_assoc]
      rfl

end Steps

/-! ## Pairs that are left -/

section Pairs

variable {users : List Int} {rows : List Store.Link}

theorem key_eq_iff_mk {a b c d : Int} : Lock.key a b = Lock.key c d ↔ s(a, b) = s(c, d) := by
  rw [Lock.key_eq_iff, Sym2.eq_iff]

/-- **Fewer connections than there are pairs leave a pair without one.** -/
theorem exists_unseen (hnodup : users.Nodup) {seen : List (Int × Int)}
    (hseen : ∀ k, k ∈ seen ↔ k ∈ rows.map Store.Link.pair)
    (hfew : rows.length < pairCount users.length) :
    ∃ a ∈ users, ∃ b ∈ users, a ≠ b ∧ Lock.key a b ∉ seen := by
  by_contra hall
  push Not at hall
  have hsub : users.toFinset.offDiag.image Sym2.mk.uncurry ⊆
      (rows.map fun l => s(l.requester, l.target)).toFinset := by
    intro e he
    obtain ⟨⟨a, b⟩, hab, rfl⟩ := Finset.mem_image.1 he
    obtain ⟨ha, hb, hne⟩ := Finset.mem_offDiag.1 hab
    obtain ⟨l, hl, hpair⟩ := List.mem_map.1 ((hseen _).1
      (hall a (List.mem_toFinset.1 ha) b (List.mem_toFinset.1 hb) hne))
    exact List.mem_toFinset.2 (List.mem_map.2 ⟨l, hl, key_eq_iff_mk.1 hpair⟩)
  have hcard := (Finset.card_le_card hsub).trans (List.toFinset_card_le _)
  rw [Sym2.card_image_offDiag, List.toFinset_card_of_nodup hnodup, Nat.choose_two_right,
    List.length_map] at hcard
  exact absurd hcard (Nat.not_le_of_lt hfew)

end Pairs

/-! ## Shares -/

section Shares

open scoped Exact

variable {r : Rates ℚ}

/-- The share of the connections that get a status. -/
def Rates.share (r : Rates ℚ) : Status → ℚ
  | .accepted => r.accepted
  | .pending => r.pending
  | .disconnected => r.disconnected
  | .dismissed => 0

/-- **A status that is drawn has a share.** -/
theorem Rates.Draws.share_pos {status : Status} (h : r.Draws status) (hr : 0 < r.total) :
    0 < r.share status := by
  obtain ⟨k, hk, rfl⟩ := h
  obtain ⟨hlow, hhigh⟩ := fraction_bounds hk
  generalize (Scalar.ofInt (k : Nat) / 9007199254740992.0 : ℚ) = f at *
  have hpoint : 0 ≤ f * r.total := mul_nonneg hlow hr.le
  have hbelow : f * r.total < r.total := mul_lt_of_lt_one_left hr hhigh
  unfold statusAt
  split
  · rename_i haccepted
    exact lt_of_le_of_lt hpoint haccepted
  · rename_i haccepted
    split
    · rename_i hpending
      exact pos_of_lt_add_right ((not_lt.1 haccepted).trans_lt hpending)
    · rename_i hpending
      exact pos_of_lt_add_right ((not_lt.1 hpending).trans_lt hbelow)

theorem exists_target (r : Rates ℚ) (n : Nat) : ∃ t, target r n = .ok t ∧ t ≤ pairCount n :=
  ⟨_, rfl, Nat.min_le_right _ _⟩

theorem connections_eq_map_growth {users : List Int} (htwo : 2 ≤ users.length) (hr : 0 < r.total)
    {t : Nat} (ht : target r users.length = .ok t) (fuel : Nat) (draws : σ) :
    connections fuel r users draws = (growth r users t fuel ⟨[], []⟩ draws).map .ok := by
  have hsettled : Scalar.settled r.total = .ok r.total := rfl
  have hdraws : (Scalar.isZero r.total || decide (users.length < 2)) = false := by
    rw [Bool.or_eq_false_iff, ← Bool.not_eq_true, Exact.isZero_iff, decide_eq_false_iff_not]
    exact ⟨hr.ne', Nat.not_lt.2 htwo⟩
  unfold connections
  simp only [hsettled, hdraws, ht, Bool.false_eq_true, if_false]

/-- **Each pair is drawn once, and the growth of a graph does not get stuck.** Between two or more
different members, with shares of a positive sum, whatever is drawn: on the way the pairs that are
passed over are those with a connection; some pair is left as long as there are too few connections;
and a pair that is left gets one when it is drawn, while any other draw changes nothing. The graph
is finished exactly when as many draws were fresh as connections are asked for. It then has that
many, between different members of those given, no pair has two, and none has a status without a
share. -/
theorem growth_draws_each_pair_once {users : List Int} (hnodup : users.Nodup)
    (htwo : 2 ≤ users.length) (hr : 0 < r.total) (draws : σ) :
    ∃ t, target r users.length = .ok t ∧ t ≤ users.length * (users.length - 1) / 2 ∧
      (∀ (p : Progress) (s : σ), Enters r users t draws p s →
        (∀ k, k ∈ p.seen ↔ k ∈ p.rows.map Store.Link.pair) ∧
        (p.rows.length < t → ∃ a ∈ users, ∃ b ∈ users, a ≠ b ∧ Lock.key a b ∉ p.seen) ∧
        (drawnPair users s ∉ p.seen → ∃ l, l.pair = drawnPair users s ∧
          ((grow r users p).run s).1 = ⟨p.rows ++ [l], drawnPair users s :: p.seen⟩) ∧
        (drawnPair users s ∈ p.seen → ((grow r users p).run s).1 = p)) ∧
      (∀ fuel, (connections fuel r users draws).isSome = true ↔
        t ≤ freshDraws r users fuel ⟨[], []⟩ draws) ∧
      ∀ fuel outcome, connections fuel r users draws = some outcome →
        ∃ rows rest, outcome = .ok (rows, rest) ∧ rows.length = t ∧ IsGraph users rows ∧
          (∀ l ∈ rows, 0 < r.share l.status) ∧
          ∃ p, Enters r users t draws p rest ∧ p.rows = rows := by
  obtain ⟨t, ht, hle⟩ := exists_target r users.length
  have heq := fun fuel => connections_eq_map_growth htwo hr ht fuel draws
  refine ⟨t, ht, hle, fun p s hp => ?_, fun fuel => ?_, fun fuel outcome houtcome => ?_⟩
  · have hprogress := hp.isProgress hnodup htwo
    exact ⟨hprogress.seen, fun hmore => exists_unseen hnodup hprogress.seen (hmore.trans_le hle),
      exists_run_grow r, run_grow_of_mem r⟩
  · rw [heq, Option.isSome_map, isSome_growth_iff, List.length_nil, Nat.zero_add]
  · rw [heq] at houtcome
    obtain ⟨⟨rows, rest⟩, hgrowth, rfl⟩ := Option.map_eq_some_iff.1 houtcome
    obtain ⟨p, hp, rfl, henough⟩ := Enters.start.exists_of_growth hgrowth
    have hprogress := hp.isProgress hnodup htwo
    exact ⟨p.rows, rest, rfl, Nat.le_antisymm hp.length_rows_le henough, hprogress.graph,
      fun l hl => (hprogress.drawn l hl).share_pos hr, p, hp, rfl⟩

/-- Shares one of which is zero. -/
def sampleRates : Rates ℚ :=
  ⟨3 / 5, 1 / 10, 0⟩

theorem total_sampleRates_pos : 0 < sampleRates.total := by
  show (0 : ℚ) < 3 / 5 + 1 / 10 + 0
  norm_num

theorem growth_draws_three_pairs :
    ∃ rows rest,
      connections 12 sampleRates [3, 4, 5] (Generator.ofSeed 42) = some (.ok (rows, rest)) ∧
        rows.length = 3 ∧ IsGraph [3, 4, 5] rows ∧ ∀ l ∈ rows, 0 < sampleRates.share l.status := by
  have hnodup : ([3, 4, 5] : List Int).Nodup := by decide
  have htwo : 2 ≤ ([3, 4, 5] : List Int).length := by decide
  obtain ⟨t, ht, -, -, hfinished, hdrawn⟩ :=
    growth_draws_each_pair_once hnodup htwo total_sampleRates_pos (Generator.ofSeed 42)
  have hthree : target sampleRates ([3, 4, 5] : List Int).length = .ok 3 := by decide +kernel
  obtain rfl : t = 3 := Except.ok.inj (ht.symm.trans hthree)
  have hfresh : 3 ≤ freshDraws sampleRates [3, 4, 5] 12 ⟨[], []⟩ (Generator.ofSeed 42) := by
    decide +kernel
  obtain ⟨outcome, houtcome⟩ := Option.isSome_iff_exists.1 ((hfinished 12).2 hfresh)
  obtain ⟨rows, rest, rfl, hlength, hgraph, hshare, -⟩ := hdrawn 12 outcome houtcome
  exact ⟨rows, rest, houtcome, hlength, hgraph, hshare⟩

end Shares

end Matchmaker.Seed
