import Matchmaker.Proofs.Bulk
import Matchmaker.Proofs.Drawing
import Matchmaker.Seed.Graph

/-!
# Graphs that are drawn

Whatever is drawn, connections and dismissals are between two different members of those given, no
pair of members has two connections and no dismissal is drawn twice. What carries this through the
growth of a graph is that the pairs that are passed over are those with a connection.

* `Seed.IsGraph`, `Seed.IsProgress`: drawn connections, finished and under way;
* `Seed.Enters`, **`Enters.isProgress`**: the states that the growth of a graph goes through;
* **`isGraph_of_connections`**, **`gives_dismissals`**: what is drawn between members.
-/

namespace Matchmaker

/-- The unordered pair that a new connection joins. -/
def Store.Link.pair (l : Store.Link) : Int × Int :=
  Lock.key l.requester l.target

namespace Seed

variable {α : Type} [Sampling α] {σ : Type} [Source σ] {r : Rates α} {users : List Int}

/-! ## Connections -/

/-- Connections between different members of those given, at most one for each pair. -/
structure IsGraph (users : List Int) (rows : List Store.Link) : Prop where
  requester : ∀ l ∈ rows, l.requester ∈ users
  target : ∀ l ∈ rows, l.target ∈ users
  ends : ∀ l ∈ rows, l.requester ≠ l.target
  pairs : (rows.map Store.Link.pair).Nodup

theorem isGraph_nil (users : List Int) : IsGraph users [] :=
  ⟨by simp, by simp, by simp, .nil⟩

theorem IsGraph.append {rows : List Store.Link} (h : IsGraph users rows) {l : Store.Link}
    (hr : l.requester ∈ users) (ht : l.target ∈ users) (hends : l.requester ≠ l.target)
    (hnew : l.pair ∉ rows.map Store.Link.pair) : IsGraph users (rows ++ [l]) where
  requester := List.forall_mem_append.2 ⟨h.requester, by simpa using hr⟩
  target := List.forall_mem_append.2 ⟨h.target, by simpa using ht⟩
  ends := List.forall_mem_append.2 ⟨h.ends, by simpa using hends⟩
  pairs := nodup_map_concat h.pairs fun m hm he => hnew (he ▸ List.mem_map_of_mem hm)

/-- A status that some fraction leads to. -/
def Rates.Draws (r : Rates α) (status : Status) : Prop :=
  ∃ k : Nat, k < 9007199254740992 ∧
    status = r.statusAt (Scalar.ofInt (k : Nat) / 9007199254740992.0 * r.total)

/-- A graph under way: the pairs that are passed over are those with a connection. -/
structure IsProgress (r : Rates α) (users : List Int) (p : Progress) : Prop where
  graph : IsGraph users p.rows
  seen : ∀ k, k ∈ p.seen ↔ k ∈ p.rows.map Store.Link.pair
  drawn : ∀ l ∈ p.rows, r.Draws l.status

theorem isProgress_nil (r : Rates α) (users : List Int) : IsProgress r users ⟨[], []⟩ :=
  ⟨isGraph_nil users, by simp, by simp⟩

theorem gives_link (r : Rates α) (a b : Int) : Gives (link r a b : Draw σ Store.Link) fun l =>
    ((l.requester = a ∧ l.target = b) ∨ (l.requester = b ∧ l.target = a)) ∧ r.Draws l.status := by
  have hrow : ∀ (turned : Bool) {status : Status}, r.Draws status →
      Gives (pure (if turned then ⟨b, a, status, none, none⟩ else ⟨a, b, status, none, none⟩) :
        Draw σ Store.Link) fun l =>
        ((l.requester = a ∧ l.target = b) ∨ (l.requester = b ∧ l.target = a)) ∧
          r.Draws l.status := by
    intro turned status hstatus
    cases turned with
    | false => exact gives_pure ⟨Or.inl ⟨rfl, rfl⟩, hstatus⟩
    | true => exact gives_pure ⟨Or.inr ⟨rfl, rfl⟩, hstatus⟩
  refine gives_bind gives_fraction fun x hx => ?_
  obtain ⟨k, hk, rfl⟩ := hx
  have hstatus : r.Draws (r.statusAt (Scalar.ofInt (k : Nat) / 9007199254740992.0 * r.total)) :=
    ⟨k, hk, rfl⟩
  dsimp only
  -- a pending connection is not turned
  split
  · exact gives_bind (gives_true (pure false)) fun turned _ => hrow turned hstatus
  · refine gives_bind (gives_true fraction) fun y _ => ?_
    exact gives_bind (gives_true (pure _)) fun turned _ => hrow turned hstatus

theorem gives_grow (hnodup : users.Nodup) (htwo : 2 ≤ users.length) {p : Progress}
    (hp : IsProgress r users p) :
    Gives (grow r users p : Draw σ Progress) (IsProgress r users) := by
  refine gives_bind (gives_twoOf hnodup htwo) fun x hx => ?_
  obtain ⟨a, b⟩ := x
  obtain ⟨ha, hb, hab⟩ := hx
  dsimp only
  split
  · exact gives_pure hp
  · rename_i hunseen
    refine gives_bind (gives_link r a b) fun l hl => gives_pure ?_
    obtain ⟨hends, hdraws⟩ := hl
    have hpair : l.pair = Lock.key a b := Lock.key_eq_iff.2 hends
    have hnew : l.pair ∉ p.rows.map Store.Link.pair := fun hmem =>
      hunseen (List.contains_iff_mem.2 (hpair ▸ (hp.seen _).2 hmem))
    refine ⟨?_, fun k => ?_, List.forall_mem_append.2 ⟨hp.drawn, by simpa using hdraws⟩⟩
    · rcases hends with ⟨hr, ht⟩ | ⟨hr, ht⟩
      · exact hp.graph.append (hr ▸ ha) (ht ▸ hb) (by rwa [hr, ht]) hnew
      · exact hp.graph.append (hr ▸ hb) (ht ▸ ha) (by rw [hr, ht]; exact hab.symm) hnew
    · rw [List.mem_cons, hp.seen, List.map_append, List.mem_append, List.map_singleton,
        List.mem_singleton, hpair, or_comm]

/-- The states in which the growth of a graph decides whether there are enough connections, and what
is left of the stream by then. -/
inductive Enters (r : Rates α) (users : List Int) (target : Nat) (draws : σ) : Progress → σ → Prop
  | start : Enters r users target draws ⟨[], []⟩ draws
  | next {p : Progress} {s : σ} (h : Enters r users target draws p s)
      (hmore : p.rows.length < target) :
      Enters r users target draws ((grow r users p).run s).1 ((grow r users p).run s).2

theorem Enters.isProgress (hnodup : users.Nodup) (htwo : 2 ≤ users.length) {target : Nat}
    {draws s : σ} {p : Progress} (h : Enters r users target draws p s) : IsProgress r users p := by
  induction h with
  | start => exact isProgress_nil r users
  | next _ _ ih => exact gives_grow hnodup htwo ih _

/-- What is returned are the connections of a state in which there are enough. -/
theorem Enters.exists_of_growth {target fuel : Nat} {draws s s' : σ} {p : Progress}
    {rows : List Store.Link} (hp : Enters r users target draws p s)
    (h : growth r users target fuel p s = some (rows, s')) :
    ∃ q, Enters r users target draws q s' ∧ q.rows = rows ∧ target ≤ rows.length := by
  induction fuel generalizing p s with
  | zero =>
    unfold growth at h
    split at h
    · rename_i henough
      cases h
      exact ⟨p, hp, rfl, henough⟩
    · cases h
  | succ fuel ih =>
    unfold growth at h
    split at h
    · rename_i henough
      cases h
      exact ⟨p, hp, rfl, henough⟩
    · rename_i hmore
      exact ih (hp.next (Nat.lt_of_not_le hmore)) h

/-- **Drawn connections are between different members, at most one for each pair.** -/
theorem isGraph_of_connections (hnodup : users.Nodup) {fuel : Nat} {s s' : σ}
    {rows : List Store.Link} (h : connections fuel r users s = some (.ok (rows, s'))) :
    IsGraph users rows := by
  unfold connections at h
  split at h
  · cases h
  · split at h
    · cases h
      exact isGraph_nil users
    · rename_i hdraws
      split at h
      · cases h
      · have htwo : 2 ≤ users.length := by
          simp only [Bool.or_eq_true, decide_eq_true_eq, not_or] at hdraws
          omega
        obtain ⟨⟨rows', s''⟩, hgrowth, he⟩ := Option.map_eq_some_iff.1 h
        cases he
        obtain ⟨p, hp, rfl, -⟩ := Enters.start.exists_of_growth hgrowth
        exact (hp.isProgress hnodup htwo).graph

/-! ## Dismissals -/

theorem gives_draftDismissals (rate : α) {all us : List Int} (hall : all ≠ []) (hus : us ⊆ all) :
    Gives (draftDismissals rate all us : Draw σ (List Dismissal)) fun ds =>
      ∀ d ∈ ds, d.user ∈ all ∧ d.dismissed ∈ all ∧ d.user ≠ d.dismissed := by
  induction us with
  | nil => exact gives_pure (by simp)
  | cons u us ih =>
    have hrest := ih fun v hv => hus (List.mem_cons_of_mem _ hv)
    refine gives_bind (gives_true fraction) fun x _ => ?_
    split
    · exact hrest
    · refine gives_bind (gives_choice hall) fun other hother => ?_
      refine gives_bind hrest fun rest hdraws => gives_pure ?_
      split
      · exact hdraws
      · rename_i hne
        rw [List.forall_mem_cons]
        exact ⟨⟨hus List.mem_cons_self, hother, Ne.symm hne⟩, hdraws⟩

/-- **Drawn dismissals are between different members, each drawn once.** -/
theorem gives_dismissals (rate : α) (users : List Int) :
    Gives (dismissals rate users : Draw σ (List Dismissal)) fun ds =>
      ds.Nodup ∧ ∀ d ∈ ds, d.user ∈ users ∧ d.dismissed ∈ users ∧ d.user ≠ d.dismissed := by
  unfold dismissals
  split
  · exact gives_pure ⟨.nil, by simp⟩
  · rename_i hdraws
    have hall : users ≠ [] := by
      rintro rfl
      simp at hdraws
    have hdraft := gives_draftDismissals (σ := σ) rate hall (List.Subset.refl _)
    refine gives_bind hdraft fun drafts hdrafts => ?_
    refine gives_pure ⟨?_, fun d hd => hdrafts d ?_⟩
    · rw [(List.mergeSort_perm _ _).nodup_iff]
      exact (nodup_eraseDups drafts).1
    · rwa [List.mem_mergeSort, List.mem_eraseDups] at hd

end Seed

end Matchmaker
