import Mathlib.Data.List.Nodup
import Mathlib.Data.List.TFAE
import Matchmaker.Connection.Query
import Matchmaker.Proofs.Calls
import Matchmaker.Proofs.Deciding

/-!
# Lists of members

The lists of a member, the state of a pair and the transitions read the table of connections in ways
of their own. Where no pair has two rows they tell one story: a pending row is a request that waits
for its target, and an accepted row is a connection.

* `Store.Awaits`, `Store.IsJoined`: what the rows say of two members;
* `mem_incoming`, `mem_outgoing`, `mem_connectionsOf`: the lists say it;
* `IsClean.deciding?_eq_some_iff`: the row of a pair is the one that joins it;
* `IsClean.nodup_listed`: no member is listed twice, in one list or in two;
* **`listings_agree`**: lists, states and transitions agree after every run.
-/

namespace Matchmaker.Store

variable {s : Store} {u v : Int} {c : Connection}

/-- The request of `v` waits for `u`. -/
def Awaits (s : Store) (u v : Int) : Prop :=
  ∃ c ∈ s.connections, c.requester = v ∧ c.target = u ∧ c.status = .pending

/-- `u` and `v` have an accepted row. -/
def IsJoined (s : Store) (u v : Int) : Prop :=
  ∃ c ∈ s.connections, c.joins u v = true ∧ c.status = .accepted

theorem isJoined_comm : s.IsJoined u v ↔ s.IsJoined v u := by
  simp only [IsJoined, Connection.joins_comm _ u v]

/-- The transition goes through. -/
def Permits (s : Store) (now : Instant) (t : Transition) (a b : Int) : Prop :=
  ∃ o s', t.run now a b s = .ok (o, s')

/-! ## Lists -/

theorem mem_newestFirst {cs : List Connection} : c ∈ newestFirst cs ↔ c ∈ cs :=
  List.mem_mergeSort

theorem mem_incoming : v ∈ s.incoming u ↔ s.Awaits u v := by
  simp only [incoming, List.mem_map, mem_newestFirst, List.mem_filter, Bool.and_eq_true,
    beq_iff_eq, Awaits]
  exact exists_congr fun c => by tauto

theorem mem_outgoing : u ∈ s.outgoing v ↔ s.Awaits u v := by
  simp only [outgoing, List.mem_map, mem_newestFirst, List.mem_filter, Bool.and_eq_true,
    beq_iff_eq, Awaits]
  exact exists_congr fun c => by tauto

theorem touches_and_peer_iff : c.touches u = true ∧ c.peer u = v ↔ c.joins u v = true := by
  rw [Connection.joins_iff, Connection.touches, Connection.peer, Bool.or_eq_true, beq_iff_eq,
    beq_iff_eq]
  split <;> omega

theorem mem_connectionsOf : v ∈ s.connectionsOf u ↔ s.IsJoined u v := by
  simp only [connectionsOf, connectionsById, List.mem_map, List.mem_filter, List.mem_mergeSort,
    Bool.and_eq_true, beq_iff_eq, IsJoined, ← touches_and_peer_iff]
  exact exists_congr fun c => by tauto

/-! ## The one row of a pair -/

theorem IsClean.deciding?_eq_some_iff (hs : s.IsClean) :
    s.deciding? u v = some c ↔ c ∈ s.connections ∧ c.joins u v = true := by
  constructor
  · intro h
    exact List.mem_filter.1 (latest?_mem h)
  · intro h
    have hc : c ∈ s.pairRows u v := List.mem_filter.2 h
    obtain ⟨d, hd⟩ := List.length_eq_one_iff.1
      (Nat.le_antisymm (hs.onePerPair u v) (List.length_pos_of_mem hc))
    rw [hd, List.mem_singleton] at hc
    rw [deciding?, hd, hc]
    rfl

theorem IsClean.exists_pending_iff (hs : s.IsClean) :
    (∃ c, s.deciding? u v = some c ∧ c.status = .pending ∧ c.requester = v) ↔ s.Awaits u v := by
  simp only [hs.deciding?_eq_some_iff, Connection.joins_iff, Awaits]
  refine exists_congr fun c => ⟨?_, ?_⟩
  · rintro ⟨⟨hc, hjoins⟩, hstatus, hfrom⟩
    exact ⟨hc, hfrom, by omega, hstatus⟩
  · rintro ⟨hc, hfrom, hto, hstatus⟩
    exact ⟨⟨hc, Or.inr ⟨hfrom, hto⟩⟩, hstatus, hfrom⟩

theorem IsClean.exists_accepted_iff (hs : s.IsClean) :
    (∃ c, s.deciding? u v = some c ∧ c.status = .accepted) ↔ s.IsJoined u v := by
  simp only [hs.deciding?_eq_some_iff, IsJoined, and_assoc]

/-! ## States -/

theorem requester_ne_iff (h : s.deciding? u v = some c) (huv : u ≠ v) :
    c.requester ≠ u ↔ c.requester = v := by
  have hjoins := (List.mem_filter.1 (latest?_mem h)).2
  rw [Connection.joins_iff] at hjoins
  omega

theorem IsClean.relationship_eq_pendingIncoming_iff (hs : s.IsClean) (huv : u ≠ v) :
    s.relationship u v = .pendingIncoming ↔ s.Awaits u v := by
  rw [relationship, Relationship.of_eq_pendingIncoming_iff, ← hs.exists_pending_iff]
  refine exists_congr fun c => and_congr_right fun h => ?_
  rw [requester_ne_iff h huv]

theorem IsClean.relationship_eq_pendingOutgoing_iff (hs : s.IsClean) :
    s.relationship v u = .pendingOutgoing ↔ s.Awaits u v := by
  rw [relationship_swap s u v, Relationship.of_eq_pendingOutgoing_iff, hs.exists_pending_iff]

theorem IsClean.areConnected_iff (hs : s.IsClean) : s.areConnected u v = true ↔ s.IsJoined u v := by
  rw [areConnected, beq_iff_eq, relationship, Relationship.of_eq_accepted_iff,
    hs.exists_accepted_iff]

/-! ## Transitions -/

section Transitions

variable {now : Instant} {t : Transition} {a b : Int}

theorem permits_iff (hab : a ≠ b) :
    s.Permits now t a b ↔ ∃ x, t.decide a b (s.read a b) = .ok x := by
  unfold Permits
  rw [Transition.run_eq, if_neg hab]
  cases t.decide a b (s.read a b) with
  | error why => simp
  | ok x => simp

/-- What settles a request goes through exactly if the request is there. -/
theorem permits_settle_iff (hab : a ≠ b) {x : Int}
    {settle : Connection → Transition.Result × Transition.Write}
    (h : t.decide a b (s.read a b) = (Transition.pendingFrom x (s.deciding? a b)).map settle) :
    s.Permits now t a b ↔
      ∃ c, s.deciding? a b = some c ∧ c.status = .pending ∧ c.requester = x := by
  simp only [permits_iff hab, h, map_eq_ok_iff, Transition.pendingFrom_eq_ok_iff]
  constructor
  · rintro ⟨_, c, hc, -⟩
    exact ⟨c, hc⟩
  · rintro ⟨c, hc⟩
    exact ⟨settle c, c, hc, rfl⟩

theorem permits_disconnect_iff (hab : a ≠ b) : s.Permits now .disconnect a b ↔
    ∃ c, s.deciding? a b = some c ∧ c.status = .accepted := by
  rw [permits_iff hab]
  constructor
  · rintro ⟨⟨result, w⟩, h⟩
    cases Transition.decide_eq_ok_iff.1 h with
    | disconnect hrow hstatus => exact ⟨_, hrow, hstatus⟩
  · rintro ⟨c, hrow, hstatus⟩
    exact ⟨_, Transition.decide_eq_ok_iff.2 (.disconnect hrow hstatus)⟩

end Transitions

/-! ## Nobody twice -/

theorem IsClean.nodup_map (hs : s.IsClean) {rows : List Connection} {p : Connection → Bool}
    (hrows : rows.Perm (s.connections.filter p)) {f : Connection → Int}
    (hf : ∀ c, p c = true → c.pair = Lock.key u (f c)) : (rows.map f).Nodup := by
  have hpairs : (s.connections.map Connection.pair).Nodup := nodup_pairs_iff.2 hs.onePerPair
  have hfiltered : ((s.connections.filter p).map Connection.pair).Nodup :=
    hpairs.sublist (List.filter_sublist.map _)
  -- two rows that give one member are of one pair
  rw [(hrows.map f).nodup_iff]
  refine List.Nodup.map_on (fun c hc d hd hcd => ?_) (List.Nodup.of_map _ hfiltered)
  apply eq_of_key_eq hfiltered hc hd
  rw [hf c (List.mem_filter.1 hc).2, hf d (List.mem_filter.1 hd).2, hcd]

theorem IsClean.nodup_incoming (hs : s.IsClean) (u : Int) : (s.incoming u).Nodup := by
  refine hs.nodup_map (u := u) (List.mergeSort_perm _ _) fun c hc => ?_
  rw [Bool.and_eq_true, beq_iff_eq] at hc
  rw [Connection.pair, hc.1, Lock.key_comm]

theorem IsClean.nodup_outgoing (hs : s.IsClean) (u : Int) : (s.outgoing u).Nodup := by
  refine hs.nodup_map (u := u) (List.mergeSort_perm _ _) fun c hc => ?_
  rw [Bool.and_eq_true, beq_iff_eq] at hc
  rw [Connection.pair, hc.1]

theorem IsClean.nodup_connectionsOf (hs : s.IsClean) (u : Int) : (s.connectionsOf u).Nodup := by
  refine hs.nodup_map (u := u) ((List.mergeSort_perm _ _).filter _) fun c hc => ?_
  rw [Bool.and_eq_true] at hc
  exact Connection.joins_iff_pair.1 (touches_and_peer_iff.1 ⟨hc.1, rfl⟩)

theorem IsLawful.not_awaits_self (hs : s.IsLawful) : ¬ s.Awaits u u := by
  rintro ⟨c, hc, hfrom, hto, -⟩
  exact hs.ends c hc (hfrom.trans hto.symm)

theorem IsLawful.not_isJoined_self (hs : s.IsLawful) : ¬ s.IsJoined u u := by
  rintro ⟨c, hc, hjoins, -⟩
  rw [Connection.joins_iff] at hjoins
  exact hs.ends c hc (by omega)

theorem IsClean.not_awaits_both (hs : s.IsClean) (h : s.Awaits u v) : ¬ s.Awaits v u := by
  intro h'
  have huv : u ≠ v := fun huv => hs.not_awaits_self (huv ▸ h)
  have hin := (hs.relationship_eq_pendingIncoming_iff huv).2 h
  rw [hs.relationship_eq_pendingOutgoing_iff.2 h'] at hin
  cases hin

theorem IsClean.not_awaits_of_isJoined (hs : s.IsClean) (h : s.IsJoined u v) : ¬ s.Awaits u v := by
  intro h'
  obtain ⟨c, hc, hpending, -⟩ := hs.exists_pending_iff.2 h'
  obtain ⟨d, hd, haccepted⟩ := hs.exists_accepted_iff.2 h
  obtain rfl := Option.some.inj (hc.symm.trans hd)
  rw [hpending] at haccepted
  cases haccepted

/-- **Nobody is listed twice**, in one list of a member or in two. -/
theorem IsClean.nodup_listed (hs : s.IsClean) (u : Int) :
    (s.incoming u ++ s.outgoing u ++ s.connectionsOf u).Nodup := by
  rw [List.nodup_append, List.nodup_append]
  refine ⟨⟨hs.nodup_incoming u, hs.nodup_outgoing u, ?_⟩, hs.nodup_connectionsOf u, ?_⟩
  · rintro v hin _ hout rfl
    exact hs.not_awaits_both (mem_incoming.1 hin) (mem_outgoing.1 hout)
  · rintro v hwaiting _ hconnected rfl
    rw [mem_connectionsOf] at hconnected
    rcases List.mem_append.1 hwaiting with hin | hout
    · exact hs.not_awaits_of_isJoined hconnected (mem_incoming.1 hin)
    · exact hs.not_awaits_of_isJoined (isJoined_comm.1 hconnected) (mem_outgoing.1 hout)

theorem IsClean.not_mem_listed (hs : s.IsClean) (u : Int) :
    u ∉ s.incoming u ++ s.outgoing u ++ s.connectionsOf u := by
  simp only [List.mem_append, mem_incoming, mem_outgoing, mem_connectionsOf, not_or]
  exact ⟨⟨hs.not_awaits_self, hs.not_awaits_self⟩, hs.not_isJoined_self⟩

/-! ## Agreement -/

/-- **Requests agree.** -/
theorem IsClean.requests_tfae (hs : s.IsClean) (now : Instant) (huv : u ≠ v) :
    List.TFAE [v ∈ s.incoming u, u ∈ s.outgoing v, s.relationship u v = .pendingIncoming,
      s.relationship v u = .pendingOutgoing, s.Permits now .accept u v,
      s.Permits now .decline u v, s.Permits now .cancel v u] := by
  apply List.tfae_of_forall (s.Awaits u v)
  simp only [List.forall_mem_cons, List.not_mem_nil, false_implies, implies_true, and_true]
  refine ⟨mem_incoming, mem_outgoing, hs.relationship_eq_pendingIncoming_iff huv,
    hs.relationship_eq_pendingOutgoing_iff, ?_, ?_, ?_⟩
  · exact (permits_settle_iff huv rfl).trans hs.exists_pending_iff
  · exact (permits_settle_iff huv rfl).trans hs.exists_pending_iff
  · -- a request is taken back by the one whose row the other would accept
    rw [permits_settle_iff huv.symm rfl, deciding?_congr (Lock.key_comm v u),
      hs.exists_pending_iff]

/-- **Connections agree.** -/
theorem IsClean.connections_tfae (hs : s.IsClean) (now : Instant) (huv : u ≠ v) :
    List.TFAE [v ∈ s.connectionsOf u, u ∈ s.connectionsOf v, s.areConnected u v = true,
      s.areConnected v u = true, s.Permits now .disconnect u v] := by
  apply List.tfae_of_forall (s.IsJoined u v)
  simp only [List.forall_mem_cons, List.not_mem_nil, false_implies, implies_true, and_true]
  refine ⟨mem_connectionsOf, mem_connectionsOf.trans isJoined_comm, hs.areConnected_iff,
    hs.areConnected_iff.trans isJoined_comm, ?_⟩
  rw [permits_disconnect_iff huv, hs.exists_accepted_iff]

/-- **Lists, states and transitions agree** after every run of calls on a clean store, and nobody is
listed twice or to themselves. -/
theorem listings_agree (hs : s.IsClean) (calls : List (Instant × Call)) (now : Instant) :
    (∀ u v, u ≠ v →
      List.TFAE [v ∈ (s.afterAll calls).incoming u, u ∈ (s.afterAll calls).outgoing v,
        (s.afterAll calls).relationship u v = .pendingIncoming,
        (s.afterAll calls).relationship v u = .pendingOutgoing,
        (s.afterAll calls).Permits now .accept u v, (s.afterAll calls).Permits now .decline u v,
        (s.afterAll calls).Permits now .cancel v u] ∧
      List.TFAE [v ∈ (s.afterAll calls).connectionsOf u, u ∈ (s.afterAll calls).connectionsOf v,
        (s.afterAll calls).areConnected u v = true, (s.afterAll calls).areConnected v u = true,
        (s.afterAll calls).Permits now .disconnect u v]) ∧
      ∀ u, u ∉ (s.afterAll calls).incoming u ++ (s.afterAll calls).outgoing u ++
          (s.afterAll calls).connectionsOf u ∧
        ((s.afterAll calls).incoming u ++ (s.afterAll calls).outgoing u ++
          (s.afterAll calls).connectionsOf u).Nodup := by
  have hclean := hs.afterAll calls
  refine ⟨fun u v huv => ⟨hclean.requests_tfae now huv, hclean.connections_tfae now huv⟩, ?_⟩
  exact fun u => ⟨hclean.not_mem_listed u, hclean.nodup_listed u⟩

/-- The second member, who accepted the first, is asked by the third. -/
theorem listings_agree_sample :
    let calls : List (Instant × Call) :=
      [(1, .transition .accept 2 1), (2, .transition .request 3 2), (3, .dismiss 2 3)]
    sample.IsClean ∧ (2 : Int) ≠ 3 ∧ 3 ∈ (sample.afterAll calls).incoming 2 ∧
      2 ∈ (sample.afterAll calls).outgoing 3 ∧ (sample.afterAll calls).Permits 4 .cancel 3 2 ∧
      1 ∈ (sample.afterAll calls).connectionsOf 2 ∧
      (sample.afterAll calls).Permits 4 .disconnect 2 1 := by
  intro calls
  obtain ⟨hagree, -⟩ := listings_agree isClean_sample calls 4
  have hin : 3 ∈ (sample.afterAll calls).incoming 2 :=
    mem_incoming.2 ⟨⟨2, 3, 2, .pending, 2, 2⟩, by decide, rfl, rfl, rfl⟩
  have hconnected : 1 ∈ (sample.afterAll calls).connectionsOf 2 :=
    mem_connectionsOf.2 ⟨⟨1, 1, 2, .accepted, 0, 1⟩, by decide, rfl, rfl⟩
  obtain ⟨hrequests, -⟩ := hagree 2 3 (by decide)
  obtain ⟨-, hconnections⟩ := hagree 2 1 (by decide)
  refine ⟨isClean_sample, by decide, hin, ?_, ?_, hconnected, ?_⟩
  · exact (hrequests.out 0 1).1 hin
  · exact (hrequests.out 0 6).1 hin
  · exact (hconnections.out 0 4).1 hconnected

end Matchmaker.Store
