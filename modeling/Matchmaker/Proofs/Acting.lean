import Matchmaker.Proofs.Blocking
import Matchmaker.Proofs.Completeness
import Matchmaker.Proofs.Pools

/-!
# Acting on recommendations

Whoever may be recommended to a member can be asked for a connection and can be dismissed: what the
search for candidates leaves out is what the two services refuse. Either of them takes the other out
of the candidates, a request for both members and a dismissal for the one who dismisses.

* `request_of_isOpen`, `dismiss_of_isOpen`: what follows a click on a recommendation;
* `candidatesOf_insert`, `candidatesOf_dismiss`: the candidates of every member afterwards;
* **`recommended_can_be_acted_on`**: nobody is recommended in vain.
-/

namespace Matchmaker.Store

variable {s s' : Store} {u v x y : Int} {p : Profile}

/-! ## What succeeds -/

theorem IsOpen.isComplete (h : s.IsOpen u p) (hs : s.IsLawful) : s.isComplete p.user = true :=
  isComplete_iff.2 ⟨p, hs.profile?_eq_some h.mem, h.complete⟩

theorem IsOpen.hasDismissed_eq_false (h : s.IsOpen u p) : s.hasDismissed u p.user = false := by
  rw [← Bool.not_eq_true, hasDismissed_iff]
  exact h.undismissed

theorem request_of_isOpen (hs : s.IsLawful) (hu : s.isComplete u = true) (h : s.IsOpen u p)
    (now : Instant) : Transition.run now .request u p.user s =
      .ok (⟨.pending, s.nextConnection⟩, s.write now (.insert u p.user)) :=
  Transition.run_eq_ok_iff.2 ⟨h.other.symm, .insert u p.user,
    .ask hu (h.isComplete hs) h.deciding?_eq_none h.hasDismissed_eq_false, rfl, rfl⟩

theorem dismiss_of_isOpen (hs : s.IsLawful) (h : s.IsOpen u p) : s.dismiss u p.user =
    .ok (true, { s with dismissals := s.dismissals ++ [⟨u, p.user⟩] }) := by
  have hledger := h.hasDismissed_eq_false
  refine dismiss_eq_ok_iff.2 ⟨h.other.symm, h.isComplete hs, ?_, ?_⟩
  · rw [hledger]
    rfl
  · rw [hledger]
    rfl

/-! ## Candidates afterwards -/

section Candidates

variable {α : Type} [Scalar α] {g : Geometry α} {cs : List (Candidate α)} {me : Int}

theorem candidatesOf_eq_ok_iff : s.candidatesOf g me = .ok cs ↔
    ∃ p, s.seeker me = .ok p ∧ s.candidates g p = .ok cs :=
  bind_eq_ok_iff

theorem seeker_congr (h : s'.profiles = s.profiles) (me : Int) : s'.seeker me = s.seeker me := by
  unfold seeker profile?
  rw [h]

theorem candidatesOf_filter {q : Profile → Bool} (hprofiles : s'.profiles = s.profiles)
    (hpool : s'.openProfiles me = (s.openProfiles me).filter q)
    (hcs : s.candidatesOf g me = .ok cs) :
    s'.candidatesOf g me = .ok (cs.filter fun c => q c.profile) := by
  obtain ⟨p, hp, hcs⟩ := candidatesOf_eq_ok_iff.1 hcs
  refine candidatesOf_eq_ok_iff.2 ⟨p, seeker_congr hprofiles me ▸ hp, candidates_filter ?_ hcs⟩
  rw [user_of_seeker hp]
  exact hpool

theorem candidatesOf_congr (hprofiles : s'.profiles = s.profiles)
    (hpool : s'.openProfiles me = s.openProfiles me) :
    s'.candidatesOf g me = s.candidatesOf g me := by
  unfold candidatesOf
  rw [seeker_congr hprofiles]
  cases hp : s.seeker me with
  | error e => rfl
  | ok p =>
    have huser : p.user = me := user_of_seeker hp
    exact candidates_congr (by rw [huser, hpool])

theorem key_bne_key (a b c : Int) : (Lock.key a b != Lock.key a c) = (c != b) := by
  rw [Bool.eq_iff_iff, bne_iff_ne, bne_iff_ne, ne_eq, Lock.key_eq_iff]
  grind

theorem candidatesOf_insert (hcs : s.candidatesOf g me = .ok cs) (now : Instant) (x y : Int) :
    (s.write now (.insert x y)).candidatesOf g me =
      .ok (cs.filter fun c => Lock.key x y != Lock.key me c.profile.user) := by
  have hprofiles : (s.write now (.insert x y)).profiles = s.profiles := rfl
  exact candidatesOf_filter hprofiles (openProfiles_insert now x y me) hcs

theorem candidatesOf_dismiss (hcs : s.candidatesOf g x = .ok cs) (y : Int) :
    ({ s with dismissals := s.dismissals ++ [⟨x, y⟩] } : Store).candidatesOf g x =
      .ok (cs.filter (·.profile.user != y)) := by
  let s' : Store := { s with dismissals := s.dismissals ++ [⟨x, y⟩] }
  have hprofiles : s'.profiles = s.profiles := rfl
  have hpool : s'.openProfiles x = (s.openProfiles x).filter (·.user != y) := by
    refine (openProfiles_dismiss x y x).trans (List.filter_congr fun p _ => ?_)
    rw [Bool.eq_iff_iff, bne_iff_ne, bne_iff_ne]
    simp
  exact candidatesOf_filter hprofiles hpool hcs

theorem candidatesOf_dismiss_of_ne (h : me ≠ x) (y : Int) :
    ({ s with dismissals := s.dismissals ++ [⟨x, y⟩] } : Store).candidatesOf g me =
      s.candidatesOf g me := by
  let s' : Store := { s with dismissals := s.dismissals ++ [⟨x, y⟩] }
  have hprofiles : s'.profiles = s.profiles := rfl
  refine candidatesOf_congr hprofiles ((openProfiles_dismiss x y me).trans ?_)
  rw [List.filter_eq_self]
  intro p _
  simp [h]

theorem exists_of_mem_recommendedIds {ids : List Int} (h : s.recommendedIds g u = .ok ids)
    (hv : v ∈ ids) : s.isComplete u = true ∧
      ∃ cs, s.candidatesOf g u = .ok cs ∧ ∃ c ∈ cs, c.profile.user = v := by
  obtain ⟨es, hes, rfl⟩ := map_eq_ok_iff.1 h
  obtain ⟨e, he, rfl⟩ := List.mem_map.1 hv
  rcases recommend_eq_ok hes with rfl | ⟨me, w, cs, hme, hcs, rfl⟩
  · cases he
  · obtain ⟨c, hc, rfl⟩ := List.mem_map.1 (Ranking.mem_of_mem_rank he)
    exact ⟨isComplete_iff.2 ⟨me, seeker_eq_ok_iff.1 hme⟩, cs,
      candidatesOf_eq_ok_iff.2 ⟨me, hme, hcs⟩, c, hc, rfl⟩

end Candidates

/-! ## Recommendations -/

open scoped Exact in
theorem recommendedIds_neighbours : neighbours.recommendedIds blocks 1 = .ok [3] := by
  have hme : neighbours.profile? 1 = some (neighbour 1) := rfl
  have hnearest := recommend_of_isRanking encloses_blocks isLawful_neighbours hme rfl
    (resolve_neighbour 1) (by decide) isScorable_neighbours isRanking_nearest
  rw [recommendedIds, hnearest]
  rfl

/-- **Nobody is recommended in vain.** A member recommended to another can be asked for a
connection, which makes a pending row and takes each of the two out of the candidates of the other,
and can be dismissed, which is a new entry of the ledger and takes them out of the candidates of the
one who dismisses, while their own candidates are the same as before. -/
theorem recommended_can_be_acted_on {α : Type} [Scalar α] {g : Geometry α} {ids : List Int}
    (hs : s.IsLawful) (h : s.recommendedIds g u = .ok ids) (hv : v ∈ ids) (now : Instant) :
    ∃ cs, s.candidatesOf g u = .ok cs ∧ (∃ c ∈ cs, c.profile.user = v) ∧
      (∃ s', Transition.run now .request u v s = .ok (⟨.pending, s.nextConnection⟩, s') ∧
        s' = { s with connections := s.connections ++
          [⟨s.nextConnection, u, v, .pending, now, now⟩] } ∧
        s'.IsUnseen u v ∧ s'.IsUnseen v u ∧
        s'.candidatesOf g u = .ok (cs.filter (·.profile.user != v)) ∧
        ∀ cs', s.candidatesOf g v = .ok cs' →
          s'.candidatesOf g v = .ok (cs'.filter (·.profile.user != u))) ∧
      ∃ s', s.dismiss u v = .ok (true, s') ∧ (⟨u, v⟩ : Dismissal) ∉ s.dismissals ∧
        s' = { s with dismissals := s.dismissals ++ [⟨u, v⟩] } ∧
        s'.IsUnseen u v ∧
        s'.candidatesOf g u = .ok (cs.filter (·.profile.user != v)) ∧
        s'.candidatesOf g v = s.candidatesOf g v := by
  obtain ⟨hu, cs, hcs, c, hc, hcv⟩ := exists_of_mem_recommendedIds h hv
  have hopen : s.IsOpen u c.profile := by
    obtain ⟨me, hme, hcs⟩ := candidatesOf_eq_ok_iff.1 hcs
    exact user_of_seeker hme ▸ isOpen_of_candidates hcs hc
  have hrequest := request_of_isOpen hs hu hopen now
  have hdismiss := dismiss_of_isOpen hs hopen
  have hrow : (s.write now (.insert u c.profile.user)).deciding? u c.profile.user = some _ :=
    deciding?_insert (deciding?_eq_none_iff.1 hopen.deciding?_eq_none)
  have hother : v ≠ u := hcv ▸ hopen.other
  have hfresh := hopen.undismissed
  rw [hcv] at hrequest hdismiss hrow hfresh
  refine ⟨cs, hcs, ⟨c, hc, hcv⟩, ⟨_, hrequest, rfl, isUnseen_of_deciding? hrow, ?_, ?_,
    fun cs' hcs' => ?_⟩, _, hdismiss, hfresh, rfl, ?_, ?_, candidatesOf_dismiss_of_ne hother v⟩
  · rw [deciding?_congr (Lock.key_comm u v)] at hrow
    exact isUnseen_of_deciding? hrow
  · simpa only [key_bne_key] using candidatesOf_insert hcs now u v
  · have hv := candidatesOf_insert hcs' now u v
    rw [Lock.key_comm u v] at hv
    simpa only [key_bne_key] using hv
  · exact isUnseen_of_hasDismissed (hasDismissed_dismiss hdismiss)
  · exact candidatesOf_dismiss hcs v

open scoped Exact in
/-- The first neighbour asks the third, who is the one recommended to them, or dismisses them. -/
theorem recommended_can_be_acted_on_sample :
    neighbours.IsLawful ∧ neighbours.recommendedIds blocks 1 = .ok [3] ∧
      (∃ s', Transition.run 5 .request 1 3 neighbours = .ok (⟨.pending, 2⟩, s') ∧
        s'.connections = [⟨1, 1, 2, .pending, 0, 0⟩, ⟨2, 1, 3, .pending, 5, 5⟩] ∧
        s'.IsUnseen 1 3 ∧ s'.IsUnseen 3 1) ∧
      ∃ s', neighbours.dismiss 1 3 = .ok (true, s') ∧ s'.dismissals = [⟨3, 1⟩, ⟨1, 3⟩] ∧
        s'.IsUnseen 1 3 ∧ s'.candidatesOf blocks 3 = neighbours.candidatesOf blocks 3 := by
  obtain ⟨cs, -, -, ⟨s', hrequest, hs', hthird, hfirst, -⟩,
      t, hdismiss, -, ht, hunseen, -, hsame⟩ :=
    recommended_can_be_acted_on isLawful_neighbours recommendedIds_neighbours List.mem_cons_self 5
  exact ⟨isLawful_neighbours, recommendedIds_neighbours, ⟨s', hrequest, by rw [hs']; rfl, hthird,
    hfirst⟩, t, hdismiss, by rw [ht]; rfl, hunseen, hsame⟩

end Matchmaker.Store
