import Matchmaker.Proofs.Acting
import Matchmaker.Proofs.Ledger
import Matchmaker.Proofs.Masking

/-!
# Acting on a candidate

A member who asks or dismisses somebody loses them from their recommendations and nothing else: all
others keep their place and their scores, and where the list was full the next one moves up.

* **`Ranking.ordered_filter`**: a ranking without some of its entries;
* `take_filter_ne`: the first entries without one of them;
* `Store.contenders`, `recommend_eq_take_contenders`: all who could be recommended, best first;
* **`acting_only_removes`**: recommendations after a first request or a dismissal.
-/

namespace Matchmaker

/-- The first entries without one of them, whose place the next one takes. -/
theorem take_filter_ne {β κ : Type} [DecidableEq κ] {key : β → κ} {l : List β}
    (h : (l.map key).Nodup) (k : κ)
    (n : Nat) : (l.filter fun x => key x != k).take n =
      ((l.take n).filter fun x => key x != k) ++
        if k ∈ (l.take n).map key then l[n]?.toList else [] := by
  induction l generalizing n with
  | nil => simp
  | cons x l ih =>
    rw [List.map_cons, List.nodup_cons] at h
    cases n with
    | zero => simp
    | succ n =>
      by_cases hx : key x = k
      · -- the entry itself is gone, and no other has its key
        have hall : ∀ y ∈ l, (key y != k) = true := fun y hy => by
          rw [bne_iff_ne]
          rintro rfl
          exact h.1 (hx ▸ List.mem_map_of_mem hy)
        have htake : ∀ y ∈ l.take n, (key y != k) = true := fun y hy =>
          hall y (List.mem_of_mem_take hy)
        rw [List.filter_cons_of_neg (by simp [hx]), List.filter_eq_self.2 hall, List.take_succ_cons,
          List.filter_cons_of_neg (by simp [hx]), List.filter_eq_self.2 htake, List.map_cons,
          if_pos (List.mem_cons.2 (Or.inl hx.symm)), List.getElem?_cons_succ, List.take_add_one]
      · have hmem : k ∈ (x :: l.take n).map key ↔ k ∈ (l.take n).map key := by
          rw [List.map_cons, List.mem_cons, or_iff_right (Ne.symm hx)]
        rw [List.filter_cons_of_pos (by simp [hx]), List.take_succ_cons, ih h.2,
          List.take_succ_cons, List.filter_cons_of_pos (by simp [hx]), List.getElem?_cons_succ,
          List.cons_append]
        simp only [hmem]

/-! ## Rankings without some of their entries -/

namespace Ranking

variable {α κ : Type} [Scalar α] {entries : List (Entry α κ)}

/-- The percentage of the entry is the share of its score. -/
def Entry.IsShare (e : Entry α κ) : Prop :=
  ∃ w, e.card.percentage = Scorecard.percent e.card.score w

variable [Orderly α]

theorem Entry.IsShare.le_self {e : Entry α κ} (h : e.IsShare) (he : e ∈ eligible entries) :
    e.card.score ≤ e.card.score := by
  obtain ⟨w, hw⟩ := h
  have hthreshold := of_decide_eq_true (List.mem_filter.1 he).2
  rw [hw] at hthreshold
  exact Orderly.le_self hthreshold

theorem pairwise_ordered_of_isShare (h : ∀ e ∈ entries, e.IsShare) :
    (ordered entries).Pairwise fun x y => precedes x y = true :=
  pairwise_precedes_ordered fun e he => (h e (List.mem_filter.1 he).1).le_self he

/-- **Leaving out entries changes nothing in the order of the others.** -/
theorem ordered_filter (h : ∀ e ∈ entries, e.IsShare) (hnodup : (entries.map Entry.user).Nodup)
    (q : Entry α κ → Bool) : ordered (entries.filter q) = (ordered entries).filter q := by
  have hperm : (ordered (entries.filter q)).Perm ((ordered entries).filter q) := by
    refine (ordered_perm _).trans ?_
    rw [eligible, List.filter_comm]
    exact ((ordered_perm entries).filter q).symm
  have hfilter : (ordered (entries.filter q)).Pairwise fun x y => precedes x y = true :=
    pairwise_ordered_of_isShare fun e he => h e (List.mem_filter.1 he).1
  have hsub : ∀ e ∈ ordered (entries.filter q), e ∈ ordered entries := fun e he =>
    (List.mem_filter.1 (hperm.mem_iff.1 he)).1
  refine hperm.eq_of_pairwise (fun x y hx hy hxy hyx => ?_) hfilter
    ((pairwise_ordered_of_isShare h).filter q)
  exact eq_of_key_eq (nodup_ordered hnodup) (hsub x hx) (List.mem_filter.1 hy).1
    (user_eq_of_precedes hxy hyx)

end Ranking

namespace Store

variable {α : Type} [Scalar α] {g : Geometry α} {s s' : Store} {u v : Int} {me : Profile}
  {w : Weights} {all es : List (Ranking.Entry α (Candidate α))}

/-! ## All who could be recommended -/

/-- All who could be recommended to a member, best first. -/
def contenders (g : Geometry α) (s : Store) (user : Int) :
    Except Failure (List (Ranking.Entry α (Candidate α))) :=
  (s.compared g user).map Ranking.ordered

/-- **The first ten of all who could be are recommended**, if it can be told who they are. -/
theorem recommend_eq_take_contenders (g : Geometry α) (s : Store) (user : Int) :
    s.recommend g user = (s.contenders g user).map (List.take Ranking.limit) := by
  rw [recommend, contenders]
  cases s.compared g user <;> rfl

theorem nodup_candidates (hs : s.IsLawful) {cs : List (Candidate α)}
    (h : s.candidates g me = .ok cs) : (cs.map fun c => c.profile.user).Nodup := by
  have hopen := nodup_openProfiles hs me.user
  cases candidates_eq_ok_iff.1 h with
  | everywhere _ _ hmeasured => exact nodup_measured hmeasured hopen
  | nowhere => exact .nil
  | around _ _ _ _ hmeasured =>
    have hclose := nodup_measured hmeasured (hopen.sublist (List.filter_sublist.map _))
    exact hclose.sublist (List.filter_sublist.map _)

theorem isShare_scored (w : Weights) (me : Profile) (c : Candidate α) : (scored w me c).IsShare :=
  ⟨w, rfl⟩

theorem Compares.isShare (h : s.Compares g u all) : ∀ e ∈ all, e.IsShare := by
  intro e he
  cases h with
  | nobody => cases he
  | candidates =>
    obtain ⟨c, -, rfl⟩ := List.mem_map.1 he
    exact isShare_scored _ _ c

theorem Compares.nodup (hs : s.IsLawful) (h : s.Compares g u all) :
    (all.map Ranking.Entry.user).Nodup := by
  cases h with
  | nobody => exact .nil
  | candidates _ _ _ hcs =>
    rw [List.map_map]
    exact nodup_candidates hs hcs

theorem nodup_contenders (hs : s.IsLawful) (h : s.contenders g u = .ok all) :
    (all.map Ranking.Entry.user).Nodup := by
  obtain ⟨es, hes, rfl⟩ := map_eq_ok_iff.1 h
  exact Ranking.nodup_ordered ((compared_eq_ok_iff.1 hes).nodup hs)

theorem exists_contenders (hg : g.Measures s)
    (hadmits : ∀ p ∈ s.profiles, Scorecard.admits p = true) (hme : s.profile? u = some me)
    (hcomplete : me.complete = true) (hw : Weights.resolve me.preferences = .ok w) :
    ∃ all, s.contenders g u = .ok all := by
  have hseeker : s.seeker u = .ok me := seeker_eq_ok_iff.2 ⟨hme, hcomplete⟩
  have hmem : me ∈ s.profiles := (mem_of_profile? hme).1
  by_cases htotal : w.total = 0
  · exact ⟨_, map_eq_ok_iff.2 ⟨_, compared_of_total_eq_zero hseeker hw htotal, rfl⟩⟩
  · obtain ⟨cs, hcs⟩ := exists_candidates_of_measures hg hmem hcomplete
    refine ⟨_, map_eq_ok_iff.2 ⟨_, compared_eq_ok_iff.2 (.candidates hseeker hw htotal hcs
      fun c hc => ?_), rfl⟩⟩
    rw [hadmits me hmem, hadmits _ (isOpen_of_candidates hcs hc).mem]
    rfl

/-! ## Contenders afterwards -/

theorem Compares.filter (hprofiles : s'.profiles = s.profiles)
    (hpool : s'.openProfiles u = (s.openProfiles u).filter (·.user != v))
    (h : s.Compares g u all) : s'.Compares g u (all.filter (·.user != v)) := by
  cases h with
  | nobody hme hw htotal => exact .nobody (seeker_congr hprofiles u ▸ hme) hw htotal
  | candidates hme hw htotal hcs hadmits =>
    rename_i me w cs
    have hcs' : s'.candidates g me = .ok (cs.filter (·.profile.user != v)) := by
      refine candidates_filter (q := fun p => p.user != v) ?_ hcs
      rw [user_of_seeker hme]
      exact hpool
    rw [List.filter_map]
    exact .candidates (seeker_congr hprofiles u ▸ hme) hw htotal hcs' fun c hc =>
      hadmits c (List.mem_filter.1 hc).1

variable [Ranking.Orderly α]

theorem contenders_filter (hs : s.IsLawful) (hprofiles : s'.profiles = s.profiles)
    (hpool : s'.openProfiles u = (s.openProfiles u).filter (·.user != v))
    (h : s.contenders g u = .ok all) : s'.contenders g u = .ok (all.filter (·.user != v)) := by
  obtain ⟨es, hes, rfl⟩ := map_eq_ok_iff.1 h
  have hcompares := compared_eq_ok_iff.1 hes
  rw [← Ranking.ordered_filter hcompares.isShare (hcompares.nodup hs)]
  exact map_eq_ok_iff.2 ⟨_, compared_eq_ok_iff.2 (hcompares.filter hprofiles hpool), rfl⟩

omit [Scalar α] [Ranking.Orderly α] in
/-- A dismissal, new or not, or a first request takes the other out of the pool. -/
theorem openProfiles_of_acting (hacts : (∃ isNew, s.dismiss u v = .ok (isNew, s')) ∨
    ∃ now id, Transition.run now .request u v s = .ok (⟨.pending, id⟩, s')) :
    s'.profiles = s.profiles ∧
      s'.openProfiles u = (s.openProfiles u).filter (·.user != v) := by
  rcases hacts with ⟨isNew, hdismiss⟩ | ⟨now, id, hrun⟩
  · refine ⟨profiles_of_dismiss hdismiss, openProfiles_eq_filter (profiles_of_dismiss hdismiss) ?_⟩
    intro p
    have hrows : s'.pairRows u p.user = s.pairRows u p.user := by
      rw [pairRows, connections_of_dismiss hdismiss, pairRows]
    have hledger : (!s'.hasDismissed u p.user) =
        (p.user != v && !s.hasDismissed u p.user) := by
      rw [Bool.eq_iff_iff]
      simp only [Bool.not_eq_true', ← Bool.not_eq_true, hasDismissed_iff, Bool.and_eq_true,
        bne_iff_ne, dismissals_of_dismiss hdismiss, mem_enter, Dismissal.mk.injEq, true_and]
      tauto
    rw [isOpenTo, hrows, hledger, Bool.and_left_comm, isOpenTo]
  · obtain ⟨-, w, hw, -, rfl⟩ := Transition.run_eq_ok_iff.1 hrun
    cases hw with
    | ask =>
      refine ⟨profiles_of_run hrun, (openProfiles_insert now u v u).trans ?_⟩
      simp only [key_bne_key]

/-- **Acting on a candidate only removes them.** After a first request or a dismissal the
recommendations are the old ones without the other, in the same order and with the same scores,
followed by at most one: if the list was full and the other was in it, whoever came eleventh. If
the other was not in it, nothing changes. -/
theorem acting_only_removes (hs : s.IsLawful) (hme : s.profile? u = some me)
    (hcomplete : me.complete = true) (hw : Weights.resolve me.preferences = .ok w)
    (hacts : (∃ isNew, s.dismiss u v = .ok (isNew, s')) ∨
      ∃ now id, Transition.run now .request u v s = .ok (⟨.pending, id⟩, s')) :
    (∀ es, s.recommend g u = .ok es → ∃ all next, s.contenders g u = .ok all ∧ es = all.take 10 ∧
      s'.recommend g u = .ok (es.filter (·.user != v) ++ next) ∧
      s'.recommendedIds g u =
        .ok ((es.map Ranking.Entry.user).filter (· != v) ++ next.map Ranking.Entry.user) ∧
      (v ∈ es.map Ranking.Entry.user → next = all[10]?.toList) ∧
      (v ∉ es.map Ranking.Entry.user → next = [] ∧ s'.recommend g u = s.recommend g u) ∧
      next.length ≤ 1 ∧ (next ≠ [] → es.length = 10 ∧ v ∈ es.map Ranking.Entry.user)) ∧
    (g.Measures s → (∀ p ∈ s.profiles, Scorecard.admits p = true) →
      ∃ es, s.recommend g u = .ok es) := by
  constructor
  · intro es hes
    rw [recommend_eq_take_contenders] at hes
    obtain ⟨all, hall, rfl⟩ := map_eq_ok_iff.1 hes
    obtain ⟨hprofiles, hpool⟩ := openProfiles_of_acting hacts
    have hafter := contenders_filter hs hprofiles hpool hall
    have htake := take_filter_ne (nodup_contenders hs hall) v 10
    let next := if v ∈ (all.take 10).map Ranking.Entry.user then all[10]?.toList else []
    have hrecommend : s'.recommend g u = .ok ((all.take 10).filter (·.user != v) ++ next) := by
      rw [recommend_eq_take_contenders, hafter]
      exact congrArg Except.ok htake
    have hnext : v ∈ (all.take 10).map Ranking.Entry.user → next = all[10]?.toList := fun hv =>
      if_pos hv
    have hnone : v ∉ (all.take 10).map Ranking.Entry.user → next = [] := fun hv => if_neg hv
    refine ⟨all, next, hall, rfl, hrecommend, ?_, hnext, fun hv => ⟨hnone hv, ?_⟩, ?_,
      fun hne => ?_⟩
    · rw [recommendedIds, hrecommend]
      simp only [Except.map, List.map_append, List.filter_map]
      rfl
    · have hkeep : (all.take 10).filter (·.user != v) = all.take 10 := by
        rw [List.filter_eq_self]
        intro e he
        rw [bne_iff_ne]
        rintro rfl
        exact hv (List.mem_map_of_mem he)
      rw [hrecommend, hnone hv, hkeep, List.append_nil, recommend_eq_take_contenders, hall]
      rfl
    · by_cases hv : v ∈ (all.take 10).map Ranking.Entry.user
      · rw [hnext hv]
        exact Option.length_toList_le
      · rw [hnone hv]
        exact Nat.zero_le 1
    · have hv : v ∈ (all.take 10).map Ranking.Entry.user := by
        by_contra hv
        exact hne (hnone hv)
      refine ⟨?_, hv⟩
      have hlong : 10 < all.length := by
        by_contra hshort
        rw [hnext hv, List.getElem?_eq_none (Nat.le_of_not_lt hshort)] at hne
        exact hne rfl
      rw [List.length_take]
      exact Nat.min_eq_left (Nat.le_of_lt hlong)
  · intro hg hadmits
    obtain ⟨all, hall⟩ := exists_contenders hg hadmits hme hcomplete hw
    exact ⟨_, by rw [recommend_eq_take_contenders, hall]; rfl⟩

/-! ## A store to look at -/

open scoped Exact

/-- Twelve members in one place. -/
def crowd : Store :=
  { empty with profiles := [1, 2, 3, 4, 5, 6, 7, 8, 9, 10, 11, 12].map neighbour }

theorem isLawful_crowd : crowd.IsLawful :=
  { isLawful_empty with
    profiles := by decide +kernel
    profileUsers := by decide }

theorem openProfiles_crowd :
    crowd.openProfiles 1 = [2, 3, 4, 5, 6, 7, 8, 9, 10, 11, 12].map neighbour := by
  have hsorted : crowd.profilesByUser = crowd.profiles :=
    List.mergeSort_of_pairwise (by decide)
  rw [openProfiles, hsorted]
  rfl

/-- The others of the crowd, seen by the first. -/
def others : List (Ranking.Entry Rat (Candidate Rat)) :=
  [2, 3, 4, 5, 6, 7, 8, 9, 10, 11, 12].map fun user =>
    scored ⟨0, 0, 0, 0, 0, 10⟩ (neighbour 1) ⟨neighbour user, some 0⟩

theorem candidates_crowd :
    crowd.candidates blocks (neighbour 1) = .ok (others.map Ranking.Entry.item) := by
  have hreach : (0 : Rat) < reach (.whole 10) := Exact.reach_pos rfl
  have hglobe : Point.IsOnGlobe ⟨.real 48.0, .real 2.0⟩ := ⟨by decide +kernel, by decide +kernel⟩
  obtain ⟨near, hnear, hencloses⟩ := encloses_blocks.near hglobe hreach
  have hclose : ∀ user, isNear near (neighbour user) = true := fun user =>
    hencloses (d := 0) hglobe (by simp [blocks]) hreach.le
  have hpool : (crowd.openProfiles 1).filter (isNear near) = crowd.openProfiles 1 := by
    rw [openProfiles_crowd, List.filter_eq_self]
    intro p hp
    obtain ⟨user, -, rfl⟩ := List.mem_map.1 hp
    exact hclose user
  have hmeasured : measured blocks (neighbour 1) (crowd.openProfiles 1) =
      .ok (others.map Ranking.Entry.item) := by
    rw [measured_eq_ok_iff, openProfiles_crowd]
    refine ⟨rfl, fun c hc => ?_⟩
    obtain ⟨e, he, rfl⟩ := List.mem_map.1 hc
    obtain ⟨user, -, rfl⟩ := List.mem_map.1 he
    exact between_neighbours 1 user
  have hwithin : (others.map Ranking.Entry.item).filter (isWithin (reach (.whole 10))) =
      others.map Ranking.Entry.item := List.filter_eq_self.2 (by decide +kernel)
  rw [candidates_of_placed rfl rfl rfl hnear]
  show (measured blocks _ ((crowd.openProfiles 1).filter _)).map _ = _
  rw [hpool, hmeasured]
  exact congrArg Except.ok hwithin

theorem contenders_crowd : crowd.contenders blocks 1 = .ok others := by
  have hcompared : crowd.compared blocks 1 = .ok others :=
    compared_eq_ok_iff.2 (.candidates rfl (resolve_neighbour 1) (by decide) candidates_crowd
      (by decide))
  have hranked : Ranking.ordered others = others := by
    have heligible : Ranking.eligible others = others := by
      rw [Ranking.eligible, List.filter_eq_self]
      decide +kernel
    rw [Ranking.ordered, heligible]
    exact List.mergeSort_of_pairwise (by decide +kernel)
  rw [contenders, hcompared]
  exact congrArg Except.ok hranked

/-- The first of twelve dismisses the fifth, and the twelfth moves up. -/
theorem acting_only_removes_sample :
    crowd.IsLawful ∧ crowd.profile? 1 = some (neighbour 1) ∧ (neighbour 1).complete = true ∧
      Weights.resolve (neighbour 1).preferences = .ok ⟨0, 0, 0, 0, 0, 10⟩ ∧
      crowd.recommendedIds blocks 1 = .ok [2, 3, 4, 5, 6, 7, 8, 9, 10, 11] ∧
      ∃ s', crowd.dismiss 1 5 = .ok (true, s') ∧
        s'.recommendedIds blocks 1 = .ok [2, 3, 4, 6, 7, 8, 9, 10, 11, 12] := by
  have hrecommend : crowd.recommend blocks 1 = .ok (others.take 10) := by
    rw [recommend_eq_take_contenders, contenders_crowd]
    rfl
  obtain ⟨hbefore, -⟩ := acting_only_removes (g := blocks) isLawful_crowd rfl rfl rfl
    (Or.inl ⟨true, rfl⟩ : (∃ isNew, crowd.dismiss 1 5 = .ok (isNew, _)) ∨ _)
  obtain ⟨all, next, hall, -, -, hids, hnext, -⟩ := hbefore _ hrecommend
  cases contenders_crowd.symm.trans hall
  refine ⟨isLawful_crowd, rfl, rfl, rfl, ?_, _, rfl, ?_⟩
  · rw [recommendedIds, hrecommend]
    rfl
  · rw [hids, hnext (by decide)]
    rfl

end Store

end Matchmaker
