import Matchmaker.Proofs.Candidates
import Matchmaker.Proofs.Calls
import Matchmaker.Proofs.Ranking

/-!
# Recommendations

What a member is recommended, told by what holds of every result: over exact scores the
recommendations are the first ten of the one ranking of all matches.

* `Store.Compares`: how it can be told with whom a member is compared;
* `Store.IsMatch`, `Store.IsRanking`: the matches of a member, and all of them, best first;
* **`recommend_eq_take`**: the recommendations are the best ten matches, where the interests of
  all who are compared can be listed.
-/

namespace Matchmaker.Store

/-! ## The steps of a search -/

section Steps

variable {α : Type} [Scalar α] {g : Geometry α} {s : Store} {user : Int} {me : Profile}
  {w : Weights}

theorem seeker_eq_ok_iff : s.seeker user = .ok me ↔
    s.profile? user = some me ∧ me.complete = true := by
  unfold seeker
  cases hme : s.profile? user with
  | none => simp
  | some p =>
    cases hcomplete : p.complete with
    | false =>
      simp only [hcomplete, Bool.false_eq_true, if_false, refuse_ne_ok, Option.some.injEq,
        false_iff]
      rintro ⟨rfl, h⟩
      rw [hcomplete] at h
      cases h
    | true =>
      simp only [hcomplete, if_true, Except.ok.injEq, Option.some.injEq]
      exact ⟨fun h => ⟨h, h ▸ hcomplete⟩, fun h => h.1⟩

theorem user_of_seeker (h : s.seeker user = .ok me) : me.user = user :=
  (mem_of_profile? (seeker_eq_ok_iff.1 h).1).2

/-- How it can be told with whom a member is compared. -/
inductive Compares (g : Geometry α) (s : Store) (user : Int) :
    List (Ranking.Entry α (Candidate α)) → Prop
  | nobody {me : Profile} {w : Weights} (hme : s.seeker user = .ok me)
      (hw : Weights.resolve me.preferences = .ok w) (htotal : w.total = 0) :
      Compares g s user []
  | candidates {me : Profile} {w : Weights} (hme : s.seeker user = .ok me)
      (hw : Weights.resolve me.preferences = .ok w) (htotal : w.total ≠ 0)
      {cs : List (Candidate α)} (hcs : s.candidates g me = .ok cs)
      (hadmits : ∀ c ∈ cs, (Scorecard.admits me && Scorecard.admits c.profile) = true) :
      Compares g s user (cs.map (scored w me))

theorem compared_of_total_eq_zero (hme : s.seeker user = .ok me)
    (hw : Weights.resolve me.preferences = .ok w) (htotal : w.total = 0) :
    s.compared g user = .ok [] := by
  unfold compared
  rw [hme]
  simp only [bind, Except.bind, hw, htotal]
  rfl

theorem compared_of_candidates (hme : s.seeker user = .ok me)
    (hw : Weights.resolve me.preferences = .ok w) (htotal : w.total ≠ 0)
    {cs : List (Candidate α)} (hcs : s.candidates g me = .ok cs) :
    s.compared g user =
      if cs.all fun c => Scorecard.admits me && Scorecard.admits c.profile then
        .ok (cs.map (scored w me))
      else broken .wrongType := by
  unfold compared
  rw [hme]
  simp only [bind, Except.bind, hw, htotal, hcs, if_false]
  split <;> rfl

theorem compared_eq_ok_iff {all : List (Ranking.Entry α (Candidate α))} :
    s.compared g user = .ok all ↔ s.Compares g user all := by
  constructor
  · intro h
    obtain ⟨me, hme, hrest⟩ := bind_eq_ok_iff.1 h
    obtain ⟨w, hw, hrest⟩ := bind_eq_ok_iff.1 hrest
    by_cases htotal : w.total = 0
    · rw [compared_of_total_eq_zero hme hw htotal] at h
      cases h
      exact .nobody hme hw htotal
    · rw [if_neg htotal] at hrest
      obtain ⟨cs, hcs, -⟩ := bind_eq_ok_iff.1 hrest
      rw [compared_of_candidates hme hw htotal hcs] at h
      split at h
      · rename_i hall
        cases h
        exact .candidates hme hw htotal hcs (List.all_eq_true.1 hall)
      · cases h
  · intro h
    cases h with
    | nobody hme hw htotal => exact compared_of_total_eq_zero hme hw htotal
    | candidates hme hw htotal hcs hadmits =>
      rw [compared_of_candidates hme hw htotal hcs, if_pos (List.all_eq_true.2 hadmits)]

theorem recommend_of_seeker_eq_error {failure : Failure} (h : s.seeker user = .error failure) :
    s.recommend g user = .error failure := by
  rw [recommend, compared, h]
  rfl

theorem recommend_of_total_eq_zero (hme : s.profile? user = some me)
    (hcomplete : me.complete = true) (hw : Weights.resolve me.preferences = .ok w)
    (htotal : w.total = 0) : s.recommend g user = .ok [] := by
  rw [recommend, compared_of_total_eq_zero (seeker_eq_ok_iff.2 ⟨hme, hcomplete⟩) hw htotal]
  exact congrArg Except.ok Ranking.rank_nil

theorem recommend_of_candidates (hme : s.profile? user = some me)
    (hcomplete : me.complete = true) (hw : Weights.resolve me.preferences = .ok w)
    (htotal : w.total ≠ 0) {cs : List (Candidate α)} (hcs : s.candidates g me = .ok cs) :
    s.recommend g user =
      if cs.all fun c => Scorecard.admits me && Scorecard.admits c.profile then
        .ok (Ranking.rank (cs.map (scored w me)))
      else broken .wrongType := by
  rw [recommend, compared_of_candidates (seeker_eq_ok_iff.2 ⟨hme, hcomplete⟩) hw htotal hcs]
  split <;> rfl

theorem recommend_eq_ok {es : List (Ranking.Entry α (Candidate α))}
    (h : s.recommend g user = .ok es) : es = [] ∨ ∃ me w cs, s.seeker user = .ok me ∧
      s.candidates g me = .ok cs ∧ es = Ranking.rank (cs.map (scored w me)) := by
  obtain ⟨all, hall, rfl⟩ := map_eq_ok_iff.1 h
  cases compared_eq_ok_iff.1 hall with
  | nobody => exact Or.inl Ranking.rank_nil
  | candidates hme _ _ hcs => exact Or.inr ⟨_, _, _, hme, hcs, rfl⟩

/-- **Whoever is recommended is open to the member**, whatever the scores. -/
theorem isOpen_of_recommend {es : List (Ranking.Entry α (Candidate α))}
    (h : s.recommend g user = .ok es) {e : Ranking.Entry α (Candidate α)} (he : e ∈ es) :
    s.IsOpen user e.item.profile ∧ e.user = e.item.profile.user := by
  rcases recommend_eq_ok h with rfl | ⟨me, w, cs, hme, hcs, rfl⟩
  · cases he
  · obtain ⟨c, hc, rfl⟩ := List.mem_map.1 (Ranking.mem_of_mem_rank he)
    exact ⟨user_of_seeker hme ▸ isOpen_of_candidates hcs hc, rfl⟩

theorem isOpen_of_recommendedIds {ids : List Int} {other : Int}
    (h : s.recommendedIds g user = .ok ids) (hother : other ∈ ids) :
    ∃ p, s.IsOpen user p ∧ p.user = other := by
  obtain ⟨es, hes, rfl⟩ := map_eq_ok_iff.1 h
  obtain ⟨e, he, rfl⟩ := List.mem_map.1 hother
  obtain ⟨hopen, huser⟩ := isOpen_of_recommend hes he
  exact ⟨e.item.profile, hopen, huser.symm⟩

end Steps

/-! ## Matches -/

open scoped Exact

variable {K : Type} [Field K] [LinearOrder K]

/-- A result for `me`: a candidate under its id, with its scores, of at least 25 percent. -/
structure IsMatch (g : Geometry K) (s : Store) (me : Profile) (w : Weights)
    (e : Ranking.Entry K (Candidate K)) : Prop where
  candidate : s.IsCandidate g me e.item
  user : e.user = e.item.profile.user
  card : e.card = Scorecard.of w me e.item.profile e.item.distance
  threshold : 25 ≤ e.card.percentage

/-- All matches of a member, best first. -/
structure IsRanking (g : Geometry K) (s : Store) (me : Profile) (w : Weights)
    (es : List (Ranking.Entry K (Candidate K))) : Prop where
  mem : ∀ e, e ∈ es ↔ s.IsMatch g me w e
  order : es.Pairwise Ranking.Before

/-- The interests of all who are compared can be listed. -/
def IsScorable (g : Geometry K) (s : Store) (me : Profile) : Prop :=
  ∀ c, s.IsCandidate g me c → Scorecard.admits me = true ∧ Scorecard.admits c.profile = true

variable {g : Geometry K} {s : Store} {me : Profile} {w : Weights}
  {e : Ranking.Entry K (Candidate K)} {es es' : List (Ranking.Entry K (Candidate K))}

theorem IsRanking.unique (h : s.IsRanking g me w es) (h' : s.IsRanking g me w es') : es = es' :=
  Ranking.eq_of_pairwise_before h.order h'.order fun e => (h.mem e).trans (h'.mem e).symm

theorem IsMatch.distance_eq_none_iff (h : s.IsMatch g me w e) :
    e.item.distance = none ↔ me.place? = none ∨ e.item.profile.place? = none := by
  rw [← Geometry.between_eq_none_iff (g := g), h.candidate.distance, Except.ok.injEq]

variable [IsStrictOrderedRing K]

theorem IsMatch.percentage_le (h : s.IsMatch g me w e) : e.card.percentage ≤ 100 := by
  rw [h.card]
  exact Exact.percent_le _

theorem IsMatch.total_ne_zero (h : s.IsMatch g me w e) : w.total ≠ 0 := by
  intro htotal
  have hzero : e.card.percentage = 0 := by
    rw [h.card]
    exact Exact.percent_of_total_eq_zero htotal _
  have hthreshold := h.threshold
  rw [hzero] at hthreshold
  norm_num at hthreshold

theorem IsRanking.percentages (h : s.IsRanking g me w es) :
    es.Pairwise fun x y => y.card.percentage ≤ x.card.percentage := by
  refine h.order.imp_of_mem fun {x y} hx hy hxy => ?_
  have hscore := hxy.score_le
  rw [((h.mem x).1 hx).card, ((h.mem y).1 hy).card] at hscore ⊢
  exact Exact.percent_mono hscore

theorem isRanking_ordered {cs : List (Candidate K)} (hcs : ∀ c, c ∈ cs ↔ s.IsCandidate g me c)
    (hnodup : (cs.map fun c => c.profile.user).Nodup) :
    s.IsRanking g me w (Ranking.ordered (cs.map (scored w me))) where
  mem e := by
    rw [Ranking.mem_ordered_exact, List.mem_map]
    constructor
    · rintro ⟨⟨c, hc, rfl⟩, hthreshold⟩
      exact ⟨(hcs c).1 hc, rfl, rfl, hthreshold⟩
    · intro h
      refine ⟨⟨e.item, (hcs e.item).2 h.candidate, ?_⟩, h.threshold⟩
      rw [scored, ← h.user, ← h.card]
  order := by
    refine Ranking.pairwise_before_ordered ?_
    rw [List.map_map]
    exact hnodup

theorem recommend_of_isRanking (hg : g.Encloses) (hs : s.IsLawful) {user : Int}
    (hme : s.profile? user = some me) (hcomplete : me.complete = true)
    (hw : Weights.resolve me.preferences = .ok w) (htotal : w.total ≠ 0)
    (hscorable : s.IsScorable g me) (h : s.IsRanking g me w es) :
    s.recommend g user = .ok (es.take 10) := by
  obtain ⟨cs, hcs, hcandidates, hnodup⟩ :=
    exists_candidates hg hs (List.mem_of_find?_eq_some hme) hcomplete
  have hes : Ranking.ordered (cs.map (scored w me)) = es :=
    (isRanking_ordered hcandidates hnodup).unique h
  have hall : (cs.all fun c => Scorecard.admits me && Scorecard.admits c.profile) = true := by
    simp only [List.all_eq_true, Bool.and_eq_true, hcandidates]
    exact hscorable
  rw [recommend_of_candidates hme hcomplete hw htotal hcs, if_pos hall, Ranking.rank, hes]
  rfl

/-! ## Recommendations -/

/-- **The recommendations are the best ten matches.** There is one ranking of all matches of a
member, and its first ten are recommended; where the interests of somebody who is compared cannot
be listed, nothing is. Percentages lie between 25 and 100 and never increase. Without weights, and
with a radius around no place, nobody matches. -/
theorem recommend_eq_take (hg : g.Encloses) (hs : s.IsLawful) {user : Int}
    (hme : s.profile? user = some me) (hcomplete : me.complete = true)
    (hw : Weights.resolve me.preferences = .ok w) :
    ∃ es, (∀ es', s.IsRanking g me w es' ↔ es' = es) ∧
      (w.total = 0 ∨ s.IsScorable g me → s.recommend g user = .ok (es.take 10)) ∧
      (¬ (w.total = 0 ∨ s.IsScorable g me) → s.recommend g user = broken .wrongType) ∧
      (∀ e ∈ es, 25 ≤ e.card.percentage ∧ e.card.percentage ≤ 100) ∧
      es.Pairwise (fun x y => y.card.percentage ≤ x.card.percentage) ∧
      (∀ e ∈ es, e.item.distance = none ↔ me.place? = none ∨ e.item.profile.place? = none) ∧
      (w.total = 0 → es = []) ∧
      (me.radius.isPositive = true → me.place? = none → es = []) := by
  have hmem : me ∈ s.profiles := List.mem_of_find?_eq_some hme
  obtain ⟨cs, hcs, hcandidates, hnodup⟩ := exists_candidates hg hs hmem hcomplete
  have hranking : s.IsRanking g me w (Ranking.ordered (cs.map (scored w me))) :=
    isRanking_ordered hcandidates hnodup
  generalize hes : Ranking.ordered (cs.map (scored w me)) = es at hranking
  have hzero : w.total = 0 → es = [] := fun htotal =>
    List.eq_nil_iff_forall_not_mem.2 fun e he => ((hranking.mem e).1 he).total_ne_zero htotal
  have hscorable : (cs.all fun c => Scorecard.admits me && Scorecard.admits c.profile) = true ↔
      s.IsScorable g me := by
    simp only [List.all_eq_true, Bool.and_eq_true, hcandidates]
    rfl
  refine ⟨es, fun es' => ⟨fun h => h.unique hranking, fun h => h ▸ hranking⟩, ?_, ?_,
    fun e he => ⟨((hranking.mem e).1 he).threshold, ((hranking.mem e).1 he).percentage_le⟩,
    hranking.percentages, fun e he => ((hranking.mem e).1 he).distance_eq_none_iff, hzero, ?_⟩
  · intro h
    by_cases htotal : w.total = 0
    · rw [recommend_of_total_eq_zero hme hcomplete hw htotal, hzero htotal]
      rfl
    · rw [recommend_of_candidates hme hcomplete hw htotal hcs,
        if_pos (hscorable.2 (h.resolve_left htotal)), Ranking.rank, hes]
      rfl
  · intro h
    rw [not_or] at h
    rw [recommend_of_candidates hme hcomplete hw h.1 hcs, if_neg (mt hscorable.1 h.2)]
  · intro hradius hplace
    exact List.eq_nil_iff_forall_not_mem.2 fun e he =>
      not_isCandidate_of_unplaced hradius hplace _ ((hranking.mem e).1 he).candidate

/-! ## A store to look at -/

/-- Distances along the meridians and the parallels, at 111 kilometres to a degree. -/
def blocks : Geometry Rat where
  distance x y :=
    .ok (111 * (|x.lat.toScalar - y.lat.toScalar| + |x.lon.toScalar - y.lon.toScalar|))
  near x r := .ok fun y =>
    111 * (|x.lat.toScalar - y.lat.toScalar| + |x.lon.toScalar - y.lon.toScalar|) ≤ r

theorem encloses_blocks : blocks.Encloses where
  distance _ _ := ⟨_, rfl⟩
  near _ _ := by
    refine ⟨_, rfl, fun _ hd hle => decide_eq_true ?_⟩
    cases hd
    exact hle

/-- A member who looks for others within ten kilometres. -/
def neighbour (user : Int) : Profile :=
  { (default : Profile) with
    user, displayName := "member", complete := true, lat := some (.real 48.0),
    lon := some (.real 2.0), maxRadius := some (.whole 10),
    preferences := some (.obj [("location", .int 10)]) }

/-- The members of `sample`, all in one place. -/
def neighbours : Store :=
  { sample with profiles := [1, 2, 3].map neighbour }

theorem isLawful_neighbours : neighbours.IsLawful :=
  { isClean_sample.toIsLawful with
    profiles := by decide +kernel
    profileUsers := by decide }

/-- The third member, recommended to the first. -/
def nearest : Ranking.Entry Rat (Candidate Rat) :=
  scored ⟨0, 0, 0, 0, 0, 10⟩ (neighbour 1) ⟨neighbour 3, some 0⟩

theorem between_neighbours (a b : Int) :
    blocks.between (neighbour a) (neighbour b) = .ok (some 0) := by
  rw [Geometry.between_eq_some_iff]
  refine ⟨_, _, rfl, rfl, ?_⟩
  simp [blocks]

theorem isCandidate_nearest : neighbours.IsCandidate blocks (neighbour 1) nearest.item where
  isOpen :=
    { mem := List.mem_map_of_mem (by decide)
      complete := rfl
      other := by decide
      unconnected := by decide
      undismissed := by decide }
  distance := between_neighbours 1 3
  within _ := ⟨0, rfl, by decide +kernel⟩

theorem isRanking_nearest :
    neighbours.IsRanking blocks (neighbour 1) ⟨0, 0, 0, 0, 0, 10⟩ [nearest] where
  mem e := by
    rw [List.mem_singleton]
    constructor
    · rintro rfl
      exact ⟨isCandidate_nearest, rfl, rfl, by decide +kernel⟩
    · rintro ⟨⟨⟨hmem, -, hother, hunconnected, -⟩, hdistance, -⟩, huser, hcard, -⟩
      obtain ⟨user, huser', hprofile⟩ := List.mem_map.1 hmem
      rw [← hprofile] at hother hunconnected hdistance hcard huser
      have hthird : user = 3 := by
        have hfirst : user ≠ 1 := hother
        have hsecond : user ≠ 2 := fun h =>
          (hunconnected ⟨1, 1, 2, .pending, 0, 0⟩ List.mem_cons_self).1 ⟨rfl, h.symm⟩
        simpa [hfirst, hsecond] using huser'
      subst hthird
      rw [between_neighbours, Except.ok.injEq] at hdistance
      rw [← hdistance] at hcard
      obtain ⟨u, card, ⟨profile, distance⟩⟩ := e
      simp only at hprofile hdistance huser hcard
      rw [huser, hcard, ← hprofile, ← hdistance]
      rfl
  order := List.pairwise_singleton _ _

theorem isScorable_neighbours : neighbours.IsScorable blocks (neighbour 1) := by
  intro c hc
  obtain ⟨user, -, hprofile⟩ := List.mem_map.1 hc.isOpen.mem
  rw [← hprofile]
  exact ⟨rfl, rfl⟩

theorem resolve_neighbour (user : Int) :
    Weights.resolve (neighbour user).preferences = .ok ⟨0, 0, 0, 0, 0, 10⟩ :=
  rfl

/-- The second neighbour has been asked already, and the third is recommended to the first. -/
theorem recommend_eq_take_sample : blocks.Encloses ∧ neighbours.IsLawful ∧
    neighbours.profile? 1 = some (neighbour 1) ∧ (neighbour 1).complete = true ∧
    Weights.resolve (neighbour 1).preferences = .ok ⟨0, 0, 0, 0, 0, 10⟩ ∧
    neighbours.recommend blocks 1 = .ok [nearest] ∧ nearest.user = 3 ∧
    nearest.card.percentage = 100 := by
  have hme : neighbours.profile? 1 = some (neighbour 1) := rfl
  have hw := resolve_neighbour 1
  obtain ⟨es, hunique, hok, -⟩ :=
    recommend_eq_take encloses_blocks isLawful_neighbours hme rfl hw
  have hes : [nearest] = es := (hunique [nearest]).1 isRanking_nearest
  refine ⟨encloses_blocks, isLawful_neighbours, hme, rfl, hw, ?_, rfl, by decide +kernel⟩
  rw [hok (Or.inr isScorable_neighbours), ← hes]
  rfl

end Matchmaker.Store
