import Mathlib.Data.List.Perm.Basic
import Matchmaker.Compatibility.Scorecard
import Matchmaker.Proofs.Exact

/-!
# Compatibility has no direction

Every dimension is counted from one side: the items of one member are gone through for each item of
the other, offers are looked up in one text and requests in the other. The points are the same
from both sides, and so two members who search within the same radius fit each other equally well
under the same weights.

* `tally_countP_comm`: related pairs can be counted from either side;
* `Interests.score_comm`: shared interests;
* **`compatibility_comm`**: the scorecard of two members.
-/

namespace Matchmaker

/-! ## Counting from either side -/

section Counting

variable {α β : Type}

theorem tally_zero (ys : List β) : tally (fun _ => 0) ys = 0 := by
  induction ys with
  | nil => rfl
  | cons y ys ih => rw [tally, ih]

theorem tally_countP_cons (r : α → β → Bool) (x : α) (xs : List α) (ys : List β) :
    tally (fun y => (x :: xs).countP (r · y)) ys =
      ys.countP (r x) + tally (fun y => xs.countP (r · y)) ys := by
  induction ys with
  | nil => rfl
  | cons y ys ih =>
    rw [tally, ih, List.countP_cons, List.countP_cons, tally]
    omega

/-- **Related pairs can be counted from either side.** -/
theorem tally_countP_comm (r : α → β → Bool) (xs : List α) (ys : List β) :
    tally (fun x => ys.countP (r x)) xs = tally (fun y => xs.countP (r · y)) ys := by
  induction xs with
  | nil => exact (tally_zero ys).symm
  | cons x xs ih => rw [tally_countP_cons, tally, ih]

theorem length_filter_contains_comm [BEq α] [LawfulBEq α] {xs ys : List α} (hx : xs.Nodup)
    (hy : ys.Nodup) : (xs.filter ys.contains).length = (ys.filter xs.contains).length := by
  refine List.Perm.length_eq ?_
  refine (List.perm_ext_iff_of_nodup (hx.filter _) (hy.filter _)).2 fun x => ?_
  simp only [List.mem_filter, List.contains_iff_mem]
  exact and_comm

end Counting

/-! ## The dimensions -/

namespace Interests

theorem related_comm (x y : String) : related x y = related y x := by
  simp only [related, bne, Bool.beq_comm (a := x), Taxonomy.share_comm _ x]

theorem nodup_normalise (items : List String) : (normalise items).Nodup :=
  nodup_distinct _

theorem scoreSets_comm {xs ys : List String} (hx : xs.Nodup) (hy : ys.Nodup) :
    scoreSets xs ys = scoreSets ys xs := by
  have hrelated : (fun y => xs.countP (related · y)) = fun y => xs.countP (related y) :=
    funext fun y => List.countP_congr fun x _ => by rw [related_comm]
  have hpairs : tally (fun x => ys.countP (related x)) xs =
      tally (fun y => xs.countP (related y)) ys := by
    rw [tally_countP_comm, hrelated]
  simp only [scoreSets, hpairs, length_filter_contains_comm hx hy, Bool.or_comm xs.isEmpty,
    Nat.add_comm xs.length]

/-- **Shared interests earn the same from either side**, in whatever order, however often and in
whatever case they are listed. -/
theorem score_comm (mine theirs : List String) : score mine theirs = score theirs mine :=
  scoreSets_comm (nodup_normalise mine) (nodup_normalise theirs)

end Interests

theorem Collaboration.score_comm (a b : Option String) : score a b = score b a :=
  scoreTexts_comm _ _

/-! ## Scorecards -/

namespace Scorecard

variable {α : Type} [Scalar α]

theorem contributions_comm (w : Weights) (radius : α) (p q : Profile) (distance : Option α) :
    contributions w radius p q distance = contributions w radius q p distance := by
  simp only [contributions, Interests.score_comm (Interests.ofColumn p.analogPassions),
    Interests.score_comm (Interests.ofColumn p.digitalDelights),
    Collaboration.score_comm p.collaboration, Taste.food, Taste.music,
    Taste.score_comm _ p.food, Taste.score_comm _ p.music]

/-- **Compatibility has no direction.** Two members with one radius have the same scorecard
whichever of them asks: all six contributions, their sum and the percentage, at any distance or
none, under any weights; and where the one cannot be scored, neither can the other. -/
theorem compatibility_comm (w : Weights) {p q : Profile}
    (hradius : (p.radius.toScalar : α) = q.radius.toScalar) (distance : Option α) :
    of w p q distance = of w q p distance ∧ attempt w p q distance = attempt w q p distance := by
  have hof : of w p q distance = of w q p distance := by
    simp only [of, hradius, contributions_comm w _ p]
  refine ⟨hof, ?_⟩
  simp only [attempt, hof, Bool.and_comm (admits p)]

/-- A member with interests in mixed case, one of them twice. -/
def guitarist : Profile :=
  { (default : Profile) with
    user := 1, maxRadius := some (.whole 10)
    analogPassions := some (.ofTexts ["Guitar", "hiking", "GUITAR"])
    collaboration := some "Would teach a beginner", food := some "Thai" }

/-- A member with others. -/
def hiker : Profile :=
  { (default : Profile) with
    user := 2, maxRadius := some (.whole 10)
    analogPassions := some (.ofTexts ["Hiking ", "piano", "singing"])
    collaboration := some "Want to learn the guitar", food := some "indian" }

open scoped Exact in
/-- One interest of five is in both lists and there is a pair of related ones, the one offers what
the other asks for, both like Asian food, and they live half a radius apart. -/
theorem compatibility_comm_sample :
    let w : Weights := ⟨3, 0, 3, 5, 0, 4⟩
    (guitarist.radius.toScalar : Rat) = hiker.radius.toScalar ∧
      of w guitarist hiker (some (5 : Rat)) = of w hiker guitarist (some 5) ∧
      (of w guitarist hiker (some (5 : Rat))).breakdown = ⟨5, 0, 3, 3, 0, 6 / 5⟩ := by
  intro w
  have hradius : (guitarist.radius.toScalar : Rat) = hiker.radius.toScalar := rfl
  obtain ⟨hof, -⟩ := compatibility_comm w hradius (some (5 : Rat))
  exact ⟨hradius, hof, by decide +kernel⟩

end Scorecard

end Matchmaker
