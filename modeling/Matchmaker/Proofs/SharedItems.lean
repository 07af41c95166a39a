import Mathlib.Algebra.BigOperators.Group.Finset.Piecewise
import Mathlib.Algebra.BigOperators.Group.Finset.Sigma
import Mathlib.Data.Finset.Prod
import Mathlib.Logic.Relation
import Matchmaker.Proofs.Spelling
import Matchmaker.Proofs.Symmetry

/-!
# Interests as sets

The points for two lists of interests depend on the two sets of items as they are compared. Three
points are earned by each common item, one by each pair of different items with a group in common,
and five are added where more than half of all items are common.

* `itemSet`: the items of a list as they are compared;
* `IsRelated`, `relatedPairs`: different items with a group in common;
* `earnings`, `points`, **`score_eq_points`**: the points of two sets, and that a score is the
  points of the sets of its two lists;
* `Restatement`, `itemSet_of_restatement`: changes of a list that do not change its set;
* **`items_decide`**: the closed form, and that nothing else counts.
-/

namespace Matchmaker

/-! ## Sums over sets -/

section Counting

variable {α β : Type}

theorem tally_eq_sum (f : α → Nat) (xs : List α) : tally f xs = (xs.map f).sum := by
  induction xs with
  | nil => rfl
  | cons x xs ih => rw [tally, ih, List.map_cons, List.sum_cons]

variable [DecidableEq α] [DecidableEq β]

theorem countP_eq_card {ys : List β} (hy : ys.Nodup) (p : β → Bool) :
    ys.countP p = {y ∈ ys.toFinset | p y = true}.card := by
  rw [List.countP_eq_length_filter, ← List.toFinset_card_of_nodup (hy.filter p),
    List.toFinset_filter]

theorem tally_countP_eq_card {xs : List α} {ys : List β} (hx : xs.Nodup) (hy : ys.Nodup)
    (r : α → β → Bool) : tally (fun x => ys.countP (r x)) xs =
      {p ∈ xs.toFinset ×ˢ ys.toFinset | r p.1 p.2 = true}.card := by
  rw [tally_eq_sum, ← List.sum_toFinset _ hx, Finset.card_filter, Finset.sum_product]
  refine Finset.sum_congr rfl fun x _ => ?_
  rw [countP_eq_card hy, Finset.card_filter]

end Counting

namespace Interests

/-! ## Sets of items -/

/-- The items of a list as they are compared: in lower case, without blanks at their ends, blank
ones left out. -/
def itemSet (items : List String) : Finset String :=
  (items.toFinset.image normal).erase ""

theorem mem_itemSet {x : String} {items : List String} :
    x ∈ itemSet items ↔ x ≠ "" ∧ ∃ item ∈ items, normal item = x := by
  simp only [itemSet, Finset.mem_erase, Finset.mem_image, List.mem_toFinset]

theorem toFinset_normalise (items : List String) : (normalise items).toFinset = itemSet items := by
  ext x
  rw [List.mem_toFinset, normalise, mem_distinct, List.mem_filter, List.mem_map, decide_eq_true_eq,
    mem_itemSet, and_comm]

/-- Two different items with a group in common: a keyword of the group stands in the one, and one
in the other. -/
def IsRelated (x y : String) : Prop :=
  x ≠ y ∧ ∃ g ∈ Taxonomy.interests,
    (∃ k ∈ g.keywords, k.toList <:+: x.toList) ∧ ∃ k ∈ g.keywords, k.toList <:+: y.toList

theorem related_iff {x y : String} : related x y = true ↔ IsRelated x y := by
  simp only [related, Bool.and_eq_true, bne_iff_ne, Taxonomy.share_iff, Group.touches_iff,
    IsRelated]

instance (x y : String) : Decidable (IsRelated x y) :=
  decidable_of_iff _ related_iff

/-- The pairs of a member's item and a candidate's that are related. -/
def relatedPairs (A B : Finset String) : Finset (String × String) :=
  {p ∈ A ×ˢ B | IsRelated p.1 p.2}

/-! ## Points -/

/-- What the overlap of two sets adds: 5 where more than half of their items are common. -/
def overlapBonus (common all : Nat) : Nat :=
  if all < 2 * common then 5 else 0

/-- What the common items, the related pairs and the overlap of two sets earn together. -/
def earnings (A B : Finset String) : Nat :=
  3 * (A ∩ B).card + (relatedPairs A B).card + overlapBonus (A ∩ B).card (A ∪ B).card

/-- The points for two sets of items: none where one is empty. -/
def points (A B : Finset String) : Nat :=
  if A = ∅ ∨ B = ∅ then 0 else earnings A B

theorem length_filter_contains_eq_card {xs ys : List String} (hx : xs.Nodup) :
    (xs.filter ys.contains).length = (xs.toFinset ∩ ys.toFinset).card := by
  rw [← List.toFinset_card_of_nodup (hx.filter _)]
  congr 1
  ext x
  simp only [List.mem_toFinset, List.mem_filter, List.contains_iff_mem, Finset.mem_inter]

theorem card_relatedPairs {xs ys : List String} (hx : xs.Nodup) (hy : ys.Nodup) :
    tally (fun x => ys.countP (related x)) xs = (relatedPairs xs.toFinset ys.toFinset).card := by
  rw [tally_countP_eq_card hx hy, relatedPairs]
  simp only [related_iff]

theorem card_union_toFinset {xs ys : List String} (hx : xs.Nodup) (hy : ys.Nodup) :
    xs.length + ys.length - (xs.toFinset ∩ ys.toFinset).card =
      (xs.toFinset ∪ ys.toFinset).card := by
  rw [Finset.card_union, List.toFinset_card_of_nodup hx, List.toFinset_card_of_nodup hy]

theorem scoreSets_eq_points {xs ys : List String} (hx : xs.Nodup) (hy : ys.Nodup) :
    scoreSets xs ys = points xs.toFinset ys.toFinset := by
  have hempty : (xs.isEmpty || ys.isEmpty) = true ↔ xs.toFinset = ∅ ∨ ys.toFinset = ∅ := by
    simp only [Bool.or_eq_true, List.isEmpty_iff, List.toFinset_eq_empty_iff]
  simp only [scoreSets, length_filter_contains_eq_card hx, card_relatedPairs hx hy,
    card_union_toFinset hx hy, hempty, points, earnings, overlapBonus, exactPoints, relatedPoints,
    overlapPoints, one_mul, gt_iff_lt]

/-- **A score is the points of two sets.** -/
theorem score_eq_points (mine theirs : List String) :
    score mine theirs = points (itemSet mine) (itemSet theirs) := by
  rw [score, scoreSets_eq_points (nodup_normalise mine) (nodup_normalise theirs),
    toFinset_normalise, toFinset_normalise]

/-! ## Restating a list -/

/-- Changes of a list that do not count: another order, an item said again, a blank item, blanks
around an item, and the case of letters `A` to `Z` in it. -/
inductive Restatement : List String → List String → Prop
  | perm {xs ys : List String} : xs.Perm ys → Restatement xs ys
  | again {x : String} {xs : List String} : x ∈ xs → Restatement xs (x :: xs)
  | blank {x : String} {xs : List String} : Text.IsBlankText x → Restatement xs (x :: xs)
  | padded {front x back : String} {xs : List String} :
      Text.IsBlankText front → Text.IsBlankText back →
        Restatement (x :: xs) ((front ++ x ++ back) :: xs)
  | recased {x y : String} {xs : List String} :
      Text.IsRecased x y → Restatement (x :: xs) (y :: xs)

theorem normal_of_isBlankText {x : String} (h : Text.IsBlankText x) : normal x = "" := by
  rw [normal, Text.strip_of_isBlankText h]
  rfl

theorem itemSet_cons_of_normal_eq {x y : String} (h : normal x = normal y) (xs : List String) :
    itemSet (x :: xs) = itemSet (y :: xs) := by
  simp only [itemSet, List.toFinset_cons, Finset.image_insert, h]

theorem itemSet_cons_of_mem {x : String} {xs : List String}
    (h : normal x = "" ∨ ∃ y ∈ xs, normal y = normal x) : itemSet (x :: xs) = itemSet xs := by
  ext z
  simp only [mem_itemSet, List.mem_cons, exists_eq_or_imp]
  refine and_congr_right fun hz => or_iff_right_of_imp ?_
  rintro rfl
  exact h.resolve_left hz

/-- **A restated list has the same items.** -/
theorem itemSet_of_restatement {xs ys : List String} (h : Restatement xs ys) :
    itemSet xs = itemSet ys := by
  cases h with
  | perm h => rw [itemSet, itemSet, List.toFinset_eq_of_perm _ _ h]
  | again hx => exact (itemSet_cons_of_mem (Or.inr ⟨_, hx, rfl⟩)).symm
  | blank hx => exact (itemSet_cons_of_mem (Or.inl (normal_of_isBlankText hx))).symm
  | padded hfront hback =>
    exact itemSet_cons_of_normal_eq (congrArg Text.lower (Text.strip_append hfront hback _).symm) _
  | recased h => exact itemSet_cons_of_normal_eq (Text.lower_strip_congr h) _

theorem itemSet_of_restatements {xs ys : List String} (h : Relation.EqvGen Restatement xs ys) :
    itemSet xs = itemSet ys := by
  induction h with
  | rel xs ys h => exact itemSet_of_restatement h
  | refl xs => rfl
  | symm xs ys _ ih => exact ih.symm
  | trans xs ys zs _ _ ih₁ ih₂ => exact ih₁.trans ih₂

/-- **Only the items decide.** With `A` and `B` the sets of the items of the two lists, a score is 0
where one of them is empty, and else 3 for each item in both, 1 for each pair of related items, and
5 if more than half of all items are in both. So it stays when either list is put in another order,
says an item again, gains blank items, or has blanks put around items or the case of letters `A` to
`Z` changed, any number of times. -/
theorem items_decide (mine theirs : List String) :
    (score mine theirs =
      let A := itemSet mine
      let B := itemSet theirs
      if A = ∅ ∨ B = ∅ then 0
      else 3 * (A ∩ B).card + {p ∈ A ×ˢ B | IsRelated p.1 p.2}.card +
        if (A ∪ B).card < 2 * (A ∩ B).card then 5 else 0) ∧
    ∀ mine' theirs' : List String, Relation.EqvGen Restatement mine mine' →
      Relation.EqvGen Restatement theirs theirs' → score mine' theirs' = score mine theirs := by
  refine ⟨score_eq_points mine theirs, fun mine' theirs' hmine htheirs => ?_⟩
  rw [score_eq_points, score_eq_points, itemSet_of_restatements hmine,
    itemSet_of_restatements htheirs]

/-- A list that says the same with every kind of change at once. -/
theorem restatements_sample :
    Relation.EqvGen Restatement ["Guitar", "hiking"]
      ["\t", "hiking", " " ++ "gUITAR" ++ "\n", "hiking"] := by
  have hrecased : Restatement ["Guitar", "hiking"] ["gUITAR", "hiking"] := .recased (by decide)
  have hpadded : Restatement ["gUITAR", "hiking"] [" " ++ "gUITAR" ++ "\n", "hiking"] :=
    .padded (by decide) (by decide)
  have hagain : Restatement [" " ++ "gUITAR" ++ "\n", "hiking"]
      ["hiking", " " ++ "gUITAR" ++ "\n", "hiking"] := .again (by decide)
  have hblank : Restatement ["hiking", " " ++ "gUITAR" ++ "\n", "hiking"]
      ["\t", "hiking", " " ++ "gUITAR" ++ "\n", "hiking"] := .blank (by decide)
  exact ((((Relation.EqvGen.rel _ _ hrecased).trans _ _ _ (.rel _ _ hpadded)).trans _ _ _
    (.rel _ _ hagain)).trans _ _ _ (.rel _ _ hblank))

/-- One item in both lists and two pairs of related ones, however the lists are written. -/
theorem items_decide_sample :
    score ["Guitar", "hiking"] ["HIKING", "piano", "singing"] = 5 ∧
      score ["\t", "hiking", " " ++ "gUITAR" ++ "\n", "hiking"] ["singing", "HIKING", "piano"] =
        5 := by
  have hvalue : score ["Guitar", "hiking"] ["HIKING", "piano", "singing"] = 5 := by decide +kernel
  have hperm : Restatement ["HIKING", "piano", "singing"] ["singing", "HIKING", "piano"] :=
    .perm (by decide)
  obtain ⟨-, hsame⟩ := items_decide ["Guitar", "hiking"] ["HIKING", "piano", "singing"]
  exact ⟨hvalue, (hsame _ _ restatements_sample (.rel _ _ hperm)).trans hvalue⟩

end Interests

end Matchmaker
