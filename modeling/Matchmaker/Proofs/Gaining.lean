import Matchmaker.Proofs.SharedItems

/-!
# Gaining a shared interest

A further interest can lower a score: where it is not shared, more than half of the items may no
longer be common, and five points are lost. A further interest that both members have never does.
It adds a common item and at most one to the items altogether, so that the overlap stays above one
half where it was, and every related pair remains.

* `overlapBonus_mono`, `relatedPairs_mono`: the bonus and the pairs;
* **`earnings_insert_insert`**, `points_insert_insert`: sets that gain a common item;
* **`gaining_shared_interest`**: a new common item is worth at least its three points.
-/

namespace Matchmaker.Interests

variable {A A' B B' : Finset String} {x : String}

/-! ## Sets that gain a common item -/

/-- One more common item keeps the overlap above one half, also if the items altogether become one
more. -/
theorem overlapBonus_mono {common common' all all' : Nat} (hcommon : common + 1 ≤ common')
    (hall : all' ≤ all + 1) : overlapBonus common all ≤ overlapBonus common' all' := by
  unfold overlapBonus
  split_ifs with hbefore hafter
  · exact le_refl 5
  · exact absurd (show all' < 2 * common' by omega) hafter
  · exact Nat.zero_le 5
  · exact le_refl 0

theorem relatedPairs_mono (hA : A ⊆ A') (hB : B ⊆ B') : relatedPairs A B ⊆ relatedPairs A' B' :=
  Finset.filter_subset_filter _ (Finset.product_subset_product hA hB)

/-- **A common item that is new** to one of two sets or to both earns three points at least. -/
theorem earnings_insert_insert (hx : x ∉ A ∩ B) :
    earnings A B + 3 ≤ earnings (insert x A) (insert x B) := by
  have hcommon : (insert x A ∩ insert x B).card = (A ∩ B).card + 1 := by
    rw [← Finset.insert_inter_distrib, Finset.card_insert_of_notMem hx]
  have hall : (insert x A ∪ insert x B).card ≤ (A ∪ B).card + 1 := by
    rw [← Finset.insert_union_distrib]
    exact Finset.card_insert_le x _
  have hbonus := overlapBonus_mono hcommon.ge hall
  have hpairs : (relatedPairs A B).card ≤ (relatedPairs (insert x A) (insert x B)).card :=
    Finset.card_le_card (relatedPairs_mono (Finset.subset_insert x A) (Finset.subset_insert x B))
  unfold earnings
  omega

theorem points_le_earnings (A B : Finset String) : points A B ≤ earnings A B := by
  unfold points
  split_ifs
  · exact Nat.zero_le _
  · exact le_refl _

theorem points_eq_earnings (hA : x ∈ A) (hB : x ∈ B) : points A B = earnings A B :=
  if_neg (not_or.2 ⟨Finset.ne_empty_of_mem hA, Finset.ne_empty_of_mem hB⟩)

theorem points_insert_insert (hx : x ∉ A ∩ B) :
    points A B + 3 ≤ points (insert x A) (insert x B) := by
  rw [points_eq_earnings (Finset.mem_insert_self x A) (Finset.mem_insert_self x B)]
  exact (Nat.add_le_add_right (points_le_earnings A B) 3).trans (earnings_insert_insert hx)

/-! ## Lists that gain a shared item -/

theorem itemSet_append_singleton {z : String} (hz : normal z ≠ "") (items : List String) :
    itemSet (items ++ [z]) = insert (normal z) (itemSet items) := by
  ext x
  simp only [mem_itemSet, List.mem_append, List.mem_singleton, Finset.mem_insert, or_and_right,
    exists_or, exists_eq_left, and_or_left]
  rw [or_comm]
  refine or_congr_left ⟨fun h => h.2.symm, ?_⟩
  rintro rfl
  exact ⟨hz, rfl⟩

/-- **Gaining a shared interest never costs points.** An item that the member has and the candidate
has not, once the candidate lists it as well, and an item that neither has, once both list it, add
three points at least. -/
theorem gaining_shared_interest (mine theirs : List String) {z : String} (hz : normal z ≠ "") :
    (normal z ∈ itemSet mine → normal z ∉ itemSet theirs →
      score mine theirs + 3 ≤ score mine (theirs ++ [z])) ∧
    (normal z ∉ itemSet mine → normal z ∉ itemSet theirs →
      score mine theirs + 3 ≤ score (mine ++ [z]) (theirs ++ [z])) := by
  simp only [score_eq_points, itemSet_append_singleton hz]
  have hgain (hnew : normal z ∉ itemSet theirs) :
      points (itemSet mine) (itemSet theirs) + 3 ≤
        points (insert (normal z) (itemSet mine)) (insert (normal z) (itemSet theirs)) :=
    points_insert_insert fun h => hnew (Finset.mem_inter.1 h).2
  refine ⟨fun hmine hnew => ?_, fun _ hnew => hgain hnew⟩
  have hpoints := hgain hnew
  rwa [Finset.insert_eq_of_mem hmine] at hpoints

/-- A second common item makes the overlap more than one half, whoever it was new to. -/
theorem gaining_shared_interest_sample :
    score ["Chess", "tea"] ["chess"] = 3 ∧ score ["Chess", "tea"] ["chess", " TEA"] = 11 ∧
      score ["Chess", "tea"] ["chess"] + 3 ≤ score ["Chess", "tea"] ["chess", " TEA"] ∧
      score ["Chess", "tea"] ["chess"] + 3 ≤ score ["Chess", "tea", "Yoga"] ["chess", "Yoga"] := by
  obtain ⟨hshared, -⟩ := gaining_shared_interest ["Chess", "tea"] ["chess"] (z := " TEA")
    (by decide +kernel)
  obtain ⟨-, hboth⟩ := gaining_shared_interest ["Chess", "tea"] ["chess"] (z := "Yoga")
    (by decide +kernel)
  exact ⟨by decide +kernel, by decide +kernel, hshared (by decide +kernel) (by decide +kernel),
    hboth (by decide +kernel) (by decide +kernel)⟩

/-- An item that is not shared can cost the five points of the overlap. -/
example : score ["chess"] ["chess"] = 8 ∧ score ["chess"] ["chess", "tea"] = 3 := by
  decide +kernel

end Matchmaker.Interests
