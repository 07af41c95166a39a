import Matchmaker.Proofs.Orderly

/-!
# Rankings in order

Over exact scores the order of results is total, and strict where nobody is ranked twice, so that
the entries that reach the threshold have one ranking.

* `Ranking.Before`: the greater score first, of equal scores the smaller id;
* **`pairwise_before_ordered`**, `mem_ordered_exact`: the ranking before it is cut;
* **`eq_of_pairwise_before`**: two rankings of the same entries are equal.
-/

namespace Matchmaker.Ranking

open scoped Exact

variable {K κ : Type} [LinearOrder K] {x y : Entry K κ} {entries : List (Entry K κ)}

/-- An entry stands before another. -/
def Before (x y : Entry K κ) : Prop :=
  y.card.score < x.card.score ∨ x.card.score = y.card.score ∧ x.user < y.user

theorem Before.score_le (h : Before x y) : y.card.score ≤ x.card.score := by
  rcases h with h | ⟨h, -⟩
  · exact h.le
  · exact h.ge

theorem not_before_of_before (h : Before x y) : ¬ Before y x := by
  rintro (h' | ⟨h', hu'⟩)
  · exact absurd h.score_le (not_le.2 h')
  · rcases h with h | ⟨-, hu⟩
    · exact absurd h' (ne_of_lt h)
    · exact absurd hu (Int.lt_asymm hu')

/-- **Two rankings of the same entries are equal.** -/
theorem eq_of_pairwise_before {es es' : List (Entry K κ)} (h : es.Pairwise Before)
    (h' : es'.Pairwise Before) (hmem : ∀ e, e ∈ es ↔ e ∈ es') : es = es' := by
  have hne : ∀ {x y : Entry K κ}, Before x y → x ≠ y := by
    rintro x _ hb rfl
    exact not_before_of_before hb hb
  have hperm : es.Perm es' := (List.perm_ext_iff_of_nodup (h.imp hne) (h'.imp hne)).2 hmem
  exact hperm.eq_of_pairwise (fun _ _ _ _ hb hb' => absurd hb' (not_before_of_before hb)) h h'

/-! ## Rankings -/

variable [Field K]

theorem before_of_precedes (h : precedes x y = true) (hne : x.user ≠ y.user) : Before x y := by
  obtain ⟨hle, hlt⟩ := precedes_iff.1 h
  rcases (not_lt.1 hle).lt_or_eq with hscore | hscore
  · exact Or.inl hscore
  · have huser : x.user ≤ y.user := hlt.resolve_left (not_lt.2 hscore.ge)
    exact Or.inr ⟨hscore.symm, lt_of_le_of_ne huser hne⟩

/-- **Nobody is ranked twice, and the order is strict.** -/
theorem pairwise_before_ordered (h : (entries.map Entry.user).Nodup) :
    (ordered entries).Pairwise Before := by
  have husers := nodup_ordered h
  rw [List.Nodup, List.pairwise_map] at husers
  have hordered : (ordered entries).Pairwise fun x y => precedes x y = true :=
    pairwise_precedes_ordered fun _ _ => le_rfl
  exact hordered.imp₂ (fun _ _ => before_of_precedes) husers

theorem mem_ordered_exact [IsStrictOrderedRing K] :
    x ∈ ordered entries ↔ x ∈ entries ∧ 25 ≤ x.card.percentage := by
  have hthreshold : (threshold : K) = 25 := by
    unfold threshold
    norm_num
  rw [mem_ordered, hthreshold]

end Matchmaker.Ranking
