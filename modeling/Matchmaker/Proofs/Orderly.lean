import Mathlib.Data.List.Sort
import Mathlib.Data.Prod.Lex
import Matchmaker.Proofs.Exact

/-!
# Scores that can be ranked

Doubles are not totally ordered, since some of them are no numbers. A share of what is no number is
none either and does not reach the threshold of a ranking, so that the scores of all results are
ordered, over doubles as over exact numbers.

* `Ranking.Orderly`: the laws of the scalars by which results can be ranked;
* `Doubles.place?`, **`Doubles.lt_iff`**: the place of a double in a total order, and what lies
  below it;
* `Ranking.precedes_iff`, `precedes_trans`, `user_eq_of_precedes`: the order of results;
* **`Ranking.pairwise_precedes_ordered`**: a ranking stands in that order.
-/

namespace Matchmaker

/-! ## Laws -/

/-- Scalars of which those that reach the threshold are ordered. Only numbers are below or equal to
themselves. -/
class Ranking.Orderly (α : Type) [Scalar α] : Prop where
  asymm : ∀ {x y : α}, x < y → ¬ y < x
  not_lt_trans : ∀ {x y z : α}, y ≤ y → ¬ x < y → ¬ y < z → ¬ x < z
  le_self : ∀ {x : α} {w : Weights}, threshold ≤ Scorecard.percent x w → x ≤ x

namespace Exact

variable {K : Type} [Field K] [LinearOrder K]

scoped instance orderly : Ranking.Orderly K where
  asymm := lt_asymm
  not_lt_trans _ hxy hyz := not_lt.2 ((not_lt.1 hyz).trans (not_lt.1 hxy))
  le_self _ := le_refl _

end Exact

/-! ## Doubles -/

namespace Doubles

open Float.Model (UnpackedFloat Format)

/-- The place of a double among all others, if it is a number: by its sign, its exponent and its
mantissa. -/
def place? : UnpackedFloat → Option (Int ×ₗ Int ×ₗ Int)
  | .notANumber => none
  | .infinity .negative => some (toLex (-2, toLex (0, 0)))
  | .finite .negative m e _ => some (toLex (-1, toLex (-e, -(m : Int))))
  | .zero _ => some (toLex (0, toLex (0, 0)))
  | .finite .positive m e _ => some (toLex (1, toLex (e, (m : Int))))
  | .infinity .positive => some (toLex (2, toLex (0, 0)))

theorem place?_eq_none_iff {x : UnpackedFloat} : place? x = none ↔ x = .notANumber := by
  rcases x with s | _ | _ | ⟨s, m, e, hm⟩
  · cases s <;> exact iff_of_false nofun nofun
  · exact iff_of_true rfl rfl
  · exact iff_of_false nofun nofun
  · cases s <;> exact iff_of_false nofun nofun

theorem unpacked_lt_iff {x y : UnpackedFloat} : x.lt y = true ↔
    ∃ k l, place? x = some k ∧ place? y = some l ∧ k < l := by
  rcases x with (_ | _) | _ | _ | ⟨_ | _, m, e, hm⟩ <;>
    rcases y with (_ | _) | _ | _ | ⟨_ | _, n, f, hn⟩ <;>
    dsimp only [place?, UnpackedFloat.lt, UnpackedFloat.compare] <;>
    simp [Prod.Lex.toLex_lt_toLex, Ordering.then_eq_lt, Ordering.then_eq_gt, Int.compare_eq_lt,
      Int.compare_eq_gt, Nat.compare_eq_lt, Nat.compare_eq_gt]
  -- an infinity below the other
  rfl

theorem unpacked_le_self_iff {x : UnpackedFloat} : x.le x = true ↔ x ≠ .notANumber := by
  rcases x with s | _ | _ | ⟨s, m, e, hm⟩
  · cases s <;> exact iff_of_true rfl nofun
  · exact iff_of_false Bool.false_ne_true (fun h => h rfl)
  · exact iff_of_true rfl nofun
  · refine iff_of_true ?_ nofun
    cases s <;> dsimp only [UnpackedFloat.le, UnpackedFloat.compare] <;> simp

variable {x y z : Float}

/-- **A double lies below another exactly if its place does.** -/
theorem lt_iff : x < y ↔ ∃ k l, place? x.toModel.unpack = some k ∧
    place? y.toModel.unpack = some l ∧ k < l :=
  decide_eq_true_iff.trans unpacked_lt_iff

theorem le_self_iff : x ≤ x ↔ x.toModel.unpack ≠ .notANumber :=
  decide_eq_true_iff.trans unpacked_le_self_iff

/-! ### What is no number -/

theorem isNaN_iff : x.isNaN = true ↔ x.toModel.unpack = .notANumber := by
  have h : x.isNaN = x.toModel.unpack.isNaN := rfl
  rw [h]
  cases x.toModel.unpack with
  | notANumber => exact iff_of_true rfl rfl
  | infinity | zero | finite => exact iff_of_false Bool.false_ne_true fun h => by cases h

theorem unpack_pack_nan : (Float.Model.pack .notANumber).unpack = .notANumber :=
  rfl

theorem unpack_div_of_nan (h : x.toModel.unpack = .notANumber) (y : Float) :
    (x / y).toModel.unpack = .notANumber := by
  have hdiv : (x / y).toModel = .pack (.div .binary64 x.toModel.unpack y.toModel.unpack) := rfl
  rw [hdiv, h]
  exact unpack_pack_nan

theorem unpack_mul_of_nan (h : x.toModel.unpack = .notANumber) (y : Float) :
    (x * y).toModel.unpack = .notANumber := by
  have hmul : (x * y).toModel = .pack (.mul .binary64 x.toModel.unpack y.toModel.unpack) := rfl
  rw [hmul, h]
  exact unpack_pack_nan

theorem not_lt_of_nan (h : y.toModel.unpack = .notANumber) (x : Float) : ¬ x < y := by
  rw [lt_iff, h]
  rintro ⟨k, l, -, hl, -⟩
  cases hl

theorem not_le_of_nan (h : y.toModel.unpack = .notANumber) (x : Float) : ¬ x ≤ y := by
  have hle : x ≤ y ↔ x.toModel.unpack.le y.toModel.unpack = true := decide_eq_true_iff
  rw [hle, h]
  cases x.toModel.unpack with
  | infinity s | finite s => cases s <;> exact Bool.false_ne_true
  | notANumber | zero => exact Bool.false_ne_true

/-- What reaches the threshold is a share of a number. -/
theorem le_self_of_threshold {w : Weights} (h : Ranking.threshold ≤ Scorecard.percent x w) :
    x ≤ x := by
  rw [le_self_iff]
  intro hx
  unfold Scorecard.percent at h
  split at h
  · have hzero : ¬ (25.0 : Float) ≤ 0.0 := by decide +kernel
    exact hzero h
  · have hshare : (x / Scalar.ofInt w.total * 100.0).toModel.unpack = .notANumber :=
      unpack_mul_of_nan (unpack_div_of_nan hx _) _
    rw [Scalar.least, if_neg (not_lt_of_nan hshare _)] at h
    exact not_le_of_nan hshare _ h

instance orderly : Ranking.Orderly Float where
  asymm := by
    intro x y hxy hyx
    obtain ⟨k, l, hk, hl, hlt⟩ := lt_iff.1 hxy
    obtain ⟨l', k', hl', hk', hlt'⟩ := lt_iff.1 hyx
    cases hk.symm.trans hk'
    cases hl.symm.trans hl'
    exact lt_asymm hlt hlt'
  not_lt_trans := by
    intro x y z hy hxy hyz hxz
    obtain ⟨k, m, hk, hm, hlt⟩ := lt_iff.1 hxz
    obtain ⟨l, hl⟩ := Option.ne_none_iff_exists'.1 (mt place?_eq_none_iff.1 (le_self_iff.1 hy))
    have hkl : ¬ k < l := fun h => hxy (lt_iff.2 ⟨k, l, hk, hl, h⟩)
    have hlm : ¬ l < m := fun h => hyz (lt_iff.2 ⟨l, m, hl, hm, h⟩)
    exact hlm ((not_lt.1 hkl).trans_lt hlt)
  le_self := le_self_of_threshold

end Doubles

/-! ## The order of results -/

theorem pairwise_mergeSort_of_mem {β : Type} {le : β → β → Bool} {l : List β}
    (htrans : ∀ a ∈ l, ∀ b ∈ l, ∀ c ∈ l, le a b = true → le b c = true → le a c = true)
    (htotal : ∀ a b, (le a b || le b a) = true) :
    (l.mergeSort le).Pairwise fun a b => le a b = true := by
  let among (a b : {x // x ∈ l}) : Bool := le a.val b.val
  have hval : l.mergeSort le = (l.attach.mergeSort among).map Subtype.val := by
    rw [List.map_mergeSort (s := le) fun _ _ _ _ => rfl, List.attach_map_subtype_val]
  have hamong : ∀ a b c, among a b = true → among b c = true → among a c = true :=
    fun a b c => htrans _ a.property _ b.property _ c.property
  rw [hval, List.pairwise_map]
  exact List.pairwise_mergeSort hamong (fun _ _ => htotal _ _) _

namespace Ranking

variable {α κ : Type} [Scalar α] {x y z : Entry α κ} {entries : List (Entry α κ)}

theorem precedes_total (x y : Entry α κ) : (precedes x y || precedes y x) = true := by
  unfold precedes
  by_cases hyx : y.card.score < x.card.score
  · simp [hyx]
  · by_cases hxy : x.card.score < y.card.score
    · simp [hxy]
    · simp [hxy, hyx, Int.le_total]

theorem ordered_perm (entries : List (Entry α κ)) : (ordered entries).Perm (eligible entries) :=
  List.mergeSort_perm _ _

theorem mem_ordered : x ∈ ordered entries ↔ x ∈ entries ∧ threshold ≤ x.card.percentage := by
  rw [(ordered_perm entries).mem_iff, eligible, List.mem_filter, decide_eq_true_iff]

theorem rank_nil : rank ([] : List (Entry α κ)) = [] := by
  simp [rank, ordered, eligible]

theorem mem_of_mem_rank (h : x ∈ rank entries) : x ∈ entries :=
  (mem_ordered.1 (List.mem_of_mem_take h)).1

theorem nodup_ordered (h : (entries.map Entry.user).Nodup) :
    ((ordered entries).map Entry.user).Nodup := by
  rw [((ordered_perm entries).map _).nodup_iff]
  exact h.sublist (List.filter_sublist.map _)

variable [Orderly α]

theorem precedes_iff : precedes x y = true ↔
    ¬ x.card.score < y.card.score ∧ (y.card.score < x.card.score ∨ x.user ≤ y.user) := by
  unfold precedes
  split
  · rename_i h
    simp [h, Orderly.asymm h]
  · rename_i h
    split
    · rename_i h'
      simp [h']
    · rename_i h'
      simp [h, h']

theorem precedes_trans (hx : x.card.score ≤ x.card.score) (hy : y.card.score ≤ y.card.score)
    (hz : z.card.score ≤ z.card.score) (hxy : precedes x y = true) (hyz : precedes y z = true) :
    precedes x z = true := by
  rw [precedes_iff] at hxy hyz ⊢
  refine ⟨Orderly.not_lt_trans hy hxy.1 hyz.1, or_iff_not_imp_left.2 fun hzx => ?_⟩
  -- the three scores are alike, and the ids decide
  have hyx : ¬ y.card.score < x.card.score := Orderly.not_lt_trans hz hyz.1 hzx
  have hzy : ¬ z.card.score < y.card.score := Orderly.not_lt_trans hx hzx hxy.1
  exact Int.le_trans (hxy.2.resolve_left hyx) (hyz.2.resolve_left hzy)

theorem user_eq_of_precedes (hxy : precedes x y = true) (hyx : precedes y x = true) :
    x.user = y.user := by
  rw [precedes_iff] at hxy hyx
  exact Int.le_antisymm (hxy.2.resolve_left hyx.1) (hyx.2.resolve_left hxy.1)

/-- **A ranking stands in the order of results** where all scores in it are numbers. -/
theorem pairwise_precedes_ordered (h : ∀ e ∈ eligible entries, e.card.score ≤ e.card.score) :
    (ordered entries).Pairwise fun x y => precedes x y = true :=
  pairwise_mergeSort_of_mem
    (fun x hx y hy z hz => precedes_trans (h x hx) (h y hy) (h z hz)) precedes_total

end Ranking

end Matchmaker
