import Mathlib.Algebra.Group.Nat.Defs
import Mathlib.Data.List.Induction
import Matchmaker.Decimal.Binary
import Matchmaker.Json.Reader
import Matchmaker.Proofs.Outcome

/-!
# Values that a text states

A text states no whole number with more digits than are read, and a double that is a whole number
has far fewer. So whatever a text states can be written out again.

* `Decimal.isLong_eq_false_iff`, **`isLong_of_whole?`**: the numbers that can be written out, and
  that doubles are among them;
* `Json.Value.isReadable`: a value whose whole numbers can all be written out;
* **`Json.isReadable_of_readWithin`**, `isReadable_of_read`: what a text states is such a value.
-/

namespace Matchmaker

/-! ## Numbers that can be written out -/

namespace Decimal

theorem isLong_eq_false_iff {n : Int} : isLong n = false ↔ n.natAbs < 10 ^ maxDigits := by
  have hlength : (toString n.natAbs).length = (Nat.toDigits 10 n.natAbs).length :=
    String.length_ofList
  rw [isLong, hlength, decide_eq_false_iff_not, Nat.not_lt]
  exact Nat.length_toDigits_le_iff (by decide) (by decide)

namespace Binary

theorem twoTo_mono {m n : Nat} (h : m ≤ n) : twoTo m ≤ twoTo n :=
  Nat.pow_le_pow_right Nat.two_pos h

theorem twoTo_pos (n : Nat) : 0 < twoTo n :=
  Nat.two_pow_pos n

theorem twoTo_le_pow (n : Nat) : twoTo n ≤ 10 ^ n :=
  Nat.pow_le_pow_left (by decide) n

theorem twoTo_add (m n : Nat) : twoTo m * twoTo n = twoTo (m + n) :=
  (Nat.pow_add 2 m n).symm

theorem natAbs_signed (negative : Bool) (n : Nat) : (signed negative n).natAbs = n := by
  cases negative
  · rfl
  · exact Int.natAbs_neg n

/-- The mantissa of a double has at most 53 bits, and its exponent is at most 971. -/
theorem finite_of_ofBits {bits : Nat} {negative : Bool} {m : Nat} {e : Int}
    (h : ofBits bits = finite negative m e) : m < 2 * leastNormal ∧ e ≤ 971 := by
  have hfraction : bits % leastNormal < leastNormal := Nat.mod_lt _ (by decide)
  have hbiased : bits / leastNormal % 0x800 < 0x800 := Nat.mod_lt _ (by decide)
  simp only [ofBits, beq_iff_eq] at h
  split at h
  · split at h <;> cases h
  · split at h
    · cases h
      omega
    · cases h
      omega

theorem natAbs_lt_of_whole? {x : Float} {n : Int} (h : (ofFloat x).whole? = some n) :
    n.natAbs < twoTo 1024 := by
  cases hb : ofFloat x with
  | nan | infinite s =>
    rw [hb] at h
    cases h
  | finite s m e =>
    obtain ⟨hm, he⟩ := finite_of_ofBits hb
    rw [hb] at h
    have hmantissa : m < twoTo 53 := hm
    cases e with
    | ofNat e =>
      obtain rfl := Option.some.inj h
      have hexponent : e ≤ 971 := Int.ofNat_le.1 he
      rw [natAbs_signed]
      calc m * twoTo e
        _ ≤ m * twoTo 971 := Nat.mul_le_mul_left m (twoTo_mono hexponent)
        _ < twoTo 53 * twoTo 971 := Nat.mul_lt_mul_of_pos_right hmantissa (twoTo_pos _)
        _ = twoTo 1024 := twoTo_add 53 971
    | negSucc e =>
      simp only [whole?] at h
      split at h
      · obtain rfl := Option.some.inj h
        rw [natAbs_signed]
        calc m / twoTo (e + 1)
          _ ≤ m := Nat.div_le_self _ _
          _ < twoTo 53 := hmantissa
          _ ≤ twoTo 1024 := twoTo_mono (by decide)
      · cases h

end Binary

/-- **A double that is a whole number can be written out.** -/
theorem isLong_of_whole? {x : Float} {n : Int} (h : (Binary.ofFloat x).whole? = some n) :
    isLong n = false := by
  rw [isLong_eq_false_iff]
  have hbits : 1024 ≤ maxDigits := by decide
  exact Nat.lt_of_lt_of_le (Binary.natAbs_lt_of_whole? h)
    (Nat.le_trans (Binary.twoTo_mono hbits) (Binary.twoTo_le_pow maxDigits))

/-! ### Numbers that digits write -/

theorem value_lt {ds : List Nat} (h : ∀ d ∈ ds, d < 10) : value ds < 10 ^ ds.length := by
  -- the last digit weighs least, so the induction takes it off first
  induction ds using List.reverseRecOn with
  | nil => exact Nat.one_pos
  | append_singleton ds d ih =>
    have hds := ih fun x hx => h x (List.mem_append_left _ hx)
    have hd := h d List.mem_concat_self
    rw [value_append_singleton, List.length_append, List.length_singleton, Nat.pow_succ]
    omega

theorem isLong_withSign {negative : Bool} {ds : List Nat} (h : ∀ d ∈ ds, d < 10)
    (hlength : ds.length ≤ maxDigits) : isLong (withSign negative (value ds)) = false := by
  have habs : (withSign negative (value ds)).natAbs = value ds :=
    Binary.natAbs_signed negative (value ds)
  rw [isLong_eq_false_iff, habs]
  exact Nat.lt_of_lt_of_le (value_lt h) (Nat.pow_le_pow_right (by decide) hlength)

theorem lt_of_asciiDigit? {c : Char} {d : Nat} (h : asciiDigit? c = some d) : d < 10 := by
  unfold asciiDigit? at h
  split at h
  · rename_i hrange
    rw [Bool.and_eq_true, decide_eq_true_eq, decide_eq_true_eq] at hrange
    have hnine : c.toNat ≤ 57 := hrange.2
    have hd := Option.some.inj h
    omega
  · cases h

end Decimal

namespace Json

open Decimal (isLong maxDigits)

/-! ## Values that can be written out -/

namespace Value

mutual

/-- All whole numbers in a value can be written out. -/
def isReadable : Value → Bool
  | int n => !isLong n
  | arr items => areReadable items
  | obj members => memberAreReadable members
  | _ => true

/-- The items of a list can be written out. -/
def areReadable : List Value → Bool
  | [] => true
  | v :: vs => isReadable v && areReadable vs

/-- The members of an object can be written out. -/
def memberAreReadable : List (Phrase × Value) → Bool
  | [] => true
  | (_, v) :: rest => isReadable v && memberAreReadable rest

end

variable {v : Value} {members : Members}

theorem areReadable_iff {vs : List Value} :
    areReadable vs = true ↔ ∀ v ∈ vs, v.isReadable = true := by
  induction vs with
  | nil => exact iff_of_true rfl nofun
  | cons v vs ih => rw [areReadable, Bool.and_eq_true, ih, List.forall_mem_cons]

theorem memberAreReadable_put {name : Phrase} (hv : v.isReadable = true)
    (h : memberAreReadable members = true) :
    memberAreReadable (Members.put name v members) = true := by
  induction members with
  | nil => simp [Members.put, memberAreReadable, hv]
  | cons m rest ih =>
    obtain ⟨key, w⟩ := m
    rw [memberAreReadable, Bool.and_eq_true] at h
    rw [Members.put]
    split
    · rw [memberAreReadable, hv, h.2]
      rfl
    · rw [memberAreReadable, h.1, ih h.2]
      rfl

theorem isReadable_of_find? {name : String} (h : memberAreReadable members = true)
    (hv : Members.find? name members = some v) : v.isReadable = true := by
  induction members with
  | nil => cases hv
  | cons m rest ih =>
    obtain ⟨key, w⟩ := m
    rw [memberAreReadable, Bool.and_eq_true] at h
    rw [Members.find?] at hv
    split at hv
    · exact Option.some.inj hv ▸ h.1
    · exact ih h.2 hv

end Value

/-! ## What readers read -/

namespace Reader

theorem isLong_withSign_natOf {negative : Bool} {ds : List Char} (h : ds.length ≤ maxDigits) :
    isLong (Decimal.withSign negative (natOf ds)) = false := by
  refine Decimal.isLong_withSign (fun d hd => ?_) (Nat.le_trans (List.length_filterMap_le _ _) h)
  obtain ⟨c, -, hc⟩ := List.mem_filterMap.1 hd
  exact Decimal.lt_of_asciiDigit? hc

variable {r rest : Rest} {v : Value}

theorem isReadable_of_numberOf {negative : Bool} {whole fraction : List Char} {power : Option Int}
    (h : numberOf negative whole fraction power = .ok v) : v.isReadable = true := by
  unfold numberOf at h
  split at h
  · split at h
    · cases h
    · rename_i hlength
      obtain rfl := Except.ok.inj h
      rw [Value.isReadable, isLong_withSign_natOf (Nat.not_lt.1 hlength)]
      rfl
  · obtain rfl := Except.ok.inj h
    rfl

theorem isReadable_of_number? (h : number? r = some (.ok (v, rest))) : v.isReadable = true := by
  simp only [number?, Option.ite_none_left_eq_some, Option.some.injEq] at h
  obtain ⟨w, hw, hv⟩ := map_eq_ok_iff.1 h.2
  cases hv
  exact isReadable_of_numberOf hw

theorem isReadable_of_word? (h : word? r = some (v, rest)) : v.isReadable = true := by
  obtain ⟨w, hw, h⟩ := List.exists_of_findSome?_eq_some h
  have hall : ∀ w ∈ words, w.2.isReadable = true := by
    simp [words, Value.isReadable]
  obtain ⟨-, h⟩ := Option.ite_none_right_eq_some.1 h
  cases h
  exact hall _ hw

/-- With so much fuel, whatever the readers of values, lists and objects read can be written out. -/
structure IsSound (fuel : Nat) : Prop where
  value : ∀ {deepest r v rest}, Reader.value fuel deepest r = .ok (v, rest) → v.isReadable = true
  elements : ∀ {deepest read r v rest}, Value.areReadable read = true →
    Reader.elements fuel deepest read r = .ok (v, rest) → v.isReadable = true
  members : ∀ {deepest read r v rest}, Value.memberAreReadable read = true →
    Reader.members fuel deepest read r = .ok (v, rest) → v.isReadable = true

namespace IsSound

variable {fuel deepest : Nat}

theorem value_succ (hs : IsSound fuel) (h : Reader.value (fuel + 1) deepest r = .ok (v, rest)) :
    v.isReadable = true := by
  unfold Reader.value at h
  split at h
  · split at h
    · cases h
      rfl
    · cases h
  · simp only at h
    split at h
    · cases h
      rfl
    · exact hs.elements rfl h
  · simp only at h
    split at h
    · cases h
      rfl
    · exact hs.members rfl h
  · cases h
  · cases h
  · split at h
    · rename_i hword
      cases h
      exact isReadable_of_word? hword
    · cases hnumber : number? r with
      | none =>
        rw [hnumber] at h
        cases h
      | some x =>
        rw [hnumber, Option.getD_some] at h
        exact isReadable_of_number? (hnumber.trans (congrArg some h))

theorem elements_succ (hs : IsSound fuel) {read : List Value}
    (hread : Value.areReadable read = true)
    (h : Reader.elements (fuel + 1) deepest read r = .ok (v, rest)) : v.isReadable = true := by
  unfold Reader.elements at h
  split at h
  · cases h
  · rename_i w _ hw
    have hread' : Value.areReadable (w :: read) = true :=
      Bool.and_eq_true_iff.2 ⟨hs.value hw, hread⟩
    simp only at h
    split at h
    · cases h
      rw [Value.isReadable, Value.areReadable_iff]
      intro x hx
      exact Value.areReadable_iff.1 hread' x (List.mem_reverse.1 hx)
    · exact hs.elements hread' h
    · cases h

theorem members_succ (hs : IsSound fuel) {read : Members}
    (hread : Value.memberAreReadable read = true)
    (h : Reader.members (fuel + 1) deepest read r = .ok (v, rest)) : v.isReadable = true := by
  unfold Reader.members at h
  split at h
  · cases h
  · split at h
    · cases h
    · simp only at h
      split at h
      · cases h
      · split at h
        · cases h
        · rename_i name _ _ _ _ w _ hw
          have hread' : Value.memberAreReadable (Members.put name w read) = true :=
            Value.memberAreReadable_put (hs.value hw) hread
          split at h
          · cases h
            exact hread'
          · exact hs.members hread' h
          · cases h

end IsSound

theorem isSound (fuel : Nat) : IsSound fuel := by
  induction fuel with
  | zero =>
    refine ⟨fun h => ?_, fun _ h => ?_, fun _ h => ?_⟩
    · rw [value] at h
      cases h
    · rw [elements] at h
      cases h
    · rw [members] at h
      cases h
  | succ fuel ih => exact ⟨ih.value_succ, ih.elements_succ, ih.members_succ⟩

end Reader

variable {v : Value}

/-- **What a text states can be written out.** -/
theorem isReadable_of_readWithin {deepest : Nat} {xs : List Text.Piece}
    (h : readWithin deepest xs = .ok v) : v.isReadable = true := by
  unfold readWithin at h
  simp only at h
  split at h
  · cases h
  · rename_i hvalue
    split at h
    · cases h
      exact (Reader.isSound _).value hvalue
    · cases h

end Json

end Matchmaker
