import Mathlib.Data.List.TakeWhile
import Matchmaker.Api.Identity
import Matchmaker.Api.Submission

/-!
# Ids as they are written

A positive whole number is written in decimal digits without leading zeros, and what is written is
read again, in a header and in a path.

* `digitsOf`, `mapM_digitsOf`: the digits of a number, and the number that they write;
* `integer?_toString`, `formInteger_toString`: both manners of reading numerals;
* **`caller_toString`**, **`wholeOf_toString`**: an id in a header, and one in a path.
-/

namespace Matchmaker.Decimal

/-! ## Digits -/

/-- The digits that a number is written in. -/
def digitsOf (n : Nat) : List Char :=
  Nat.toDigits 10 n

theorem toList_toString {n : Int} (h : 0 < n) : (toString n).toList = digitsOf n.toNat := by
  obtain ⟨m, rfl⟩ := Int.eq_ofNat_of_zero_le (Int.le_of_lt h)
  exact Nat.toList_repr

/-- A digit from `0` to `9`. -/
def IsDigit (c : Char) : Prop :=
  ∃ d < 10, c = Nat.digitChar d

theorem isDigit_of_mem_digitsOf {n : Nat} {c : Char} (h : c ∈ digitsOf n) : IsDigit c := by
  induction n using Nat.strongRecOn with
  | ind n ih =>
    unfold digitsOf at h ih
    rw [Nat.toDigits_eq_if (by decide)] at h
    split at h
    · rename_i hn
      exact ⟨n, hn, List.mem_singleton.1 h⟩
    · rename_i hn
      rcases List.mem_append.1 h with h | h
      · exact ih _ (by omega) h
      · exact ⟨n % 10, by omega, List.mem_singleton.1 h⟩

theorem digitsOf_ne_nil (n : Nat) : digitsOf n ≠ [] :=
  Nat.toDigits_ne_nil

theorem toString_ne_empty {n : Int} (h : 0 < n) : toString n ≠ "" := by
  intro he
  have hnil : (toString n).toList = [] := by rw [he]; rfl
  rw [toList_toString h] at hnil
  exact digitsOf_ne_nil _ hnil

theorem head?_digitsOf {n : Nat} (h : 0 < n) :
    ∃ d, 0 < d ∧ d < 10 ∧ (digitsOf n).head? = some (Nat.digitChar d) := by
  induction n using Nat.strongRecOn with
  | ind n ih =>
    unfold digitsOf at ih ⊢
    rw [Nat.toDigits_eq_if (by decide)]
    split
    · rename_i hn
      exact ⟨n, h, hn, rfl⟩
    · rename_i hn
      obtain ⟨d, hpos, hlt, hhead⟩ := ih (n / 10) (by omega) (by omega)
      refine ⟨d, hpos, hlt, ?_⟩
      rw [List.head?_append, hhead]
      rfl

/-- **The digits of a number write it**, whoever reads the ten digits. -/
theorem mapM_digitsOf {digit : Char → Option Nat}
    (hdigit : ∀ d < 10, digit (Nat.digitChar d) = some d)
    (n : Nat) : ∃ ds, (digitsOf n).mapM digit = some ds ∧ value ds = n := by
  induction n using Nat.strongRecOn with
  | ind n ih =>
    unfold digitsOf at ih ⊢
    rw [Nat.toDigits_eq_if (by decide)]
    split
    · rename_i hn
      exact ⟨[n], by simp [hdigit n hn], by simp [value]⟩
    · rename_i hn
      obtain ⟨ds, hds, hvalue⟩ := ih (n / 10) (by omega)
      refine ⟨ds ++ [n % 10], ?_, ?_⟩
      · simp [List.mapM_append, hds, hdigit (n % 10) (by omega)]
      · rw [value_append_singleton, hvalue]
        omega

theorem digit?_digitChar : ∀ d < 10, digit? (Nat.digitChar d) = some d := by
  decide

theorem asciiDigit?_digitChar : ∀ d < 10, asciiDigit? (Nat.digitChar d) = some d := by
  decide

theorem allDigits_digitsOf {digit : Char → Option Nat}
    (hdigit : ∀ d < 10, digit (Nat.digitChar d) = some d) (n : Nat) :
    ∃ ds, allDigits digit (digitsOf n) = some ds ∧ value ds = n := by
  have hne : (digitsOf n).isEmpty = false := List.isEmpty_eq_false_iff.2 (digitsOf_ne_nil n)
  unfold allDigits
  rw [hne]
  exact mapM_digitsOf hdigit n

theorem length_digitsOf {n : Int} (h : isStorable n = true) :
    (digitsOf n.toNat).length ≤ maxDigits := by
  unfold isStorable at h
  rw [Bool.and_eq_true, decide_eq_true_eq, decide_eq_true_eq] at h
  have hlt : n.toNat < 10 ^ 19 := by omega
  have hlength : (digitsOf n.toNat).length ≤ 19 :=
    (Nat.length_toDigits_le_iff (by decide) (by decide)).2 hlt
  exact Nat.le_trans hlength (by decide)

/-! ## Texts of digits -/

section Digits

variable {c : Char} {cs : List Char}

theorem IsDigit.ne (hc : IsDigit c) {x : Char} (hx : ∀ d < 10, Nat.digitChar d ≠ x) : c ≠ x := by
  obtain ⟨d, hd, rfl⟩ := hc
  exact hx d hd

theorem IsDigit.isSpace_eq_false (hc : IsDigit c) : Text.isSpace c = false := by
  have hspace : ∀ d < 10, Text.isSpace (Nat.digitChar d) = false := by decide
  obtain ⟨d, hd, rfl⟩ := hc
  exact hspace d hd

theorem dropWhile_eq_self {p : Char → Bool} (h : ∀ c ∈ cs, p c = false) : cs.dropWhile p = cs := by
  cases cs with
  | nil => rfl
  | cons c cs => rw [List.dropWhile_cons_of_neg (by simp [h c])]

theorem trim_eq_self {p : Char → Bool} (h : ∀ c ∈ cs, p c = false) : Text.trim p cs = cs := by
  unfold Text.trim
  rw [dropWhile_eq_self h, dropWhile_eq_self fun c hc => h c (List.mem_reverse.1 hc),
    List.reverse_reverse]

variable (h : ∀ c ∈ cs, IsDigit c)

include h

theorem trim_digits : Text.trim Text.isSpace cs = cs :=
  trim_eq_self fun c hc => (h c hc).isSpace_eq_false

theorem splitSign_digits : splitSign cs = (false, cs) := by
  cases cs with
  | nil => rfl
  | cons c cs =>
    have hc := h c List.mem_cons_self
    have hminus : c ≠ '-' := hc.ne (by decide)
    have hplus : c ≠ '+' := hc.ne (by decide)
    simp [splitSign, hminus, hplus]

theorem splitMinus_digits : splitMinus cs = (false, cs) := by
  unfold splitMinus
  split
  · exact absurd rfl ((h '-' List.mem_cons_self).ne (by decide))
  · rfl

theorem joinDigits_digits (isDigit : Char → Bool) (after : Bool) :
    joinDigits isDigit after cs = some cs := by
  induction cs generalizing after with
  | nil => rfl
  | cons c cs ih =>
    have hc : c ≠ '_' := (h c List.mem_cons_self).ne (by decide)
    have hrest := ih (fun d hd => h d (List.mem_cons_of_mem c hd)) (isDigit c)
    simp [joinDigits, hrest]

theorem dropZeroFraction_digits : dropZeroFraction cs = cs := by
  have hpoint : cs.dropWhile (· != '.') = [] := by
    rw [List.dropWhile_eq_nil_iff]
    intro c hc
    rw [bne_iff_ne]
    exact (h c hc).ne (by decide)
  simp [dropZeroFraction, hpoint]

theorem dropUnderscores_digits : dropUnderscores cs = cs := by
  have hfilter : cs.filter (· != '_') = cs := by
    rw [List.filter_eq_self]
    intro c hc
    rw [bne_iff_ne]
    exact (h c hc).ne (by decide)
  unfold dropUnderscores
  split
  · rfl
  · exact hfilter

end Digits

/-! ## Ids -/

section Ids

variable {n : Int}

/-- **An id in a header is read again.** -/
theorem integer?_toString (hpos : 0 < n) (h : isStorable n = true) :
    integer? (toString n) = some n := by
  have hdigits : ∀ c ∈ digitsOf n.toNat, IsDigit c := fun c hc => isDigit_of_mem_digitsOf hc
  obtain ⟨ds, hds, hvalue⟩ := allDigits_digitsOf digit?_digitChar n.toNat
  unfold integer?
  rw [toList_toString hpos, trim_digits hdigits, splitSign_digits hdigits]
  simp only [joinDigits_digits hdigits, if_neg (Nat.not_lt.2 (length_digitsOf h)), hds,
    Option.map_some, withSign, hvalue]
  exact congrArg some (Int.toNat_of_nonneg (Int.le_of_lt hpos))

theorem dropLeadingZeros_digitsOf (hpos : 0 < n) :
    dropLeadingZeros (digitsOf n.toNat) = some (digitsOf n.toNat) := by
  obtain ⟨d, hd, hlt, hhead⟩ := head?_digitsOf (n := n.toNat) (by omega)
  obtain ⟨rest, hrest⟩ := List.head?_eq_some_iff.1 hhead
  have hfirst : ∀ d < 10, 0 < d → (Nat.digitChar d == '0') = false ∧
      ('1' ≤ Nat.digitChar d && Nat.digitChar d ≤ '9') = true := by decide
  obtain ⟨hzero, hrange⟩ := hfirst d hlt hd
  rw [hrest]
  simp only [dropLeadingZeros, hzero, hrange]
  rfl

theorem cleanInteger?_digitsOf (hpos : 0 < n) :
    cleanInteger? (digitsOf n.toNat) = some (digitsOf n.toNat) := by
  have hdigits : ∀ c ∈ digitsOf n.toNat, IsDigit c := fun c hc => isDigit_of_mem_digitsOf hc
  have hclean : ((dropLeadingZeros (digitsOf n.toNat)).map fun t =>
      dropUnderscores (dropZeroFraction t)) = some (digitsOf n.toNat) := by
    rw [dropLeadingZeros_digitsOf hpos, Option.map_some, dropZeroFraction_digits hdigits,
      dropUnderscores_digits hdigits]
  unfold cleanInteger?
  split
  · rename_i hsign
    exact absurd rfl ((hdigits '+' (by rw [hsign]; simp)).ne (by decide))
  · rename_i hsign
    exact absurd rfl ((hdigits '+' (by rw [hsign]; simp)).ne (by decide))
  · rename_i hsign
    exact absurd rfl ((hdigits '-' (by rw [hsign]; simp)).ne (by decide))
  · exact hclean

/-- **An id in a path is read again.** -/
theorem formInteger_toString (hpos : 0 < n) (h : isStorable n = true) :
    formInteger (toString n) = .ok n := by
  have hdigits : ∀ c ∈ digitsOf n.toNat, IsDigit c := fun c hc => isDigit_of_mem_digitsOf hc
  obtain ⟨ds, hds, hvalue⟩ := allDigits_digitsOf asciiDigit?_digitChar n.toNat
  obtain ⟨d, hd, hlt, hhead⟩ := head?_digitsOf (n := n.toNat) (by omega)
  have hzero : (digitsOf n.toNat).head? ≠ some '0' := by
    have hfirst : ∀ d < 10, 0 < d → Nat.digitChar d ≠ '0' := by decide
    rw [hhead]
    exact fun he => hfirst d hlt hd (Option.some.inj he)
  have hshort : ¬ maxDigits <
      ((digitsOf n.toNat).takeWhile fun c => (asciiDigit? c).isSome).length :=
    Nat.not_lt.2 (Nat.le_trans (List.takeWhile_sublist _).length_le (length_digitsOf h))
  unfold formInteger
  rw [toList_toString hpos, trim_digits hdigits, cleanInteger?_digitsOf hpos]
  show cleanedInteger (digitsOf n.toNat) = .ok n
  rw [cleanedInteger, splitMinus_digits hdigits]
  dsimp only
  rw [if_neg (by simp [hzero]), if_neg hshort]
  simp only [hds, withSign, hvalue]
  exact congrArg Except.ok (Int.toNat_of_nonneg (Int.le_of_lt hpos))

end Ids

end Matchmaker.Decimal

namespace Matchmaker.Api

variable {n : Int}

theorem wholeOf_toString (hpos : 0 < n) (h : isStorable n = true) :
    wholeOf (toString n) = .ok n := by
  rw [wholeOf, Decimal.formInteger_toString hpos h]

theorem caller_toString (hpos : 0 < n) (h : isStorable n = true) :
    caller (some (toString n)) = .ok n := by
  unfold caller
  split
  · rename_i he
    cases he
  · rename_i he
    exact absurd (Option.some.inj he) (Decimal.toString_ne_empty hpos)
  · rename_i he
    cases he
    rw [Decimal.integer?_toString hpos h]
    exact if_pos hpos

end Matchmaker.Api
