import Matchmaker.Failure
import Matchmaker.Proofs.Columns
import Matchmaker.Proofs.Readable
import Matchmaker.Proofs.Usable

/-!
# Preferences that state weights

Of all JSON values, a null and the objects whose six members are missing or whole numbers from 0 to
10 state weights. A double counts as the number that it exactly is, and a flag is none. What else
stands in an object is not looked at, and the first member in the order of the dimensions that
states no weight is the one that is reported. A report shows the number that is out of range, which
every number that a text states can be.

* `Json.Value.IsWhole`, `isWhole_iff`: the whole number that a value is;
* `Weights.Holds`, `Weights.Offends`: what the member of a dimension states, and how one that states
  nothing is reported;
* `exists_of_ofExcept_eq_error`: the first error in the order of the dimensions;
* `IsValid`, `IsStated`: the values that state weights, and the weights that they state;
* **`resolve_eq_ok_iff`**, **`exists_of_resolve_eq_error`**: how preferences are resolved;
* **`preferences_state_weights`**: which preferences state weights, and which weights they state.
-/

namespace Matchmaker

open Json (Value Members)

/-! ## Whole numbers -/

theorem Decimal.Binary.whole?_eq_some_iff {b : Decimal.Binary} {n : Int} :
    b.whole? = some n ↔ b.toRat? = some (n : Rat) := by
  refine ⟨toRat?_of_whole?, fun h => ?_⟩
  -- a whole number that is found has the same value, so it is `n`
  have hfound : ∀ {m : Int}, b.whole? = some m → b.whole? = some n := fun {m} hm => by
    rw [toRat?_of_whole? hm, Option.some.injEq, Rat.intCast_inj] at h
    rw [hm, h]
  rcases b with _ | _ | ⟨negative, m, e | e⟩
  · cases h
  · cases h
  · exact hfound rfl
  · have hpos : twoTo (e + 1) ≠ 0 := (Nat.two_pow_pos _).ne'
    have hvalue : mkRat (signed negative m) (twoTo (e + 1)) = mkRat n 1 := by
      rw [Rat.mkRat_one]
      exact Option.some.inj h
    rw [Rat.mkRat_eq_iff hpos Nat.one_ne_zero] at hvalue
    have hdvd : (twoTo (e + 1) : Int) ∣ signed negative m := ⟨n, by rw [Int.mul_comm _ n]; omega⟩
    have hmod : m % twoTo (e + 1) = 0 := by
      cases negative
      · exact Nat.mod_eq_zero_of_dvd (Int.natCast_dvd_natCast.1 hdvd)
      · exact Nat.mod_eq_zero_of_dvd (Int.natCast_dvd_natCast.1 (Int.dvd_neg.1 hdvd))
    exact hfound (if_pos (beq_iff_eq.2 hmod))

/-- The whole number that a value is. A double is one if its exact value is; a flag never is. -/
inductive Json.Value.IsWhole : Value → Int → Prop
  | int (n : Int) : IsWhole (.int n) n
  | real {x : Float} {n : Int} (h : (Decimal.Binary.ofFloat x).toRat? = some (n : Rat)) :
      IsWhole (.real x) n

theorem Json.Value.isWhole_iff {v : Value} {n : Int} :
    v.IsWhole n ↔ (Quantity.ofValue? v).bind Quantity.whole? = some n := by
  constructor
  · rintro (_ | h)
    · rfl
    · exact Decimal.Binary.whole?_eq_some_iff.2 h
  · intro h
    cases v with
    | int m =>
      cases h
      exact .int n
    | real x => exact .real (Decimal.Binary.whole?_eq_some_iff.1 h)
    | null | bool b | str s | arr items | obj members => cases h

theorem Json.Value.IsWhole.isLong {v : Value} {n : Int} (h : v.IsWhole n)
    (hv : v.isReadable = true) : Decimal.isLong n = false := by
  cases h with
  | int => simpa [Value.isReadable] using hv
  | real h => exact Decimal.isLong_of_whole? (Decimal.Binary.whole?_eq_some_iff.2 h)

theorem Json.Value.isWhole_int_iff {m n : Int} : (Value.int m).IsWhole n ↔ m = n := by
  rw [isWhole_iff]
  exact Option.some_inj

/-! ## Errors in the order of the dimensions -/

theorem PerDimension.exists_of_ofExcept_eq_error {α ε : Type} {f : Dimension → Except ε α} {e : ε}
    (h : ofExcept f = .error e) : ∃ before d after, Dimension.all = before ++ d :: after ∧
      (∀ c ∈ before, ∃ a, f c = .ok a) ∧ f d = .error e := by
  simp only [ofExcept, bind_eq_error_iff] at h
  rcases h with h | ⟨a₁, h₁, h | ⟨a₂, h₂, h | ⟨a₃, h₃, h | ⟨a₄, h₄, h | ⟨a₅, h₅, h | ⟨a₆, -, h⟩⟩⟩⟩⟩⟩
  · exact ⟨[], _, _, rfl, by simp, h⟩
  · exact ⟨[_], _, _, rfl, by simp [h₁], h⟩
  · exact ⟨[_, _], _, _, rfl, by simp [h₁, h₂], h⟩
  · exact ⟨[_, _, _], _, _, rfl, by simp [h₁, h₂, h₃], h⟩
  · exact ⟨[_, _, _, _], _, _, rfl, by simp [h₁, h₂, h₃, h₄], h⟩
  · exact ⟨[_, _, _, _, _], _, _, rfl, by simp [h₁, h₂, h₃, h₄, h₅], h⟩
  · cases h

namespace Weights

variable {members : Members} {d : Dimension} {n : Nat} {e : Failure} {p : Value} {w : Weights}

/-! ## Members -/

/-- What the member of a dimension states: 0 where there is none, else the whole number from 0 to 10
that it is. -/
def Holds (members : Members) (d : Dimension) (n : Nat) : Prop :=
  Members.find? d.name members = none ∧ n = 0 ∨
    ∃ v, Members.find? d.name members = some v ∧ v.IsWhole n ∧ n ≤ 10

/-- The refusal of preferences. -/
def refusal (fault : WeightFault) : Failure :=
  .refused (.payload (.weights fault))

/-- How a member that states no weight is reported: it is no whole number, or one out of range,
which is shown if it can be. -/
inductive Offends (members : Members) (d : Dimension) : Failure → Prop
  | notWhole {v : Value} (hv : Members.find? d.name members = some v) (h : ∀ n, ¬ v.IsWhole n) :
      Offends members d (refusal (.notWhole d))
  | outOfRange {v : Value} {n : Int} (hv : Members.find? d.name members = some v)
      (h : v.IsWhole n) (hn : n < 0 ∨ 10 < n) (hshort : Decimal.isLong n = false) :
      Offends members d (refusal (.outOfRange d (toString n)))
  | tooLong {v : Value} {n : Int} (hv : Members.find? d.name members = some v)
      (h : v.IsWhole n) (hn : n < 0 ∨ 10 < n) (hlong : Decimal.isLong n = true) :
      Offends members d (.fault .tooLong)

theorem range_iff {m : Int} : (0 ≤ m && m ≤ limit) = true ↔ 0 ≤ m ∧ m ≤ 10 := by
  rw [Bool.and_eq_true, decide_eq_true_eq, decide_eq_true_eq]
  rfl

theorem refuseOutside_eq {β : Type} (d : Dimension) (n : Int) :
    (refuseOutside d n : Except Failure β) = .error (if Decimal.isLong n then .fault .tooLong
      else refusal (.outOfRange d (toString n))) := by
  unfold refuseOutside Decimal.written
  cases Decimal.isLong n <;> rfl

theorem ofValue_eq_ok_iff {v : Value} : ofValue d v = .ok n ↔ v.IsWhole n ∧ n ≤ 10 := by
  rw [Value.isWhole_iff]
  unfold ofValue
  cases (Quantity.ofValue? v).bind Quantity.whole? with
  | none => exact iff_of_false nofun nofun
  | some m =>
    dsimp only
    split
    · rename_i hrange
      rw [range_iff] at hrange
      rw [Except.ok.injEq, Option.some.injEq]
      omega
    · rename_i hrange
      rw [range_iff] at hrange
      rw [Option.some.injEq]
      constructor
      · intro h
        exact absurd h (refuseOutside_ne_ok _ _ _)
      · intro h
        omega

theorem ofMembers_eq_ok_iff : ofMembers members d = .ok n ↔ Holds members d n := by
  unfold ofMembers Holds
  cases hv : Members.find? d.name members with
  | none =>
    rw [Option.getD_none, ofValue_eq_ok_iff, Value.isWhole_int_iff]
    simp only [true_and, reduceCtorEq, false_and, exists_false, or_false]
    omega
  | some v => simp [ofValue_eq_ok_iff]

theorem offends_of_ofMembers (h : ofMembers members d = .error e) : Offends members d e := by
  unfold ofMembers at h
  cases hv : Members.find? d.name members with
  | none =>
    rw [hv] at h
    cases h
  | some v =>
    rw [hv, Option.getD_some, ofValue] at h
    cases hw : (Quantity.ofValue? v).bind Quantity.whole? with
    | none =>
      rw [hw] at h
      cases h
      refine .notWhole hv fun n hn => ?_
      rw [Value.isWhole_iff.1 hn] at hw
      cases hw
    | some m =>
      rw [hw] at h
      dsimp only at h
      split at h
      · cases h
      · rename_i hrange
        rw [range_iff] at hrange
        have hout : m < 0 ∨ 10 < m := by omega
        have hwhole := Value.isWhole_iff.2 hw
        rw [refuseOutside_eq, Except.error.injEq] at h
        cases hlong : Decimal.isLong m with
        | true =>
          rw [if_pos hlong] at h
          exact h ▸ .tooLong hv hwhole hout hlong
        | false =>
          rw [if_neg (Bool.eq_false_iff.1 hlong)] at h
          exact h ▸ .outOfRange hv hwhole hout hlong

/-! ## Preferences -/

/-- **What is reported of an object** is the first member that states no weight. -/
theorem exists_of_resolve_eq_error (h : resolve (some (.obj members)) = .error e) :
    ∃ before d after, Dimension.all = before ++ d :: after ∧
      (∀ c ∈ before, ∃ n, Holds members c n) ∧ Offends members d e := by
  obtain ⟨before, d, after, hall, hbefore, hd⟩ := PerDimension.exists_of_ofExcept_eq_error h
  exact ⟨before, d, after, hall, fun c hc => (hbefore c hc).imp fun _ => ofMembers_eq_ok_iff.1,
    offends_of_ofMembers hd⟩

theorem eq_notObject_of_resolve (h : resolve (some p) = .error e)
    (hp : ∀ members, p ≠ .obj members) : e = refusal .notObject := by
  cases p with
  | obj members => exact absurd rfl (hp members)
  | null => cases h
  | bool | int | real | str | arr =>
    cases h
    rfl

/-- A flag in a later member is not reported, and neither is what stands under other names. -/
example : resolve (some (.obj [("favorite_food", .bool true), ("digital_delights", .real 2.5),
    ("retired", .null), ("analog_passions", .real 3.0)])) =
      .error (refusal (.notWhole .digitalDelights)) :=
  rfl

end Weights

end Matchmaker
