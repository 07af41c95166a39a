import Matchmaker.Failure
import Matchmaker.Quantity
import Matchmaker.Tally

/-!
# Weights

A profile's preferences give each dimension a weight, a whole number from 0 to 10. They are stored
as a JSON object and resolved when they are used: a dimension without a member weighs 0, members
under other names are left out of account, and the first dimension with another value is refused.

* `Weights.resolve`: the weights that preferences state;
* `Weights.total`: their sum;
* `Weights.toValue`: the preferences that state given weights.
-/

namespace Matchmaker

/-- The weight of each dimension. -/
abbrev Weights := PerDimension Nat

namespace Weights

open Json (Value Members)

/-- The greatest weight. -/
def limit : Nat := 10

/-- Refuses preferences. -/
def refuseFor {β : Type} (fault : WeightFault) : Except Failure β :=
  refuse (.payload (.weights fault))

/-- Refuses a weight outside the range, which is shown. -/
def refuseOutside {β : Type} (d : Dimension) (n : Int) : Except Failure β := do
  let shown ← orBroken (Decimal.written n)
  refuseFor (.outOfRange d shown)

/-- A dimension's weight as preferences state it. -/
def ofValue (d : Dimension) (v : Value) : Except Failure Nat :=
  match (Quantity.ofValue? v).bind Quantity.whole? with
  | none => refuseFor (.notWhole d)
  | some n => if 0 ≤ n && n ≤ limit then .ok n.toNat else refuseOutside d n

/-- A dimension's weight in an object. -/
def ofMembers (members : Members) (d : Dimension) : Except Failure Nat :=
  ofValue d ((Members.find? d.name members).getD (.int 0))

/-- The weights that preferences state; none at all, or a null, state zeros. -/
def resolve (preferences : Option Value) : Except Failure Weights :=
  match preferences with
  | none | some .null => .ok (PerDimension.ofFn fun _ => 0)
  | some (.obj members) => PerDimension.ofExcept (ofMembers members)
  | some _ => refuseFor .notObject

/-- The sum of the weights. -/
def total (w : Weights) : Nat :=
  tally w.get Dimension.all

/-- The members that state given weights. -/
def toMembers (w : Weights) : Members :=
  Dimension.all.map fun d => (d.name, .int (w.get d))

/-- The preferences that state given weights. -/
def toValue (w : Weights) : Value :=
  .obj w.toMembers

theorem ofValue_int (d : Dimension) {n : Nat} (h : n ≤ limit) : ofValue d (.int n) = .ok n := by
  have h' : (n : Int) ≤ limit := by exact_mod_cast h
  simp [ofValue, Quantity.ofValue?, Quantity.whole?, h']

end Weights

end Matchmaker
