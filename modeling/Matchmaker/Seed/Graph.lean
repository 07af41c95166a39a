import Matchmaker.Connection.Lock
import Matchmaker.Failure
import Matchmaker.Seed.Draw
import Matchmaker.Store.Basic

/-!
# Drawn graphs

Connections and dismissals drawn at random between given members.

* `growth`: pairs are drawn until there are enough connections. A pair that was drawn before is
  passed over, so that no two connections join one pair. Nothing bounds how often that happens; the
  number of draws is therefore limited by a fuel, and `none` stands for a run that is cut off;
* `connections`: as many connections as the rates ask for, none where these add up to zero;
* `dismissals`: at most one dismissal for each member.
-/

namespace Matchmaker.Seed

/-- The shares of connections by status. -/
structure Rates (α : Type) where
  accepted : α
  pending : α
  disconnected : α
  deriving Repr

section

variable {α : Type} [Sampling α] {σ : Type} [Source σ]

/-- The sum of the shares. -/
def Rates.total (r : Rates α) : α :=
  r.accepted + r.pending + r.disconnected

/-- The status at a point between zero and the sum of the shares. -/
def Rates.statusAt (r : Rates α) (p : α) : Status :=
  if p < r.accepted then .accepted
  else if p < r.accepted + r.pending then .pending
  else .disconnected

/-- The number of unordered pairs of `n` members. -/
def pairCount (n : Nat) : Nat :=
  n * (n - 1) / 2

/-- How many connections `n` members get. -/
def target (r : Rates α) (n : Nat) : Except Fault Nat := do
  let k ← Sampling.truncate (Scalar.ofInt n * r.total * 1.2)
  return min (max k.toNat n) (pairCount n)

/-- A connection between two members; the direction matters for a pending one only. -/
def link (r : Rates α) (a b : Int) : Draw σ Store.Link := do
  let x ← fraction
  let status := r.statusAt (x * r.total)
  let turned ← if status = .pending then pure false else do
    let y : α ← fraction
    pure (decide (y < 0.5))
  return if turned then ⟨b, a, status, none, none⟩ else ⟨a, b, status, none, none⟩

/-- The connections drawn so far and the pairs that they join. -/
structure Progress where
  rows : List Store.Link
  seen : List (Int × Int)
  deriving Repr

/-- One more pair, and its connection unless it was drawn before. -/
def grow (r : Rates α) (users : List Int) (p : Progress) : Draw σ Progress := do
  let (a, b) ← twoOf users
  if p.seen.contains (Lock.key a b) then return p
  return ⟨p.rows ++ [← link r a b], Lock.key a b :: p.seen⟩

/-- Draws pairs until there are enough connections. -/
def growth (r : Rates α) (users : List Int) (target : Nat) :
    (fuel : Nat) → Progress → σ → Option (List Store.Link × σ)
  | 0, p, s => if target ≤ p.rows.length then some (p.rows, s) else none
  | fuel + 1, p, s =>
    if target ≤ p.rows.length then some (p.rows, s)
    else
      let (p, s) := (grow r users p).run s
      growth r users target fuel p s

/-- Drawn connections between members. -/
def connections (fuel : Nat) (r : Rates α) (users : List Int) (s : σ) :
    Option (Except Failure (List Store.Link × σ)) :=
  match Scalar.settled r.total with
  | .error why => some (broken why)
  | .ok total =>
    if Scalar.isZero total || users.length < 2 then some (.ok ([], s))
    else match target r users.length with
      | .error why => some (broken why)
      | .ok target => (growth r users target fuel ⟨[], []⟩ s).map .ok

/-- The dismissals drawn by members, some of them for the same pair. -/
def draftDismissals (rate : α) (all : List Int) : List Int → Draw σ (List Dismissal)
  | [] => return []
  | user :: users => do
    let x : α ← fraction
    if rate ≤ x then draftDismissals rate all users
    else
      let other ← choice all
      let rest ← draftDismissals rate all users
      return if other = user then rest else ⟨user, other⟩ :: rest

/-- Drawn dismissals between members, in order. -/
def dismissals (rate : α) (users : List Int) : Draw σ (List Dismissal) := do
  if rate ≤ 0.0 ∨ users.length < 2 then return []
  let drafts ← draftDismissals rate users users
  return (drafts.eraseDups).mergeSort fun d e =>
    d.user < e.user || (d.user == e.user && d.dismissed ≤ e.dismissed)

end

end Matchmaker.Seed
