import Matchmaker.Decimal.Binary
import Matchmaker.Scalar

/-!
# Draws

Fixtures are drawn from a stream of words of 64 bits. A whole number below a bound is taken from the
upper 31 bits of a word, a fraction from its upper 53 bits. The stream is left open (`Source`), so
that what holds of fixtures holds for all draws; `Generator` is the one the program runs on.

* `below`, `fraction`, `choice`, `sample`: what is drawn;
* `Generator`: the linear congruential stream of a seed.
-/

namespace Matchmaker

/-- Numbers that fixtures are drawn in. -/
class Sampling (α : Type) extends Scalar α where
  /-- The whole part of a number, toward zero. -/
  truncate : α → Except Fault Int
  /-- The double that stands for a number in the store. -/
  toDouble : α → Float

/-- The whole part of a double, toward zero. That of an infinity is too large for any number. -/
def wholePart (x : Float) : Except Fault Int :=
  let b := Decimal.Binary.ofFloat x
  match b.truncate? with
  | some n => .ok n
  | none => .error (if b = .nan then .outsideDomain else .unstorable)

instance : Sampling Float where
  truncate := wholePart
  toDouble x := x

namespace Seed

/-- A stream of words. -/
class Source (σ : Type) where
  /-- The next word and the rest of the stream. -/
  next : σ → UInt64 × σ

/-- What is drawn from a stream. -/
abbrev Draw (σ : Type) := StateM σ

section

variable {σ : Type} [Source σ]

/-- The next word. -/
def word : Draw σ UInt64 := Source.next

/-- A whole number below `n`. -/
def below (n : Nat) : Draw σ Nat := do
  return (← word).toNat / 0x200000000 % n

/-- A number from 0 up to below 1. -/
def fraction {α : Type} [Scalar α] : Draw σ α := do
  return Scalar.ofInt ((← word).toNat / 0x800 : Nat) / 9007199254740992.0

/-- One of the items of a list. -/
def choice {β : Type} [Inhabited β] (items : List β) : Draw σ β := do
  return (items[← below items.length]?).getD default

/-- The items of a list without the one at a position, whose place the last one takes. -/
def without {β : Type} (items : List β) (i : Nat) : List β :=
  match items.getLast? with
  | some last => (items.set i last).dropLast
  | none => []

/-- Items at different positions of a list. -/
def sample {β : Type} [Inhabited β] : Nat → List β → Draw σ (List β)
  | 0, _ => return []
  | n + 1, items => do
    let i ← below items.length
    let rest ← sample n (without items i)
    return (items[i]?).getD default :: rest

/-- Two items at different positions of a list. -/
def twoOf {β : Type} [Inhabited β] (items : List β) : Draw σ (β × β) := do
  let i ← below items.length
  let rest := without items i
  let j ← below rest.length
  return ((items[i]?).getD default, (rest[j]?).getD default)

end

/-! ## The stream of a seed -/

/-- A linear congruential generator. -/
structure Generator where
  state : UInt64
  deriving DecidableEq, Repr

namespace Generator

/-- The generator of a seed. -/
def ofSeed (seed : Int) : Generator :=
  ⟨UInt64.ofNat (seed % 0x10000000000000000).toNat⟩

/-- The next state, which is also the next word. -/
def step (state : UInt64) : UInt64 :=
  state * 6364136223846793005 + 1442695040888963407

end Generator

instance : Source Generator where
  next g := (Generator.step g.state, ⟨Generator.step g.state⟩)

end Seed

end Matchmaker
