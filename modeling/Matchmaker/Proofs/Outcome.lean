import Matchmaker.Failure

/-!
# Outcomes of calls

How a computation that may fail succeeds: a sequence of steps succeeds when each step does
(`bind_eq_ok_iff`), and a refusal or a fault never does. `Failure.kind?` tells the kind of refusal
that a caller meets.
-/

namespace Matchmaker

section Except

variable {ε β γ : Type}

theorem bind_eq_ok_iff {x : Except ε β} {f : β → Except ε γ} {c : γ} :
    (x >>= f) = .ok c ↔ ∃ b, x = .ok b ∧ f b = .ok c := by
  cases x <;> simp [bind, Except.bind]

theorem bind_eq_error_iff {x : Except ε β} {f : β → Except ε γ} {e : ε} :
    (x >>= f) = .error e ↔ x = .error e ∨ ∃ b, x = .ok b ∧ f b = .error e := by
  cases x <;> simp [bind, Except.bind]

theorem pure_eq_ok_iff {b c : β} : (pure b : Except ε β) = .ok c ↔ b = c := by
  simp [pure, Except.pure]

theorem map_eq_ok_iff {x : Except ε β} {f : β → γ} {c : γ} :
    x.map f = .ok c ↔ ∃ b, x = .ok b ∧ f b = c := by
  cases x <;> simp [Except.map]

end Except

@[simp] theorem refuse_ne_ok {β : Type} (why : Refusal) (b : β) : refuse why ≠ .ok b := nofun

@[simp] theorem broken_ne_ok {β : Type} (what : Fault) (b : β) : broken what ≠ .ok b := nofun

@[simp] theorem refuse_bind {β γ : Type} (why : Refusal) (f : β → Except Failure γ) :
    refuse why >>= f = refuse why := rfl

@[simp] theorem broken_bind {β γ : Type} (what : Fault) (f : β → Except Failure γ) :
    broken what >>= f = broken what := rfl

/-- The kind of a refusal; a fault has none. -/
def Failure.kind? : Failure → Option Kind
  | .refused why => some why.kind
  | .fault _ => none

end Matchmaker
