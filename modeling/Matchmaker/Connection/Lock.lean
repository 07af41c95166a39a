import Matchmaker.Decimal.Written

/-!
# Locks on pairs

Every transition holds a lock whose key is the unordered pair of its members, so that two
transitions share a lock exactly when they concern one pair (`Lock.key_eq_iff`). On PostgreSQL it
is taken by two statements; other databases serialise their writers themselves.
-/

namespace Matchmaker.Lock

/-- The key of a pair: its members, the smaller first. -/
def key (a b : Int) : Int × Int :=
  if b < a then (b, a) else (a, b)

/-- A statement with its parameters. -/
structure Statement where
  command : String
  parameters : List Int
  deriving DecidableEq, Repr

/-- The statements that take the lock of a pair. -/
def statements (dialect : String) (timeout : Int) (a b : Int) : Except Fault (List Statement) := do
  if dialect ≠ "postgresql" then return []
  let limit ← Decimal.written timeout
  return [⟨"SET LOCAL lock_timeout = " ++ limit, []⟩,
    ⟨"SELECT pg_advisory_xact_lock", [(key a b).1, (key a b).2]⟩]

/-- The milliseconds that a transition waits for a lock unless the settings say otherwise. -/
def defaultTimeout : Int := 5000

theorem key_comm (a b : Int) : key a b = key b a := by
  unfold key
  split <;> split <;> first | rfl | (simp only [Prod.mk.injEq]; omega)

theorem key_eq_iff {a b c d : Int} :
    key a b = key c d ↔ (a = c ∧ b = d) ∨ (a = d ∧ b = c) := by
  unfold key
  split <;> split <;> simp only [Prod.mk.injEq] <;> omega

end Matchmaker.Lock
