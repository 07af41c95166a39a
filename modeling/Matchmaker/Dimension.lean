/-!
# The six dimensions

Two profiles are compared along six dimensions, always in one order. `PerDimension α` holds a value
for each, and `PerDimension.get_ofFn` and `PerDimension.ext_get` make it a function of the
dimension.
-/

namespace Matchmaker

/-- What two profiles are compared by. -/
inductive Dimension where
  | analogPassions
  | digitalDelights
  | collaboration
  | food
  | music
  | location
  deriving DecidableEq, Repr

namespace Dimension

/-- All dimensions, in their order. -/
def all : List Dimension :=
  [analogPassions, digitalDelights, collaboration, food, music, location]

/-- The name of a dimension in stored preferences and in answers. -/
def name : Dimension → String
  | analogPassions => "analog_passions"
  | digitalDelights => "digital_delights"
  | collaboration => "collaboration_interests"
  | food => "favorite_food"
  | music => "favorite_music"
  | location => "location"

end Dimension

/-- A value for each dimension. -/
structure PerDimension (α : Type) where
  analogPassions : α
  digitalDelights : α
  collaboration : α
  food : α
  music : α
  location : α
  deriving DecidableEq, Repr

namespace PerDimension

variable {α β : Type}

/-- The value for a dimension. -/
def get (p : PerDimension α) : Dimension → α
  | .analogPassions => p.analogPassions
  | .digitalDelights => p.digitalDelights
  | .collaboration => p.collaboration
  | .food => p.food
  | .music => p.music
  | .location => p.location

/-- The values that a function gives. -/
def ofFn (f : Dimension → α) : PerDimension α :=
  ⟨f .analogPassions, f .digitalDelights, f .collaboration, f .food, f .music, f .location⟩

/-- The values that a function gives, or the first error in the order of the dimensions. -/
def ofExcept {ε : Type} (f : Dimension → Except ε α) : Except ε (PerDimension α) := do
  let analogPassions ← f .analogPassions
  let digitalDelights ← f .digitalDelights
  let collaboration ← f .collaboration
  let food ← f .food
  let music ← f .music
  let location ← f .location
  return { analogPassions, digitalDelights, collaboration, food, music, location }

/-- The values in the order of the dimensions. -/
def toList (p : PerDimension α) : List α :=
  Dimension.all.map p.get

@[simp] theorem get_ofFn (f : Dimension → α) (d : Dimension) : (ofFn f).get d = f d := by
  cases d <;> rfl

theorem ext_get {p q : PerDimension α} (h : ∀ d, p.get d = q.get d) : p = q := by
  cases p
  cases q
  have h1 := h .analogPassions
  have h2 := h .digitalDelights
  have h3 := h .collaboration
  have h4 := h .food
  have h5 := h .music
  have h6 := h .location
  simp only [get] at h1 h2 h3 h4 h5 h6
  subst h1 h2 h3 h4 h5 h6
  rfl

@[simp] theorem ofFn_get (p : PerDimension α) : ofFn p.get = p := rfl

end PerDimension

end Matchmaker
