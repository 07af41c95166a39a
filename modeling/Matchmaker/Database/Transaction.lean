/-!
# Transactions

The work of a transaction is done on working tables, step by step. A step that fails leaves them as
the steps before it did. When the work is done the working tables become those of the database, and
when a step fails whatever was written is undone.

* `Transaction`: work on tables, which ends with a value or an error;
* `Transaction.commit`: how it ends, and the tables of the database afterwards;
* `Transaction.outcome`: the value with the tables, where the work does not fail;
* `Transaction.Reads`, `Transaction.FailsFirst`: work that writes nothing, and work that fails
  before it writes, so that there is nothing to undo (`commit_eq_ending`).
-/

namespace Matchmaker

/-- Work on tables. -/
abbrev Transaction (ε σ β : Type) := ExceptT ε (StateM σ) β

namespace Transaction

variable {ε σ β γ : Type}

/-- A step that looks at the tables. -/
def reading (f : σ → Except ε β) : Transaction ε σ β := do
  f (← get)

/-- A step that changes the tables, where nothing is against it. -/
def writing (f : σ → Except ε σ) : Transaction ε σ Unit := do
  set (← reading f)

/-- What the work ends with, and the working tables then. -/
def ending (x : Transaction ε σ β) (s : σ) : Except ε β × σ :=
  x.run.run s

/-- How a transaction ends, and the tables of the database after it: the working tables when the
work is done, else those from before. -/
def commit (x : Transaction ε σ β) (s : σ) : Except ε β × σ :=
  match x.ending s with
  | (.ok b, s') => (.ok b, s')
  | (.error e, _) => (.error e, s)

/-- What the work ends with, with the tables where it is done. -/
def outcome (x : Transaction ε σ β) (s : σ) : Except ε (β × σ) :=
  match x.ending s with
  | (.ok b, s') => .ok (b, s')
  | (.error e, _) => .error e

theorem commit_eq (x : Transaction ε σ β) (s : σ) : x.commit s =
    match x.outcome s with
    | .ok (b, s') => (.ok b, s')
    | .error e => (.error e, s) := by
  unfold commit outcome
  rcases x.ending s with ⟨_ | _, _⟩ <;> rfl

theorem snd_commit_of_ok {x : Transaction ε σ β} {s s' : σ} {b : β}
    (h : x.outcome s = .ok (b, s')) : (x.commit s).2 = s' := by
  rw [commit_eq, h]

/-- What fails is undone. -/
theorem snd_commit_of_error {x : Transaction ε σ β} {s : σ} {e : ε} (h : x.outcome s = .error e) :
    (x.commit s).2 = s := by
  rw [commit_eq, h]

/-! ## Step by step -/

theorem ending_bind (x : Transaction ε σ β) (f : β → Transaction ε σ γ) (s : σ) :
    Transaction.ending (x >>= f) s = match x.ending s with
      | (.ok b, s') => (f b).ending s'
      | (.error e, s') => (.error e, s') := by
  simp only [ending, ExceptT.run_bind, StateT.run_bind]
  rcases x.run.run s with ⟨_ | _, _⟩ <;> rfl

theorem ending_reading (f : σ → Except ε β) (s : σ) : (reading f).ending s = (f s, s) := rfl

theorem ending_writing (f : σ → Except ε σ) (s : σ) : (writing f).ending s =
    match f s with
    | .ok s' => (.ok (), s')
    | .error e => (.error e, s) := by
  unfold writing
  rw [ending_bind, ending_reading]
  cases f s <;> rfl

theorem outcome_bind (x : Transaction ε σ β) (f : β → Transaction ε σ γ) (s : σ) :
    Transaction.outcome (x >>= f) s = x.outcome s >>= fun y => (f y.1).outcome y.2 := by
  unfold outcome
  rw [ending_bind]
  rcases x.ending s with ⟨_ | _, _⟩ <;> rfl

theorem outcome_bind_pure (x : Transaction ε σ β) (g : β → γ) (s : σ) :
    Transaction.outcome (do return g (← x)) s = (x.outcome s).map fun y => (g y.1, y.2) := by
  rw [outcome_bind]
  cases x.outcome s <;> rfl

theorem outcome_reading (f : σ → Except ε β) (s : σ) :
    (reading f).outcome s = f s >>= fun b => .ok (b, s) := by
  unfold outcome
  rw [ending_reading]
  cases f s <;> rfl

theorem outcome_reading_bind (f : σ → Except ε β) (g : β → Transaction ε σ γ) (s : σ) :
    Transaction.outcome (reading f >>= g) s = f s >>= fun b => (g b).outcome s := by
  rw [outcome_bind, outcome_reading]
  cases f s <;> rfl

theorem outcome_writing_bind (f : σ → Except ε σ) (g : Unit → Transaction ε σ γ) (s : σ) :
    Transaction.outcome (writing f >>= g) s = f s >>= (g ()).outcome := by
  unfold outcome
  rw [ending_bind, ending_writing]
  cases f s <;> rfl

/-! ## Work that leaves nothing to undo -/

/-- The work writes nothing. -/
def Reads (x : Transaction ε σ β) : Prop :=
  ∀ s, (x.ending s).2 = s

/-- Where the work fails, it has written nothing. -/
def FailsFirst (x : Transaction ε σ β) : Prop :=
  ∀ s e s', x.ending s = (.error e, s') → s' = s

variable {x : Transaction ε σ β} {f : β → Transaction ε σ γ}

theorem reads_pure (b : β) : Reads (pure b : Transaction ε σ β) := fun _ => rfl

theorem reads_reading (f : σ → Except ε β) : Reads (reading f) := fun _ => rfl

theorem Reads.bind (hx : x.Reads) (hf : ∀ b, (f b).Reads) : Reads (x >>= f) := by
  intro s
  have hs := hx s
  rw [ending_bind]
  rcases hending : x.ending s with ⟨e | b, s'⟩ <;> rw [hending] at hs
  · exact hs
  · exact (hf b s').trans hs

theorem Reads.failsFirst (hx : x.Reads) : x.FailsFirst := by
  intro s e s' h
  have hs := hx s
  rw [h] at hs
  exact hs

theorem failsFirst_writing (f : σ → Except ε σ) : FailsFirst (writing f) := by
  intro s e s' h
  rw [ending_writing] at h
  cases hf : f s with
  | ok t =>
    rw [hf] at h
    cases h
  | error e =>
    rw [hf] at h
    cases h
    rfl

/-- Work that begins by looking fails first if the rest does. -/
theorem Reads.bind_failsFirst (hx : x.Reads) (hf : ∀ b, (f b).FailsFirst) :
    FailsFirst (x >>= f) := by
  intro s e s' h
  have hs := hx s
  rw [ending_bind] at h
  rcases hending : x.ending s with ⟨e' | b, s''⟩ <;> rw [hending] at h hs
  · cases h
    exact hs
  · exact (hf b s'' e s' h).trans hs

/-- Work that ends with its value once it has written fails first. -/
theorem FailsFirst.bind_pure (hx : x.FailsFirst) (g : β → γ) :
    FailsFirst (do return g (← x)) := by
  intro s e s' h
  rw [ending_bind] at h
  rcases hending : x.ending s with ⟨e' | b, s''⟩ <;> rw [hending] at h
  · cases h
    exact hx s e s' hending
  · cases h

/-- **Work that fails first leaves nothing to undo.** -/
theorem FailsFirst.commit_eq_ending (hx : x.FailsFirst) (s : σ) : x.commit s = x.ending s := by
  unfold commit
  rcases hending : x.ending s with ⟨e | b, s'⟩
  · rw [hx s e s' hending]
  · rfl

end Transaction

end Matchmaker
