import Matchmaker.Command.Arguments
import Matchmaker.Proofs.Outcome

/-!
# What has been understood

Whatever the reader of arguments understands has the form that its option asks for: so many values,
each read as it should be. One part of the arguments adds one option with its values, so that the
form is kept from part to part.

* `Flag.Takes`: values that an option can have;
* `Flag.takes_of_read`: the values of one part are such values;
* `Understood.IsTyped`, **`isTyped_understand`**: the parts understood up to some point;
* **`Grammar.read_eq_ok`**: whatever is read is typed and, but for a call for help, complete.
-/

namespace Matchmaker.Command

/-! ## Values of an option -/

/-- What a value has been read as. -/
def Argument.reading : Argument → Reading
  | text _ => .text
  | whole _ => .whole
  | real _ => .real

/-- So many values may follow. -/
def Arity.Admits : Arity → Nat → Prop
  | none, n => n = 0
  | one, n => n = 1
  | some, n => 0 < n

namespace Flag

variable {f : Flag} {s : String} {following mine others : List String}

/-- Values that an option can have. -/
structure Takes (f : Flag) (xs : List Argument) : Prop where
  admits : f.arity.Admits xs.length
  reading : ∀ x ∈ xs, x.reading = f.reading

theorem reading_of_read {x : Argument} (h : f.read s = .ok x) : x.reading = f.reading := by
  unfold read at h
  split at h
  case h_1 hf =>
    cases h
    exact hf.symm
  case h_2 hf =>
    split at h <;> cases h
    exact hf.symm
  case h_3 hf =>
    split at h <;> cases h
    exact hf.symm

theorem admits_of_take (h : f.take following = .ok (mine, others)) :
    f.arity.Admits mine.length := by
  unfold take at h
  split at h <;> cases h
  case h_1 hf => exact hf ▸ rfl
  case h_2 hf => exact hf ▸ rfl
  case h_5 hf hne => exact hf ▸ List.length_pos_iff.2 hne

theorem admits_of_values {given : Option String}
    (h : f.values given following = .ok (mine, others)) : f.arity.Admits mine.length := by
  unfold values at h
  split at h
  · exact admits_of_take h
  · split at h
    · cases h
    · cases h
      cases hf : f.arity with
      | none => contradiction
      | one => exact rfl
      | some => exact Nat.one_pos

theorem mapM_read_eq_ok {xs : List Argument} (h : mine.mapM f.read = .ok xs) :
    xs.length = mine.length ∧ ∀ x ∈ xs, x.reading = f.reading := by
  induction mine generalizing xs with
  | nil =>
    cases h
    simp
  | cons s mine ih =>
    rw [List.mapM_cons] at h
    obtain ⟨x, hx, h⟩ := bind_eq_ok_iff.1 h
    obtain ⟨rest, hrest, h⟩ := bind_eq_ok_iff.1 h
    obtain rfl := pure_eq_ok_iff.1 h
    obtain ⟨hlength, hreading⟩ := ih hrest
    exact ⟨congrArg (· + 1) hlength, List.forall_mem_cons.2 ⟨reading_of_read hx, hreading⟩⟩

theorem takes_of_read {given : Option String} {xs : List Argument}
    (h : f.values given following = .ok (mine, others)) (hxs : mine.mapM f.read = .ok xs) :
    f.Takes xs where
  admits := (mapM_read_eq_ok hxs).1 ▸ admits_of_values h
  reading := (mapM_read_eq_ok hxs).2

end Flag

/-! ## Parts -/

/-- All that has been understood has the form that its option asks for. -/
def Understood.IsTyped (u : Understood) : Prop :=
  ∀ given ∈ u.given, given.1.Takes given.2

variable {u u' : Understood}

/-- **What is understood is typed**, if it was so far. -/
theorem isTyped_understand {rest : List Part} (hu : u.IsTyped) (h : understand u rest = .ok u') :
    u'.IsTyped := by
  induction rest generalizing u with
  | nil => exact Except.ok.inj h ▸ hu
  | cons part rest ih =>
    obtain ⟨mark, following⟩ := part
    cases mark with
    | divider | unknown =>
      rw [understand] at h
      refine ih ?_ h
      exact hu
    | flag f given =>
      rw [understand] at h
      split at h
      · exact pure_eq_ok_iff.1 h ▸ hu
      · obtain ⟨⟨mine, others⟩, hvalues, h⟩ := bind_eq_ok_iff.1 h
        obtain ⟨xs, hxs, h⟩ := bind_eq_ok_iff.1 h
        refine ih (fun given hgiven => ?_) h
        rcases List.mem_append.1 hgiven with hold | hnew
        · exact hu given hold
        · rw [List.mem_singleton.1 hnew]
          exact Flag.takes_of_read hvalues hxs

/-! ## All arguments -/

namespace Understood

theorem IsTyped.takes {f : Flag} {xs : List Argument} (hu : u.IsTyped) (h : u.find? f = some xs) :
    f.Takes xs := by
  obtain ⟨given, hgiven, rfl⟩ := Option.map_eq_some_iff.1 h
  have hsame := List.find?_some hgiven
  have hf : given.1 = f := beq_iff_eq.1 hsame
  exact hf ▸ hu given (List.mem_reverse.1 (List.mem_of_find?_eq_some hgiven))

/-- No option is missing, and nothing is left over. -/
structure IsComplete (u : Understood) (g : Grammar) : Prop where
  required : ∀ f ∈ g.required, (u.find? f).isSome = true
  leftOver : u.leftOver = []

end Understood

namespace Grammar

variable {g : Grammar}

theorem complete_eq_ok (h : g.complete u = .ok u') : u' = u ∧ u.IsComplete g := by
  unfold complete at h
  split at h
  · cases h
  · split at h
    · cases h
    · cases h
      rename_i hmissing hleft
      have hnone : g.missing u = [] := by simpa using hmissing
      refine ⟨rfl, fun f hf => ?_, by simpa using hleft⟩
      have hgiven : f ∉ g.missing u := hnone ▸ List.not_mem_nil
      simpa [missing, hf, Understood.find?, List.find?_isSome] using hgiven

/-- **What is read is typed, and but for a call for help complete.** -/
theorem read_eq_ok {arguments : List String} (h : g.read arguments = .ok u) :
    u.IsTyped ∧ (u.help = false → u.IsComplete g) := by
  obtain ⟨tokens, -, h⟩ := bind_eq_ok_iff.1 h
  obtain ⟨u', hu', h⟩ := bind_eq_ok_iff.1 h
  have htyped := isTyped_understand (u := ⟨false, [], (parts tokens).1⟩) nofun hu'
  split at h
  · cases h
    simp_all
  · obtain ⟨rfl, hcomplete⟩ := complete_eq_ok h
    exact ⟨htyped, fun _ => hcomplete⟩

end Grammar

end Matchmaker.Command
