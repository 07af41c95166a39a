import Mathlib.Data.List.Perm.Basic
import Matchmaker.Seed.Draw
import Matchmaker.Proofs.Tables

/-!
# What is drawn

What holds of a draw from every stream: a position lies in its list, a choice is one of the items,
and two items at different positions of a list without repetitions are different.

* `Gives`: whatever is drawn has a property;
* `perm_without`: what is left of a list without one of its items;
* `gives_choice`, `gives_sample`, **`gives_twoOf`**: items of a list.
-/

namespace Matchmaker.Seed

variable {σ β γ : Type}

/-- Whatever is drawn has a property, from every stream. -/
def Gives (d : Draw σ β) (P : β → Prop) : Prop :=
  ∀ s, P (d.run s).1

section Gives

variable {d : Draw σ β} {P Q : β → Prop}

theorem Gives.imp (hd : Gives d P) (h : ∀ b, P b → Q b) : Gives d Q :=
  fun s => h _ (hd s)

theorem gives_pure {b : β} (h : P b) : Gives (pure b : Draw σ β) P :=
  fun _ => h

/-- What is drawn first decides how the draw goes on. -/
theorem gives_bind {f : β → Draw σ γ} {R : γ → Prop} (hd : Gives d P)
    (hf : ∀ b, P b → Gives (f b) R) : Gives (d >>= f) R :=
  fun s => hf _ (hd s) (d.run s).2

theorem gives_true (d : Draw σ β) : Gives d fun _ => True :=
  fun _ => trivial

end Gives

/-! ## Items of a list -/

section Without

variable {items : List β} {i : Nat}

/-- The last item takes the place of the one that is left out. -/
theorem perm_without (h : i < items.length) : (items[i] :: without items i).Perm items := by
  obtain rfl | ⟨front, last, rfl⟩ := List.eq_nil_or_concat' items
  · exact absurd h (Nat.not_lt_zero i)
  · rw [List.length_append, List.length_singleton] at h
    unfold without
    rw [List.getLast?_concat]
    rcases Nat.lt_or_ge i front.length with hi | hi
    · have hset : (front ++ [last]).set i last = front.set i last ++ [last] :=
        List.set_append_left i last hi
      simp only [hset, List.dropLast_concat, List.getElem_append_left hi]
      have hset' : (front[i] :: front.set i last).Perm (front[i] :: last :: front.eraseIdx i) :=
        (List.set_perm_cons_eraseIdx hi last).cons _
      have hfront : (last :: front[i] :: front.eraseIdx i).Perm (last :: front) :=
        (List.getElem_cons_eraseIdx_perm hi).cons last
      exact hset'.trans ((List.Perm.swap _ _ _).trans
        (hfront.trans (List.perm_append_singleton last front).symm))
    · obtain rfl : i = front.length := by omega
      have hset : (front ++ [last]).set front.length last = front ++ [last] := by simp
      simp only [hset, List.dropLast_concat, List.getElem_concat_length]
      exact (List.perm_append_singleton last front).symm

theorem length_without (h : i < items.length) : (without items i).length + 1 = items.length := by
  rw [← (perm_without h).length_eq, List.length_cons]

theorem mem_of_mem_without (h : i < items.length) {b : β} (hb : b ∈ without items i) :
    b ∈ items :=
  (perm_without h).subset (List.mem_cons_of_mem _ hb)

end Without

section Draws

variable [Source σ] {items : List β}

theorem gives_below {n : Nat} (hn : 0 < n) : Gives (below n : Draw σ Nat) (· < n) :=
  gives_bind (gives_true word) fun _ _ => gives_pure (Nat.mod_lt _ hn)

theorem gives_fraction {α : Type} [Scalar α] : Gives (fraction : Draw σ α) fun x =>
    ∃ k : Nat, k < 9007199254740992 ∧ x = Scalar.ofInt (k : Nat) / 9007199254740992.0 := by
  refine gives_bind (gives_true word) fun w _ => gives_pure ⟨w.toNat / 0x800, ?_, rfl⟩
  have := w.toNat_lt
  omega

variable [Inhabited β]

theorem gives_choice (h : items ≠ []) : Gives (choice items : Draw σ β) (· ∈ items) := by
  refine gives_bind (gives_below (List.length_pos_iff.2 h)) fun i hi => gives_pure ?_
  rw [List.getElem?_eq_getElem hi, Option.getD_some]
  exact List.getElem_mem hi

theorem gives_sample {n : Nat} (h : n ≤ items.length) : Gives (sample n items : Draw σ (List β))
    fun xs => xs.length = n ∧ ∀ x ∈ xs, x ∈ items := by
  induction n generalizing items with
  | zero => exact gives_pure ⟨rfl, by simp⟩
  | succ n ih =>
    refine gives_bind (gives_below (Nat.zero_lt_of_lt h)) fun i hi => ?_
    have hlength := length_without hi
    refine gives_bind (ih (by omega)) fun rest hrest => gives_pure ⟨?_, ?_⟩
    · rw [List.length_cons, hrest.1]
    · rw [List.getElem?_eq_getElem hi, Option.getD_some, List.forall_mem_cons]
      exact ⟨List.getElem_mem hi, fun x hx => mem_of_mem_without hi (hrest.2 x hx)⟩

/-- **Two items at different positions differ where no item is repeated.** -/
theorem gives_twoOf (h : items.Nodup) (htwo : 2 ≤ items.length) :
    Gives (twoOf items : Draw σ (β × β)) fun x => x.1 ∈ items ∧ x.2 ∈ items ∧ x.1 ≠ x.2 := by
  refine gives_bind (gives_below (by omega)) fun i hi => ?_
  have hlength := length_without hi
  refine gives_bind (gives_below (by omega)) fun j hj => gives_pure ?_
  rw [List.getElem?_eq_getElem hi, List.getElem?_eq_getElem hj, Option.getD_some, Option.getD_some]
  have hnodup := (perm_without hi).nodup_iff.2 h
  have hmem : (without items i)[j] ∈ without items i := List.getElem_mem hj
  refine ⟨List.getElem_mem hi, mem_of_mem_without hi hmem, fun he => ?_⟩
  have he' : items[i] = (without items i)[j] := he
  exact (List.nodup_cons.1 hnodup).1 (he' ▸ hmem)

end Draws

/-! ## Repetitions -/

section Repetitions

variable [BEq β] [LawfulBEq β]

theorem nodup_eraseDups (xs : List β) :
    xs.eraseDups.Nodup ∧ xs.eraseDups.length ≤ xs.length := by
  cases xs with
  | nil => exact ⟨.nil, Nat.le_refl _⟩
  | cons x xs =>
    have hshorter : (xs.filter fun y => !y == x).length ≤ xs.length := List.length_filter_le _ _
    obtain ⟨hnodup, hlength⟩ := nodup_eraseDups (xs.filter fun y => !y == x)
    rw [List.eraseDups_cons, List.nodup_cons, List.length_cons, List.length_cons]
    exact ⟨⟨by simp [List.mem_eraseDups], hnodup⟩, by omega⟩
termination_by xs.length

end Repetitions

end Matchmaker.Seed
