/-!
# Tables as lists

A table is a list of rows, and a key that its rows have once each is a map without repetitions.

* `eq_of_key_eq`: a row is known by its key;
* `nodup_map_concat`, `nodup_map_concat_iff`: a row with a new key at the end.
-/

namespace Matchmaker

section Keys

variable {β κ : Type} {key : β → κ} {rows : List β}

theorem eq_of_key_eq (h : (rows.map key).Nodup) {x y : β} (hx : x ∈ rows) (hy : y ∈ rows)
    (hk : key x = key y) : x = y := by
  induction rows with
  | nil => cases hx
  | cons z zs ih =>
    rw [List.map_cons, List.nodup_cons] at h
    rcases List.mem_cons.1 hx with rfl | hx' <;> rcases List.mem_cons.1 hy with rfl | hy'
    · rfl
    · exact absurd (hk ▸ List.mem_map_of_mem hy') h.1
    · exact absurd (hk ▸ List.mem_map_of_mem hx') h.1
    · exact ih h.2 hx' hy'

theorem nodup_map_concat (h : (rows.map key).Nodup) {x : β} (hx : ∀ y ∈ rows, key y ≠ key x) :
    ((rows ++ [x]).map key).Nodup := by
  rw [List.map_append, List.nodup_append]
  refine ⟨h, by simp, ?_⟩
  intro i hi j hj
  obtain ⟨y, hy, rfl⟩ := List.mem_map.1 hi
  obtain rfl := List.mem_singleton.1 hj
  exact hx y hy

theorem nodup_map_concat_iff {x : β} : ((rows ++ [x]).map key).Nodup ↔
    (rows.map key).Nodup ∧ ∀ y ∈ rows, key y ≠ key x := by
  refine ⟨fun h => ?_, fun h => nodup_map_concat h.1 h.2⟩
  rw [List.map_append, List.nodup_append] at h
  exact ⟨h.1, fun y hy => h.2.2 _ (List.mem_map_of_mem hy) _ (by simp)⟩

end Keys

end Matchmaker
