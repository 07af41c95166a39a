/-!
# Searching a text

`Text.occurs word text` says that `word` stands somewhere in `text`, in one piece; the empty word
stands everywhere (`occurs_iff`).
-/

namespace Matchmaker.Text

/-- The characters `word` stand in one piece somewhere in the given characters. -/
def occursIn (word : List Char) : List Char → Bool
  | [] => word.isEmpty
  | c :: cs => word.isPrefixOf (c :: cs) || occursIn word cs

/-- `word` stands in one piece somewhere in `text`. -/
def occurs (word text : String) : Bool :=
  occursIn word.toList text.toList

theorem occursIn_iff {word text : List Char} :
    occursIn word text = true ↔ ∃ front back, text = front ++ word ++ back := by
  induction text with
  | nil =>
    simp only [occursIn, List.isEmpty_iff]
    constructor
    · rintro rfl; exact ⟨[], [], rfl⟩
    · rintro ⟨front, back, h⟩
      simp only [List.append_assoc, List.nil_eq, List.append_eq_nil_iff] at h
      exact h.2.1
  | cons c cs ih =>
    simp only [occursIn, Bool.or_eq_true, ih, List.isPrefixOf_iff_prefix]
    constructor
    · rintro (⟨back, h⟩ | ⟨front, back, h⟩)
      · exact ⟨[], back, by simpa using h.symm⟩
      · exact ⟨c :: front, back, by simp [h]⟩
    · rintro ⟨front, back, h⟩
      cases front with
      | nil => exact Or.inl ⟨back, by simpa using h.symm⟩
      | cons d front =>
        simp only [List.cons_append, List.cons.injEq] at h
        exact Or.inr ⟨front, back, h.2⟩

theorem occurs_iff {word text : String} : occurs word text = true ↔
    ∃ front back, text.toList = front ++ word.toList ++ back :=
  occursIn_iff

end Matchmaker.Text
