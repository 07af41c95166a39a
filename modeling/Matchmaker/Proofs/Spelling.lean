import Mathlib.Data.List.TakeWhile
import Matchmaker.Compatibility.Collaboration

/-!
# Spellings that are compared alike

Texts are compared in lower case and without the blanks at their ends. Blanks that are put around
a text therefore do not count, and neither does the case of the letters `A` to `Z`. Groups are
found by the keywords that stand in a text in one piece, so that a longer text belongs to all the
groups that any piece of it belongs to.

* `trim_append_left`, `trim_append_right`: blanks around a text;
* `IsRecased`, **`lower_strip_congr`**: texts that differ in the case of letters `A` to `Z`;
* `occurs_iff_isInfix`, `touches_iff`, `touches_mono`: keywords in a text.
-/

namespace Matchmaker

namespace Text

/-! ## Blanks around a text -/

section Trim

variable {p : Char → Bool} {cs ends : List Char}

theorem trim_append_left (h : ∀ c ∈ ends, p c = true) : trim p (ends ++ cs) = trim p cs := by
  rw [trim, List.dropWhile_append_of_pos h, trim]

theorem trim_append_right (h : ∀ c ∈ ends, p c = true) : trim p (cs ++ ends) = trim p cs := by
  have hends : ends.dropWhile p = [] := List.dropWhile_eq_nil_iff.2 h
  have hreverse : ∀ c ∈ ends.reverse, p c = true := fun c hc => h c (List.mem_reverse.1 hc)
  unfold trim
  rw [List.dropWhile_append]
  split_ifs with hcs
  · rw [hends, List.isEmpty_iff.1 hcs]
  · rw [List.reverse_append, List.dropWhile_append_of_pos hreverse]

theorem trim_map {f : Char → Char} (h : ∀ c, p (f c) = p c) (cs : List Char) :
    trim p (cs.map f) = (trim p cs).map f := by
  have hp : p ∘ f = p := funext h
  simp only [trim, List.dropWhile_map, hp, ← List.map_reverse]

end Trim

/-- A text of blanks only. -/
def IsBlankText (s : String) : Prop :=
  ∀ c ∈ s.toList, isBlank c = true

instance (s : String) : Decidable (IsBlankText s) :=
  decidable_of_iff _ List.all_eq_true

theorem strip_of_isBlankText {s : String} (h : IsBlankText s) : strip s = "" := by
  have hnil : trim isBlank s.toList = [] := by
    rw [← List.append_nil s.toList, trim_append_left h]
    rfl
  rw [strip, hnil]

/-- **Blanks around a text are taken off.** -/
theorem strip_append {front back : String} (hfront : IsBlankText front) (hback : IsBlankText back)
    (s : String) : strip (front ++ s ++ back) = strip s := by
  have hlist : (front ++ s ++ back).toList = front.toList ++ s.toList ++ back.toList := by
    simp only [String.toList_append]
  rw [strip, hlist, trim_append_right hback, trim_append_left hfront, strip]

/-! ## Letter case -/

/-- The letters `A` to `Z`. -/
def capitals : List Char :=
  ['A', 'B', 'C', 'D', 'E', 'F', 'G', 'H', 'I', 'J', 'K', 'L', 'M', 'N', 'O', 'P', 'Q', 'R', 'S',
    'T', 'U', 'V', 'W', 'X', 'Y', 'Z']

theorem mem_capitals_of_range {c : Char} (hfirst : 'A'.toNat ≤ c.toNat)
    (hlast : c.toNat ≤ 'Z'.toNat) : c ∈ capitals := by
  have hrange : ∀ n ∈ List.range' 'A'.toNat 26, Char.ofNat n ∈ capitals := by decide
  rw [← Char.ofNat_toNat c]
  exact hrange c.toNat (List.mem_range'_1.2 ⟨hfirst, Nat.lt_succ_of_le hlast⟩)

theorem toLower_eq_self_of_not_mem_capitals {c : Char} (h : c ∉ capitals) : c.toLower = c := by
  unfold Char.toLower
  split_ifs with hrange
  · exact absurd (mem_capitals_of_range hrange.1 hrange.2) h
  · rfl

/-- What does not tell the letters `A` to `Z` from their lower-case forms does not tell any
character from its own. -/
theorem apply_toLower {β : Type} {f : Char → β}
    (h : capitals.map (fun c => f c.toLower) = capitals.map f) (c : Char) : f c.toLower = f c := by
  by_cases hc : c ∈ capitals
  · exact List.map_inj_left.1 h c hc
  · rw [toLower_eq_self_of_not_mem_capitals hc]

theorem isBlank_toLower (c : Char) : isBlank c.toLower = isBlank c :=
  apply_toLower (by decide) c

theorem isCased_toLower (c : Char) : isCased c.toLower = isCased c :=
  apply_toLower (by decide +kernel) c

theorem isCaseIgnorable_toLower (c : Char) : isCaseIgnorable c.toLower = isCaseIgnorable c :=
  apply_toLower (by decide +kernel) c

theorem lowerChar_toLower (c : Char) : lowerChar c.toLower = lowerChar c :=
  apply_toLower (by decide) c

theorem startsCased_map_toLower (cs : List Char) :
    startsCased (cs.map Char.toLower) = startsCased cs := by
  have hignorable : isCaseIgnorable ∘ Char.toLower = isCaseIgnorable :=
    funext isCaseIgnorable_toLower
  unfold startsCased
  rw [List.dropWhile_map, hignorable]
  cases cs.dropWhile isCaseIgnorable with
  | nil => rfl
  | cons c _ => exact isCased_toLower c

/-- Letters `A` to `Z` in lower case are to their neighbours what they are in upper case, so that
a sigma takes the same form beside them. -/
theorem lowerFrom_map_toLower (afterCased : Bool) (cs : List Char) :
    lowerFrom afterCased (cs.map Char.toLower) = lowerFrom afterCased cs := by
  induction cs generalizing afterCased with
  | nil => rfl
  | cons c cs ih =>
    have hsigma : (c.toLower == 'Σ') = (c == 'Σ') := apply_toLower (f := (· == 'Σ')) (by decide) c
    simp only [List.map_cons, lowerFrom, ih, hsigma, isCaseIgnorable_toLower, isCased_toLower,
      startsCased_map_toLower, lowerChar_toLower]

/-- Two texts that differ in the case of letters `A` to `Z` at most. -/
def IsRecased (s t : String) : Prop :=
  s.toList.map Char.toLower = t.toList.map Char.toLower

instance (s t : String) : Decidable (IsRecased s t) :=
  inferInstanceAs (Decidable (s.toList.map Char.toLower = t.toList.map Char.toLower))

/-- **The case of letters `A` to `Z` does not count** in texts that are trimmed and lowered. -/
theorem lower_strip_congr {s t : String} (h : IsRecased s t) :
    lower (strip s) = lower (strip t) := by
  have hfolded : ∀ u : String, lowerFrom false (strip u).toList =
      lowerFrom false (trim isBlank (u.toList.map Char.toLower)) := by
    intro u
    rw [toList_strip, trim_map isBlank_toLower, lowerFrom_map_toLower]
  rw [lower, lower, hfolded, hfolded, h]

/-! ## Keywords -/

theorem occurs_iff_isInfix {word text : String} :
    occurs word text = true ↔ word.toList <:+: text.toList := by
  rw [occurs_iff]
  exact exists_congr fun front => exists_congr fun back => eq_comm

theorem occurs_mono {word text longer : String} (h : text.toList <:+: longer.toList)
    (hword : occurs word text = true) : occurs word longer = true :=
  occurs_iff_isInfix.2 ((occurs_iff_isInfix.1 hword).trans h)

end Text

theorem Group.touches_iff {g : Group} {text : String} :
    g.touches text = true ↔ ∃ k ∈ g.keywords, k.toList <:+: text.toList := by
  simp only [Group.touches, List.any_eq_true, Text.occurs_iff_isInfix]

theorem Group.touches_mono {g : Group} {text longer : String}
    (h : text.toList <:+: longer.toList) (htouches : g.touches text = true) :
    g.touches longer = true := by
  obtain ⟨k, hk, hinfix⟩ := Group.touches_iff.1 htouches
  exact Group.touches_iff.2 ⟨k, hk, hinfix.trans h⟩

end Matchmaker
