import Matchmaker.Proofs.Spelling

/-!
# Saying more about collaboration

Descriptions of collaborations earn points for words that occur in them, and nothing is taken off
for any word. Each of the three rules counts, over the keywords of a table, what occurs in one text
or in both; whatever occurs in a piece of a text occurs in the text. So a description that another
one contains never earns more in its place.

* `tally_mono`: sums of counts;
* `keywords_mono`, `offers_mono`, `common_mono`: the three rules;
* `IsComparable`: texts that are compared as they stand;
* **`saying_more_never_lowers`**: the score of longer descriptions.
-/

namespace Matchmaker

theorem tally_mono {α : Type} {f g : α → Nat} {xs : List α} (h : ∀ x ∈ xs, f x ≤ g x) :
    tally f xs ≤ tally g xs := by
  induction xs with
  | nil => exact Nat.le_refl 0
  | cons x xs ih =>
    obtain ⟨hx, hxs⟩ := List.forall_mem_cons.1 h
    exact Nat.add_le_add hx (ih hxs)

section Containment

variable {a a' b b' : String}

theorem Taxonomy.common_mono (t : Taxonomy) (ha : a.toList <:+: a'.toList)
    (hb : b.toList <:+: b'.toList) : t.common a b ≤ t.common a' b' := by
  refine List.countP_mono_left fun g _ h => ?_
  obtain ⟨hga, hgb⟩ := Bool.and_eq_true_iff.1 h
  exact Bool.and_eq_true_iff.2 ⟨Group.touches_mono ha hga, Group.touches_mono hb hgb⟩

namespace Collaboration

theorem keywords_mono (ha : a.toList <:+: a'.toList) (hb : b.toList <:+: b'.toList) :
    keywords a b ≤ keywords a' b' := by
  refine List.countP_mono_left fun k _ h => ?_
  obtain ⟨hka, hkb⟩ := Bool.and_eq_true_iff.1 h
  exact Bool.and_eq_true_iff.2 ⟨Text.occurs_mono ha hka, Text.occurs_mono hb hkb⟩

/-- An offer that is still made is answered by every request that is still made. -/
theorem offers_mono (ha : a.toList <:+: a'.toList) (hb : b.toList <:+: b'.toList) :
    offers a b ≤ offers a' b' := by
  refine tally_mono fun g _ => ?_
  have hrequests : g.keywords.countP (Text.occurs · b) ≤ g.keywords.countP (Text.occurs · b') :=
    List.countP_mono_left fun k _ hk => Text.occurs_mono hb hk
  split_ifs with hoffer hoffer'
  · exact hrequests
  · exact absurd (Text.occurs_mono ha hoffer) hoffer'
  · exact Nat.zero_le _
  · exact Nat.le_refl 0

theorem isEmpty_of_isInfix (h : a.toList <:+: a'.toList) (hempty : a'.isEmpty = true) :
    a.isEmpty = true := by
  rw [String.isEmpty_iff] at hempty ⊢
  subst hempty
  exact String.toList_eq_nil_iff.1 (List.infix_nil.1 h)

/-- **Each rule counts no less in longer texts**, and so does their sum; a text that contains one
that is not empty is not empty either. -/
theorem scoreTexts_mono (ha : a.toList <:+: a'.toList) (hb : b.toList <:+: b'.toList) :
    scoreTexts a b ≤ scoreTexts a' b' := by
  have hempty : (a'.isEmpty || b'.isEmpty) = true → (a.isEmpty || b.isEmpty) = true := by
    rw [Bool.or_eq_true, Bool.or_eq_true]
    exact Or.imp (isEmpty_of_isInfix ha) (isEmpty_of_isInfix hb)
  have hkeywords := keywords_mono ha hb
  have hoffers := offers_mono ha hb
  have hrequests := offers_mono hb ha
  have hcommon := Taxonomy.collaborations.common_mono ha hb
  unfold scoreTexts
  split_ifs with hshort hlong hlong
  · exact Nat.zero_le _
  · exact Nat.zero_le _
  · exact absurd (hempty hlong) hshort
  · have hanswers := Nat.mul_le_mul_left complementPoints (Nat.add_le_add hoffers hrequests)
    exact Nat.add_le_add (Nat.add_le_add (Nat.mul_le_mul_left keywordPoints hkeywords) hanswers)
      (Nat.mul_le_mul_left categoryPoints hcommon)

/-! ## Descriptions -/

/-- A text that is compared as it stands: trimming and lower case leave it unchanged. -/
structure IsComparable (t : String) : Prop where
  strip : Text.strip t = t
  lower : Text.lower t = t

theorem IsComparable.comparable {t : String} (h : IsComparable t) : comparable (some t) = t := by
  rw [Matchmaker.comparable, Option.getD_some, h.strip, h.lower]

/-- **Saying more never lowers the score.** Two descriptions in compared form that contain two
others, each the one of its member, earn together no less than those do. -/
theorem saying_more_never_lowers (ha : IsComparable a) (ha' : IsComparable a')
    (hb : IsComparable b) (hb' : IsComparable b') (haa' : a.toList <:+: a'.toList)
    (hbb' : b.toList <:+: b'.toList) : score (some a) (some b) ≤ score (some a') (some b') := by
  rw [score, score, ha.comparable, ha'.comparable, hb.comparable, hb'.comparable]
  exact scoreTexts_mono haa' hbb'

/-- A second offer that the other asks for, and with it a second category in common. -/
theorem saying_more_never_lowers_sample :
    score (some "teach") (some "learn") = 15 ∧
      score (some "i teach code") (some "to learn programming") = 30 ∧
      score (some "teach") (some "learn") ≤
        score (some "i teach code") (some "to learn programming") := by
  have hmine : "teach".toList <:+: "i teach code".toList :=
    Text.occurs_iff_isInfix.1 (by decide +kernel)
  have htheirs : "learn".toList <:+: "to learn programming".toList :=
    Text.occurs_iff_isInfix.1 (by decide +kernel)
  exact ⟨by decide +kernel, by decide +kernel,
    saying_more_never_lowers ⟨by decide +kernel, by decide +kernel⟩
      ⟨by decide +kernel, by decide +kernel⟩ ⟨by decide +kernel, by decide +kernel⟩
      ⟨by decide +kernel, by decide +kernel⟩ hmine htheirs⟩

end Collaboration

end Containment

end Matchmaker
