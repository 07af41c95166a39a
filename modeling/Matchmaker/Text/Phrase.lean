import Matchmaker.Text.Blank

/-!
# Texts with halves of surrogate pairs

An escape in JSON can name half of a surrogate pair that stands alone. No encoding can write such a
text, but it can be compared, stripped and counted like any other, and different halves are
different.

* `Text.Piece`, `Text.Halved`: a character or half of a pair, and a text with a half in it;
* `Phrase`: a text of either kind, where a `String` stands for itself;
* `Phrase.strip`, `Phrase.length`, `Phrase.isEmpty`: as of a `String`;
* `Phrase.encoded`: the text, where an encoding can write it;
* `Phrase.standIn`: a text of characters that stands for it and for no other (`standIn_injective`).
-/

namespace Matchmaker

namespace Text

/-- A part of a text. -/
inductive Piece where
  | char (c : Char)
  /-- Half of a surrogate pair: its code less U+D800. -/
  | half (n : Fin 0x800)
  deriving DecidableEq, Repr

namespace Piece

/-- Half of a pair. -/
def isHalf : Piece → Bool
  | char _ => false
  | half _ => true

/-- A character that `strip` removes. -/
def isBlank : Piece → Bool
  | char c => Text.isBlank c
  | half _ => false

/-- The code of a part. -/
def code : Piece → Nat
  | char c => c.toNat
  | half n => 0xD800 + n

/-- The character, if it is one. -/
def char? : Piece → Option Char
  | char c => some c
  | half _ => none

/-- A character that nothing is written with, before what stands for a half. -/
def mark : Char := Char.ofNat 0x10FFFE

/-- What a part is written as in characters: the mark and a character for private use in the place
of a half, and the mark twice in the place of a mark. -/
def standIn : Piece → List Char
  | char c => if c = mark then [mark, mark] else [c]
  | half n => [mark, Char.ofNat (0x10F000 + n)]

theorem isBlank_eq_false {x : Piece} (h : x.isHalf = true) : x.isBlank = false := by
  cases x with
  | char c => cases h
  | half n => rfl

theorem toNat_privateUse (n : Fin 0x800) : (Char.ofNat (0x10F000 + n)).toNat = 0x10F000 + n := by
  have hvalid : (0x10F000 + n.val).isValidChar := Or.inr ⟨by omega, by omega⟩
  rw [Char.ofNat, dif_pos hvalid]
  rfl

theorem privateUse_ne_mark (n : Fin 0x800) : Char.ofNat (0x10F000 + n) ≠ mark := by
  intro h
  have hcode := congrArg Char.toNat h
  rw [toNat_privateUse] at hcode
  have hmark : mark.toNat = 0x10FFFE := by decide
  omega

theorem privateUse_injective {m n : Fin 0x800}
    (h : Char.ofNat (0x10F000 + m) = Char.ofNat (0x10F000 + n)) : m = n := by
  have hcode := congrArg Char.toNat h
  rw [toNat_privateUse, toNat_privateUse] at hcode
  omega

/-- No part is written as the beginning of another. -/
theorem eq_of_standIn_append {x y : Piece} {cs ds : List Char}
    (h : x.standIn ++ cs = y.standIn ++ ds) : x = y ∧ cs = ds := by
  cases x with
  | char c =>
    cases y with
    | char d =>
      simp only [standIn] at h
      split at h <;> split at h <;> simp_all
    | half n =>
      have hne := privateUse_ne_mark n
      simp only [standIn] at h
      split at h <;> simp_all
  | half m =>
    have hne := privateUse_ne_mark m
    cases y with
    | char d =>
      simp only [standIn] at h
      split at h <;> simp_all
    | half n =>
      simp only [standIn, List.cons_append, List.cons.injEq, List.nil_append, true_and] at h
      exact ⟨congrArg half (privateUse_injective h.1), h.2⟩

theorem standIn_ne_nil (x : Piece) : x.standIn ≠ [] := by
  cases x with
  | char c =>
    rw [standIn]
    split <;> exact List.cons_ne_nil _ _
  | half n => exact List.cons_ne_nil _ _

theorem flatMap_standIn_injective : Function.Injective (List.flatMap standIn) := by
  intro xs
  induction xs with
  | nil =>
    intro ys h
    cases ys with
    | nil => rfl
    | cons y ys => exact absurd (List.append_eq_nil_iff.1 h.symm).1 y.standIn_ne_nil
  | cons x xs ih =>
    intro ys h
    cases ys with
    | nil => exact absurd (List.append_eq_nil_iff.1 h).1 x.standIn_ne_nil
    | cons y ys =>
      obtain ⟨rfl, hrest⟩ := eq_of_standIn_append h
      rw [ih hrest]

end Piece

section Trim

variable {α : Type} {p q : α → Bool} {xs : List α}

theorem any_dropWhile (h : ∀ x, q x = true → p x = false) (hany : xs.any q = true) :
    (xs.dropWhile p).any q = true := by
  induction xs with
  | nil => exact hany
  | cons x xs ih =>
    cases hx : p x with
    | false => rw [List.dropWhile_cons_of_neg (by simp [hx])]; exact hany
    | true =>
      have hq : q x = false := Bool.eq_false_iff.2 fun hq => by simp [h x hq] at hx
      rw [List.dropWhile_cons_of_pos hx]
      exact ih (by simpa [List.any_cons, hq] using hany)

/-- Trimming leaves items of a class that it does not take off. -/
theorem any_trim (h : ∀ x, q x = true → p x = false) (hany : xs.any q = true) :
    (trim p xs).any q = true := by
  have hfront : ((xs.dropWhile p).reverse).any q = true := by
    rw [List.any_reverse]
    exact any_dropWhile h hany
  rw [trim, List.any_reverse]
  exact any_dropWhile h hfront

end Trim

/-- A text with half of a surrogate pair in it. -/
structure Halved where
  pieces : List Piece
  isHalved : pieces.any Piece.isHalf = true
  deriving DecidableEq, Repr

/-- The text without the blanks at its ends. -/
def Halved.strip (t : Halved) : Halved :=
  ⟨trim Piece.isBlank t.pieces, any_trim (fun _ => Piece.isBlank_eq_false) t.isHalved⟩

end Text

/-- A text. -/
inductive Phrase where
  | plain (s : String)
  | halved (t : Text.Halved)
  deriving DecidableEq, Repr

namespace Phrase

instance : Coe String Phrase := ⟨plain⟩

instance : Inhabited Phrase := ⟨plain ""⟩

/-- The text that parts make. -/
def ofPieces (xs : List Text.Piece) : Phrase :=
  if h : xs.any Text.Piece.isHalf = true then halved ⟨xs, h⟩
  else plain (String.ofList (xs.filterMap Text.Piece.char?))

/-- The parts of a text. -/
def pieces : Phrase → List Text.Piece
  | plain s => s.toList.map .char
  | halved t => t.pieces

/-- A text is the given one. -/
def is (s : String) : Phrase → Bool
  | plain t => t == s
  | halved _ => false

/-- A text without the blanks at its ends. -/
def strip : Phrase → Phrase
  | plain s => plain (Text.strip s)
  | halved t => halved t.strip

/-- How many characters and halves a text has. -/
def length : Phrase → Nat
  | plain s => s.length
  | halved t => t.pieces.length

/-- A text without characters. -/
def isEmpty : Phrase → Bool
  | plain s => s.isEmpty
  | halved _ => false

/-- The text, where an encoding can write it. -/
def encoded : Phrase → Option String
  | plain s => some s
  | halved _ => none

/-- A text in characters, which tells it from all others. -/
def standIn (p : Phrase) : String :=
  String.ofList (p.pieces.flatMap Text.Piece.standIn)

@[simp] theorem strip_plain (s : String) : (plain s).strip = plain (Text.strip s) := rfl

@[simp] theorem length_plain (s : String) : (plain s).length = s.length := rfl

@[simp] theorem isEmpty_plain (s : String) : (plain s).isEmpty = s.isEmpty := rfl

@[simp] theorem encoded_plain (s : String) : (plain s).encoded = some s := rfl

theorem encoded_eq_some_iff {p : Phrase} {s : String} : p.encoded = some s ↔ p = plain s := by
  cases p <;> simp [encoded]

/-- A text is what its parts make. -/
theorem ofPieces_pieces (p : Phrase) : ofPieces p.pieces = p := by
  cases p with
  | plain s =>
    have hhalf : ¬ (s.toList.map Text.Piece.char).any Text.Piece.isHalf = true := by
      simp [Text.Piece.isHalf]
    have hchars : (s.toList.map Text.Piece.char).filterMap Text.Piece.char? = s.toList := by
      simp [List.filterMap_map, Function.comp_def, Text.Piece.char?]
    rw [ofPieces, pieces, dif_neg hhalf, hchars, String.ofList_toList]
  | halved t => rw [ofPieces, pieces, dif_pos t.isHalved]

/-- **Different texts stay different.** -/
theorem standIn_injective {p q : Phrase} (h : p.standIn = q.standIn) : p = q := by
  have hpieces := Text.Piece.flatMap_standIn_injective (String.ofList_injective h)
  rw [← ofPieces_pieces p, hpieces, ofPieces_pieces]

theorem isEmpty_eq_false_iff {p : Phrase} : p.isEmpty = false ↔ p ≠ plain "" := by
  cases p <;> simp [isEmpty]

end Phrase

end Matchmaker
