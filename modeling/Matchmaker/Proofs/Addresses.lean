import Matchmaker.Api.Url
import Matchmaker.Proofs.Numerals
import Matchmaker.Proofs.Routing

/-!
# Addresses of the service

A path that holds letters, digits and slashes only is looked at as it was written, and behind a base
of a scheme and an authority it is what a URL asks for.

* `Text.splitOn_intercalate`: parts without the separator are cut where they were joined;
* `segments_ofText`: the segments of a plain path;
* `Url.IsOrigin`, **`target_ofText`**: a base, and the target of a URL with it.
-/

namespace Matchmaker

/-! ## Texts -/

namespace Text

theorem splitOn_of_not_mem {x : Char} {cs : List Char} (h : x ∉ cs) : splitOn x cs = [cs] := by
  induction cs with
  | nil => rfl
  | cons c cs ih =>
    rw [List.mem_cons, not_or] at h
    have hc : (c == x) = false := beq_eq_false_iff_ne.2 (Ne.symm h.1)
    simp [splitOn, hc, ih h.2]

theorem splitOn_append {x : Char} {cs : List Char} (h : x ∉ cs) (rest : List Char) :
    splitOn x (cs ++ x :: rest) = cs :: splitOn x rest := by
  induction cs with
  | nil => simp [splitOn]
  | cons c cs ih =>
    rw [List.mem_cons, not_or] at h
    have hc : (c == x) = false := beq_eq_false_iff_ne.2 (Ne.symm h.1)
    simp [splitOn, hc, ih h.2]

theorem splitOn_intercalate {x : Char} {parts : List (List Char)} (hne : parts ≠ [])
    (h : ∀ part ∈ parts, x ∉ part) : splitOn x ([x].intercalate parts) = parts := by
  induction parts with
  | nil => exact absurd rfl hne
  | cons part parts ih =>
    have hpart := h part List.mem_cons_self
    cases parts with
    | nil => rw [List.intercalate_singleton, splitOn_of_not_mem hpart]
    | cons next rest =>
      have hrest := ih (by simp) fun p hp => h p (List.mem_cons_of_mem part hp)
      rw [List.intercalate_cons_cons, List.append_assoc, List.singleton_append,
        splitOn_append hpart, hrest]

end Text

/-! ## Plain characters -/

section Plain

variable {c : Char} {cs : List Char}

theorem ne_of_isAlphanum {x : Char} (hx : x.isAlphanum = false) (h : c.isAlphanum = true) :
    c ≠ x := by
  rintro rfl
  rw [hx] at h
  cases h

theorem toNat_lt_of_isAlphanum (h : c.isAlphanum = true) : c.toNat < 0x80 := by
  have hlast : ∀ last : Char, last.toNat < 0x80 → c.val ≤ last.val → c.toNat < 0x80 :=
    fun last hlast hle => Nat.lt_of_le_of_lt (UInt32.le_iff_toNat_le.1 hle) hlast
  rcases Bool.or_eq_true_iff.1 h with halpha | hdigit
  · rcases Bool.or_eq_true_iff.1 halpha with hupper | hlower
    · exact hlast 'Z' (by decide) (of_decide_eq_true hupper).2
    · exact hlast 'z' (by decide) (of_decide_eq_true (Bool.and_eq_true_iff.1 hlower).2)
  · exact hlast '9' (by decide) (of_decide_eq_true (Bool.and_eq_true_iff.1 hdigit).2)

theorem Decimal.IsDigit.isAlphanum (h : Decimal.IsDigit c) : c.isAlphanum = true := by
  have hdigit : ∀ d < 10, (Nat.digitChar d).isAlphanum = true := by decide
  obtain ⟨d, hd, rfl⟩ := h
  exact hdigit d hd

namespace Text

theorem toList_toByteArray_singleton (b : UInt8) : [b].toByteArray.toList = [b] := by
  simp [ByteArray.toList, ByteArray.toList.loop, ← ByteArray.size_data, List.data_toByteArray]
  rfl

theorem encodeChar_of_lt (h : c.toNat < 0x80) : Utf8.encodeChar c = [c.toNat] := by
  have hsize : c.utf8Size = 1 := by
    rw [Char.utf8Size_eq_one_iff, UInt32.le_iff_toNat_le]
    exact Nat.le_of_lt_succ h
  have hbyte : c.val.toUInt8.toNat = c.toNat := Nat.mod_eq_of_lt (Nat.lt_trans h (by decide))
  unfold Utf8.encodeChar String.toUTF8
  rw [String.toByteArray_singleton, List.utf8Encode_singleton,
    String.utf8EncodeChar_eq_singleton hsize, toList_toByteArray_singleton, List.map_singleton,
    hbyte]

theorem decodeFrom_of_lt {bytes : List Nat} (h : ∀ b ∈ bytes, b < 0x80) :
    Utf8.decodeFrom none bytes = bytes.map Char.ofNat := by
  induction bytes with
  | nil => rfl
  | cons b bytes ih =>
    have hb := h b List.mem_cons_self
    have hrest := ih fun n hn => h n (List.mem_cons_of_mem b hn)
    simp [Utf8.decodeFrom, Utf8.next, Utf8.lead, hb, hrest]

theorem decodeBytes_of_plain (h : ∀ c ∈ cs, c ≠ '%' ∧ c.toNat < 0x80) :
    Percent.decodeBytes cs = cs.map Char.toNat := by
  induction cs with
  | nil => rfl
  | cons c cs ih =>
    obtain ⟨hc, hlt⟩ := h c List.mem_cons_self
    have hrest := ih fun d hd => h d (List.mem_cons_of_mem c hd)
    rw [Percent.decodeBytes, encodeChar_of_lt hlt, hrest]
    · rfl
    · exact fun _ _ _ hpercent _ => hc hpercent

theorem decode_of_plain (h : ∀ c ∈ cs, c ≠ '%' ∧ c.toNat < 0x80) : Percent.decode cs = cs := by
  have hbytes : ∀ b ∈ cs.map Char.toNat, b < 0x80 := by
    intro b hb
    obtain ⟨c, hc, rfl⟩ := List.mem_map.1 hb
    exact (h c hc).2
  rw [Percent.decode, decodeBytes_of_plain h, Utf8.decode, decodeFrom_of_lt hbytes, List.map_map]
  exact List.map_id'' (fun c => Char.ofNat_toNat c) cs

end Text

end Plain

namespace Api

/-! ## Paths -/

/-- The parts of a path, each of letters and digits. -/
structure IsPlainPath (parts : List (List Char)) : Prop where
  ne_nil : parts ≠ []
  alphanum : ∀ part ∈ parts, ∀ c ∈ part, c.isAlphanum = true

/-- The text of a path. -/
def pathOf (parts : List (List Char)) : List Char :=
  '/' :: ['/'].intercalate parts

section Paths

variable {parts : List (List Char)}

theorem mem_intercalate {x c : Char} (h : c ∈ [x].intercalate parts) :
    c = x ∨ ∃ part ∈ parts, c ∈ part := by
  induction parts with
  | nil => cases h
  | cons part parts ih =>
    cases parts with
    | nil =>
      rw [List.intercalate_singleton] at h
      exact Or.inr ⟨part, List.mem_cons_self, h⟩
    | cons next rest =>
      rw [List.intercalate_cons_cons, List.mem_append, List.mem_append, List.mem_singleton] at h
      rcases h with (h | h) | h
      · exact Or.inr ⟨part, List.mem_cons_self, h⟩
      · exact Or.inl h
      · exact (ih h).imp_right fun ⟨p, hp, hc⟩ => ⟨p, List.mem_cons_of_mem part hp, hc⟩

theorem IsPlainPath.mem_pathOf (h : IsPlainPath parts) {c : Char} (hc : c ∈ pathOf parts) :
    c = '/' ∨ c.isAlphanum = true := by
  rcases List.mem_cons.1 hc with rfl | hc
  · exact Or.inl rfl
  · rcases mem_intercalate hc with rfl | ⟨part, hpart, hc⟩
    · exact Or.inl rfl
    · exact Or.inr (h.alphanum part hpart c hc)

theorem IsPlainPath.ne_of_mem (h : IsPlainPath parts) {x c : Char} (hx : x.isAlphanum = false)
    (hslash : x ≠ '/') (hc : c ∈ pathOf parts) : c ≠ x := by
  rcases h.mem_pathOf hc with rfl | hc
  · exact Ne.symm hslash
  · exact ne_of_isAlphanum hx hc

theorem IsPlainPath.takeWhile_eq (h : IsPlainPath parts) {x : Char} (hx : x.isAlphanum = false)
    (hslash : x ≠ '/') : (pathOf parts).takeWhile (· != x) = pathOf parts := by
  rw [List.takeWhile_eq_self_iff]
  exact fun c hc => bne_iff_ne.2 (h.ne_of_mem hx hslash hc)

theorem resolve_of_plain (h : ∀ part ∈ parts, part ≠ ['.'] ∧ part ≠ ['.', '.']) :
    Target.resolve parts = parts := by
  have key : ∀ done : List (List Char), parts.foldl
      (fun done part =>
        if part == ['.'] then done
        else if part == ['.', '.'] then Target.ascend done else done ++ [part])
      done = done ++ parts := by
    induction parts with
    | nil => simp
    | cons part parts ih =>
      intro done
      have hdot : (part == ['.']) = false :=
        beq_eq_false_iff_ne.2 (h part List.mem_cons_self).1
      have hdots : (part == ['.', '.']) = false :=
        beq_eq_false_iff_ne.2 (h part List.mem_cons_self).2
      have hrest := ih fun p hp => h p (List.mem_cons_of_mem part hp)
      simp only [List.foldl_cons, hdot, hdots, Bool.false_eq_true, if_false, hrest,
        List.append_assoc, List.singleton_append]
  exact key []

/-- **The segments of a plain path are its parts.** -/
theorem segments_ofText {s : String} (h : IsPlainPath parts) (hs : s.toList = pathOf parts) :
    (Target.ofText s).segments = parts.map String.ofList := by
  have hparts : Text.splitOn '/' (['/'].intercalate parts) = parts :=
    Text.splitOn_intercalate h.ne_nil fun part hpart hmem =>
      ne_of_isAlphanum (by decide) (h.alphanum part hpart _ hmem) rfl
  have hsplit : Text.splitOn '/' (pathOf parts) = [] :: parts := by
    rw [pathOf, Text.splitOn, hparts]
    rfl
  have hresolve : Target.resolve ([] :: parts) = [] :: parts := by
    refine resolve_of_plain fun part hpart => ?_
    have hdot : '.' ∉ part := by
      intro hmem
      rcases List.mem_cons.1 hpart with rfl | hpart
      · cases hmem
      · exact ne_of_isAlphanum (by decide) (h.alphanum part hpart _ hmem) rfl
    exact ⟨fun he => hdot (by simp [he]), fun he => hdot (by simp [he])⟩
  have hjoined : ['/'].intercalate ([] :: parts) = pathOf parts := by
    rw [← hsplit, Text.intercalate_splitOn]
  have hdecode : Text.Percent.decode (pathOf parts) = pathOf parts :=
    Text.decode_of_plain fun c hc => by
      refine ⟨h.ne_of_mem (by decide) (by decide) hc, ?_⟩
      rcases h.mem_pathOf hc with rfl | hc
      · decide
      · exact toNat_lt_of_isAlphanum hc
  have hhead : ((pathOf parts).head? == some '/') = true := rfl
  simp only [Target.ofText, hs, h.takeWhile_eq (x := '#') (by decide) (by decide),
    h.takeWhile_eq (x := '?') (by decide) (by decide),
    hsplit, hresolve, hjoined, hhead, if_true, hdecode, Target.segments]
  exact congrArg _ hparts

end Paths

/-! ## URLs -/

namespace Url

/-- A character of an authority. -/
def isInside (c : Char) : Bool :=
  c != '/' && c != '?' && c != '#'

variable {scheme authority : List Char} {first : Char}

theorem splitScheme_append (hfirst : first.isAlpha = true)
    (hscheme : ∀ c ∈ first :: scheme, isSchemeChar c = true) (rest : List Char) :
    splitScheme (first :: scheme ++ ':' :: rest) = (first :: scheme, rest) := by
  have htake : (first :: scheme ++ ':' :: rest).takeWhile isSchemeChar = first :: scheme := by
    rw [List.takeWhile_append_of_pos hscheme, List.takeWhile_cons_of_neg (by decide),
      List.append_nil]
  have hhead : ((first :: scheme ++ ':' :: rest).head?.map Char.isAlpha).getD false = true := hfirst
  have hdrop : (first :: scheme ++ ':' :: rest).drop (first :: scheme).length = ':' :: rest :=
    List.drop_left
  simp only [splitScheme, hhead, if_true, htake, hdrop]

theorem splitAuthority_append (hauthority : ∀ c ∈ authority, isInside c = true)
    (rest : List Char) :
    splitAuthority ('/' :: '/' :: (authority ++ '/' :: rest)) = (authority, '/' :: rest) := by
  have htake : (authority ++ '/' :: rest).takeWhile isInside = authority := by
    rw [List.takeWhile_append_of_pos hauthority, List.takeWhile_cons_of_neg (by decide),
      List.append_nil]
  have hdrop : (authority ++ '/' :: rest).dropWhile isInside = '/' :: rest := by
    rw [List.dropWhile_append_of_pos hauthority, List.dropWhile_cons_of_neg (by decide)]
  exact Prod.ext htake hdrop

/-- A scheme, an authority with a host, and nothing else: what the paths of a service are put
behind. -/
structure IsOrigin (base : String) (first : Char) (scheme authority : List Char) : Prop where
  toList : base.toList = first :: scheme ++ ':' :: '/' :: '/' :: authority
  alpha : first.isAlpha = true
  isSchemeChar : ∀ c ∈ first :: scheme, Url.isSchemeChar c = true
  isInside : ∀ c ∈ authority, Url.isInside c = true
  host : (Url.mk (first :: scheme) authority [] none).host ≠ []

/-- **Behind an origin a plain path is what a URL asks for.** -/
theorem target_ofText {base path : String} {parts : List (List Char)}
    (h : IsOrigin base first scheme authority) (hparts : IsPlainPath parts)
    (hpath : path.toList = pathOf parts) : (ofText (base ++ path)).target = path := by
  have htext : (base ++ path).toList =
      first :: scheme ++ ':' :: ('/' :: '/' :: (authority ++ pathOf parts)) := by
    rw [String.toList_append, h.toList, hpath]
    simp
  have hsplit : splitAuthority ('/' :: '/' :: (authority ++ pathOf parts)) =
      (authority, pathOf parts) := splitAuthority_append h.isInside _
  have hnumber := hparts.takeWhile_eq (x := '#') (by decide) (by decide)
  have hquestion := hparts.takeWhile_eq (x := '?') (by decide) (by decide)
  have hnone : (pathOf parts).dropWhile (· != '?') = [] := by
    rw [List.dropWhile_eq_nil_iff]
    exact fun c hc => bne_iff_ne.2 (hparts.ne_of_mem (by decide) (by decide) hc)
  have hurl : ofText (base ++ path) = ⟨first :: scheme, authority, pathOf parts, none⟩ := by
    unfold ofText
    rw [htext]
    simp only [ofChars, splitScheme_append h.alpha h.isSchemeChar, hsplit, hnumber, hquestion,
      hnone]
  have habsolute : (Url.mk (first :: scheme) authority (pathOf parts) none).isAbsolute = true := by
    have hhost : (Url.mk (first :: scheme) authority (pathOf parts) none).host ≠ [] := h.host
    simp [isAbsolute, hhost]
  rw [hurl, target, if_pos habsolute, ← hpath]
  simp

end Url

end Api

end Matchmaker
