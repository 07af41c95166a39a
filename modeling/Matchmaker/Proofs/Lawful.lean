import Matchmaker.Proofs.Decision
import Matchmaker.Proofs.Facets
import Matchmaker.Proofs.Tables

/-!
# Lawful stores

A store is lawful when its rows keep to the constraints of their tables, those that a database
checks on every new row. Loading gives a lawful store, and no call leaves the lawful ones.

* `Store.IsLawful`: the constraints;
* **`isLawful_load`**: what is loaded is lawful;
* `upsert_eq_ok_iff`, `dismiss_eq_ok_iff`: how calls besides transitions succeed;
* `IsLawful.write`, `IsLawful.upsert`, `IsLawful.dismiss`: what the calls keep.
-/

namespace Matchmaker

namespace Store

/-- The constraints of the four tables. -/
structure IsLawful (s : Store) : Prop where
  emails : ∀ u ∈ s.users, u.email.isEmpty = false
  userIds : (s.users.map User.id).Nodup
  userEmails : (s.users.map User.email).Nodup
  profiles : ∀ p ∈ s.profiles, admitsProfile p = true
  profileUsers : (s.profiles.map Profile.user).Nodup
  ends : ∀ c ∈ s.connections, c.requester ≠ c.target
  ids : (s.connections.map Connection.id).Nodup
  directions : (s.connections.map fun c => (c.requester, c.target)).Nodup
  dismissals : ∀ d ∈ s.dismissals, d.user ≠ d.dismissed
  ledger : s.dismissals.Nodup

variable {s s' : Store}

theorem isLawful_empty : empty.IsLawful where
  emails _ h := absurd h List.not_mem_nil
  userIds := .nil
  userEmails := .nil
  profiles _ h := absurd h List.not_mem_nil
  profileUsers := .nil
  ends _ h := absurd h List.not_mem_nil
  ids := .nil
  directions := .nil
  dismissals _ h := absurd h List.not_mem_nil
  ledger := .nil

/-! ## Look-ups -/

section LookUps

variable {user : Int} {p : Profile}

theorem isComplete_iff : s.isComplete user = true ↔
    ∃ p, s.profile? user = some p ∧ p.complete = true := by
  unfold isComplete
  cases s.profile? user <;> simp

theorem mem_of_profile? (h : s.profile? user = some p) : p ∈ s.profiles ∧ p.user = user :=
  ⟨List.mem_of_find?_eq_some h, by simpa using List.find?_some h⟩

theorem IsLawful.profile?_eq_some (hs : s.IsLawful) (hp : p ∈ s.profiles) :
    s.profile? p.user = some p := by
  cases hfound : s.profile? p.user with
  | none => exact absurd (List.find?_eq_none.1 hfound p hp) (by simp)
  | some q =>
    obtain ⟨hq, huser⟩ := mem_of_profile? hfound
    rw [eq_of_key_eq hs.profileUsers hq hp huser]

end LookUps

/-! ## New rows -/

namespace IsLawful

theorem addUser (h : s.IsLawful) {u : User} (hu : s.addUser u = .ok s') : s'.IsLawful := by
  unfold Store.addUser at hu
  split at hu
  · cases hu
  · rename_i hn
    cases hu
    simp only [Bool.or_eq_true, List.any_eq_true, beq_iff_eq, not_or, not_exists, not_and,
      Bool.not_eq_true] at hn
    obtain ⟨hemail, hnew⟩ := hn
    refine { h with emails := ?_, userIds := ?_, userEmails := ?_ }
    · intro v hv
      rcases List.mem_append.1 hv with hv | hv
      · exact h.emails v hv
      · rw [List.mem_singleton.1 hv]
        exact hemail
    · exact nodup_map_concat h.userIds fun v hv => (hnew v hv).1
    · exact nodup_map_concat h.userEmails fun v hv => (hnew v hv).2

theorem addProfile (h : s.IsLawful) {p : Profile} (hp : s.addProfile p = .ok s') :
    s'.IsLawful := by
  unfold Store.addProfile at hp
  split at hp
  · cases hp
  · rename_i hn
    cases hp
    simp only [Bool.or_eq_true, Bool.not_eq_true', List.any_eq_true, beq_iff_eq, not_or,
      not_exists, not_and, Bool.not_eq_false] at hn
    obtain ⟨hadmits, hnew⟩ := hn
    refine { h with profiles := ?_, profileUsers := nodup_map_concat h.profileUsers hnew }
    intro q hq
    rcases List.mem_append.1 hq with hq | hq
    · exact h.profiles q hq
    · rw [List.mem_singleton.1 hq]
      exact hadmits

theorem addConnection (h : s.IsLawful) {c : Connection} (hc : s.addConnection c = .ok s') :
    s'.IsLawful := by
  unfold Store.addConnection at hc
  split at hc
  · cases hc
  · rename_i hn
    cases hc
    simp only [Bool.or_eq_true, Bool.and_eq_true, List.any_eq_true, beq_iff_eq, not_or,
      not_exists, not_and] at hn
    obtain ⟨hends, hnew⟩ := hn
    refine { h with ends := ?_, ids := ?_, directions := ?_ }
    · intro d hd
      rcases List.mem_append.1 hd with hd | hd
      · exact h.ends d hd
      · rw [List.mem_singleton.1 hd]
        exact hends
    · exact nodup_map_concat h.ids fun d hd => (hnew d hd).1
    · refine nodup_map_concat h.directions fun d hd hdir => ?_
      rw [Prod.mk.injEq] at hdir
      exact (hnew d hd).2 hdir.1 hdir.2

theorem addDismissal (h : s.IsLawful) {d : Dismissal} (hd : s.addDismissal d = .ok s') :
    s'.IsLawful := by
  unfold Store.addDismissal at hd
  split at hd
  · cases hd
  · rename_i hn
    cases hd
    simp only [Bool.or_eq_true, beq_iff_eq, List.contains_iff_mem, not_or] at hn
    obtain ⟨hown, hnew⟩ := hn
    refine { h with dismissals := ?_, ledger := ?_ }
    · intro e he
      rcases List.mem_append.1 he with he | he
      · exact h.dismissals e he
      · rw [List.mem_singleton.1 he]
        exact hown
    · have hkey : ((s.dismissals ++ [d]).map id).Nodup :=
        nodup_map_concat (by rw [List.map_id]; exact h.ledger) fun e he hed =>
          hnew ((show e = d from hed) ▸ he)
      rwa [List.map_id] at hkey

end IsLawful

theorem addAll_induction {β : Type} {add : β → Store → Except Failure Store} {P : Store → Prop}
    (hadd : ∀ x s s', P s → add x s = .ok s' → P s') (xs : List β) :
    ∀ {s s'}, P s → addAll add xs s = .ok s' → P s' := by
  induction xs with
  | nil =>
    intro s s' hs h
    cases h
    exact hs
  | cons x xs ih =>
    intro s s' hs h
    rw [addAll] at h
    split at h
    · rename_i t ht
      exact ih (hadd x s t hs ht) h
    · cases h

theorem storing_eq_ok {β : Type} {ids : β → List Int} {add : β → Store → Except Failure Store}
    {x : β} (h : storing ids add x s = .ok s') : add x s = .ok s' := by
  unfold storing at h
  split at h
  · exact h
  · exact absurd h (broken_ne_ok _ _)

/-- **A loaded store is lawful.** -/
theorem isLawful_load {now : Instant} {users : List User} {profiles : List Profile}
    {links : List Link} {dismissals : List Dismissal}
    (h : load now users profiles links dismissals = .ok s) : s.IsLawful := by
  obtain ⟨s₁, h₁, h⟩ := bind_eq_ok_iff.1 h
  obtain ⟨s₂, h₂, h⟩ := bind_eq_ok_iff.1 h
  obtain ⟨s₃, h₃, h₄⟩ := bind_eq_ok_iff.1 h
  have l₁ : s₁.IsLawful :=
    addAll_induction (fun _ _ _ hs h => hs.addUser (storing_eq_ok h)) users isLawful_empty h₁
  have l₂ : s₂.IsLawful := by
    refine addAll_induction (fun p t t' ht h => ?_) profiles l₁ h₂
    obtain ⟨q, -, hq⟩ := bind_eq_ok_iff.1 (storing_eq_ok h)
    exact ht.addProfile hq
  have l₃ : s₃.IsLawful := by
    refine addAll_induction (fun l t t' ht h => ?_) links l₂ h₃
    have hl : addLink now l t = .ok t' := storing_eq_ok h
    exact ht.addConnection hl
  exact addAll_induction (fun _ _ _ hs h => hs.addDismissal (storing_eq_ok h)) dismissals l₃ h₄

/-! ## Calls -/

theorem upsert_eq_ok_iff {user : Int} {payload : Json.Value} {p : Profile} :
    s.upsert user payload = .ok (p, s') ↔ ∃ f, Facets.validate payload = .ok f ∧
      (s.user? user).isSome = true ∧ Profile.ofFacets user f = .ok p ∧ s' = s.putProfile p := by
  simp only [upsert_eq, bind_eq_ok_iff]
  refine exists_congr fun f => and_congr_right fun _ => ?_
  cases hu : s.user? user with
  | none => simp
  | some u =>
    simp only [Option.isNone_some, Bool.false_eq_true, if_false, bind_eq_ok_iff, pure_eq_ok_iff,
      Prod.mk.injEq, Option.isSome_some, true_and]
    constructor
    · rintro ⟨q, hq, rfl, rfl⟩
      exact ⟨hq, rfl⟩
    · rintro ⟨hq, rfl⟩
      exact ⟨p, hq, rfl, rfl⟩

theorem dismiss_eq_ok_iff {a b : Int} {isNew : Bool} :
    s.dismiss a b = .ok (isNew, s') ↔ a ≠ b ∧ s.isComplete b = true ∧
      isNew = !s.hasDismissed a b ∧
      s' = if s.hasDismissed a b then s else { s with dismissals := s.dismissals ++ [⟨a, b⟩] } := by
  rw [dismiss_eq]
  by_cases hab : a = b
  · simp [hab]
  · rw [if_neg hab]
    cases hb : s.isComplete b with
    | false => simp
    | true =>
      cases hd : s.hasDismissed a b with
      | false =>
        simp only [Bool.not_true, Bool.not_false, Bool.false_eq_true, if_false, Except.ok.injEq,
          Prod.mk.injEq, true_and]
        exact ⟨fun h => ⟨hab, h.1.symm, h.2.symm⟩, fun h => ⟨h.2.1.symm, h.2.2.symm⟩⟩
      | true =>
        simp only [Bool.not_true, Bool.false_eq_true, if_false, if_true, Except.ok.injEq,
          Prod.mk.injEq, true_and]
        exact ⟨fun h => ⟨hab, h.1.symm, h.2.symm⟩, fun h => ⟨h.2.1.symm, h.2.2.symm⟩⟩

namespace IsLawful

theorem write (h : s.IsLawful) {now : Instant} {a b : Int} {w : Transition.Write} (hab : a ≠ b)
    (hw : w.IsOn s.connections a b) : (s.write now w).IsLawful := by
  rw [write_eq]
  refine { h with ends := ?_, ids := ?_, directions := ?_ }
  · intro c hc
    rcases origin_of_mem_apply hw hc with ⟨d, hd, -, hr, ht⟩ | ⟨-, rfl⟩
    · rw [hr, ht]
      exact h.ends d hd
    · exact hab
  · exact nodup_ids_apply h.ids fun _ _ _ c hc => Int.ne_of_lt (lt_nextConnection hc)
  · exact nodup_directions_apply h.directions hw

theorem run (h : s.IsLawful) {now : Instant} {t : Transition} {a b : Int} {o : Transition.Outcome}
    (hrun : t.run now a b s = .ok (o, s')) : s'.IsLawful := by
  obtain ⟨hab, w, hw, -, rfl⟩ := Transition.run_eq_ok_iff.1 hrun
  exact h.write hab hw.isOn

theorem putProfile (h : s.IsLawful) {p : Profile} (hp : admitsProfile p = true) :
    (s.putProfile p).IsLawful := by
  unfold Store.putProfile
  split
  · refine { h with profiles := ?_, profileUsers := ?_ }
    · intro q hq
      obtain ⟨r, hr, rfl⟩ := List.mem_map.1 hq
      split
      · exact hp
      · exact h.profiles r hr
    · rw [List.map_map]
      have hkey : Profile.user ∘ (fun q => if q.user == p.user then p else q) = Profile.user := by
        funext q
        simp only [Function.comp_apply]
        split
        · rename_i hq
          exact (beq_iff_eq.1 hq).symm
        · rfl
      rw [hkey]
      exact h.profileUsers
  · rename_i hn
    apply h.addProfile
    unfold Store.addProfile
    rw [hp, Bool.eq_false_iff.2 hn]
    rfl

theorem upsert (h : s.IsLawful) {user : Int} {payload : Json.Value} {p : Profile}
    (hu : s.upsert user payload = .ok (p, s')) : s'.IsLawful := by
  obtain ⟨f, hf, -, hp, rfl⟩ := upsert_eq_ok_iff.1 hu
  exact h.putProfile (Profile.admitsProfile_of_facets hf hp)

theorem dismiss (h : s.IsLawful) {a b : Int} {isNew : Bool}
    (hd : s.dismiss a b = .ok (isNew, s')) : s'.IsLawful := by
  obtain ⟨hab, -, -, rfl⟩ := dismiss_eq_ok_iff.1 hd
  cases hn : s.hasDismissed a b with
  | true => exact h
  | false =>
    apply h.addDismissal
    unfold Store.hasDismissed at hn
    unfold Store.addDismissal
    rw [hn, beq_false_of_ne hab]
    rfl

end IsLawful

end Store

end Matchmaker
