import Matchmaker.Proofs.Lawful

/-!
# Rows added in bulk

Rows that bypass the service are checked against the constraints of their table only. Such rows are
added, one after the other, exactly where the store with all of them is lawful.

* `Store.Adds`, **`Adds.addAll_eq_ok_iff`**: what is added, row by row and in bulk;
* `adds_user`, `adds_profile`, `adds_link`, `adds_dismissal`: the four tables;
* `foldl_withUser` and the like: the store with all rows.
-/

namespace Matchmaker.Store

variable {s s' : Store} {now : Instant}

/-! ## Adding and pushing -/

/-- A row is added exactly where the store with it is lawful, and so was the store without it. -/
structure Adds {β : Type} (add : β → Store → Except Failure Store) (push : Store → β → Store) :
    Prop where
  eq_ok_iff : ∀ {s s' : Store} {x : β}, s.IsLawful →
    (add x s = .ok s' ↔ s' = push s x ∧ s'.IsLawful)
  isLawful : ∀ {s : Store} {x : β}, (push s x).IsLawful → s.IsLawful

namespace Adds

variable {β : Type} {add : β → Store → Except Failure Store} {push : Store → β → Store}

theorem isLawful_of_foldl (h : Adds add push) {xs : List β} (hxs : (xs.foldl push s).IsLawful) :
    s.IsLawful := by
  induction xs generalizing s with
  | nil => exact hxs
  | cons x xs ih => exact h.isLawful (ih hxs)

/-- **Rows are added in bulk exactly where the store with all of them is lawful.** -/
theorem addAll_eq_ok_iff (h : Adds add push) {xs : List β} (hs : s.IsLawful) :
    addAll add xs s = .ok s' ↔ s' = xs.foldl push s ∧ s'.IsLawful := by
  induction xs generalizing s with
  | nil =>
    rw [addAll, Except.ok.injEq, List.foldl_nil]
    exact ⟨fun he => ⟨he.symm, he ▸ hs⟩, fun he => he.1.symm⟩
  | cons x xs ih =>
    rw [addAll, List.foldl_cons]
    cases hx : add x s with
    | ok t =>
      obtain ⟨rfl, ht⟩ := (h.eq_ok_iff hs).1 hx
      exact ih ht
    | error e =>
      refine iff_of_false (by simp) ?_
      rintro ⟨rfl, hfoldl⟩
      -- the store with this row alone would be lawful too
      have hpush := h.isLawful_of_foldl hfoldl
      rw [(h.eq_ok_iff hs).2 ⟨rfl, hpush⟩] at hx
      cases hx

theorem addAll_of_isLawful (h : Adds add push) {xs : List β} (hxs : (xs.foldl push s).IsLawful) :
    addAll add xs s = .ok (xs.foldl push s) :=
  (h.addAll_eq_ok_iff (h.isLawful_of_foldl hxs)).2 ⟨rfl, hxs⟩

end Adds

/-! ## The four tables -/

/-- The store with one more user. -/
def withUser (s : Store) (u : User) : Store :=
  { s with users := s.users ++ [u] }

/-- The store with one more profile. -/
def withProfile (s : Store) (p : Profile) : Store :=
  { s with profiles := s.profiles ++ [p] }

/-- The row of a connection under an id. -/
def Link.row (now : Instant) (id : Int) (l : Link) : Connection where
  id := id
  requester := l.requester
  target := l.target
  status := l.status
  created := l.created.getD now
  updated := l.updated.getD now

/-- The store with one more connection under the next id. -/
def withLink (now : Instant) (s : Store) (l : Link) : Store :=
  { s with connections := s.connections ++ [l.row now s.nextConnection] }

/-- The store with one more dismissal. -/
def withDismissal (s : Store) (d : Dismissal) : Store :=
  { s with dismissals := s.dismissals ++ [d] }

theorem adds_user : Adds addUser withUser where
  eq_ok_iff {s s' u} hs := by
    constructor
    · intro h
      refine ⟨?_, hs.addUser h⟩
      unfold addUser at h
      split at h
      · exact absurd h (broken_ne_ok _ _)
      · exact (Except.ok.inj h).symm
    · rintro ⟨rfl, h⟩
      have hemail : u.email.isEmpty = false := h.emails u (by simp [withUser])
      have hids := (nodup_map_concat_iff.1 h.userIds).2
      have hemails := (nodup_map_concat_iff.1 h.userEmails).2
      have hnone : (s.users.any fun v => v.id == u.id || v.email == u.email) = false := by
        simpa [List.any_eq_false] using fun v hv => ⟨hids v hv, hemails v hv⟩
      rw [addUser, hemail, hnone]
      rfl
  isLawful {s u} h :=
    { h with
      emails := fun v hv => h.emails v (List.mem_append_left _ hv)
      userIds := (nodup_map_concat_iff.1 h.userIds).1
      userEmails := (nodup_map_concat_iff.1 h.userEmails).1 }

theorem adds_profile : Adds addProfile withProfile where
  eq_ok_iff {s s' p} hs := by
    constructor
    · intro h
      refine ⟨?_, hs.addProfile h⟩
      unfold addProfile at h
      split at h
      · exact absurd h (broken_ne_ok _ _)
      · exact (Except.ok.inj h).symm
    · rintro ⟨rfl, h⟩
      have hadmits : admitsProfile p = true := h.profiles p (by simp [withProfile])
      have hnone : s.profiles.any (·.user == p.user) = false := by
        simpa [List.any_eq_false] using (nodup_map_concat_iff.1 h.profileUsers).2
      rw [addProfile, hadmits, hnone]
      rfl
  isLawful {s p} h :=
    { h with
      profiles := fun q hq => h.profiles q (List.mem_append_left _ hq)
      profileUsers := (nodup_map_concat_iff.1 h.profileUsers).1 }

theorem adds_link : Adds (addLink now) (withLink now) where
  eq_ok_iff {s s' l} hs := by
    constructor
    · intro h
      refine ⟨?_, hs.addConnection h⟩
      unfold addLink addConnection at h
      split at h
      · exact absurd h (broken_ne_ok _ _)
      · exact (Except.ok.inj h).symm
    · rintro ⟨rfl, h⟩
      have hends : (l.requester == l.target) = false := by
        simpa [Link.row] using h.ends _ (List.mem_append_right _ (List.mem_singleton_self _))
      have hids := (nodup_map_concat_iff.1 h.ids).2
      have hdirections := (nodup_map_concat_iff.1 h.directions).2
      have hnone : (s.connections.any fun d => d.id == s.nextConnection ||
          (d.requester == l.requester && d.target == l.target)) = false := by
        rw [List.any_eq_false]
        intro d hd
        have hid : d.id ≠ s.nextConnection := hids d hd
        have hdirection : ¬ (d.requester = l.requester ∧ d.target = l.target) := by
          simpa [Link.row] using hdirections d hd
        simpa [hid] using hdirection
      simp only [addLink, addConnection, hends, hnone]
      rfl
  isLawful {s l} h :=
    { h with
      ends := fun c hc => h.ends c (List.mem_append_left _ hc)
      ids := (nodup_map_concat_iff.1 h.ids).1
      directions := (nodup_map_concat_iff.1 h.directions).1 }

theorem adds_dismissal : Adds addDismissal withDismissal where
  eq_ok_iff {s s' d} hs := by
    constructor
    · intro h
      refine ⟨?_, hs.addDismissal h⟩
      unfold addDismissal at h
      split at h
      · exact absurd h (broken_ne_ok _ _)
      · exact (Except.ok.inj h).symm
    · rintro ⟨rfl, h⟩
      have hother : (d.user == d.dismissed) = false := by
        simpa using h.dismissals d (List.mem_append_right _ (List.mem_singleton_self _))
      have hnew : s.dismissals.contains d = false := by
        have hledger : (s.dismissals ++ [d]).Nodup := h.ledger
        rw [← Bool.not_eq_true, List.contains_iff_mem]
        exact fun hd => (List.nodup_append.1 hledger).2.2 d hd d (List.mem_singleton_self d) rfl
      rw [addDismissal, hother, hnew]
      rfl
  isLawful {s d} h :=
    { h with
      dismissals := fun e he => h.dismissals e (List.mem_append_left _ he)
      ledger := (List.nodup_append.1 (show (s.dismissals ++ [d]).Nodup from h.ledger)).1 }

/-! ## All rows -/

theorem foldl_withUser (s : Store) (us : List User) :
    us.foldl withUser s = { s with users := s.users ++ us } := by
  induction us generalizing s with
  | nil => simp
  | cons u us ih => simp [ih, withUser]

theorem foldl_withProfile (s : Store) (ps : List Profile) :
    ps.foldl withProfile s = { s with profiles := s.profiles ++ ps } := by
  induction ps generalizing s with
  | nil => simp
  | cons p ps ih => simp [ih, withProfile]

theorem foldl_withDismissal (s : Store) (ds : List Dismissal) :
    ds.foldl withDismissal s = { s with dismissals := s.dismissals ++ ds } := by
  induction ds generalizing s with
  | nil => simp
  | cons d ds ih => simp [ih, withDismissal]

section AddAll

variable {us : List User} {ps : List Profile} {ds : List Dismissal}

theorem addAll_users (h : IsLawful { s with users := s.users ++ us }) :
    addAll addUser us s = .ok { s with users := s.users ++ us } := by
  rw [← foldl_withUser] at h ⊢
  exact adds_user.addAll_of_isLawful h

theorem addAll_profiles (h : IsLawful { s with profiles := s.profiles ++ ps }) :
    addAll addProfile ps s = .ok { s with profiles := s.profiles ++ ps } := by
  rw [← foldl_withProfile] at h ⊢
  exact adds_profile.addAll_of_isLawful h

theorem addAll_dismissals (h : IsLawful { s with dismissals := s.dismissals ++ ds }) :
    addAll addDismissal ds s = .ok { s with dismissals := s.dismissals ++ ds } := by
  rw [← foldl_withDismissal] at h ⊢
  exact adds_dismissal.addAll_of_isLawful h

/-- No users are added where one has an address that is in use, not even those before that one. -/
theorem addAll_users_of_used (h : ∃ u ∈ us, ∃ v ∈ s.users, v.email = u.email) :
    addAll addUser us s = broken .constraint := by
  induction us generalizing s with
  | nil => simp at h
  | cons u us ih =>
    obtain ⟨w, hw, v, hv, he⟩ := h
    rw [addAll]
    cases hu : addUser u s with
    | error e =>
      unfold addUser at hu
      split at hu
      · exact hu.symm ▸ rfl
      · cases hu
    | ok t =>
      unfold addUser at hu
      split at hu
      · cases hu
      · rename_i hnew
        cases hu
        refine ih ?_
        rcases List.mem_cons.1 hw with rfl | hw
        · refine absurd ?_ hnew
          rw [Bool.or_eq_true, List.any_eq_true]
          exact Or.inr ⟨v, hv, by simp [he]⟩
        · exact ⟨w, hw, v, List.mem_append_left _ hv, he⟩

end AddAll

/-- The two members of a connection, in its direction. -/
def ends (c : Connection) : Int × Int :=
  (c.requester, c.target)

/-- The two members of a connection that has no id yet. -/
def Link.ends (l : Link) : Int × Int :=
  (l.requester, l.target)

theorem exists_foldl_withLink (now : Instant) (s : Store) (ls : List Link) : ∃ cs,
    ls.foldl (withLink now) s = { s with connections := s.connections ++ cs } ∧
      cs.map ends = ls.map Link.ends := by
  induction ls generalizing s with
  | nil => exact ⟨[], by simp, rfl⟩
  | cons l ls ih =>
    obtain ⟨cs, hcs, hends⟩ := ih (s.withLink now l)
    refine ⟨l.row now s.nextConnection :: cs, ?_, ?_⟩
    · rw [List.foldl_cons, hcs]
      simp [withLink]
    · rw [List.map_cons, List.map_cons, hends]
      rfl

theorem isLawful_foldl_withLink (now : Instant) (hs : s.IsLawful) {ls : List Link}
    (hends : ∀ l ∈ ls, l.requester ≠ l.target)
    (hnew : (s.connections.map ends ++ ls.map Link.ends).Nodup) :
    (ls.foldl (withLink now) s).IsLawful := by
  induction ls generalizing s with
  | nil => exact hs
  | cons l ls ih =>
    have hmiddle : (s.withLink now l).connections.map ends ++ ls.map Link.ends =
        s.connections.map ends ++ (l :: ls).map Link.ends := by
      simp [withLink, Link.row, ends, Link.ends]
    refine ih ?_ (fun m hm => hends m (List.mem_cons_of_mem _ hm)) (hmiddle ▸ hnew)
    have hadd : addLink now l s = .ok (s.withLink now l) := by
      have hother : (l.requester == l.target) = false := by
        simpa using hends l List.mem_cons_self
      have hnone : (s.connections.any fun d => d.id == s.nextConnection ||
          (d.requester == l.requester && d.target == l.target)) = false := by
        rw [List.any_eq_false]
        intro d hd
        have hid : d.id ≠ s.nextConnection := Int.ne_of_lt (lt_nextConnection hd)
        have hdirection : ends d ≠ l.ends :=
          (List.nodup_append.1 hnew).2.2 _ (List.mem_map_of_mem hd) _ (by simp)
        simpa [hid, ends, Link.ends] using hdirection
      simp only [addLink, addConnection, hother, hnone]
      rfl
    exact ((adds_link.eq_ok_iff hs).1 hadd).2

end Matchmaker.Store
