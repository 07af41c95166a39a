import Matchmaker.Proofs.Deciding
import Matchmaker.Proofs.Recommendation

/-!
# Pools of candidates

Whom a member is shown depends on the rows between them and others and on their own dismissals. A
new row takes each of its two members out of the pool of the other, a dismissal takes the dismissed
member out of the pool of the one who dismisses, and everybody else is left where they were.

* `Store.IsUnseen`: a member is not shown another, whatever the distances and the scores;
* `openProfiles_insert`, `openProfiles_dismiss`: the pool of a member after a new row or dismissal;
* **`candidates_filter`**: where profiles leave a pool, the candidates are the old ones without
  them.
-/

namespace Matchmaker.Store

variable {s s' : Store} {a b x y : Int}

/-! ## Who is not shown -/

/-- `b` is no candidate of `a` and is not recommended to them. -/
structure IsUnseen (s : Store) (a b : Int) : Prop where
  candidates : ∀ {α : Type} [Scalar α] (g : Geometry α) (me : Profile) cs, me.user = a →
    s.candidates g me = .ok cs → ∀ c ∈ cs, c.profile.user ≠ b
  recommended : ∀ {α : Type} [Scalar α] (g : Geometry α) ids,
    s.recommendedIds g a = .ok ids → b ∉ ids

theorem isUnseen_of_not_isOpen (h : ∀ p, s.IsOpen a p → p.user ≠ b) : s.IsUnseen a b where
  candidates g me cs hme hcs c hc := h c.profile (hme ▸ isOpen_of_candidates hcs hc)
  recommended g ids hids hb := by
    obtain ⟨p, hopen, huser⟩ := isOpen_of_recommendedIds hids hb
    exact h p hopen huser

theorem IsOpen.deciding?_eq_none {p : Profile} (h : s.IsOpen a p) : s.deciding? a p.user = none :=
  deciding?_eq_none_iff.2 (List.isEmpty_iff.1 (pairRows_isEmpty_iff.2 h.unconnected))

theorem isUnseen_of_deciding? {c : Connection} (h : s.deciding? a b = some c) :
    s.IsUnseen a b := by
  refine isUnseen_of_not_isOpen ?_
  rintro p hopen rfl
  rw [hopen.deciding?_eq_none] at h
  cases h

theorem isUnseen_of_hasDismissed (h : s.hasDismissed a b = true) : s.IsUnseen a b := by
  refine isUnseen_of_not_isOpen ?_
  rintro p hopen rfl
  rw [hasDismissed, List.contains_iff_mem] at h
  exact hopen.undismissed h

/-! ## Profiles that may be recommended -/

theorem openProfiles_eq_filter (hprofiles : s'.profiles = s.profiles) {me : Int}
    {q : Profile → Bool} (h : ∀ p, s'.isOpenTo me p = (q p && s.isOpenTo me p)) :
    s'.openProfiles me = (s.openProfiles me).filter q := by
  unfold openProfiles profilesByUser
  rw [List.filter_filter, hprofiles]
  exact List.filter_congr fun p _ => h p

theorem openProfiles_insert (now : Instant) (x y me : Int) :
    (s.write now (.insert x y)).openProfiles me =
      (s.openProfiles me).filter fun p => Lock.key x y != Lock.key me p.user := by
  have hprofiles : (s.write now (.insert x y)).profiles = s.profiles := rfl
  refine openProfiles_eq_filter hprofiles fun p => ?_
  have hrows : ((s.write now (.insert x y)).pairRows me p.user).isEmpty =
      (Lock.key x y != Lock.key me p.user && (s.pairRows me p.user).isEmpty) := by
    rw [write_eq, pairRows_eq, pairRows_eq, rowsOf_insert]
    by_cases h : Lock.key x y = Lock.key me p.user
    · have hrow : (⟨s.nextConnection, x, y, .pending, now, now⟩ : Connection).pair =
          Lock.key me p.user := h
      rw [rowsOf_singleton hrow]
      simp [h]
    · have hrow : (⟨s.nextConnection, x, y, .pending, now, now⟩ : Connection).pair ≠
          Lock.key me p.user := h
      rw [rowsOf_singleton_of_ne hrow, List.append_nil]
      simp [h]
  unfold isOpenTo
  rw [hrows]
  simp only [Bool.and_assoc, Bool.and_left_comm]
  rfl

theorem openProfiles_dismiss (x y me : Int) :
    ({ s with dismissals := s.dismissals ++ [⟨x, y⟩] } : Store).openProfiles me =
      (s.openProfiles me).filter fun p => (⟨me, p.user⟩ : Dismissal) != ⟨x, y⟩ := by
  let s' : Store := { s with dismissals := s.dismissals ++ [⟨x, y⟩] }
  have hprofiles : s'.profiles = s.profiles := rfl
  refine openProfiles_eq_filter hprofiles fun p => ?_
  have hledger : (!s'.hasDismissed me p.user) =
      ((⟨me, p.user⟩ : Dismissal) != ⟨x, y⟩ && !s.hasDismissed me p.user) := by
    have hcontains : s'.hasDismissed me p.user =
        (s.hasDismissed me p.user || (⟨me, p.user⟩ : Dismissal) == ⟨x, y⟩) := by
      simp only [s', hasDismissed, List.contains_append, List.contains_cons, List.contains_nil,
        Bool.or_false]
    rw [hcontains, Bool.not_or, Bool.and_comm]
    rfl
  unfold isOpenTo
  rw [hledger, Bool.and_left_comm]
  rfl

/-! ## Candidates -/

section Candidates

variable {α : Type} {g : Geometry α} {me : Profile} {q : Profile → Bool}

theorem measured_filter {ps : List Profile} {cs : List (Candidate α)}
    (h : measured g me ps = .ok cs) :
    measured g me (ps.filter q) = .ok (cs.filter fun c => q c.profile) := by
  obtain ⟨rfl, hdistances⟩ := measured_eq_ok_iff.1 h
  refine measured_eq_ok_iff.2 ⟨?_, fun c hc => hdistances c (List.mem_filter.1 hc).1⟩
  rw [List.filter_map]
  rfl

variable [Scalar α]

/-- The candidates of the member under an id, who needs a complete profile. -/
def candidatesOf (g : Geometry α) (s : Store) (user : Int) :
    Except Failure (List (Candidate α)) := do
  s.candidates g (← s.seeker user)

theorem candidates_congr (h : s'.openProfiles me.user = s.openProfiles me.user) :
    s'.candidates g me = s.candidates g me := by
  unfold candidates
  rw [h]

/-- **Where profiles leave a pool, the candidates are the old ones without them.** -/
theorem candidates_filter (h : s'.openProfiles me.user = (s.openProfiles me.user).filter q)
    {cs : List (Candidate α)} (hcs : s.candidates g me = .ok cs) :
    s'.candidates g me = .ok (cs.filter fun c => q c.profile) := by
  apply candidates_eq_ok_iff.2
  cases candidates_eq_ok_iff.1 hcs with
  | everywhere hcomplete hradius hmeasured =>
    exact .everywhere hcomplete hradius (h ▸ measured_filter hmeasured)
  | nowhere hcomplete hradius hplace => exact .nowhere hcomplete hradius hplace
  | around hcomplete hradius hplace hnear hmeasured =>
    -- the two filters change places with the one that leaves profiles out
    rw [List.filter_comm]
    refine .around hcomplete hradius hplace hnear ?_
    rw [h, List.filter_comm]
    exact measured_filter hmeasured

end Candidates

end Matchmaker.Store
