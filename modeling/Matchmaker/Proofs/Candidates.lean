import Matchmaker.Proofs.Exact
import Matchmaker.Proofs.Lawful

/-!
# Who may be recommended

What holds of every candidate and of nobody else. The box of a geometry is of no account where it
encloses the circle, since the distances are compared afterwards.

* `Store.IsOpen`, `mem_openProfiles`: the profiles that may be recommended, distances apart;
* `Store.Finds`, `candidates_eq_ok_iff`: how a search succeeds;
* `isOpen_of_candidates`: no other profile is a candidate, in whatever numbers distances are
  measured;
* `Geometry.Encloses`: distances are defined on the globe, and the box loses no place;
* `Store.IsCandidate`, **`exists_candidates`**: the candidates over exact distances.
-/

namespace Matchmaker

/-! ## Profiles that may be recommended -/

namespace Store

/-- The profile may be recommended to `me`, its distance apart. -/
structure IsOpen (s : Store) (me : Int) (p : Profile) : Prop where
  mem : p ∈ s.profiles
  complete : p.complete = true
  other : p.user ≠ me
  unconnected : ∀ c ∈ s.connections, ¬ (c.requester = me ∧ c.target = p.user) ∧
    ¬ (c.requester = p.user ∧ c.target = me)
  undismissed : (⟨me, p.user⟩ : Dismissal) ∉ s.dismissals

variable {s : Store} {me : Int} {p : Profile}

theorem pairRows_isEmpty_iff {a b : Int} : (s.pairRows a b).isEmpty = true ↔
    ∀ c ∈ s.connections, ¬ (c.requester = a ∧ c.target = b) ∧
      ¬ (c.requester = b ∧ c.target = a) := by
  rw [pairRows, List.isEmpty_iff, List.filter_eq_nil_iff]
  simp only [Connection.joins, Bool.or_eq_true, Bool.and_eq_true, beq_iff_eq, not_or]

theorem mem_openProfiles : p ∈ s.openProfiles me ↔ s.IsOpen me p := by
  unfold openProfiles
  rw [List.mem_filter, profilesByUser, List.mem_mergeSort]
  simp only [isOpenTo, Bool.and_eq_true, bne_iff_ne, pairRows_isEmpty_iff, Bool.not_eq_true',
    hasDismissed, ← Bool.not_eq_true, List.contains_iff_mem]
  constructor
  · rintro ⟨hmem, ⟨⟨hcomplete, hother⟩, hunconnected⟩, hundismissed⟩
    exact ⟨hmem, hcomplete, hother, hunconnected, hundismissed⟩
  · rintro ⟨hmem, hcomplete, hother, hunconnected, hundismissed⟩
    exact ⟨hmem, ⟨⟨hcomplete, hother⟩, hunconnected⟩, hundismissed⟩

theorem nodup_openProfiles (h : s.IsLawful) (me : Int) :
    ((s.openProfiles me).map Profile.user).Nodup := by
  have hperm : s.profilesByUser.Perm s.profiles := List.mergeSort_perm _ _
  refine List.Nodup.sublist (List.filter_sublist.map _) ?_
  rw [(hperm.map _).nodup_iff]
  exact h.profileUsers

end Store

/-! ## Distances -/

namespace Geometry

variable {α : Type} {g : Geometry α} {p q : Profile}

theorem between_eq_some_iff {d : α} : g.between p q = .ok (some d) ↔
    ∃ x y, p.place? = some x ∧ q.place? = some y ∧ g.distance x y = .ok d := by
  unfold between
  cases p.place? with
  | none => simp
  | some x =>
    cases q.place? with
    | none => simp
    | some y => simp [map_eq_ok_iff]

theorem between_eq_none_iff : g.between p q = .ok none ↔ p.place? = none ∨ q.place? = none := by
  unfold between
  cases p.place? with
  | none => simp
  | some x =>
    cases q.place? with
    | none => simp
    | some y => simp [map_eq_ok_iff]

end Geometry

namespace Store

variable {α : Type} {g : Geometry α} {me : Profile} {ps : List Profile} {cs : List (Candidate α)}

theorem measured_eq_ok_iff : measured g me ps = .ok cs ↔
    cs.map Candidate.profile = ps ∧ ∀ c ∈ cs, g.between me c.profile = .ok c.distance := by
  induction ps generalizing cs with
  | nil =>
    simp only [measured, Except.ok.injEq, List.map_eq_nil_iff]
    constructor
    · rintro rfl
      exact ⟨rfl, by simp⟩
    · exact fun h => h.1.symm
  | cons p ps ih =>
    simp only [measured, bind_eq_ok_iff, pure_eq_ok_iff]
    constructor
    · rintro ⟨d, hd, rest, hrest, rfl⟩
      obtain ⟨hprofiles, hdistances⟩ := ih.1 hrest
      refine ⟨by rw [List.map_cons, hprofiles], fun c hc => ?_⟩
      rcases List.mem_cons.1 hc with rfl | hc
      · exact hd
      · exact hdistances c hc
    · rintro ⟨hprofiles, hdistances⟩
      obtain ⟨c, rest, rfl, rfl, hrest⟩ := List.map_eq_cons_iff.1 hprofiles
      refine ⟨c.distance, hdistances c List.mem_cons_self, rest, ?_, rfl⟩
      exact ih.2 ⟨hrest, fun c' hc' => hdistances c' (List.mem_cons_of_mem _ hc')⟩

theorem exists_measured (h : ∀ p ∈ ps, ∃ d, g.between me p = .ok d) :
    ∃ cs, measured g me ps = .ok cs := by
  induction ps with
  | nil => exact ⟨[], rfl⟩
  | cons p ps ih =>
    obtain ⟨d, hd⟩ := h p List.mem_cons_self
    obtain ⟨cs, hcs⟩ := ih fun q hq => h q (List.mem_cons_of_mem _ hq)
    refine ⟨⟨p, d⟩ :: cs, ?_⟩
    rw [measured, hd, hcs]
    rfl

theorem mem_measured (h : measured g me ps = .ok cs) {c : Candidate α} :
    c ∈ cs ↔ c.profile ∈ ps ∧ g.between me c.profile = .ok c.distance := by
  obtain ⟨rfl, hdistances⟩ := measured_eq_ok_iff.1 h
  constructor
  · exact fun hc => ⟨List.mem_map_of_mem hc, hdistances c hc⟩
  · rintro ⟨hc, hd⟩
    obtain ⟨c', hc', hprofile⟩ := List.mem_map.1 hc
    have hdistance : c'.distance = c.distance := by
      rw [← hprofile, hdistances c' hc'] at hd
      exact Except.ok.inj hd
    have hcc' : c' = c := by
      cases c'
      cases c
      simp only at hprofile hdistance
      rw [hprofile, hdistance]
    rwa [← hcc']

theorem nodup_measured (h : measured g me ps = .ok cs) (hps : (ps.map Profile.user).Nodup) :
    (cs.map fun c => c.profile.user).Nodup := by
  rw [← (measured_eq_ok_iff.1 h).1, List.map_map] at hps
  exact hps

/-! ## The three ways of a search -/

variable [Scalar α] {s : Store}

/-- The profile has a place inside a box. -/
def isNear (near : Point Quantity → Bool) (p : Profile) : Bool :=
  (p.place?.map near).getD false

theorem candidates_of_unlimited (hcomplete : me.complete = true)
    (hradius : me.radius.isPositive = false) :
    s.candidates g me = measured g me (s.openProfiles me.user) := by
  simp only [candidates, hcomplete, hradius]
  rfl

theorem candidates_of_unplaced (hcomplete : me.complete = true)
    (hradius : me.radius.isPositive = true) (hplace : me.place? = none) :
    s.candidates g me = .ok [] := by
  simp only [candidates, hcomplete, hradius, hplace]
  rfl

theorem candidates_of_placed (hcomplete : me.complete = true)
    (hradius : me.radius.isPositive = true) {x : Point Quantity} (hplace : me.place? = some x)
    {near : Point Quantity → Bool} (hnear : g.near x (reach me.radius) = .ok near) :
    s.candidates g me = (measured g me ((s.openProfiles me.user).filter (isNear near))).map
      (List.filter (isWithin (reach me.radius))) := by
  simp only [candidates, hcomplete, hradius, hplace, hnear]
  rfl

/-- How a search for the candidates of `me` succeeds. -/
inductive Finds (g : Geometry α) (s : Store) (me : Profile) : List (Candidate α) → Prop
  | everywhere (hcomplete : me.complete = true) (hradius : me.radius.isPositive = false)
      {cs : List (Candidate α)} (hmeasured : measured g me (s.openProfiles me.user) = .ok cs) :
      Finds g s me cs
  | nowhere (hcomplete : me.complete = true) (hradius : me.radius.isPositive = true)
      (hplace : me.place? = none) : Finds g s me []
  | around (hcomplete : me.complete = true) (hradius : me.radius.isPositive = true)
      {x : Point Quantity} (hplace : me.place? = some x) {near : Point Quantity → Bool}
      (hnear : g.near x (reach me.radius) = .ok near) {cs : List (Candidate α)}
      (hmeasured : measured g me ((s.openProfiles me.user).filter (isNear near)) = .ok cs) :
      Finds g s me (cs.filter (isWithin (reach me.radius)))

theorem candidates_eq_ok_iff : s.candidates g me = .ok cs ↔ s.Finds g me cs := by
  constructor
  · intro h
    cases hcomplete : me.complete with
    | false =>
      simp only [candidates, hcomplete] at h
      cases h
    | true =>
      cases hradius : me.radius.isPositive with
      | false =>
        rw [candidates_of_unlimited hcomplete hradius] at h
        exact .everywhere hcomplete hradius h
      | true =>
        cases hplace : me.place? with
        | none =>
          rw [candidates_of_unplaced hcomplete hradius hplace] at h
          cases h
          exact .nowhere hcomplete hradius hplace
        | some x =>
          cases hnear : g.near x (reach me.radius) with
          | error e =>
            simp only [candidates, hcomplete, hradius, hplace, hnear] at h
            cases h
          | ok near =>
            rw [candidates_of_placed hcomplete hradius hplace hnear, map_eq_ok_iff] at h
            obtain ⟨measures, hmeasured, rfl⟩ := h
            exact .around hcomplete hradius hplace hnear hmeasured
  · intro h
    cases h with
    | everywhere hcomplete hradius hmeasured =>
      rw [candidates_of_unlimited hcomplete hradius, hmeasured]
    | nowhere hcomplete hradius hplace => exact candidates_of_unplaced hcomplete hradius hplace
    | around hcomplete hradius hplace hnear hmeasured =>
      rw [candidates_of_placed hcomplete hradius hplace hnear, hmeasured]
      rfl

/-- **Every candidate may be recommended**, whatever its distance. -/
theorem isOpen_of_candidates (h : s.candidates g me = .ok cs) {c : Candidate α} (hc : c ∈ cs) :
    s.IsOpen me.user c.profile := by
  cases candidates_eq_ok_iff.1 h with
  | everywhere _ _ hmeasured => exact mem_openProfiles.1 ((mem_measured hmeasured).1 hc).1
  | nowhere => cases hc
  | around _ _ _ _ hmeasured =>
    have hclose := ((mem_measured hmeasured).1 (List.mem_filter.1 hc).1).1
    exact mem_openProfiles.1 (List.mem_filter.1 hclose).1

end Store

/-! ## Candidates -/

/-- A place with a latitude and a longitude in degrees. -/
structure Point.IsOnGlobe (x : Point Quantity) : Prop where
  lat : x.lat.within 90 = true
  lon : x.lon.within 180 = true

theorem Profile.isOnGlobe {p : Profile} (h : Store.admitsProfile p = true) {x : Point Quantity}
    (hx : p.place? = some x) : x.IsOnGlobe := by
  unfold Store.admitsProfile at h
  unfold Profile.place? at hx
  cases hlat : p.lat with
  | none => simp [hlat] at hx
  | some lat =>
    cases hlon : p.lon with
    | none => simp [hlat, hlon] at hx
    | some lon =>
      simp only [hlat, hlon, Option.some.injEq] at hx
      simp only [hlat, hlon, Option.map_some, Option.getD_some, Bool.and_eq_true] at h
      obtain ⟨⟨⟨-, hlat⟩, hlon⟩, -⟩ := h
      rw [← hx]
      exact ⟨hlat, hlon⟩

open scoped Exact

variable {K : Type} [Field K] [LinearOrder K]

/-- **The box loses nobody.** On the globe distances and boxes are defined, and every place within
a radius lies in the box. -/
structure Geometry.Encloses (g : Geometry K) : Prop where
  distance : ∀ {x y}, x.IsOnGlobe → y.IsOnGlobe → ∃ d, g.distance x y = .ok d
  near : ∀ {x r}, x.IsOnGlobe → 0 < r → ∃ near, g.near x r = .ok near ∧
    ∀ {y d}, y.IsOnGlobe → g.distance x y = .ok d → d ≤ r → near y = true

namespace Store

/-- The candidate may be recommended to `me`. A radius that is missing or 0 limits nothing. -/
structure IsCandidate (g : Geometry K) (s : Store) (me : Profile) (c : Candidate K) : Prop where
  isOpen : s.IsOpen me.user c.profile
  distance : g.between me c.profile = .ok c.distance
  within : me.radius.isPositive = true →
    ∃ d, c.distance = some d ∧ d ≤ me.radius.toScalar + 1 / 1000000

variable {g : Geometry K} {s : Store} {me : Profile}

theorem isCandidate_iff_of_unlimited (hradius : me.radius.isPositive = false) {c : Candidate K} :
    s.IsCandidate g me c ↔
      s.IsOpen me.user c.profile ∧ g.between me c.profile = .ok c.distance := by
  constructor
  · exact fun h => ⟨h.isOpen, h.distance⟩
  · rintro ⟨hopen, hdistance⟩
    exact ⟨hopen, hdistance, fun h => absurd (hradius.symm.trans h) Bool.false_ne_true⟩

theorem IsCandidate.exists_distance {c : Candidate K} (h : s.IsCandidate g me c)
    (hradius : me.radius.isPositive = true) : ∃ x y d, me.place? = some x ∧
      c.profile.place? = some y ∧ g.distance x y = .ok d ∧
      d ≤ me.radius.toScalar + 1 / 1000000 := by
  obtain ⟨d, hd, hle⟩ := h.within hradius
  have hbetween := h.distance
  rw [hd, Geometry.between_eq_some_iff] at hbetween
  obtain ⟨x, y, hx, hy, hxy⟩ := hbetween
  exact ⟨x, y, d, hx, hy, hxy, hle⟩

theorem not_isCandidate_of_unplaced (hradius : me.radius.isPositive = true)
    (hplace : me.place? = none) (c : Candidate K) : ¬ s.IsCandidate g me c := by
  intro h
  obtain ⟨x, y, d, hx, -⟩ := h.exists_distance hradius
  rw [hplace] at hx
  cases hx

theorem exists_between (hg : g.Encloses) (hs : s.IsLawful) (hme : me ∈ s.profiles) {p : Profile}
    (hp : p ∈ s.profiles) : ∃ d, g.between me p = .ok d := by
  unfold Geometry.between
  cases hx : me.place? with
  | none => exact ⟨none, rfl⟩
  | some x =>
    cases hy : p.place? with
    | none => exact ⟨none, rfl⟩
    | some y =>
      obtain ⟨d, hd⟩ := hg.distance (Profile.isOnGlobe (hs.profiles me hme) hx)
        (Profile.isOnGlobe (hs.profiles p hp) hy)
      refine ⟨some d, ?_⟩
      simp only [hd]
      rfl

variable [IsStrictOrderedRing K]

theorem isWithin_iff {q : Quantity} {c : Candidate K} : isWithin (reach q) c = true ↔
    ∃ d, c.distance = some d ∧ d ≤ q.toScalar + 1 / 1000000 := by
  unfold isWithin
  rw [Exact.reach_eq]
  cases c.distance with
  | none => simp
  | some d => simp

/-- Where the box loses nobody, it may as well be left out. -/
theorem isCandidate_iff_of_placed (hs : s.IsLawful) (hradius : me.radius.isPositive = true)
    {x : Point Quantity} (hplace : me.place? = some x) {near : Point Quantity → Bool}
    (hnear : ∀ {y d}, y.IsOnGlobe → g.distance x y = .ok d → d ≤ reach me.radius → near y = true)
    {c : Candidate K} :
    s.IsCandidate g me c ↔ ((s.IsOpen me.user c.profile ∧ isNear near c.profile = true) ∧
      g.between me c.profile = .ok c.distance) ∧ isWithin (reach me.radius) c = true := by
  rw [isWithin_iff]
  constructor
  · intro h
    refine ⟨⟨⟨h.isOpen, ?_⟩, h.distance⟩, h.within hradius⟩
    -- whoever lives within the radius lives in the box
    obtain ⟨x', y, d, hx', hy, hxy, hle⟩ := h.exists_distance hradius
    obtain rfl : x = x' := Option.some.inj (hplace.symm.trans hx')
    have hglobe : y.IsOnGlobe := Profile.isOnGlobe (hs.profiles _ h.isOpen.mem) hy
    rw [isNear, hy]
    exact hnear hglobe hxy (by rwa [Exact.reach_eq])
  · rintro ⟨⟨⟨hopen, -⟩, hdistance⟩, hwithin⟩
    exact ⟨hopen, hdistance, fun _ => hwithin⟩

theorem isNegative_radius (hs : s.IsLawful) (hme : me ∈ s.profiles) :
    me.radius.isNegative = false := by
  have h := hs.profiles me hme
  unfold admitsProfile at h
  simp only [Bool.and_eq_true, Bool.not_eq_true'] at h
  exact h.2

/-- **The candidates are those who may be recommended, each once.** -/
theorem exists_candidates (hg : g.Encloses) (hs : s.IsLawful) (hme : me ∈ s.profiles)
    (hcomplete : me.complete = true) :
    ∃ cs, s.candidates g me = .ok cs ∧ (∀ c, c ∈ cs ↔ s.IsCandidate g me c) ∧
      (cs.map fun c => c.profile.user).Nodup := by
  have hmeasure : ∀ ps : List Profile, ps ⊆ s.openProfiles me.user →
      ∃ cs, measured g me ps = .ok cs :=
    fun ps hps => exists_measured fun p hp =>
      exists_between hg hs hme (mem_openProfiles.1 (hps hp)).mem
  have hopen := nodup_openProfiles hs me.user
  cases hradius : me.radius.isPositive with
  | false =>
    obtain ⟨cs, hcs⟩ := hmeasure _ (List.Subset.refl _)
    refine ⟨cs, by rw [candidates_of_unlimited hcomplete hradius, hcs], fun c => ?_,
      nodup_measured hcs hopen⟩
    rw [mem_measured hcs, mem_openProfiles, isCandidate_iff_of_unlimited hradius]
  | true =>
    cases hplace : me.place? with
    | none =>
      exact ⟨[], candidates_of_unplaced hcomplete hradius hplace,
        fun c => iff_of_false List.not_mem_nil (not_isCandidate_of_unplaced hradius hplace c),
        .nil⟩
    | some x =>
      have hx : x.IsOnGlobe := Profile.isOnGlobe (hs.profiles me hme) hplace
      obtain ⟨near, hnear, hencloses⟩ :=
        hg.near hx (Exact.reach_pos (isNegative_radius hs hme))
      obtain ⟨cs, hcs⟩ := hmeasure _ (List.filter_sublist (p := isNear near)).subset
      refine ⟨cs.filter (isWithin (reach me.radius)), ?_, fun c => ?_, ?_⟩
      · rw [candidates_of_placed hcomplete hradius hplace hnear, hcs]
        rfl
      · rw [List.mem_filter, mem_measured hcs, List.mem_filter, mem_openProfiles,
          isCandidate_iff_of_placed hs hradius hplace hencloses]
      · have hnodup := nodup_measured hcs (hopen.sublist (List.filter_sublist.map _))
        exact hnodup.sublist (List.filter_sublist.map _)

end Store

end Matchmaker
