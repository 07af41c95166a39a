import Matchmaker.Proofs.Acting
import Matchmaker.Proofs.Encodable
import Matchmaker.Proofs.Requests
import Matchmaker.Proofs.Usable

/-!
# Profiles shown and hidden

A member sees the profile of another as long as the two wait for an answer or are connected, and
whoever is recommended to them. What they see are nine members of it, and nothing of the place, the
radius and the preferences. All others get the answer that nobody is there, with nothing in it of
the profile that they asked for: over every store that a run leads to it is the same.

A list that is saved may hold half of a surrogate pair. No encoding can write it, and those who see
the profile get the answer to a fault.

* `Geometry.Measures`: the distances that searches of a store ask for are defined;
* `exists_recommendedIds`: recommendations come about wherever there is a profile to seek by;
* `Store.Reveals`, `profileSeenBy_of_reveals`, `profileSeenBy_of_not_reveals`: who sees a profile;
* `Profile.IsWritable`, `Profile.SamePublic`: profiles that can be shown, and that show the same;
* `respond_profile`: a profile over HTTP;
* **`profile_is_shown_or_hidden`**: what the members get of each other's profiles;
* **`seen_profile_meets_fault`**: a profile that can be saved and not be shown.
-/

namespace Matchmaker

/-! ## Searches that come about -/

section Searches

variable {α : Type} [Scalar α] {g : Geometry α} {s : Store} {user other : Int} {me : Profile}

/-- The distances and the boxes that searches of the store ask for are defined. -/
structure Geometry.Measures (g : Geometry α) (s : Store) : Prop where
  between : ∀ p ∈ s.profiles, ∀ q ∈ s.profiles, ∃ d, g.between p q = .ok d
  near : ∀ p ∈ s.profiles, ∀ x, p.place? = some x → p.radius.isPositive = true →
    ∃ near, g.near x (Store.reach p.radius) = .ok near

namespace Store

theorem exists_measured_of_measures (hg : g.Measures s) (hme : me ∈ s.profiles) {ps : List Profile}
    (hps : ps ⊆ s.openProfiles me.user) : ∃ cs, measured g me ps = .ok cs :=
  exists_measured fun p hp => hg.between me hme p (mem_openProfiles.1 (hps hp)).mem

theorem exists_candidates_of_measures (hg : g.Measures s) (hme : me ∈ s.profiles)
    (hcomplete : me.complete = true) : ∃ cs, s.candidates g me = .ok cs := by
  cases hradius : me.radius.isPositive with
  | false =>
    obtain ⟨cs, hcs⟩ := exists_measured_of_measures hg hme (List.Subset.refl _)
    exact ⟨cs, candidates_eq_ok_iff.2 (.everywhere hcomplete hradius hcs)⟩
  | true =>
    cases hplace : me.place? with
    | none => exact ⟨[], candidates_eq_ok_iff.2 (.nowhere hcomplete hradius hplace)⟩
    | some x =>
      obtain ⟨near, hnear⟩ := hg.near me hme x hplace hradius
      have hclose : (s.openProfiles me.user).filter (isNear near) ⊆ s.openProfiles me.user :=
        List.filter_sublist.subset
      obtain ⟨cs, hcs⟩ := exists_measured_of_measures hg hme hclose
      exact ⟨_, candidates_eq_ok_iff.2 (.around hcomplete hradius hplace hnear hcs)⟩

theorem recommendedIds_of_incomplete (h : s.isComplete user = false) :
    s.recommendedIds g user = refuse .completeToMatch := by
  have hseeker : s.seeker user = refuse .completeToMatch := by
    unfold isComplete at h
    unfold seeker
    cases hp : s.profile? user with
    | none => rfl
    | some p =>
      rw [hp] at h
      have hcomplete : p.complete = false := h
      simp only [hcomplete]
      rfl
  rw [recommendedIds, recommend_of_seeker_eq_error hseeker]
  rfl

theorem exists_recommendedIds (hs : s.IsUsable) (hg : g.Measures s)
    (h : s.isComplete user = true) : ∃ ids, s.recommendedIds g user = .ok ids := by
  obtain ⟨me, hme, hcomplete⟩ := isComplete_iff.1 h
  have hmem := (mem_of_profile? hme).1
  obtain ⟨w, hw⟩ := (hs.usable me hmem).weights
  by_cases htotal : w.total = 0
  · exact ⟨[], by rw [recommendedIds, recommend_of_total_eq_zero hme hcomplete hw htotal]; rfl⟩
  · obtain ⟨cs, hcs⟩ := exists_candidates_of_measures hg hmem hcomplete
    have hadmits : (cs.all fun c => Scorecard.admits me && Scorecard.admits c.profile) = true := by
      rw [List.all_eq_true]
      intro c hc
      rw [Bool.and_eq_true]
      exact ⟨(hs.usable me hmem).admits,
        (hs.usable _ (isOpen_of_candidates hcs hc).mem).admits⟩
    have hrank := recommend_of_candidates hme hcomplete hw htotal hcs
    rw [if_pos hadmits] at hrank
    exact ⟨_, by rw [recommendedIds, hrank]; rfl⟩

/-! ## Who sees a profile -/

/-- `user` sees the profile of `other`: it is complete, and the two wait for an answer, are
connected, or `other` is recommended to `user`. -/
def Reveals (g : Geometry α) (s : Store) (user other : Int) : Prop :=
  s.isComplete other = true ∧ (s.relationship user other = .pendingOutgoing ∨
    s.relationship user other = .pendingIncoming ∨ s.relationship user other = .accepted ∨
    ∃ ids, s.recommendedIds g user = .ok ids ∧ other ∈ ids)

theorem isVisible_iff {r : Relationship} : r.isVisible = true ↔
    r = .pendingOutgoing ∨ r = .pendingIncoming ∨ r = .accepted := by
  cases r <;> simp [Relationship.isVisible]

theorem exists_isRecommended (hs : s.IsUsable) (hg : g.Measures s) (user other : Int) :
    ∃ b, s.isRecommended g user other = .ok b ∧
      (b = true ↔ ∃ ids, s.recommendedIds g user = .ok ids ∧ other ∈ ids) := by
  unfold isRecommended
  cases hcomplete : s.isComplete user with
  | false =>
    rw [recommendedIds_of_incomplete hcomplete]
    exact ⟨false, rfl, by simp⟩
  | true =>
    obtain ⟨ids, hids⟩ := exists_recommendedIds hs hg hcomplete
    rw [hids]
    exact ⟨ids.contains other, rfl, by simp⟩

theorem isComplete_of_deciding? {c : Connection} (hs : s.IsAnchored)
    (h : s.deciding? user other = some c) : s.isComplete other = true := by
  obtain ⟨hc, hpair⟩ := mem_of_deciding? h
  rcases Lock.key_eq_iff.1 hpair with ⟨-, htarget⟩ | ⟨hrequester, -⟩
  · exact htarget ▸ (hs c hc).2
  · exact hrequester ▸ (hs c hc).1

theorem isComplete_of_isVisible (hs : s.IsAnchored)
    (h : (s.relationship user other).isVisible = true) : s.isComplete other = true := by
  unfold relationship at h
  cases hrow : s.deciding? user other with
  | none =>
    rw [hrow] at h
    cases h
  | some c => exact isComplete_of_deciding? hs hrow

theorem isComplete_of_mem_recommendedIds {ids : List Int} (hs : s.IsLawful)
    (h : s.recommendedIds g user = .ok ids) (hother : other ∈ ids) :
    s.isComplete other = true := by
  obtain ⟨p, hopen, rfl⟩ := isOpen_of_recommendedIds h hother
  exact hopen.isComplete hs

/-- **The check that guards a profile tells who sees it.** -/
theorem exists_sees (hs : s.IsUsable) (hg : g.Measures s) (user other : Int) :
    ∃ b, s.sees g user other = .ok b ∧ (b = true ↔ s.Reveals g user other) := by
  unfold sees Reveals
  by_cases hvisible : (s.relationship user other).isVisible = true
  · rw [if_pos hvisible]
    have hcomplete := isComplete_of_isVisible hs.anchored hvisible
    refine ⟨true, rfl, fun _ => ⟨hcomplete, ?_⟩, fun _ => rfl⟩
    rcases isVisible_iff.1 hvisible with h | h | h
    · exact Or.inl h
    · exact Or.inr (Or.inl h)
    · exact Or.inr (Or.inr (Or.inl h))
  · rw [if_neg hvisible]
    obtain ⟨b, hb, hiff⟩ := exists_isRecommended hs hg user other
    refine ⟨b, hb, hiff.trans ⟨?_, ?_⟩⟩
    · rintro ⟨ids, hids, hother⟩
      exact ⟨isComplete_of_mem_recommendedIds hs.toIsLawful hids hother,
        Or.inr (Or.inr (Or.inr ⟨ids, hids, hother⟩))⟩
    · rintro ⟨-, h | h | h | h⟩
      · exact absurd (isVisible_iff.2 (Or.inl h)) hvisible
      · exact absurd (isVisible_iff.2 (Or.inr (Or.inl h))) hvisible
      · exact absurd (isVisible_iff.2 (Or.inr (Or.inr h))) hvisible
      · exact h

theorem profileSeenBy_of_reveals (hs : s.IsUsable) (hg : g.Measures s)
    (h : s.Reveals g user other) :
    ∃ p, s.profile? other = some p ∧ p.IsUsable ∧ s.profileSeenBy g user other = .ok p := by
  obtain ⟨b, hsees, hiff⟩ := exists_sees hs hg user other
  obtain ⟨p, hp, hcomplete⟩ := isComplete_iff.1 h.1
  refine ⟨p, hp, hs.usable p (mem_of_profile? hp).1, ?_⟩
  have hget : s.getProfile other true = .ok p := by
    simp [getProfile, hp, hcomplete]
  unfold profileSeenBy
  rw [hsees, hiff.2 h]
  exact hget

theorem profileSeenBy_of_not_reveals (hs : s.IsUsable) (hg : g.Measures s)
    (h : ¬ s.Reveals g user other) : s.profileSeenBy g user other = refuse (.noUser other) := by
  obtain ⟨b, hsees, hiff⟩ := exists_sees hs hg user other
  have hb : b = false := Bool.eq_false_iff.2 (mt hiff.1 h)
  unfold profileSeenBy
  rw [hsees, hb]
  rfl

end Store

end Searches

/-! ## A store to look at -/

namespace Store

theorem isUsable_sample : sample.IsUsable :=
  { isClean_sample.toIsLawful with
    anchored := by
      unfold IsAnchored
      decide
    usable := fun p hp => by
      obtain ⟨user, -, rfl⟩ := List.mem_map.1 hp
      exact ⟨⟨_, rfl⟩, rfl, rfl⟩ }

theorem measures_sample {α : Type} [Scalar α] (g : Geometry α) : g.Measures sample := by
  have hplace : ∀ p ∈ sample.profiles, p.place? = none := fun p hp => by
    obtain ⟨user, -, rfl⟩ := List.mem_map.1 hp
    rfl
  refine ⟨fun p hp q _ => ⟨none, ?_⟩, fun p hp x hx => ?_⟩
  · exact Geometry.between_eq_none_iff.2 (Or.inl (hplace p hp))
  · rw [hplace p hp] at hx
    cases hx

theorem isUsable_empty : empty.IsUsable :=
  { isLawful_empty with
    anchored := fun _ h => absurd h List.not_mem_nil
    usable := fun _ h => absurd h List.not_mem_nil }

theorem measures_empty {α : Type} [Scalar α] (g : Geometry α) : g.Measures empty :=
  ⟨fun _ h => absurd h List.not_mem_nil, fun _ h => absurd h List.not_mem_nil⟩

theorem reveals_sample {α : Type} [Scalar α] (g : Geometry α) : sample.Reveals g 2 1 :=
  ⟨by decide, Or.inr (Or.inl (by decide))⟩

theorem not_reveals_sample {α : Type} [Scalar α] (g : Geometry α) : ¬ sample.Reveals g 3 1 := by
  have hids : sample.recommendedIds g 3 = .ok [] := by
    rw [recommendedIds, recommend_of_total_eq_zero rfl rfl rfl rfl]
    rfl
  rintro ⟨-, h | h | h | ⟨ids, h, hmem⟩⟩
  · exact absurd h (by decide)
  · exact absurd h (by decide)
  · exact absurd h (by decide)
  · rw [hids] at h
    cases h
    cases hmem

theorem not_reveals_empty {α : Type} [Scalar α] (g : Geometry α) (user other : Int) :
    ¬ empty.Reveals g user other :=
  fun h => Bool.false_ne_true h.1

end Store

/-! ## What is shown -/

namespace Profile

open Json (Value)

variable {p q : Profile}

/-- An encoding can write the lists of a profile. -/
structure IsWritable (p : Profile) : Prop where
  analogPassions : ∀ v ∈ p.analogPassions, v.isEncodable = true
  digitalDelights : ∀ v ∈ p.digitalDelights, v.isEncodable = true

/-- The profiles are alike in what others may see of them. Their coordinates, radii and preferences
may differ. -/
structure SamePublic (p q : Profile) : Prop where
  user : p.user = q.user
  displayName : p.displayName = q.displayName
  aboutMe : p.aboutMe = q.aboutMe
  city : p.city = q.city
  analogPassions : p.analogPassions = q.analogPassions
  digitalDelights : p.digitalDelights = q.digitalDelights
  collaboration : p.collaboration = q.collaboration
  food : p.food = q.food
  music : p.music = q.music

theorem isEncodable_getD {o : Option Value} :
    (o.getD .null).isEncodable = true ↔ ∀ v ∈ o, v.isEncodable = true := by
  cases o with
  | none => exact iff_of_true rfl nofun
  | some v => simp

theorem isEncodable_toPublicValue : p.toPublicValue.isEncodable = true ↔ p.IsWritable := by
  have hlists : p.IsWritable ↔ (p.analogPassions.getD .null).isEncodable = true ∧
      (p.digitalDelights.getD .null).isEncodable = true := by
    rw [isEncodable_getD, isEncodable_getD]
    exact ⟨fun h => ⟨h.analogPassions, h.digitalDelights⟩, fun h => ⟨h.1, h.2⟩⟩
  rw [hlists]
  simp [toPublicValue, Value.isEncodable, Value.memberAreEncodable, Value.isEncodable_ofText?]

theorem SamePublic.toPublicValue_eq (h : p.SamePublic q) : p.toPublicValue = q.toPublicValue := by
  simp only [toPublicValue, h.user, h.displayName, h.aboutMe, h.city, h.analogPassions,
    h.digitalDelights, h.collaboration, h.food, h.music]

end Profile

/-! ## Over HTTP -/

namespace Api

variable {v : Service} {c : Conditions} {now : Instant} {r : Request} {s : Store}
  {user other : Int}

theorem wholeOf_me : ∃ complaint, wholeOf "me" = .error complaint ∧
    wholeOf "me\n" = .error complaint :=
  ⟨.noWholeNumeral, by cbv, by cbv⟩

/-- **A profile over HTTP** is what the look-up finds, or the response to its failure. -/
theorem respond_profile (hhost : Url.isReadable r.host = true) (hget : r.method = "GET")
    (habout : r.IsAbout profileRoute.path [] other) (hcaller : v.callerOf r.identity = .ok user) :
    (respond v c now r s).1 =
      match Session.profileSeenBy v.geometry c user other s >>= publicProfileResponse with
      | .ok response => response
      | .error why => failureResponse why := by
  obtain ⟨text, htext, hother⟩ := habout
  obtain ⟨complaint, hme, hme'⟩ := wholeOf_me
  have hfind : find r.host r.method (Target.ofText r.target) = .ok profileRoute := by
    rw [hget]
    refine find_profile htext ?_ ?_
    · rintro rfl
      rw [hme] at hother
      cases hother
    · rintro rfl
      rw [hme'] at hother
      cases hother
  have htask : taskOf v r = .ok (.act user (.profile other)) :=
    taskOf_of_find hfind htext hother hcaller
  have hhead : (r.method == "HEAD") = false := by
    rw [hget]
    rfl
  rw [respond_of_task hhost hhead htask, Task.work, Action.work,
    Transaction.outcome_reading_bind]
  cases Session.profileSeenBy v.geometry c user other s with
  | error why => rfl
  | ok p =>
    simp only [bind, Except.bind, Transaction.outcome_reading]
    cases publicProfileResponse p <;> rfl

theorem profileSeenBy_of_isStorable (hc : c.outage = none) (huser : isStorable user = true)
    (hother : isStorable other = true) :
    Session.profileSeenBy v.geometry c user other s = s.profileSeenBy v.geometry user other := by
  have hopen : c.openRequest = .ok () := by
    simp only [Conditions.openRequest, hc]
  unfold Session.profileSeenBy
  rw [hopen, lookUp_of_isStorable huser, lookUp_of_isStorable hother]
  rfl

theorem profileSeenBy_of_not_isStorable (hc : c.outage = none) (huser : isStorable user = false) :
    Session.profileSeenBy v.geometry c user other s = broken .unstorable := by
  have hopen : c.openRequest = .ok () := by
    simp only [Conditions.openRequest, hc]
  unfold Session.profileSeenBy lookUp
  rw [hopen, huser]
  rfl

end Api

/-- A run leads to the store from one that can be used. -/
def Store.IsReachable (s : Store) : Prop :=
  ∃ (s₀ : Store) (calls : List (Instant × Call)), s₀.IsUsable ∧ s₀.afterAll calls = s

theorem Store.IsReachable.isUsable {s : Store} (h : s.IsReachable) : s.IsUsable := by
  obtain ⟨s₀, calls, h₀, rfl⟩ := h
  exact h₀.afterAll calls

namespace Api

section Profiles

variable {v : Service} {c : Conditions} {r : Request} {s : Store} {user other : Int}

theorem isPublishable_of_isUsable {p : Profile} (h : p.IsUsable) : isPublishable p = true := by
  rw [isPublishable, h.analogPassions, h.digitalDelights]
  rfl

theorem publicProfileResponse_of_isWritable {p : Profile} (h : p.IsUsable) (hp : p.IsWritable) :
    publicProfileResponse p = .ok ⟨200, .json p.toPublicValue, []⟩ :=
  publicProfileResponse_eq_ok_iff.2
    ⟨isPublishable_of_isUsable h, Profile.isEncodable_toPublicValue.2 hp, rfl⟩

theorem publicProfileResponse_of_not_isWritable {p : Profile} (h : p.IsUsable)
    (hp : ¬ p.IsWritable) : publicProfileResponse p = broken .unwritable := by
  have hvalue : p.toPublicValue.isEncodable = false :=
    Bool.eq_false_iff.2 (mt Profile.isEncodable_toPublicValue.1 hp)
  rw [publicProfileResponse, if_pos (isPublishable_of_isUsable h), valueResponse, hvalue]
  rfl

theorem publicProfileResponse_congr {p q : Profile} (h : p.SamePublic q) :
    publicProfileResponse p = publicProfileResponse q := by
  unfold publicProfileResponse isPublishable
  rw [h.analogPassions, h.digitalDelights, h.toPublicValue_eq]

theorem respond_profile_of_reveals (hhost : Url.isReadable r.host = true) (hget : r.method = "GET")
    (habout : r.IsAbout profileRoute.path [] other) (hcaller : v.callerOf r.identity = .ok user)
    (hc : c.outage = none) (huser : isStorable user = true) (hother : isStorable other = true)
    (hs : s.IsUsable) (hg : v.geometry.Measures s) (h : s.Reveals v.geometry user other)
    (now : Instant) : ∃ p, s.profile? other = some p ∧
      (p.IsWritable → (respond v c now r s).1 = ⟨200, .json p.toPublicValue, []⟩) ∧
      (¬ p.IsWritable → (respond v c now r s).1 = faultResponse) := by
  obtain ⟨p, hp, husable, hseen⟩ := Store.profileSeenBy_of_reveals hs hg h
  refine ⟨p, hp, fun hwritable => ?_, fun hwritable => ?_⟩
  · rw [respond_profile hhost hget habout hcaller, profileSeenBy_of_isStorable hc huser hother,
      hseen]
    simp only [bind, Except.bind, publicProfileResponse_of_isWritable husable hwritable]
  · rw [respond_profile hhost hget habout hcaller, profileSeenBy_of_isStorable hc huser hother,
      hseen]
    simp only [bind, Except.bind, publicProfileResponse_of_not_isWritable husable hwritable]
    rfl

theorem respond_profile_of_not_reveals (hhost : Url.isReadable r.host = true)
    (hget : r.method = "GET")
    (habout : r.IsAbout profileRoute.path [] other) (hcaller : v.callerOf r.identity = .ok user)
    (hc : c.outage = none) (huser : isStorable user = true) (hother : isStorable other = true)
    (hs : s.IsUsable) (hg : v.geometry.Measures s) (h : ¬ s.Reveals v.geometry user other)
    (now : Instant) : (respond v c now r s).1 = refusalResponse (.noUser other) := by
  rw [respond_profile hhost hget habout hcaller, profileSeenBy_of_isStorable hc huser hother,
    Store.profileSeenBy_of_not_reveals hs hg h]
  rfl

/-- Where the look-up shows the same, the answers are alike, under all conditions of the database
and whatever the host. -/
theorem respond_profile_congr (hget : r.method = "GET")
    (habout : r.IsAbout profileRoute.path [] other) (hcaller : v.callerOf r.identity = .ok user)
    {t : Store} (h : (s.profileSeenBy v.geometry user other >>= publicProfileResponse) =
      (t.profileSeenBy v.geometry user other >>= publicProfileResponse))
    (now now' : Instant) : (respond v c now r s).1 = (respond v c now' r t).1 := by
  have hsession : ∀ x : Store,
      (Session.profileSeenBy v.geometry c user other x >>= publicProfileResponse) =
        c.openRequest >>= fun _ => lookUp user >>= fun _ => lookUp other >>= fun _ =>
          x.profileSeenBy v.geometry user other >>= publicProfileResponse := fun x => by
    simp only [Session.profileSeenBy, bind_assoc]
  cases hhost : Url.isReadable r.host with
  | true =>
    rw [respond_profile hhost hget habout hcaller, respond_profile hhost hget habout hcaller,
      hsession, hsession, h]
  | false =>
    have hfault : ∀ (x : Store) now, (respond v c now r x).1 = faultResponse := fun x now => by
      have hhead : (r.method == "HEAD") = false := by
        rw [hget]
        rfl
      unfold respond logged
      simp only [hhost, hhead, Bool.false_eq_true, if_false]
    rw [hfault, hfault]

end Profiles

/-- Asks for the profile of the first member. -/
def lookAtFirst (identity : String) : Request where
  method := "GET"
  host := "http://localhost"
  target := "/api/v1/profiles/1"
  identity := some identity
  body := ""

theorem isAbout_lookAtFirst (identity : String) :
    (lookAtFirst identity).IsAbout profileRoute.path [] 1 := by
  have htext : Route.idText? profileRoute.path []
      (Target.ofText "/api/v1/profiles/1").segments = some "1" := by decide +kernel
  exact ⟨"1", htext, by cbv⟩

/-- **Profiles are shown to those who may see them, and to nobody else is there anything.** A caller
who sees a member gets nine members of the profile, or the answer to a fault if an encoding cannot
write a list among them; and one who does not gets the answer that there is no such user. So what is
hidden cannot be told from what is not there: the answers over any two stores that hide a member are
the same, whatever the rows of that member hold, and those over two stores that show a member are
the same whatever the coordinates, the radius and the preferences are. -/
theorem profile_is_shown_or_hidden (v : Service) (c : Conditions) {r : Request} {user other : Int}
    (hget : r.method = "GET") (habout : r.IsAbout profileRoute.path [] other)
    (hcaller : v.callerOf r.identity = .ok user) {s : Store} (hs : s.IsReachable)
    (hg : v.geometry.Measures s) (now : Instant) :
    (Url.isReadable r.host = true → c.outage = none → isStorable user = true →
      isStorable other = true →
      ((respond v c now r s).1.status = 200 ↔
        s.Reveals v.geometry user other ∧ ∀ p ∈ s.profile? other, p.IsWritable) ∧
        (s.Reveals v.geometry user other → ∃ p, s.profile? other = some p ∧
          (p.IsWritable → (respond v c now r s).1 = Response.json 200
            [("user_id", .int p.user), ("display_name", .str p.displayName),
              ("about_me", Json.Value.ofText? p.aboutMe),
              ("location_city", Json.Value.ofText? p.city),
              ("analog_passions", p.analogPassions.getD .null),
              ("digital_delights", p.digitalDelights.getD .null),
              ("collaboration_interests", Json.Value.ofText? p.collaboration),
              ("favorite_food", Json.Value.ofText? p.food),
              ("favorite_music", Json.Value.ofText? p.music)]) ∧
          (¬ p.IsWritable → (respond v c now r s).1 = faultResponse)) ∧
        (¬ s.Reveals v.geometry user other → (respond v c now r s).1 =
          Response.json 404 [("error", .str "not_found"),
            ("detail", .str ("user " ++ toString other ++ " not found"))])) ∧
      (Url.isReadable r.host = true → c.outage = none → isStorable user = false →
        (respond v c now r s).1 = failureResponse (.fault .unstorable)) ∧
      (s.profile? other = none → ¬ s.Reveals v.geometry user other) ∧
      (¬ s.Reveals v.geometry user other → ∀ t now', t.IsReachable → v.geometry.Measures t →
        ¬ t.Reveals v.geometry user other →
          (respond v c now r s).1 = (respond v c now' r t).1) ∧
      (s.Reveals v.geometry user other → ∀ t now', t.IsReachable → v.geometry.Measures t →
        t.Reveals v.geometry user other →
        (∀ p ∈ s.profile? other, ∀ q ∈ t.profile? other, p.SamePublic q) →
          (respond v c now r s).1 = (respond v c now' r t).1) := by
  refine ⟨fun hhost hc huser hother => ?_, fun hhost hc huser => ?_, ?_,
    fun h t now' ht hgt h' => ?_,
    fun h t now' ht hgt h' hsame => ?_⟩
  · have hshown := fun h =>
      respond_profile_of_reveals hhost hget habout hcaller hc huser hother hs.isUsable hg h now
    have hhidden := fun h =>
      respond_profile_of_not_reveals hhost hget habout hcaller hc huser hother hs.isUsable hg h now
    refine ⟨⟨fun hstatus => ?_, fun h => ?_⟩, hshown, hhidden⟩
    · have hreveals : s.Reveals v.geometry user other := by
        by_contra h
        rw [hhidden h] at hstatus
        cases hstatus
      refine ⟨hreveals, fun p hp => ?_⟩
      obtain ⟨p', hp', -, hfault⟩ := hshown hreveals
      obtain rfl := Option.some.inj (hp.symm.trans hp')
      by_contra hwritable
      rw [hfault hwritable] at hstatus
      cases hstatus
    · obtain ⟨p, hp, hresponse, -⟩ := hshown h.1
      rw [hresponse (h.2 p hp)]
  · rw [respond_profile hhost hget habout hcaller, profileSeenBy_of_not_isStorable hc huser]
    rfl
  · rintro hnone ⟨hcomplete, -⟩
    obtain ⟨p, hp, -⟩ := Store.isComplete_iff.1 hcomplete
    rw [hnone] at hp
    cases hp
  · refine respond_profile_congr hget habout hcaller ?_ now now'
    rw [Store.profileSeenBy_of_not_reveals hs.isUsable hg h,
      Store.profileSeenBy_of_not_reveals ht.isUsable hgt h']
  · obtain ⟨p, hp, -, hseen⟩ := Store.profileSeenBy_of_reveals hs.isUsable hg h
    obtain ⟨q, hq, -, hseen'⟩ := Store.profileSeenBy_of_reveals ht.isUsable hgt h'
    refine respond_profile_congr hget habout hcaller ?_ now now'
    rw [hseen, hseen']
    exact publicProfileResponse_congr (hsame p hp q hq)

/-- The second member sees the first; for the third there is no such user, as there is none in a
store without rows. -/
theorem profile_is_shown_or_hidden_sample :
    let v : Service := ⟨Geometry.sphere Float, "x-user-id", true⟩
    Store.sample.IsReachable ∧ Store.empty.IsReachable ∧
      (respond v .fair 5 (lookAtFirst "2") Store.sample).1.status = 200 ∧
      (respond v .fair 5 (lookAtFirst "3") Store.sample).1 =
        Response.json 404 [("error", .str "not_found"), ("detail", .str "user 1 not found")] ∧
      (respond v .fair 5 (lookAtFirst "3") Store.sample).1 =
        (respond v .fair 6 (lookAtFirst "3") Store.empty).1 := by
  intro v
  have hsample : Store.sample.IsReachable := ⟨Store.sample, [], Store.isUsable_sample, rfl⟩
  have hempty : Store.empty.IsReachable := ⟨Store.empty, [], Store.isUsable_empty, rfl⟩
  have hhost : Url.isReadable "http://localhost" = true := by decide +kernel
  have hsecond : v.callerOf (some "2") = .ok 2 := rfl
  have hthird : v.callerOf (some "3") = .ok 3 := rfl
  have hwritable : ∀ p ∈ Store.sample.profile? 1, p.IsWritable := by
    rintro _ ⟨⟩
    exact ⟨nofun, nofun⟩
  obtain ⟨hseen, -⟩ := profile_is_shown_or_hidden v .fair rfl (isAbout_lookAtFirst "2") hsecond
    hsample (Store.measures_sample _) 5
  obtain ⟨hunseen, -, -, hsame, -⟩ := profile_is_shown_or_hidden v .fair rfl
    (isAbout_lookAtFirst "3") hthird hsample (Store.measures_sample _) 5
  have hhidden := Store.not_reveals_sample v.geometry
  exact ⟨hsample, hempty,
    (hseen hhost rfl (by decide) (by decide)).1.2 ⟨Store.reveals_sample v.geometry, hwritable⟩,
    (hunseen hhost rfl (by decide) (by decide)).2.2 hhidden,
    hsame hhidden Store.empty 6 hempty (Store.measures_empty _) (Store.not_reveals_empty _ 3 1)⟩

/-- A payload with half of a surrogate pair in a list. -/
def withHalf : Json.Value :=
  .obj [("display_name", .str "Mia"),
    ("analog_passions", .arr [.str (.ofPieces [.half ⟨0, by decide⟩])])]

/-- **A profile that is saved is not shown to a member who sees it**: a list in it holds half of a
surrogate pair. -/
theorem seen_profile_meets_fault :
    let v : Service := ⟨Geometry.sphere Float, "x-user-id", true⟩
    let s := Store.sample.after (0, .upsert 1 withHalf)
    s.IsReachable ∧ s ≠ Store.sample ∧ s.Reveals v.geometry 2 1 ∧
      (respond v .fair 5 (lookAtFirst "2") s).1.status = 500 := by
  intro v s
  have hname : (s.profile? 1).map Profile.displayName = some "Mia" := by decide +kernel
  refine ⟨⟨Store.sample, [(0, .upsert 1 withHalf)], Store.isUsable_sample, rfl⟩, fun h => ?_,
    ⟨by decide +kernel, Or.inr (Or.inl (by decide +kernel))⟩, by decide +kernel⟩
  rw [h] at hname
  exact absurd hname (by decide)

end Api

end Matchmaker
