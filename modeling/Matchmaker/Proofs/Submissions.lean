import Matchmaker.Proofs.Requests
import Matchmaker.Proofs.Typed

/-!
# Saving over the wire

The body of a request that saves a profile is checked and brought to the types of the columns, so
that what is left of it is a payload of the right types, in which every number can be shown. Where
the host can be read, the request is answered with a status of 400, or the profile is saved and
shown; only a radius of 2⁶³ or more passes all checks and makes the request fail.

* `Submission.IsChecked`, `isChecked_of_check`: what is left of the members of a body;
* `IsChecked.isTyped`, `IsChecked.not_showsLong`: it has the right types, and its numbers are shown;
* `Request.IsSave`, `taskOf_save`: a request that saves the caller's profile;
* `SaveAnswer`, `respond_save`: the three ways in which it is answered;
* **`accepted_is_stored_up_to_radius`**: what becomes of a payload and of a request.
-/

namespace Matchmaker.Api

open Json (Value Members)

/-! ## What is left of a body -/

namespace Submission

variable {members : Members} {key : String} {m : Phrase × Value} {v w payload : Value}

theorem isSome_text?_of_text {limit : Option Nat} (h : text limit v = .ok w) :
    w.text?.isSome = true := by
  unfold text at h
  split at h
  · split at h
    · cases h
    · obtain rfl := Except.ok.inj h
      rfl
  · cases h
  · obtain rfl := Except.ok.inj h
    rfl
  · cases h

theorem isSome_text?_of_name (h : name v = .ok w) : w.text?.isSome = true := by
  unfold name at h
  split at h
  · cases h
  · exact isSome_text?_of_text h

theorem exists_of_coordinate {bound : Nat} (h : coordinate bound v = .ok w) : ∃ x, w = .real x := by
  obtain ⟨x, -, h⟩ := bind_eq_ok_iff.1 h
  dsimp only at h
  by_cases habove : (!decide (x ≤ Float.ofNat bound)) = true
  · rw [if_pos habove] at h
    cases h
  · rw [if_neg habove] at h
    by_cases hbelow : x < -Float.ofNat bound
    · rw [if_pos hbelow] at h
      cases h
    · rw [if_neg hbelow] at h
      exact ⟨x, (pure_eq_ok_iff.1 h).symm⟩

theorem exists_of_radius (h : radius v = .ok w) : ∃ n, w = .int n ∧ 0 ≤ n := by
  obtain ⟨n, -, h⟩ := bind_eq_ok_iff.1 h
  split at h
  · cases h
  · rename_i hn
    exact ⟨n, (pure_eq_ok_iff.1 h).symm, Int.not_lt.1 hn⟩

theorem exists_of_preferences (h : preferences v = .ok w) :
    w = v ∧ ∃ members, w = .obj members := by
  unfold preferences at h
  split at h
  · obtain rfl := Except.ok.inj h
    exact ⟨rfl, _, rfl⟩
  · cases h

theorem isSome_text?_of_firstNonText? {i : Nat} {items : List Value}
    (h : firstNonText? i items = none) : ∀ item ∈ items, item.text?.isSome = true := by
  fun_induction firstNonText? i items with
  | case1 => exact nofun
  | case2 i v vs hv ih =>
    intro item hitem
    rcases List.mem_cons.1 hitem with rfl | hitem
    · exact hv
    · exact ih h item hitem
  | case3 => cases h

theorem exists_of_texts (h : texts v = .ok w) :
    ∃ items, w = .arr items ∧ ∀ item ∈ items, item.text?.isSome = true := by
  unfold texts at h
  split at h
  · split at h
    · cases h
    · split at h
      · cases h
      · rename_i hnone
        exact ⟨_, (Except.ok.inj h).symm, isSome_text?_of_firstNonText? hnone⟩
  · cases h

section Members

variable {P : Value → Prop} {check : Value → Except Complaint Value}

theorem exists_of_required (hcheck : ∀ v w, check v = .ok w → P w)
    (h : required members key check = .ok m) : ∃ w, m = (.plain key, w) ∧ P w := by
  unfold required at h
  split at h
  · cases h
  · split at h
    · rename_i w hw
      exact ⟨w, (Except.ok.inj h).symm, hcheck _ w hw⟩
    · cases h

theorem exists_of_optional
    (hcheck : ∀ v w, Members.find? key members = some v → check v = .ok w → P w)
    (h : optional members key check = .ok m) : ∃ w, m = (.plain key, w) ∧ (w = .null ∨ P w) := by
  unfold optional at h
  split at h
  · exact ⟨.null, (Except.ok.inj h).symm, Or.inl rfl⟩
  · exact ⟨.null, (Except.ok.inj h).symm, Or.inl rfl⟩
  · rename_i v _ hv
    split at h
    · rename_i w hw
      exact ⟨w, (Except.ok.inj h).symm, Or.inr (hcheck v w hv hw)⟩
    · cases h

theorem exists_of_freeText {k : TextFacet} (h : freeText members k = .ok m) :
    ∃ w, m = (.plain k.name, w) ∧ (w = .null ∨ w.text?.isSome = true) :=
  exists_of_optional (fun _ _ _ => isSome_text?_of_text) h

theorem exists_of_list {k : ListFacet} (h : list members k = .ok m) : ∃ w, m = (.plain k.name, w) ∧
    ∃ items, w = .arr items ∧ ∀ item ∈ items, item.text?.isSome = true := by
  unfold list at h
  split at h
  · exact ⟨.arr [], (Except.ok.inj h).symm, [], rfl, nofun⟩
  · split at h
    · rename_i w hw
      exact ⟨w, (Except.ok.inj h).symm, exists_of_texts hw⟩
    · cases h

theorem forall_given? (hm : ∃ w, payload.member? key = some w ∧ (w = .null ∨ P w)) :
    ∀ v ∈ payload.given? key, P v := by
  intro v hv
  obtain ⟨w, hw, hP⟩ := hm
  obtain ⟨hmember, hnull⟩ := Value.mem_given?_iff.1 hv
  obtain rfl := Option.some.inj (hw.symm.trans hmember)
  exact hP.resolve_left hnull

end Members

/-- What is left of the members of a body. -/
structure IsChecked (members : Members) (payload : Value) : Prop where
  displayName : ∃ w, payload.member? "display_name" = some w ∧ (w = .null ∨ w.text?.isSome = true)
  texts : ∀ k : TextFacet, ∃ w, payload.member? k.name = some w ∧
    (w = .null ∨ w.text?.isSome = true)
  lists : ∀ k : ListFacet, ∃ w, payload.member? k.name = some w ∧
    (w = .null ∨ ∃ items, w = .arr items ∧ ∀ item ∈ items, item.text?.isSome = true)
  lat : ∃ w, payload.member? "location_lat" = some w ∧ (w = .null ∨ ∃ x, w = .real x)
  lon : ∃ w, payload.member? "location_lon" = some w ∧ (w = .null ∨ ∃ x, w = .real x)
  radius : ∃ w, payload.member? "max_radius_km" = some w ∧ (w = .null ∨ ∃ n, w = .int n ∧ 0 ≤ n)
  preferences : ∃ w, payload.member? "match_preferences" = some w ∧
    (w = .null ∨ Members.find? "match_preferences" members = some w ∧ ∃ ms, w = .obj ms)

theorem isChecked_of_check (h : check (.obj members) = .ok payload) :
    IsChecked members payload := by
  obtain ⟨_, h₁, h⟩ := bind_eq_ok_iff.1 h
  obtain ⟨_, h₂, h⟩ := bind_eq_ok_iff.1 h
  obtain ⟨_, h₃, h⟩ := bind_eq_ok_iff.1 h
  obtain ⟨_, h₄, h⟩ := bind_eq_ok_iff.1 h
  obtain ⟨_, h₅, h⟩ := bind_eq_ok_iff.1 h
  obtain ⟨_, h₆, h⟩ := bind_eq_ok_iff.1 h
  obtain ⟨_, h₇, h⟩ := bind_eq_ok_iff.1 h
  obtain ⟨_, h₈, h⟩ := bind_eq_ok_iff.1 h
  obtain ⟨_, h₉, h⟩ := bind_eq_ok_iff.1 h
  obtain ⟨_, h₁₀, h⟩ := bind_eq_ok_iff.1 h
  obtain ⟨_, h₁₁, h⟩ := bind_eq_ok_iff.1 h
  obtain ⟨_, h₁₂, h⟩ := bind_eq_ok_iff.1 h
  obtain rfl := pure_eq_ok_iff.1 h
  obtain ⟨_, rfl, hname⟩ := exists_of_required (fun _ _ => isSome_text?_of_name) h₁
  obtain ⟨_, rfl, haboutMe⟩ := exists_of_freeText h₂
  obtain ⟨_, rfl, hcity⟩ := exists_of_freeText h₃
  obtain ⟨_, rfl, hlat⟩ := exists_of_optional (fun _ _ _ => exists_of_coordinate) h₄
  obtain ⟨_, rfl, hlon⟩ := exists_of_optional (fun _ _ _ => exists_of_coordinate) h₅
  obtain ⟨_, rfl, hradius⟩ := exists_of_optional (fun _ _ _ => exists_of_radius) h₆
  obtain ⟨_, rfl, hpassions⟩ := exists_of_list h₇
  obtain ⟨_, rfl, hdelights⟩ := exists_of_list h₈
  obtain ⟨_, rfl, hcollaboration⟩ := exists_of_freeText h₉
  obtain ⟨_, rfl, hfood⟩ := exists_of_freeText h₁₀
  obtain ⟨_, rfl, hmusic⟩ := exists_of_freeText h₁₁
  obtain ⟨_, rfl, hweights⟩ := exists_of_optional
    (P := fun w => Members.find? "match_preferences" members = some w ∧ ∃ ms, w = .obj ms)
    (fun _ _ hv hw => by
      obtain ⟨rfl, hobj⟩ := exists_of_preferences hw
      exact ⟨hv, hobj⟩) h₁₂
  refine ⟨⟨_, rfl, Or.inr hname⟩, fun k => ?_, fun k => ?_, ⟨_, rfl, hlat⟩, ⟨_, rfl, hlon⟩,
    ⟨_, rfl, hradius⟩, ⟨_, rfl, hweights⟩⟩
  · cases k with
    | aboutMe => exact ⟨_, rfl, haboutMe⟩
    | city => exact ⟨_, rfl, hcity⟩
    | collaboration => exact ⟨_, rfl, hcollaboration⟩
    | food => exact ⟨_, rfl, hfood⟩
    | music => exact ⟨_, rfl, hmusic⟩
  · cases k with
    | analogPassions => exact ⟨_, rfl, Or.inr hpassions⟩
    | digitalDelights => exact ⟨_, rfl, Or.inr hdelights⟩

namespace IsChecked

/-- **What is left of a body has the types of the columns.** -/
theorem isTyped (h : IsChecked members payload) : Facets.IsTyped payload where
  displayName := forall_given? h.displayName
  texts k := forall_given? (h.texts k)
  lists k := forall_given? (h.lists k)
  lat := by
    intro v hv
    obtain ⟨x, rfl⟩ := forall_given? h.lat v hv
    rfl
  lon := by
    intro v hv
    obtain ⟨x, rfl⟩ := forall_given? h.lon v hv
    rfl
  radius := by
    intro v hv
    obtain ⟨n, rfl, -⟩ := forall_given? h.radius v hv
    exact ⟨n, rfl⟩
  preferences v hv := (forall_given? h.preferences v hv).2

/-- **Every number in it can be shown**: coordinates are doubles, a radius is not negative, and the
weights are those of the body, which states no number that is too long. -/
theorem not_showsLong (h : IsChecked members payload)
    (hread : Value.memberAreReadable members = true) : ¬ Facets.ShowsLong payload := by
  rintro (⟨hgiven, -⟩ | ⟨hgiven, -⟩ | ⟨hgiven, hn, -⟩ | ⟨hmember, hd, hlong⟩)
  · obtain ⟨x, hx⟩ := forall_given? h.lat _ hgiven
    cases hx
  · obtain ⟨x, hx⟩ := forall_given? h.lon _ hgiven
    cases hx
  · obtain ⟨m, hm, hnonneg⟩ := forall_given? h.radius _ hgiven
    cases hm
    exact absurd hn (Int.not_lt.2 hnonneg)
  · obtain ⟨hfind, -⟩ := forall_given? h.preferences _ (Value.mem_given?_iff.2 ⟨hmember, nofun⟩)
    have hweights := Value.isReadable_of_find? hread hfind
    rw [Value.isReadable] at hweights
    have hweight := Value.isReadable_of_find? hweights hd
    rw [Value.isReadable, hlong] at hweight
    cases hweight

end IsChecked

end Submission

/-! ## Requests that save a profile -/

/-- A request to save the caller's own profile. -/
structure Request.IsSave (r : Request) : Prop where
  method : r.method = "PUT"
  path : sameSegments saveRoute.path (Target.ofText r.target).segments = true

/-- The payload in the body of a request, if there is one. -/
def Request.payload? (r : Request) : Option Value :=
  (readBody r.body >>= payloadOf).toOption

section Serve

variable {v : Service} {c : Conditions} {now : Instant} {r : Request} {s s' : Store} {user : Int}
  {payload : Value}

theorem taskOf_save (hr : r.IsSave) (hcaller : v.callerOf r.identity = .ok user) :
    taskOf v r = (readBody r.body >>= payloadOf) >>= fun payload =>
      .ok (.act user (.saveProfile payload)) := by
  have hfind : find r.host r.method (Target.ofText r.target) = .ok saveRoute :=
    hr.method ▸ find_save hr.path
  rw [taskOf, hfind]
  show (readBody r.body >>= fun body => v.callerOf r.identity >>= fun user =>
    payloadOf body >>= fun payload => .ok (Task.act user (.saveProfile payload))) = _
  rw [hcaller]
  cases readBody r.body <;> rfl

theorem status_of_readBody {body : String} {p : Problem} (h : readBody body = .error p) :
    p.response.status = 400 := by
  unfold readBody at h
  split at h
  · cases h
  · split at h
    · obtain rfl := Except.error.inj h
      rfl
    · split at h
      · cases h
      · obtain rfl := Except.error.inj h
        rfl
      · obtain rfl := Except.error.inj h
        rfl
      · obtain rfl := Except.error.inj h
        rfl

theorem status_of_payloadOf {body : Option Value} {p : Problem} (h : payloadOf body = .error p) :
    p.response.status = 400 := by
  unfold payloadOf at h
  split at h
  · obtain rfl := Except.error.inj h
    rfl
  · split at h
    · cases h
    · obtain rfl := Except.error.inj h
      rfl

theorem status_of_no_payload {p : Problem} (h : (readBody r.body >>= payloadOf) = .error p) :
    p.response.status = 400 := by
  cases hbody : readBody r.body with
  | error p' =>
    rw [hbody] at h
    obtain rfl := Except.error.inj h
    exact status_of_readBody hbody
  | ok body =>
    rw [hbody] at h
    exact status_of_payloadOf h

theorem isReadable_of_readBody {body : String} {w : Value} (h : readBody body = .ok (some w)) :
    w.isReadable = true := by
  unfold readBody at h
  split at h
  · cases h
  · split at h
    · cases h
    · split at h
      · rename_i hread
        obtain rfl := Option.some.inj (Except.ok.inj h)
        exact Json.isReadable_of_readWithin hread
      · cases h
      · cases h
      · cases h

theorem payload?_eq_some_iff :
    r.payload? = some payload ↔ (readBody r.body >>= payloadOf) = .ok payload := by
  unfold Request.payload?
  cases readBody r.body >>= payloadOf <;> simp [Except.toOption]

/-- The payload of a body is what is left of its members, and every number in them can be shown. -/
theorem exists_isChecked (h : r.payload? = some payload) : ∃ members,
    Submission.IsChecked members payload ∧ Value.memberAreReadable members = true := by
  obtain ⟨body, hbody, h⟩ := bind_eq_ok_iff.1 (payload?_eq_some_iff.1 h)
  unfold payloadOf at h
  split at h
  · cases h
  · rename_i w
    split at h
    · rename_i hcheck
      obtain rfl := Except.ok.inj h
      cases w with
      | obj members =>
        have hread := isReadable_of_readBody hbody
        rw [Value.isReadable] at hread
        exact ⟨members, Submission.isChecked_of_check hcheck, hread⟩
      | null | bool | int | real | str | arr => cases hcheck
    · cases h

theorem upsert_fair (huser : isStorable user = true) :
    Session.upsert .fair user payload s = s.upsert user payload := by
  rw [Session.upsert_eq, Session.checkPayload, lookUp_of_isStorable huser]
  cases h : Facets.validate payload with
  | error why =>
    rw [Store.upsert_of_not_accepted h]
    rfl
  | ok f => rfl

theorem outcome_saveProfile_fair (huser : isStorable user = true) :
    ((Action.saveProfile payload).work v .fair now user).outcome s =
      s.upsert user payload >>= fun x => ownProfileResponse x.1 >>= fun response =>
        .ok (response, x.2) := by
  rw [Action.work, Transaction.outcome_bind, ← upsert_fair huser, Session.upsert]
  simp only [Transaction.outcome_reading]

theorem isPresentable_of_fitsTable {p : Profile} {f : Facets} (hkeeps : p.Keeps user f)
    (hfits : p.FitsTable) : isPresentable p = true := by
  unfold isPresentable isPublishable
  rw [hkeeps.analogPassions, hkeeps.digitalDelights, isTexts?_ofTexts, isTexts?_ofTexts,
    hkeeps.preferences]
  cases hr : p.maxRadius with
  | none => rfl
  | some q =>
    obtain ⟨n, rfl, -⟩ := hfits.maxRadius q hr
    rfl

theorem isEncodable_toValue {p : Profile} {f : Facets} (hkeeps : p.Keeps user f)
    (hf : f.IsEncodable) : p.toValue.isEncodable = true := by
  have hnumber : ∀ o : Option Quantity,
      ((o.map Quantity.toValue).getD Value.null).isEncodable = true := by
    rintro (_ | q)
    · rfl
    · cases q <;> rfl
  have hpassions : (Value.ofTexts f.analogPassions).isEncodable = true :=
    Value.isEncodable_ofTexts.2 (hf.lists .analogPassions)
  have hdelights : (Value.ofTexts f.digitalDelights).isEncodable = true :=
    Value.isEncodable_ofTexts.2 (hf.lists .digitalDelights)
  have hweights : f.weights.toValue.isEncodable = true := rfl
  rw [Profile.toValue, hkeeps.analogPassions, hkeeps.digitalDelights, hkeeps.preferences]
  simp [Value.isEncodable, Value.memberAreEncodable, Value.isEncodable_ofText?, hnumber, hpassions,
    hdelights, hweights]

theorem ownProfileResponse_of_keeps {p : Profile} {f : Facets} (hkeeps : p.Keeps user f)
    (hfits : p.FitsTable) (hf : f.IsEncodable) :
    ownProfileResponse p = .ok ⟨200, .json p.toValue.strict, []⟩ := by
  refine ownProfileResponse_eq_ok_iff.2 ⟨isPresentable_of_fitsTable hkeeps hfits, ?_, rfl⟩
  rw [Value.isEncodable_strict]
  exact isEncodable_toValue hkeeps hf

end Serve

/-- How a request to save a profile is answered: with a status of 400, since it states no payload or
one that is not accepted; with the profile that is stored; or, where only the radius does not fit
its column, with a status of 500. -/
inductive SaveAnswer (r : Request) (user : Int) (s : Store) : Response × Store → Prop
  | refused {response : Response} (hstatus : response.status = 400)
      (hnone : ∀ payload f, r.payload? = some payload → Facets.validate payload ≠ .ok f) :
      SaveAnswer r user s (response, s)
  | saved {payload : Value} {p : Profile} {s' : Store} (hpayload : r.payload? = some payload)
      (hsave : s.upsert user payload = .ok (p, s')) :
      SaveAnswer r user s (⟨200, .json p.toValue.strict, []⟩, s')
  | failed {payload : Value} {f : Facets} {n : Int} (hpayload : r.payload? = some payload)
      (hf : Facets.validate payload = .ok f)
      (hgiven : payload.given? "max_radius_km" = some (.int n)) (hlarge : 0x8000000000000000 ≤ n) :
      SaveAnswer r user s (⟨500, .text "Internal Server Error", []⟩, s)

theorem respond_save {v : Service} {r : Request} {s : Store} {user : Int} (hr : r.IsSave)
    (hhost : Url.isReadable r.host = true) (hcaller : v.callerOf r.identity = .ok user)
    (huser : (s.user? user).isSome = true) (hstorable : isStorable user = true)
    (hencodable : ∀ payload, r.payload? = some payload → payload.isEncodable = true)
    (now : Instant) : SaveAnswer r user s (respond v .fair now r s) := by
  have hhead : (r.method == "HEAD") = false := by
    rw [hr.method]
    rfl
  have htask := taskOf_save hr hcaller
  cases hbody : readBody r.body >>= payloadOf with
  | error p =>
    rw [hbody] at htask
    rw [respond_of_problem hhost hhead htask]
    refine .refused (status_of_no_payload hbody) fun payload f hpayload => ?_
    rw [payload?_eq_some_iff, hbody] at hpayload
    cases hpayload
  | ok payload =>
    rw [hbody] at htask
    have hpayload : r.payload? = some payload := payload?_eq_some_iff.2 hbody
    obtain ⟨members, hchecked, hread⟩ := exists_isChecked hpayload
    have hsaves := Store.upsert_saves huser hchecked.isTyped (hencodable _ hpayload)
    rw [respond_of_task hhost hhead htask, Task.work, outcome_saveProfile_fair hstorable]
    generalize hsave : s.upsert user payload = outcome at hsaves
    cases hsaves with
    | refused h =>
      refine .refused rfl fun payload' f hpayload' hf => ?_
      obtain rfl := Option.some.inj (hpayload.symm.trans hpayload')
      rw [h] at hf
      exact absurd hf (refuse_ne_ok _ _)
    | unshown _ hlong => exact absurd hlong (hchecked.not_showsLong hread)
    | @stored f p hf hkeeps hfits hradius =>
      have hshown := ownProfileResponse_of_keeps hkeeps hfits
        (Facets.isEncodable_of_validate (hencodable _ hpayload) hf)
      simp only [bind, Except.bind, hshown]
      exact .saved hpayload hsave
    | unstorable hf hgiven hlarge hrest hfits => exact .failed hpayload hf hgiven hlarge

/-! ## What is accepted and what is stored -/

/-- **What is accepted is stored, up to the radius.** Saving a payload of the right types for a
member that exists is refused, or stores a profile that keeps the facets and fits the table. There
are two other ends: the payload cannot be refused, since the number to be shown has too many digits,
or the radius, and nothing else, is 2⁶³ or more and does not fit its column. A request to save the
caller's profile, where its host can be read, is answered with a status of 400, or shows the profile
that is stored, or has a status of 500 in the second of these cases; the first does not occur. -/
theorem accepted_is_stored_up_to_radius {s : Store} {user : Int}
    (huser : (s.user? user).isSome = true) :
    (∀ payload, Facets.IsTyped payload → payload.isEncodable = true →
      s.Saves user payload (s.upsert user payload)) ∧
    (isStorable user = true → ∀ (v : Service) (now : Instant) (r : Request), r.IsSave →
      v.callerOf r.identity = .ok user →
      (∀ payload, r.payload? = some payload → payload.isEncodable = true) →
      (Url.isReadable r.host = true → SaveAnswer r user s (respond v .fair now r s)) ∧
        (Url.isReadable r.host = false → (respond v .fair now r s).1.status = 500)) :=
  ⟨fun _ ht hencodable => Store.upsert_saves huser ht hencodable,
    fun hstorable _ now _ hr hcaller hencodable =>
      ⟨fun hhost => respond_save hr hhost hcaller huser hstorable hencodable now,
        status_of_not_isReadable⟩⟩

/-- A payload with a radius. -/
def withRadius (n : Int) : Value :=
  .obj [("display_name", .str "Mia"), ("max_radius_km", .int n)]

theorem isTyped_withRadius (n : Int) : Facets.IsTyped (withRadius n) where
  displayName := by
    rintro _ ⟨⟩
    rfl
  texts k := by cases k <;> rintro _ ⟨⟩
  lists k := by cases k <;> rintro _ ⟨⟩
  lat := by rintro _ ⟨⟩
  lon := by rintro _ ⟨⟩
  radius := by
    rintro _ ⟨⟩
    exact ⟨n, rfl⟩
  preferences := by rintro _ ⟨⟩

/-- The first member saves a profile with a radius. -/
def saveWithRadius (n : Nat) : Request where
  method := "PUT"
  host := "http://localhost"
  target := "/api/v1/profiles/me"
  identity := some "1"
  body := "\x7b\"display_name\": \"Mia\", \"max_radius_km\": " ++ toString n ++ "\x7d"

theorem isSave_saveWithRadius (n : Nat) : (saveWithRadius n).IsSave :=
  ⟨rfl, (by decide +kernel : sameSegments saveRoute.path
    (Target.ofText "/api/v1/profiles/me").segments = true)⟩

/-- The first member is accepted with a radius of 50 and saved, and accepted with one of 2⁶³ and not
saved. -/
theorem accepted_is_stored_up_to_radius_sample :
    let v : Service := ⟨Geometry.sphere Float, "x-user-id", true⟩
    (Store.sample.user? 1).isSome = true ∧
      Store.sample.Saves 1 (withRadius 50) (Store.sample.upsert 1 (withRadius 50)) ∧
      Store.sample.Saves 1 (withRadius 0x8000000000000000) (broken .unstorable) ∧
      SaveAnswer (saveWithRadius 50) 1 Store.sample
        (respond v .fair 0 (saveWithRadius 50) Store.sample) ∧
      (respond v .fair 0 (saveWithRadius 50) Store.sample).1.status = 200 := by
  intro v
  have huser : (Store.sample.user? 1).isSome = true := rfl
  obtain ⟨hsaves, hanswer⟩ := accepted_is_stored_up_to_radius huser
  have hencodable : ((saveWithRadius 50).payload?.all Value.isEncodable) = true := by
    decide +kernel
  have hlarge : Store.sample.upsert 1 (withRadius 0x8000000000000000) = broken .unstorable := by
    rw [Store.upsert_eq]
    rfl
  refine ⟨huser, hsaves _ (isTyped_withRadius 50) rfl, hlarge ▸ hsaves _ (isTyped_withRadius _) rfl,
    (hanswer rfl v 0 _ (isSave_saveWithRadius 50) rfl fun payload hpayload => ?_).1
      (by decide +kernel), by decide +kernel⟩
  rw [hpayload] at hencodable
  exact hencodable

/-- A radius of 2⁶³ is accepted by all checks, and saving it neither succeeds nor is refused. -/
theorem radius_is_accepted_and_not_stored :
    (Store.sample.user? 1).isSome = true ∧ Facets.IsTyped (withRadius 0x8000000000000000) ∧
      (withRadius 0x8000000000000000).isEncodable = true ∧
      (∃ f, Facets.validate (withRadius 0x8000000000000000) = .ok f) ∧
      (¬ ∃ done, Store.sample.upsert 1 (withRadius 0x8000000000000000) = .ok done) ∧
      (¬ ∃ fault, Store.sample.upsert 1 (withRadius 0x8000000000000000) =
        refuse (.payload fault)) ∧
      (saveWithRadius 0x8000000000000000).IsSave ∧
      (respond ⟨Geometry.sphere Float, "x-user-id", true⟩ .fair 0
        (saveWithRadius 0x8000000000000000) Store.sample).1.status = 500 := by
  have hbroken : Store.sample.upsert 1 (withRadius 0x8000000000000000) = broken .unstorable := by
    rw [Store.upsert_eq]
    rfl
  refine ⟨rfl, isTyped_withRadius _, rfl, ⟨_, rfl⟩, ?_, ?_, isSave_saveWithRadius _,
    by decide +kernel⟩
  · rintro ⟨done, hdone⟩
    exact absurd (hbroken.symm.trans hdone) (broken_ne_ok _ _)
  · rintro ⟨fault, hfault⟩
    cases hbroken.symm.trans hfault

end Matchmaker.Api
