import Matchmaker.Proofs.OneRow

/-!
# What a transition reports

A transition reports a state, and right afterwards both members should read it. They do after every
request, acceptance and disconnection. After a request is declined or cancelled they read nothing
only if it was the one row of the pair: a row in the other direction, which was hidden behind the
request, decides from then on.

* `Result.toCaller`, `Result.toOther`, `Store.Shows`: the state reported as both members read it;
* `request_pending_iff`: when a request makes a row;
* **`reported_state`**: when the state reported is the one that the pair is in;
* `decline_uncovers_connection`: a declined request that leaves a connection.
-/

namespace Matchmaker

open Transition (Decided Outcome Result Write)

namespace Transition.Result

/-- How the caller of a transition that reports this should see the pair. -/
def toCaller : Result → Relationship
  | pending => .pendingOutgoing
  | accepted => .accepted
  | declined | cancelled => .none
  | disconnected => .disconnected

/-- How the other member should see the pair. -/
def toOther : Result → Relationship
  | pending => .pendingIncoming
  | accepted => .accepted
  | declined | cancelled => .none
  | disconnected => .disconnected

/-- A request was taken back or turned down. -/
def isRemoval : Result → Bool
  | declined | cancelled => true
  | pending | accepted | disconnected => false

end Transition.Result

namespace Store

variable {s s' : Store} {now : Instant} {t : Transition} {a b : Int} {o : Outcome}
  {result : Result} {w : Write}

/-- Both members read the state that a transition by `a` reported. -/
def Shows (s : Store) (a b : Int) (result : Result) : Prop :=
  s.relationship a b = result.toCaller ∧ s.relationship b a = result.toOther

theorem shows_of_deciding? {row : Option Connection} (hrow : s.deciding? a b = row) :
    s.Shows a b result ↔
      Relationship.of a row = result.toCaller ∧ Relationship.of b row = result.toOther := by
  rw [Shows, relationship_swap s a b, relationship, hrow]

/-! ## What is kept -/

theorem shows_of_decided (hs : s.IsLawful) (hpast : s.IsPast now) (hab : a ≠ b)
    (h : Decided a b (s.read a b) t result w) (hresult : result.isRemoval = false) :
    (s.write now w).Shows a b result := by
  cases h with
  | ask _ _ hnone _ =>
    rw [shows_of_deciding? (deciding?_insert (deciding?_eq_none_iff.1 hnone))]
    exact ⟨Relationship.of_eq_pendingOutgoing_iff.2 ⟨_, rfl, rfl, rfl⟩,
      Relationship.of_eq_pendingIncoming_iff.2 ⟨_, rfl, rfl, hab⟩⟩
  | agree _ _ hdeciding | accept hdeciding =>
    rw [shows_of_deciding? (deciding?_mark hs hpast hdeciding _)]
    exact ⟨Relationship.of_eq_accepted_iff.2 ⟨_, rfl, rfl⟩,
      Relationship.of_eq_accepted_iff.2 ⟨_, rfl, rfl⟩⟩
  | disconnect hdeciding =>
    rw [shows_of_deciding? (deciding?_mark hs hpast hdeciding _)]
    exact ⟨Relationship.of_eq_disconnected_iff.2 ⟨_, rfl, rfl⟩,
      Relationship.of_eq_disconnected_iff.2 ⟨_, rfl, rfl⟩⟩
  | decline | cancel => cases hresult

/-! ## What is deleted -/

theorem delete_of_decided (h : Decided a b (s.read a b) t result w)
    (hresult : result.isRemoval = true) :
    ∃ c, s.deciding? a b = some c ∧ c.status = .pending ∧ w = .delete c.id := by
  cases h with
  | decline hdeciding hstatus | cancel hdeciding hstatus => exact ⟨_, hdeciding, hstatus, rfl⟩
  | ask | agree | accept | disconnect => cases hresult

theorem shows_of_removal (hresult : result.isRemoval = true) {row : Option Connection}
    (hrow : s.deciding? a b = row) : s.Shows a b result ↔ row = none := by
  rw [shows_of_deciding? hrow]
  cases result with
  | declined | cancelled =>
    exact ⟨fun h => Relationship.of_eq_none_iff.1 h.1, fun h => by rw [h]; exact ⟨rfl, rfl⟩⟩
  | pending | accepted | disconnected => cases hresult

/-- A request makes a row between two members with complete profiles, where there is no row and the
one who asks has not dismissed the other. -/
theorem request_pending_iff {x y : Int} (hxy : x ≠ y) :
    (∃ id s', Transition.run now .request x y s = .ok (⟨.pending, id⟩, s')) ↔
      s.deciding? x y = none ∧ s.isComplete x = true ∧ s.isComplete y = true ∧
        s.hasDismissed x y = false := by
  constructor
  · rintro ⟨id, s', h⟩
    obtain ⟨-, w, hw, -, -⟩ := Transition.run_eq_ok_iff.1 h
    cases hw with
    | ask hcaller hother hrow hledger => exact ⟨hrow, hcaller, hother, hledger⟩
  · rintro ⟨hrow, hcaller, hother, hledger⟩
    exact ⟨_, _, Transition.run_eq_ok_iff.2 ⟨hxy, _, .ask hcaller hother hrow hledger, rfl, rfl⟩⟩

/-- After a removal the same request makes a row again only if nothing is left. -/
theorem request_again_iff (hs : s.IsLawful) {c : Connection} (hdeciding : s.deciding? a b = some c)
    (now later : Instant) :
    (∃ id s', Transition.run later .request c.requester c.target
        (s.write now (.delete c.id)) = .ok (⟨.pending, id⟩, s')) ↔
      s.counterpart? c = none ∧ s.isComplete c.requester = true ∧ s.isComplete c.target = true ∧
        s.hasDismissed c.requester c.target = false := by
  obtain ⟨hc, hpair⟩ := mem_of_deciding? hdeciding
  rw [request_pending_iff (hs.ends c hc), deciding?_congr hpair, deciding?_delete hs hdeciding]
  rfl

/-! ## Reports -/

/-- **When the state reported is the one that the pair is in.** A request, an acceptance and a
disconnection always show. A removal shows exactly if the request has no counterpart; otherwise both
members read the counterpart from then on, and the same request cannot be made again. -/
theorem reported_state (hs : s.IsLawful) (hpast : s.IsPast now)
    (h : t.run now a b s = .ok (o, s')) :
    (o.result.isRemoval = false → s'.Shows a b o.result) ∧
      (o.result.isRemoval = true → ∃ c, s.deciding? a b = some c ∧ o.connection = c.id ∧
        (s'.Shows a b o.result ↔ s.counterpart? c = none) ∧
        s'.relationship a b = .of a (s.counterpart? c) ∧
        s'.relationship b a = .of b (s.counterpart? c) ∧
        ∀ later, (∃ id s'', Transition.run later .request c.requester c.target s' =
            .ok (⟨.pending, id⟩, s'')) ↔
          s.counterpart? c = none ∧ s.isComplete c.requester = true ∧
            s.isComplete c.target = true ∧ s.hasDismissed c.requester c.target = false) := by
  obtain ⟨hab, w, hw, hid, rfl⟩ := Transition.run_eq_ok_iff.1 h
  refine ⟨shows_of_decided hs hpast hab hw, fun hresult => ?_⟩
  obtain ⟨c, hdeciding, -, rfl⟩ := delete_of_decided hw hresult
  have hleft : (s.write now (.delete c.id)).deciding? a b = s.counterpart? c :=
    deciding?_delete hs hdeciding
  refine ⟨c, hdeciding, hid, shows_of_removal hresult hleft, ?_, ?_, ?_⟩
  · rw [relationship, hleft]
  · rw [relationship_swap _ a b, hleft]
  · exact fun later => request_again_iff hs hdeciding now later

/-- The second member declines the request of the first and stays connected with them. -/
theorem reported_state_sample : twoWay.IsLawful ∧ twoWay.IsPast 5 ∧
    ∃ s', Transition.run 5 .decline 2 1 twoWay = .ok (⟨.declined, 2⟩, s') ∧
      ¬ s'.Shows 2 1 .declined ∧ s'.relationship 1 2 = .accepted ∧
      s'.relationship 2 1 = .accepted := by
  have hpast : twoWay.IsPast 5 := isPast_twoWay (by decide)
  have hrun : Transition.run 5 .decline 2 1 twoWay = .ok (⟨.declined, 2⟩, _) := rfl
  obtain ⟨-, hremoved⟩ := reported_state isLawful_twoWay hpast hrun
  obtain ⟨c, hdeciding, -, hshows, hcaller, hother, -⟩ := hremoved rfl
  obtain rfl : (⟨2, 1, 2, .pending, 1, 4⟩ : Connection) = c := Option.some.inj hdeciding
  refine ⟨isLawful_twoWay, hpast, _, hrun, ?_, hother, hcaller⟩
  rw [hshows]
  decide

/-- A request that is declined while the members stay connected. -/
theorem decline_uncovers_connection :
    ¬ ∀ (s s' : Store) (now : Instant) (t : Transition) (a b : Int) (o : Outcome),
      s.IsLawful → s.IsPast now → t.run now a b s = .ok (o, s') → s'.Shows a b o.result := by
  intro h
  have hpast : twoWay.IsPast 5 := isPast_twoWay (by decide)
  have hshows := h twoWay _ 5 .decline 2 1 ⟨.declined, 2⟩ isLawful_twoWay hpast rfl
  exact absurd hshows.1 (by decide)

end Store

end Matchmaker
