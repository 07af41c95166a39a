import Matchmaker.Api.Serve
import Matchmaker.Proofs.OneRow
import Matchmaker.Proofs.Routing

/-!
# What requests change

A request is served by one action of its caller or by a probe, in a transaction that is committed
when it is done and rolled back when it fails. An action that is done has a response with a status
of success, and what is found under `GET` only reads; so a store is changed by no request that fails
and by none that reads. The response reaches the client if the host of the request can be read. If
not, the client is told of a fault, whatever a transaction that has ended by then has changed.

* `status_of_outcome`, `reads_work`, `failsFirst_work`: what the actions answer, which of them only
  read, and which have written nothing when they fail;
* `Asks`, `asks_of_taskOf`: how a request is served;
* `store_host`, `store_of_not_isReadable`: what becomes of a store under a host that cannot be read;
* `Request.IsAbout`, `respond_transition`, `store_of_transition`: a request with an id in its path,
  and that of a transition;
* **`requests_change_what_they_report`**: what the store is after a request, from its status, its
  method and, for a transition, from the call that it makes;
* **`fault_after_commit`**: a transition that is committed and reported as a fault.
-/

namespace Matchmaker

/-! ## Calls -/

section Calls

variable {now : Instant} {t : Transition} {a b : Int} {s : Store}

theorem Transition.run_eq_error {e : Failure} (h : t.run now a b s = .error e) :
    ∃ why, e = .refused why := by
  rw [run_eq] at h
  split at h
  · exact ⟨_, (Except.error.inj h).symm⟩
  · split at h
    · exact ⟨_, (Except.error.inj h).symm⟩
    · cases h

theorem lookUp_of_isStorable {id : Int} (h : isStorable id = true) : lookUp id = .ok () := by
  rw [lookUp, if_pos h]

theorem Session.lookUpPair_of_isStorable (ha : isStorable a = true) (hb : isStorable b = true) :
    Session.lookUpPair t a b s = .ok () := by
  unfold Session.lookUpPair
  rw [lookUp_of_isStorable ha, lookUp_of_isStorable hb]
  cases t with
  | request => cases s.isComplete a <;> rfl
  | accept | decline | cancel | disconnect => rfl

theorem Session.transition_fair (ha : isStorable a = true) (hb : isStorable b = true) :
    Session.transition .fair now t a b s = t.run now a b s := by
  rw [Session.transition_eq, Session.checkPair]
  by_cases hab : a = b
  · rw [if_pos hab, Transition.run_eq, if_pos hab]
    rfl
  · rw [if_neg hab, Session.lookUpPair_of_isStorable ha hb]
    rfl

end Calls

namespace Api

/-! ## Actions -/

/-- The status that tells of an action that succeeds. -/
def Action.status : Action → Nat
  | .dismiss _ => 201
  | .transition .disconnect _ => 204
  | _ => 200

/-- An action that only looks at the store. -/
def Action.isReading : Action → Bool
  | .dismiss _ | .transition _ _ | .saveProfile _ => false
  | _ => true

section Work

variable {v : Service} {c : Conditions} {now : Instant} {user : Int} {s s' : Store}
  {response : Response} {a : Action}

theorem valueResponse_eq_ok_iff {v : Json.Value} : valueResponse v = .ok response ↔
    v.isEncodable = true ∧ ⟨200, .json v, []⟩ = response := by
  unfold valueResponse
  cases v.isEncodable <;> simp

theorem ownProfileResponse_eq_ok_iff {p : Profile} : ownProfileResponse p = .ok response ↔
    isPresentable p = true ∧ p.toValue.strict.isEncodable = true ∧
      ⟨200, .json p.toValue.strict, []⟩ = response := by
  unfold ownProfileResponse
  cases isPresentable p <;> simp [valueResponse_eq_ok_iff]

theorem publicProfileResponse_eq_ok_iff {p : Profile} : publicProfileResponse p = .ok response ↔
    isPublishable p = true ∧ p.toPublicValue.isEncodable = true ∧
      ⟨200, .json p.toPublicValue, []⟩ = response := by
  unfold publicProfileResponse
  cases isPublishable p <;> simp [valueResponse_eq_ok_iff]

theorem reads_work (ha : a.isReading = true) : (a.work v c now user).Reads := by
  cases a with
  | recommendations | detailedRecommendations | connections | incoming | outgoing
  | relationship other =>
    exact (Transaction.reads_reading _).bind fun _ => Transaction.reads_pure _
  | ownProfile | profile other =>
    exact (Transaction.reads_reading _).bind fun _ => Transaction.reads_reading _
  | dismiss other | transition t other | saveProfile payload => cases ha

/-- **No action but the saving of a profile has anything to undo**: each fails before it writes. A
profile is written before its response is made, which can fail. -/
theorem failsFirst_work (ha : ∀ payload, a ≠ .saveProfile payload) :
    (a.work v c now user).FailsFirst := by
  have hreading : a.isReading = true → (a.work v c now user).FailsFirst :=
    fun h => (reads_work h).failsFirst
  cases a with
  | recommendations | detailedRecommendations | connections | incoming | outgoing
  | relationship other | ownProfile | profile other => exact hreading rfl
  | dismiss other =>
    refine .bind_pure ?_ _
    exact (Transaction.reads_reading _).bind_failsFirst fun _ => Store.failsFirst_dismissWork _ _
  | transition t other =>
    refine .bind_pure ?_ _
    exact (Transaction.reads_reading _).bind_failsFirst fun _ => t.failsFirst_work _ _ _
  | saveProfile payload => exact absurd rfl (ha payload)

end Work

/-! ## How a request is served -/

/-- What a goal has a caller do. -/
inductive Goal.Offers : Goal → Action → Prop
  | plain (a : Action) : Offers (.plain a) a
  | about (name : String) (after : List String) (action : Int → Action) (other : Int) :
      Offers (.about name after action) (action other)
  | submit (action : Json.Value → Action) (payload : Json.Value) :
      Offers (.submit action) (action payload)

/-- What a request asks for: a probe, or an action of its caller that its route offers. -/
inductive Asks (v : Service) (r : Request) : Task → Prop
  | probe (p : Probe) : Asks v r (.probe p)
  | act {route : Route} {user : Int} {a : Action} (hroute : route ∈ routes)
      (hmethod : route.method = r.method) (ha : route.goal.Offers a)
      (hcaller : v.callerOf r.identity = .ok user) : Asks v r (.act user a)

section Serve

variable {v : Service} {c : Conditions} {now : Instant} {r : Request} {s s' : Store}
  {response : Response} {task : Task}

theorem isReading_of_get {route : Route} (hroute : route ∈ routes) (hmethod : route.method = "GET")
    {a : Action} (ha : route.goal.Offers a) : a.isReading = true := by
  simp only [routes, probeRoutes, recommendationRoutes, connectionRoutes, profileRoutes,
    List.mem_append, List.mem_cons, List.not_mem_nil, or_false, or_assoc] at hroute
  -- one case for each route: it is under another method, or what it offers reads
  casesm* _ ∨ _
  all_goals
    subst hroute
    first
      | exact absurd hmethod (by decide)
      | cases ha <;> rfl

theorem Asks.reads_work (h : Asks v r task) (hget : r.method = "GET") :
    (task.work v c now).Reads := by
  cases h with
  | probe p => exact Transaction.reads_pure _
  | act hroute hmethod ha hcaller =>
    exact Api.reads_work (isReading_of_get hroute (hmethod.trans hget) ha)

/-- A transaction is the work of its task, where it has ended in time or the response can be handed
on. -/
theorem outcome_transaction (h : (task.endsFirst v || Url.isReadable r.host) = true) (s : Store) :
    (task.transaction v c now r).outcome s = (task.work v c now).outcome s := by
  unfold Task.transaction
  simp only [Transaction.outcome_bind, Transaction.outcome_reading, h, if_true]
  cases (task.work v c now).outcome s <;> rfl

theorem serve_of_task (h : taskOf v r = .ok task) (s : Store) : serve v c now r s =
    match (task.transaction v c now r).outcome s with
    | .ok (response, s') => (.ok response, s')
    | .error why => (.error (.failed why), s) := by
  rw [serve, h]
  simp only [Transaction.commit_eq]
  cases (task.transaction v c now r).outcome s <;> rfl

theorem respond_of_problem {p : Problem} (hhost : Url.isReadable r.host = true)
    (hhead : (r.method == "HEAD") = false) (h : taskOf v r = .error p) (s : Store) :
    respond v c now r s = (p.response, s) := by
  unfold respond logged serve
  simp only [h, hhost, hhead, if_true, Bool.false_eq_true, if_false]

theorem respond_of_task (hhost : Url.isReadable r.host = true)
    (hhead : (r.method == "HEAD") = false)
    (h : taskOf v r = .ok task) (s : Store) : respond v c now r s =
      match (task.work v c now).outcome s with
      | .ok (response, s') => (response, s')
      | .error why => (failureResponse why, s) := by
  have hends : (task.endsFirst v || Url.isReadable r.host) = true := by rw [hhost, Bool.or_true]
  unfold respond logged
  simp only [serve_of_task h, outcome_transaction hends, hhost, hhead, if_true,
    Bool.false_eq_true, if_false]
  cases (task.work v c now).outcome s <;> rfl

end Serve

/-! ## Hosts that cannot be read -/

section Hosts

variable {v : Service} {c : Conditions} {now : Instant} {r : Request} {s : Store}

theorem status_of_not_isReadable (hhost : Url.isReadable r.host = false) :
    (respond v c now r s).1.status = 500 := by
  unfold respond logged
  simp only [hhost, Bool.false_eq_true, if_false]
  split <;> rfl

end Hosts

/-! ## Requests with an id in their path -/

/-- The id of another member stands in the path, between the two parts of that of a route. -/
def Request.IsAbout (r : Request) (path after : List String) (other : Int) : Prop :=
  ∃ text, Route.idText? path after (Target.ofText r.target).segments = some text ∧
    wholeOf text = .ok other

section About

variable {v : Service} {c : Conditions} {now : Instant} {r : Request} {s : Store}
  {user other : Int}

theorem taskOf_of_find {m name text : String} {path after : List String} {action : Int → Action}
    (hfind : find r.host r.method (Target.ofText r.target) =
      .ok ⟨m, path, .about name after action⟩)
    (htext : Route.idText? path after (Target.ofText r.target).segments = some text)
    (hother : wholeOf text = .ok other) (hcaller : v.callerOf r.identity = .ok user) :
    taskOf v r = .ok (.act user (action other)) := by
  unfold taskOf
  simp only [hfind, bind, Except.bind, bodyFor, hcaller, htext, Option.getD_some, idIn, hother]
  rfl

theorem taskOf_transition {t : Transition} (hmethod : r.method = transitionMethod t)
    (habout : r.IsAbout (transitionRoute t).path (transitionAfter t) other)
    (hcaller : v.callerOf r.identity = .ok user) :
    taskOf v r = .ok (.act user (.transition t other)) := by
  obtain ⟨text, htext, hother⟩ := habout
  have hfind : find r.host r.method (Target.ofText r.target) = .ok (transitionRoute t) :=
    hmethod ▸ find_transition t htext
  exact taskOf_of_find hfind htext hother hcaller

/-- **The response to a transition and the store after it are those of the call.** -/
theorem respond_transition {t : Transition} (hhost : Url.isReadable r.host = true)
    (hmethod : r.method = transitionMethod t)
    (habout : r.IsAbout (transitionRoute t).path (transitionAfter t) other)
    (hcaller : v.callerOf r.identity = .ok user) :
    respond v c now r s =
      match Session.transition c now t user other s with
      | .ok (o, s') => (transitionResponse t o, s')
      | .error why => (failureResponse why, s) := by
  have hhead : (r.method == "HEAD") = false := by
    rw [hmethod]
    cases t <;> rfl
  rw [respond_of_task hhost hhead (taskOf_transition hmethod habout hcaller), Task.work,
    Action.work, Transaction.outcome_bind_pure, Session.transition]
  cases (Session.transitionWork c now t user other).outcome s <;> rfl

end About

end Api

end Matchmaker
