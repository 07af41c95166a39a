import Matchmaker.Command.Race
import Matchmaker.Proofs.Addresses
import Matchmaker.Proofs.Racing
import Matchmaker.Proofs.Requests

/-!
# Clients of the service

A client that reaches the service gets over HTTP what the calls on the store answer: it writes the
ids into paths and into a header, the service reads them again, and the texts of the responses are
the names of results, states and errors.

* `IsId`: the ids that can be sent;
* `respond_relationship`: the response to a look;
* `toList_connectionPath`, `toList_requestPath`: the paths of the client;
* `Client.Reaches`, **`Client.errand_eq`**: a client that reaches the service, and what it gets.
-/

namespace Matchmaker

/-- An id that a database gives to its users. -/
structure IsId (n : Int) : Prop where
  pos : 0 < n
  isStorable : isStorable n = true

/-- The members of the pair that an errand concerns. -/
def Errand.members : Errand → List Int
  | ask a b | look a b => [a, b]

/-- What a client makes of what is heard: the name of a result or of a state, or the code of an
error. -/
def Heard.text : Heard → Option String
  | answer (.ok r) => some r.name
  | answer (.error (.refused why)) => some why.kind.code
  | answer (.error (.fault _)) => some "http_500"
  | state r => some r.name

/-! ## A look at a connection -/

namespace Session

variable {a b : Int} {s : Store}

theorem relationship_fair (ha : isStorable a = true) (hb : isStorable b = true) :
    Session.relationship .fair a b s = .ok (s.relationship a b) := by
  unfold Session.relationship
  rw [lookUp_of_isStorable ha, lookUp_of_isStorable hb]
  rfl

end Session

namespace Api

section Look

variable {v : Service} {c : Conditions} {now : Instant} {r : Request} {s : Store}
  {user other : Int}

theorem wholeOf_lists : ∀ name ∈ ["requests", "outgoing"],
    wholeOf name = .error .noWholeNumeral ∧ wholeOf (name ++ "\n") = .error .noWholeNumeral := by
  intro name hname
  rcases List.mem_pair.1 hname with rfl | rfl
  · exact ⟨by cbv, by cbv⟩
  · exact ⟨by cbv, by cbv⟩

/-- **A look at a connection over HTTP** shows how the caller sees the pair. -/
theorem respond_relationship (hhost : Url.isReadable r.host = true) (hget : r.method = "GET")
    (habout : r.IsAbout relationshipRoute.path [] other)
    (hcaller : v.callerOf r.identity = .ok user) (huser : isStorable user = true)
    (hother : isStorable other = true) :
    (respond v .fair now r s).1 =
      Response.json 200
        [("user_id", .int other), ("state", .str (s.relationship user other).name)] := by
  obtain ⟨text, htext, hwhole⟩ := habout
  have hfind : find r.host r.method (Target.ofText r.target) = .ok relationshipRoute := by
    rw [hget]
    refine find_relationship htext fun name hname => ⟨fun he => ?_, fun he => ?_⟩
    · rw [he, (wholeOf_lists name hname).1] at hwhole
      cases hwhole
    · rw [he, (wholeOf_lists name hname).2] at hwhole
      cases hwhole
  have hhead : (r.method == "HEAD") = false := by
    rw [hget]
    rfl
  have htask : taskOf v r = .ok (.act user (.relationship other)) :=
    taskOf_of_find hfind htext hwhole hcaller
  rw [respond_of_task hhost hhead htask, Task.work, Action.work,
    Transaction.outcome_reading_bind, Session.relationship_fair huser hother]
  rfl

end Look

end Api

namespace Command.Race

open Api (Response Service Request IsPlainPath pathOf)

/-! ## The paths of a client -/

section Paths

variable {n : Int}

/-- The parts of the path of the connection with a member, and what follows them. -/
def pathParts (n : Int) (after : List (List Char)) : List (List Char) :=
  "api".toList :: "v1".toList :: "connections".toList :: Decimal.digitsOf n.toNat :: after

theorem isPlainPath_pathParts (n : Int) {after : List (List Char)}
    (hafter : ∀ part ∈ after, ∀ c ∈ part, c.isAlphanum = true) :
    IsPlainPath (pathParts n after) where
  ne_nil := List.cons_ne_nil _ _
  alphanum := by
    simp only [pathParts, List.forall_mem_cons]
    exact ⟨by simp, by simp, by simp,
      fun c hc => (Decimal.isDigit_of_mem_digitsOf hc).isAlphanum, hafter⟩

theorem toList_connectionPath (hn : 0 < n) :
    (connectionPath n).toList = pathOf (pathParts n []) := by
  have hdigits : (toString n).toList = Decimal.digitsOf n.toNat := Decimal.toList_toString hn
  have happend : (connectionPath n).toList = "/api/v1/connections/".toList ++ (toString n).toList :=
    String.toList_append
  have hparts : pathOf (pathParts n []) =
      "/api/v1/connections/".toList ++ Decimal.digitsOf n.toNat := by
    simp [pathOf, pathParts]
  rw [happend, hdigits, hparts]

theorem toList_requestPath (hn : 0 < n) :
    (connectionPath n ++ "/request").toList = pathOf (pathParts n ["request".toList]) := by
  have hparts : pathOf (pathParts n ["request".toList]) =
      pathOf (pathParts n []) ++ "/request".toList := by
    simp [pathOf, pathParts, List.intercalate]
  rw [String.toList_append, toList_connectionPath hn, hparts]

end Paths

/-! ## Errands of a client -/

/-- The service is where the client looks for it, at a host that can be read and under the header
that it uses, and its database does not fail. -/
structure Client.Reaches (c : Client) : Prop where
  origin : ∃ first scheme authority, Api.Url.IsOrigin c.base first scheme authority
  readable : Api.Url.isReadable c.host = true
  header : c.header.toLower = c.service.header.toLower
  fair : c.conditions = .fair

/-- An errand of a client at an instant: what it gets, and the store after it. -/
def Client.errand (c : Client) (now : Instant) (s : Store) : Errand → Option String × Store
  | .ask a b => (some (({ c with now }).ask a b s).1, (({ c with now }).ask a b s).2)
  | .look a b => (({ c with now }).look a b s, s)

section Requests

variable {c : Client} {a b : Int} {method path : String} {s : Store}

theorem Client.Reaches.at (h : c.Reaches) (now : Instant) : ({ c with now }).Reaches :=
  ⟨h.origin, h.readable, h.header, h.fair⟩

theorem callerOf_request (h : c.Reaches) (ha : IsId a) :
    c.service.callerOf (c.request method path a).identity = .ok a := by
  have hidentity : (c.request method path a).identity = some (toString a) := by
    simp [Client.request, h.header]
  rw [hidentity, Service.callerOf, Api.caller_toString ha.pos ha.isStorable]

theorem isAbout_request (h : c.Reaches) (hb : IsId b) {after : List String}
    (hafter : ∀ part ∈ after.map String.toList, ∀ x ∈ part, x.isAlphanum = true)
    (hsame : Api.sameSegments after after = true)
    (hpath : path.toList = pathOf (pathParts b (after.map String.toList))) :
    (c.request method path a).IsAbout ["api", "v1", "connections"] after b := by
  obtain ⟨first, scheme, authority, horigin⟩ := h.origin
  have hplain := isPlainPath_pathParts b hafter
  have htarget : (c.request method path a).target = path :=
    Api.Url.target_ofText horigin hplain hpath
  have htext : String.ofList (Decimal.digitsOf b.toNat) = toString b := by
    rw [← Decimal.toList_toString hb.pos, String.ofList_toList]
  have hsegments : (Api.Target.ofText path).segments =
      ["api", "v1", "connections"] ++ toString b :: after := by
    rw [Api.segments_ofText hplain hpath]
    simp [pathParts, htext, Function.comp_def]
  refine ⟨toString b, ?_, Api.wholeOf_toString hb.pos hb.isStorable⟩
  rw [htarget, Api.Route.idText?_eq_some_iff]
  exact ⟨after, hsegments, Decimal.toString_ne_empty hb.pos, hsame⟩

theorem isAbout_ask (h : c.Reaches) (hb : IsId b) (a : Int) :
    (c.request "POST" (connectionPath b ++ "/request") a).IsAbout
      (Api.transitionRoute .request).path (Api.transitionAfter .request) b :=
  isAbout_request h hb (by simp [Api.transitionAfter, Transition.name]) (by decide)
    (toList_requestPath hb.pos)

theorem isAbout_look (h : c.Reaches) (hb : IsId b) (a : Int) :
    (c.request "GET" (connectionPath b) a).IsAbout Api.relationshipRoute.path [] b :=
  isAbout_request h hb (by simp) rfl (toList_connectionPath hb.pos)

end Requests

section Answers

variable {c : Client} {a b : Int} {s : Store}

theorem resultOf_failureResponse (why : Failure) :
    some (resultOf (Api.failureResponse why)) = Heard.text (.answer (.error why)) := by
  cases why with
  | refused why =>
    simp only [Api.failureResponse, Api.refusalResponse]
    split <;> rfl
  | fault what =>
    show some ("http_" ++ toString 500) = some "http_500"
    decide

theorem ask_eq (h : c.Reaches) (ha : IsId a) (hb : IsId b) (s : Store) :
    (some (c.ask a b s).1, (c.ask a b s).2) =
      (((Errand.ask a b).run c.now s).1.text, ((Errand.ask a b).run c.now s).2) := by
  have hsend : c.send "POST" (connectionPath b ++ "/request") a s = _ :=
    Api.respond_transition (t := .request) h.readable rfl (isAbout_ask h hb a)
      (callerOf_request h ha)
  rw [h.fair, Session.transition_fair ha.isStorable hb.isStorable] at hsend
  simp only [Client.ask, Errand.run, hsend]
  cases Transition.request.run c.now a b s with
  | ok o => rfl
  | error why => exact congrArg (·, s) (resultOf_failureResponse why)

theorem look_eq (h : c.Reaches) (ha : IsId a) (hb : IsId b) (s : Store) :
    c.look a b s = some (s.relationship a b).name := by
  have hsend : (c.send "GET" (connectionPath b) a s).1 = Response.json 200
      [("user_id", .int b), ("state", .str (s.relationship a b).name)] := by
    rw [Client.send, h.fair]
    exact Api.respond_relationship h.readable rfl (isAbout_look h hb a) (callerOf_request h ha)
      ha.isStorable hb.isStorable
  unfold Client.look
  simp only [hsend]
  rfl

variable {steps : List (Instant × Errand)}

/-- **A client that reaches the service gets what the store answers.** -/
theorem Client.errand_eq (h : c.Reaches) {e : Errand} (he : ∀ n ∈ e.members, IsId n)
    (now : Instant) (s : Store) :
    c.errand now s e = ((e.run now s).1.text, (e.run now s).2) := by
  cases e with
  | ask a b =>
    exact ask_eq (h.at now) (he a (by simp [Errand.members])) (he b (by simp [Errand.members])) s
  | look a b =>
    exact congrArg (·, s)
      (look_eq (h.at now) (he a (by simp [Errand.members])) (he b (by simp [Errand.members])) s)

theorem Client.runAll_errand (h : c.Reaches)
    (hsteps : ∀ step ∈ steps, ∀ n ∈ step.2.members, IsId n) (s : Store) :
    runAll c.errand s steps = ((runAll Errand.run s steps).1.map (Prod.map id Heard.text),
      (runAll Errand.run s steps).2) := by
  induction steps generalizing s with
  | nil => rfl
  | cons step steps ih =>
    obtain ⟨now, e⟩ := step
    have hfirst := Client.errand_eq h (hsteps (now, e) List.mem_cons_self) now s
    have hrest := ih (fun x hx => hsteps x (List.mem_cons_of_mem _ hx)) (e.run now s).2
    simp only [runAll, hfirst, hrest, List.map_cons, Prod.map, id]

end Answers

end Command.Race

end Matchmaker
