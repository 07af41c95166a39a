import Matchmaker.Proofs.Clients

/-!
# The race check passes

The race check runs one task for each pair: two opposite requests, and when both are answered a look
by each member. The tasks of all pairs run at once, so the service meets their errands in any order
that keeps to the order within each task. Whatever the order, between members who can connect each
task finds that both see an accepted connection.

* `IsCheck`, `IsSchedule`: the errands of a task, and those of all tasks in an order;
* `outcomeOf`, `checkPair_eq`: a task makes its outcome of what is got of its errands;
* **`checkAll_eq`**: the command runs one task after another;
* `outcomeOf_schedule`: the outcomes under any schedule;
* **`opposite_requests_race`**: every order of the requests leads every pair to one accepted row,
  and the check reports that every pair passed.
-/

namespace Matchmaker.Command.Race

/-! ## Schedules -/

/-- The errands for a pair: the requests in either order, then the looks. -/
inductive IsCheck (a b : Int) : List Errand → Prop
  | there : IsCheck a b [.ask a b, .ask b a, .look a b, .look b a]
  | back : IsCheck a b [.ask b a, .ask a b, .look a b, .look b a]

/-- An order of the errands of all tasks. -/
structure IsSchedule (pairs : List (Int × Int)) (steps : List (Instant × Errand)) : Prop where
  own : ∀ p ∈ pairs, IsCheck p.1 p.2 (errandsOn (Lock.key p.1 p.2) steps)
  only : ∀ step ∈ steps, ∃ p ∈ pairs, step.2.key = Lock.key p.1 p.2

/-- What a task makes of what is got of the errands on its pair. -/
def outcomeOf (record : List (Errand × Option String)) (p : Int × Int) : Outcome where
  first := p.1
  second := p.2
  results := ((entriesOn (Lock.key p.1 p.2) record).filterMap fun x =>
    match x.1 with
    | .ask _ _ => x.2
    | .look _ _ => none).mergeSort fun x y => !(y < x)
  seenByFirst := ((entriesOn (Lock.key p.1 p.2) record).find? (·.1 == .look p.1 p.2)).bind Prod.snd
  seenBySecond := ((entriesOn (Lock.key p.1 p.2) record).find? (·.1 == .look p.2 p.1)).bind Prod.snd

/-- One request was answered that it waits and the other that it is accepted, and both members see
an accepted connection. -/
def connected (p : Int × Int) : Outcome :=
  ⟨p.1, p.2, ["accepted", "pending"], some "accepted", some "accepted"⟩

theorem passes_connected (pairs : List (Int × Int)) :
    ∀ o ∈ pairs.map connected, o.passes = true := by
  intro o ho
  obtain ⟨p, -, rfl⟩ := List.mem_map.1 ho
  simp [connected, Outcome.passes]

theorem mergeSort_pair {α : Type} (le : α → α → Bool) (x y : α) :
    [x, y].mergeSort le = if le x y then [x, y] else [y, x] := by
  simp [List.mergeSort, List.MergeSort.Internal.splitInTwo, List.merge]

section Outcomes

variable {record record' : List (Errand × Option String)} {p : Int × Int}

/-! What is got of the errands on other pairs tells nothing of a pair. -/

theorem outcomeOf_append_left (h : entriesOn (Lock.key p.1 p.2) record' = []) :
    outcomeOf (record ++ record') p = outcomeOf record p := by
  rw [outcomeOf, entriesOn_append, h, List.append_nil, outcomeOf]

theorem outcomeOf_append_right (h : entriesOn (Lock.key p.1 p.2) record = []) :
    outcomeOf (record ++ record') p = outcomeOf record' p := by
  rw [outcomeOf, entriesOn_append, h, List.nil_append, outcomeOf]

theorem outcomeOf_eq_connected {x y : Int} (hne : p.1 ≠ p.2)
    (h : entriesOn (Lock.key p.1 p.2) record =
      [(.ask x y, some "pending"), (.ask y x, some "accepted"),
        (.look p.1 p.2, some "accepted"), (.look p.2 p.1, some "accepted")]) :
    outcomeOf record p = connected p := by
  have hlooks : (Errand.look p.1 p.2 == Errand.look p.2 p.1) = false := by
    simp [hne]
  have hsorted : (["pending", "accepted"].mergeSort fun x y : String => !(y < x)) =
      ["accepted", "pending"] := by
    rw [mergeSort_pair]
    decide
  rw [outcomeOf, h, connected, Outcome.mk.injEq]
  exact ⟨rfl, rfl, hsorted, by simp, by simp [hlooks]⟩

end Outcomes

/-! ## The tasks of the command -/

/-- The errands of a task that meets with no other. -/
def itinerary (now : Instant) (p : Int × Int) : List (Instant × Errand) :=
  [(now, .ask p.1 p.2), (now, .ask p.2 p.1), (now, .look p.1 p.2), (now, .look p.2 p.1)]

section Tasks

variable {c : Client} {s : Store} {pairs : List (Int × Int)}

theorem checkPair_eq {a b : Int} (hab : a ≠ b) (c : Client) (s : Store) :
    checkPair c a b s = (outcomeOf (runAll c.errand s (itinerary c.now (a, b))).1 (a, b),
      (runAll c.errand s (itinerary c.now (a, b))).2) := by
  have hback : Lock.key b a = Lock.key a b := Lock.key_comm b a
  have hlooks : (Errand.look a b == Errand.look b a) = false := by
    simp [hab]
  simp [checkPair, itinerary, runAll, Client.errand, outcomeOf, entriesOn, Errand.key, hback,
    hlooks]

theorem key_of_mem_itinerary {now : Instant} {p : Int × Int} {step : Instant × Errand}
    (h : step ∈ itinerary now p) : step.2.key = Lock.key p.1 p.2 := by
  have hback : Lock.key p.2 p.1 = Lock.key p.1 p.2 := Lock.key_comm p.2 p.1
  simp only [itinerary, List.mem_cons, List.not_mem_nil, or_false] at h
  rcases h with rfl | rfl | rfl | rfl
  · rfl
  · exact hback
  · rfl
  · exact hback

theorem checkAll_cons (c : Client) (p : Int × Int) (ps : List (Int × Int)) (s : Store) :
    checkAll c (p :: ps) s = ((checkPair c p.1 p.2 s).1 ::
      (checkAll c ps (checkPair c p.1 p.2 s).2).1,
      (checkAll c ps (checkPair c p.1 p.2 s).2).2) := by
  rw [checkAll]

/-- **The command is one schedule of the tasks**, one task after another. -/
theorem checkAll_eq (hne : ∀ p ∈ pairs, p.1 ≠ p.2)
    (hkeys : (pairs.map fun p => Lock.key p.1 p.2).Nodup) (c : Client) (s : Store) :
    checkAll c pairs s =
      (pairs.map (outcomeOf (runAll c.errand s (pairs.flatMap (itinerary c.now))).1),
        (runAll c.errand s (pairs.flatMap (itinerary c.now))).2) := by
  induction pairs generalizing s with
  | nil => rfl
  | cons p ps ih =>
    rw [List.map_cons, List.nodup_cons] at hkeys
    have hrest : ∀ step ∈ ps.flatMap (itinerary c.now), step.2.key ≠ Lock.key p.1 p.2 := by
      intro step hstep hkey
      obtain ⟨q, hq, hstep⟩ := List.mem_flatMap.1 hstep
      exact hkeys.1 (List.mem_map.2 ⟨q, hq, (key_of_mem_itinerary hstep).symm.trans hkey⟩)
    have hfirst : ∀ q ∈ ps, ∀ step ∈ itinerary c.now p, step.2.key ≠ Lock.key q.1 q.2 := by
      intro q hq step hstep hkey
      exact hkeys.1 (List.mem_map.2 ⟨q, hq, hkey.symm.trans (key_of_mem_itinerary hstep)⟩)
    have hp : checkPair c p.1 p.2 s = (outcomeOf (runAll c.errand s (itinerary c.now p)).1 p,
        (runAll c.errand s (itinerary c.now p)).2) :=
      checkPair_eq (hne p List.mem_cons_self) c s
    have hps := ih (fun q hq => hne q (List.mem_cons_of_mem p hq)) hkeys.2
      (runAll c.errand s (itinerary c.now p)).2
    have hown : outcomeOf (runAll c.errand s ((p :: ps).flatMap (itinerary c.now))).1 p =
        outcomeOf (runAll c.errand s (itinerary c.now p)).1 p := by
      rw [List.flatMap_cons, runAll_append]
      exact outcomeOf_append_left (entriesOn_runAll_of_ne hrest _)
    have hothers : ps.map (outcomeOf (runAll c.errand s ((p :: ps).flatMap (itinerary c.now))).1) =
        (checkAll c ps (runAll c.errand s (itinerary c.now p)).2).1 := by
      rw [List.flatMap_cons, runAll_append, hps]
      exact List.map_congr_left fun q hq =>
        outcomeOf_append_right (entriesOn_runAll_of_ne (hfirst q hq) s)
    rw [checkAll_cons, hp, List.map_cons, hown, hothers, hps, List.flatMap_cons, runAll_append]

theorem isSchedule_itinerary (hkeys : (pairs.map fun p => Lock.key p.1 p.2).Nodup)
    (now : Instant) : IsSchedule pairs (pairs.flatMap (itinerary now)) where
  own p hp := by
    have herrands : (pairs.flatMap (itinerary now)).map Prod.snd =
        pairs.flatMap fun p => (itinerary now p).map Prod.snd := List.map_flatMap
    have hown : errandsOn (Lock.key p.1 p.2) (pairs.flatMap (itinerary now)) =
        (itinerary now p).map Prod.snd := by
      rw [errandsOn, herrands]
      refine filter_key_flatMap (fun q e he => ?_) hkeys hp
      obtain ⟨step, hstep, rfl⟩ := List.mem_map.1 he
      exact key_of_mem_itinerary hstep
    rw [hown]
    exact .there
  only step hstep := by
    obtain ⟨p, hp, hstep⟩ := List.mem_flatMap.1 hstep
    exact ⟨p, hp, key_of_mem_itinerary hstep⟩

end Tasks

/-! ## Every schedule -/

section Schedules

variable {c : Client} {s : Store} {pairs : List (Int × Int)} {steps : List (Instant × Errand)}

theorem IsSchedule.isId (h : IsSchedule pairs steps) (hids : ∀ p ∈ pairs, IsId p.1 ∧ IsId p.2) :
    ∀ step ∈ steps, ∀ n ∈ step.2.members, IsId n := by
  intro step hstep n hn
  obtain ⟨p, hp, hkey⟩ := h.only step hstep
  obtain ⟨now, e⟩ := step
  have hmember : n = p.1 ∨ n = p.2 := by
    cases e with
    | ask a b | look a b =>
      rcases Lock.key_eq_iff.1 hkey with ⟨rfl, rfl⟩ | ⟨rfl, rfl⟩
      · exact List.mem_pair.1 hn
      · exact (List.mem_pair.1 hn).symm
  rcases hmember with rfl | rfl
  · exact (hids p hp).1
  · exact (hids p hp).2

/-- **Under every schedule each pair is connected**, and its task finds so. -/
theorem outcomeOf_schedule (hc : c.Reaches) (hids : ∀ p ∈ pairs, IsId p.1 ∧ IsId p.2)
    (hs : s.IsLawful) (hready : s.AreReady pairs) (hsteps : IsSchedule pairs steps) :
    ∀ p ∈ pairs, outcomeOf (runAll c.errand s steps).1 p = connected p ∧
      (runAll c.errand s steps).2.HasJoined p.1 p.2 := by
  intro p hp
  have hne := ne_of_disjoint hready.disjoint hp
  have hat := hready.isAt hs hp
  rw [Client.runAll_errand hc (hsteps.isId hids)]
  generalize herrands : errandsOn (Lock.key p.1 p.2) steps = errands
  have hcheck := hsteps.own p hp
  rw [herrands] at hcheck
  -- whichever request comes first, the looks find the row accepted
  cases hcheck with
  | there =>
    obtain ⟨hentries, hend⟩ := hat.of_follows
      ((Leg.follows_requests p.1 p.2).append (Leg.follows_looks p.1 p.2)) herrands
    refine ⟨outcomeOf_eq_connected (x := p.1) (y := p.2) hne ?_, hend.hasJoined⟩
    rw [entriesOn_map, hentries]
    rfl
  | back =>
    obtain ⟨hentries, hend⟩ := hat.of_follows
      ((Leg.follows_requests p.2 p.1).append (Leg.follows_looks p.1 p.2)) herrands
    refine ⟨outcomeOf_eq_connected (x := p.2) (y := p.1) hne ?_, hend.hasJoined⟩
    rw [entriesOn_map, hentries]
    rfl

theorem differsOn_schedule (hc : c.Reaches) (hids : ∀ p ∈ pairs, IsId p.1 ∧ IsId p.2)
    (hs : s.IsLawful) (hsteps : IsSchedule pairs steps) :
    Store.DiffersOn pairs s (runAll c.errand s steps).2 := by
  rw [Client.runAll_errand hc (hsteps.isId hids)]
  exact Store.differsOn_runAll hs hsteps.only

theorem reportOf_connected (base : String) (pairs : List (Int × Int)) :
    reportOf base (pairs.map connected) = Report.done (lines base (pairs.map connected)) := by
  have hall : (pairs.map connected).all Outcome.passes = true :=
    List.all_eq_true.2 (passes_connected pairs)
  rw [reportOf, if_pos hall]

theorem getLast?_lines_connected (base : String) (pairs : List (Int × Int)) :
    (lines base (pairs.map connected)).getLast? =
      some "PASS: every pair ended with exactly one accepted connection" := by
  have hcount : (pairs.map connected).countP Outcome.passes = (pairs.map connected).length :=
    List.countP_eq_length.2 (passes_connected pairs)
  simp only [lines, hcount, if_true, List.getLast?_append]
  rfl

/-- The report says of the check of these pairs that every pair passed. -/
structure SaysAllPassed (base : String) (pairs : List (Int × Int)) (r : Report) : Prop where
  done : r = Report.done (lines base (pairs.map connected))
  exit : r.exit = 0
  last : (lines base (pairs.map connected)).getLast? =
    some "PASS: every pair ended with exactly one accepted connection"

theorem saysAllPassed_connected (base : String) (pairs : List (Int × Int)) :
    SaysAllPassed base pairs (reportOf base (pairs.map connected)) := by
  rw [reportOf_connected]
  exact ⟨rfl, rfl, getLast?_lines_connected base pairs⟩

end Schedules

/-- **Opposite requests race to one accepted row.** Let the members of disjoint pairs have complete
profiles, and no row and no dismissal between them. In whatever order the requests of all pairs in
both directions are made, of those of a pair the one that comes first is answered that it waits and
the other that it is accepted; in the end the pair has one row, which is accepted, both members see
it so, and nothing is changed but rows of these pairs. A client that reaches the service finds this
out for every pair under every schedule of its tasks, and the race check reports that all passed. -/
theorem opposite_requests_race {s : Store} (hs : s.IsLawful) {pairs : List (Int × Int)}
    (hready : s.AreReady pairs) :
    (∀ steps : List (Instant × Errand), (steps.map Prod.snd).Perm (requestsOf pairs) →
      (∀ p ∈ pairs,
        (entriesOn (Lock.key p.1 p.2) (runAll Errand.run s steps).1).map Prod.snd =
            [.answer (.ok .pending), .answer (.ok .accepted)] ∧
          (runAll Errand.run s steps).2.HasJoined p.1 p.2) ∧
        Store.DiffersOn pairs s (runAll Errand.run s steps).2) ∧
      ∀ c : Client, c.Reaches → (∀ p ∈ pairs, IsId p.1 ∧ IsId p.2) →
        (∀ steps, IsSchedule pairs steps →
          let run := runAll c.errand s steps
          pairs.map (outcomeOf run.1) = pairs.map connected ∧
            SaysAllPassed c.base pairs (reportOf c.base (pairs.map (outcomeOf run.1))) ∧
            (∀ p ∈ pairs, run.2.HasJoined p.1 p.2) ∧ Store.DiffersOn pairs s run.2) ∧
        ((∀ p ∈ pairs, c.fault? p.1 p.2 = none) →
          ∃ report t, checkPairs c pairs s = .ok (report, t) ∧ SaysAllPassed c.base pairs report ∧
            (∀ p ∈ pairs, t.HasJoined p.1 p.2) ∧ Store.DiffersOn pairs s t) := by
  refine ⟨fun steps hsteps => hready.race hs hsteps, fun c hc hids => ?_⟩
  have hschedule : ∀ steps, IsSchedule pairs steps →
      pairs.map (outcomeOf (runAll c.errand s steps).1) = pairs.map connected ∧
        (∀ p ∈ pairs, (runAll c.errand s steps).2.HasJoined p.1 p.2) ∧
        Store.DiffersOn pairs s (runAll c.errand s steps).2 := by
    intro steps hsteps
    have houtcomes := outcomeOf_schedule hc hids hs hready hsteps
    exact ⟨List.map_congr_left fun p hp => (houtcomes p hp).1, fun p hp => (houtcomes p hp).2,
      differsOn_schedule hc hids hs hsteps⟩
  refine ⟨fun steps hsteps => ?_, fun hsendable => ?_⟩
  · obtain ⟨houtcomes, hjoined, hdiffers⟩ := hschedule steps hsteps
    refine ⟨houtcomes, ?_, hjoined, hdiffers⟩
    rw [houtcomes]
    exact saysAllPassed_connected c.base pairs
  · have hkeys := nodup_keys_of_disjoint hready.disjoint
    obtain ⟨houtcomes, hjoined, hdiffers⟩ := hschedule _ (isSchedule_itinerary hkeys c.now)
    have hall := checkAll_eq (fun p hp => ne_of_disjoint hready.disjoint hp) hkeys c s
    have hnone : (pairs.findSome? fun p => c.fault? p.1 p.2) = none :=
      List.findSome?_eq_none_iff.2 hsendable
    refine ⟨_, _, ?_, saysAllPassed_connected c.base pairs, hjoined, hdiffers⟩
    rw [checkPairs, hnone, hall, houtcomes]

/-! ## A race to look at -/

/-- Four members with complete profiles; between the first and the third there are two rows, and the
fourth has dismissed the first. -/
def runners : Store where
  users := [⟨1, "first"⟩, ⟨2, "second"⟩, ⟨3, "third"⟩, ⟨4, "fourth"⟩]
  profiles := [1, 2, 3, 4].map fun user =>
    { (default : Profile) with user, displayName := "member", complete := true }
  connections := [⟨7, 1, 3, .disconnected, 0, 2⟩, ⟨8, 3, 1, .pending, 0, 1⟩]
  dismissals := [⟨4, 1⟩]

/-- A client that looks for the service on its own host. -/
def visitor : Client where
  service := ⟨Geometry.sphere Float, "X-User-Id", true⟩
  conditions := .fair
  now := 9
  base := "http://localhost:8000"
  header := "X-User-Id"

theorem isLawful_runners : runners.IsLawful where
  emails := by decide
  userIds := by decide
  userEmails := by decide
  profiles := by decide
  profileUsers := by decide
  ends := by decide
  ids := by decide
  directions := by decide
  dismissals := by decide
  ledger := by decide

theorem areReady_runners : runners.AreReady [(1, 2), (4, 3)] where
  disjoint := by decide
  complete := by decide
  ledger := by decide
  rows := by decide

theorem reaches_visitor : visitor.Reaches where
  origin := ⟨'h', "ttp".toList, "localhost:8000".toList,
    { toList := by decide
      alpha := by decide
      isSchemeChar := List.all_eq_true.1 (by decide)
      isInside := List.all_eq_true.1 (by decide)
      host := by decide }⟩
  readable := by decide +kernel
  header := rfl
  fair := rfl

/-- The requests of two pairs cross, and whoever asks second accepts; in the tasks the members of
one pair look while the other has not done asking. -/
theorem opposite_requests_race_sample :
    let pairs := [(1, 2), (4, 3)]
    let steps := [(5, Errand.ask 3 4), (6, .ask 2 1), (7, .ask 1 2), (8, .ask 4 3)]
    let tasks := [(5, Errand.ask 3 4), (6, .ask 1 2), (7, .ask 2 1), (8, .look 1 2), (9, .ask 4 3),
      (9, .look 4 3), (9, .look 2 1), (9, .look 3 4)]
    runners.IsLawful ∧ runners.AreReady pairs ∧ (steps.map Prod.snd).Perm (requestsOf pairs) ∧
      visitor.Reaches ∧ (∀ p ∈ pairs, IsId p.1 ∧ IsId p.2) ∧
      (∀ p ∈ pairs, visitor.fault? p.1 p.2 = none) ∧
      (runAll Errand.run runners steps).2.connections =
        [⟨7, 1, 3, .disconnected, 0, 2⟩, ⟨8, 3, 1, .pending, 0, 1⟩,
          ⟨9, 3, 4, .accepted, 5, 8⟩, ⟨10, 2, 1, .accepted, 6, 7⟩] ∧
      (∀ p ∈ pairs, (runAll Errand.run runners steps).2.HasJoined p.1 p.2) ∧
      IsSchedule pairs tasks ∧
      pairs.map (outcomeOf (runAll visitor.errand runners tasks).1) = pairs.map connected ∧
      ∃ report t, checkPairs visitor pairs runners = .ok (report, t) ∧
        SaysAllPassed visitor.base pairs report := by
  intro pairs steps tasks
  have hperm : (steps.map Prod.snd).Perm (requestsOf pairs) := by decide
  have hids : ∀ p ∈ pairs, IsId p.1 ∧ IsId p.2 := by
    have hbounds : ∀ p ∈ pairs, (0 < p.1 ∧ isStorable p.1 = true) ∧
        0 < p.2 ∧ isStorable p.2 = true := by decide
    intro p hp
    obtain ⟨⟨hpos, hstorable⟩, hpos', hstorable'⟩ := hbounds p hp
    exact ⟨⟨hpos, hstorable⟩, hpos', hstorable'⟩
  have hsendable : ∀ p ∈ pairs, visitor.fault? p.1 p.2 = none := by decide +kernel
  obtain ⟨hrace, hcheck⟩ := opposite_requests_race isLawful_runners areReady_runners
  obtain ⟨hpairs, -⟩ := hrace steps hperm
  have htasks : IsSchedule pairs tasks :=
    { own := by
        rw [List.forall_mem_cons, List.forall_mem_singleton]
        exact ⟨.there, .back⟩
      only := by decide }
  obtain ⟨hschedule, hreport⟩ := hcheck visitor reaches_visitor hids
  obtain ⟨houtcomes, -⟩ := hschedule tasks htasks
  obtain ⟨report, t, hrun, hsays, -, -⟩ := hreport hsendable
  exact ⟨isLawful_runners, areReady_runners, hperm, reaches_visitor, hids, hsendable, by decide,
    fun p hp => (hpairs p hp).2, htasks, houtcomes, report, t, hrun, hsays⟩

end Matchmaker.Command.Race
