import Mathlib.Data.List.Permutation
import Matchmaker.Proofs.Commuting

/-!
# Races between opposite requests

The members of some pairs ask each other for a connection, in any order and among the errands of
all other pairs. An errand on one pair leaves every other pair where it was, so each goes its own
way: the first request makes the row, the second accepts it, and from then on both members see an
accepted connection.

* `Errand`, `Errand.run`, `runAll`: what the members do, one errand after another;
* `Leg`, `Leg.Goes`, `Leg.Follows`: the way of one pair, with what its members hear;
* `Store.IsAt.run`, `Store.IsAt.run_of_ne`: an errand on the pair, and one on another;
* **`Store.IsAt.of_follows`**: after any errands each pair is where its own ones lead;
* `Store.DiffersOn`, `differsOn_runAll`: what errands leave alone.
-/

namespace Matchmaker

open Transition (Result Decided Write)

/-! ## Errands -/

/-- What a member does in a race. -/
inductive Errand where
  /-- `a` asks `b` for a connection. -/
  | ask (a b : Int)
  /-- `a` looks how the pair with `b` is. -/
  | look (a b : Int)
  deriving DecidableEq, Repr

/-- What the member hears. -/
inductive Heard where
  | answer (r : Except Failure Result)
  | state (r : Relationship)

namespace Errand

/-- The pair that an errand concerns. -/
def key : Errand → Int × Int
  | ask a b | look a b => Lock.key a b

/-- What an errand comes to at an instant, and the store after it. -/
def run (now : Instant) (s : Store) : Errand → Heard × Store
  | ask a b =>
    match Transition.request.run now a b s with
    | .ok (o, s') => (.answer (.ok o.result), s')
    | .error why => (.answer (.error why), s)
  | look a b => (.state (s.relationship a b), s)

end Errand

/-- Errands one after another: what is heard of each, and the store after them. -/
def runAll {β : Type} (run : Instant → Store → Errand → β × Store) :
    Store → List (Instant × Errand) → List (Errand × β) × Store
  | s, [] => ([], s)
  | s, (now, e) :: steps =>
    let rest := runAll run (run now s e).2 steps
    ((e, (run now s e).1) :: rest.1, rest.2)

/-- The errands on a pair. -/
def errandsOn (k : Int × Int) (steps : List (Instant × Errand)) : List Errand :=
  (steps.map Prod.snd).filter fun e => e.key == k

/-- What is heard of the errands on a pair. -/
def entriesOn {β : Type} (k : Int × Int) (record : List (Errand × β)) : List (Errand × β) :=
  record.filter fun x => x.1.key == k

section Records

variable {β γ : Type} {k : Int × Int} {e : Errand} {now : Instant}

theorem errandsOn_cons_of_eq (h : e.key = k) (steps : List (Instant × Errand)) :
    errandsOn k ((now, e) :: steps) = e :: errandsOn k steps := by
  simp [errandsOn, h]

theorem errandsOn_cons_of_ne (h : e.key ≠ k) (steps : List (Instant × Errand)) :
    errandsOn k ((now, e) :: steps) = errandsOn k steps := by
  simp [errandsOn, h]

theorem entriesOn_cons_of_eq (h : e.key = k) (heard : β) (record : List (Errand × β)) :
    entriesOn k ((e, heard) :: record) = (e, heard) :: entriesOn k record := by
  simp [entriesOn, h]

theorem entriesOn_cons_of_ne (h : e.key ≠ k) (heard : β) (record : List (Errand × β)) :
    entriesOn k ((e, heard) :: record) = entriesOn k record := by
  simp [entriesOn, h]

theorem entriesOn_append (record record' : List (Errand × β)) :
    entriesOn k (record ++ record') = entriesOn k record ++ entriesOn k record' :=
  List.filter_append ..

theorem entriesOn_map (f : β → γ) (record : List (Errand × β)) :
    entriesOn k (record.map (Prod.map id f)) = (entriesOn k record).map (Prod.map id f) := by
  rw [entriesOn, List.filter_map, entriesOn]
  rfl

variable {run : Instant → Store → Errand → β × Store}

theorem runAll_append (run : Instant → Store → Errand → β × Store) (s : Store)
    (steps steps' : List (Instant × Errand)) :
    runAll run s (steps ++ steps') =
      ((runAll run s steps).1 ++ (runAll run (runAll run s steps).2 steps').1,
        (runAll run (runAll run s steps).2 steps').2) := by
  induction steps generalizing s with
  | nil => rfl
  | cons step steps ih =>
    obtain ⟨now, e⟩ := step
    simp only [List.cons_append, runAll, ih]

theorem entriesOn_runAll_of_ne {steps : List (Instant × Errand)}
    (h : ∀ step ∈ steps, step.2.key ≠ k) (s : Store) :
    entriesOn k (runAll run s steps).1 = [] := by
  induction steps generalizing s with
  | nil => rfl
  | cons step steps ih =>
    obtain ⟨now, e⟩ := step
    rw [runAll, entriesOn_cons_of_ne (h (now, e) List.mem_cons_self)]
    exact ih (fun x hx => h x (List.mem_cons_of_mem _ hx)) _

end Records

/-! ## The way of a pair -/

/-- How far the race of a pair is. -/
inductive Leg where
  /-- Nobody has asked. -/
  | ready
  /-- The request of one member waits. -/
  | asked (x : Int)
  /-- The members are connected. -/
  | joined

namespace Leg

/-- The rows of a pair at a point of its race. -/
def Fits (rows : List Connection) : Leg → Prop
  | ready => rows = []
  | asked x => ∃ c, rows = [c] ∧ c.status = .pending ∧ c.requester = x
  | joined => ∃ c, rows = [c] ∧ c.status = .accepted

/-- One errand on the pair, what is heard of it and where it leads. -/
inductive Goes : Leg → Errand × Heard → Leg → Prop
  /-- The first request makes the row. -/
  | ask (a b : Int) : Goes ready (.ask a b, .answer (.ok .pending)) (asked a)
  /-- The opposite request accepts it. -/
  | agree (a b : Int) : Goes (asked b) (.ask a b, .answer (.ok .accepted)) joined
  /-- Whoever looks then sees it accepted. -/
  | look (a b : Int) : Goes joined (.look a b, .state .accepted) joined

/-- Errands on the pair, with what is heard of them, from one point of its race to another. -/
inductive Follows : Leg → List (Errand × Heard) → Leg → Prop
  | nil (l : Leg) : Follows l [] l
  | cons {l m n : Leg} {x : Errand × Heard} {xs : List (Errand × Heard)} (h : Goes l x m)
      (hs : Follows m xs n) : Follows l (x :: xs) n

theorem follows_requests (a b : Int) : ready.Follows
    [(.ask a b, .answer (.ok .pending)), (.ask b a, .answer (.ok .accepted))] joined :=
  .cons (.ask a b) (.cons (.agree b a) (.nil joined))

theorem follows_looks (a b : Int) : joined.Follows
    [(.look a b, .state .accepted), (.look b a, .state .accepted)] joined :=
  .cons (.look a b) (.cons (.look b a) (.nil joined))

theorem Follows.append {l m n : Leg} {xs ys : List (Errand × Heard)} (h : l.Follows xs m)
    (h' : m.Follows ys n) : l.Follows (xs ++ ys) n := by
  induction h with
  | nil l => exact h'
  | cons hgo _ ih => exact .cons hgo (ih h')

end Leg

namespace Store

/-- The pair of `a` and `b`, who can connect, is at this point of its race. -/
structure IsAt (s : Store) (a b : Int) (l : Leg) : Prop where
  lawful : s.IsLawful
  distinct : a ≠ b
  complete : s.isComplete a = true
  otherComplete : s.isComplete b = true
  ledger : s.hasDismissed a b = false
  otherLedger : s.hasDismissed b a = false
  rows : l.Fits (s.pairRows a b)

variable {s : Store} {a b x y u v : Int} {l m : Leg} {now : Instant}

theorem IsAt.swap (h : s.IsAt a b l) : s.IsAt b a l where
  lawful := h.lawful
  distinct := h.distinct.symm
  complete := h.otherComplete
  otherComplete := h.complete
  ledger := h.otherLedger
  otherLedger := h.ledger
  rows := by
    rw [pairRows_eq, rowsOf_comm]
    exact h.rows

theorem IsAt.congr (h : s.IsAt a b l) (hk : Lock.key x y = Lock.key a b) : s.IsAt x y l := by
  rcases Lock.key_eq_iff.1 hk with ⟨rfl, rfl⟩ | ⟨rfl, rfl⟩
  · exact h
  · exact h.swap

/-! ## One errand -/

theorem run_ask_snd (s : Store) (now : Instant) (a b : Int) :
    ((Errand.ask a b).run now s).2 = s.after (now, .transition .request a b) := by
  rw [after_transition, Errand.run]
  cases Transition.request.run now a b s <;> rfl

theorem IsLawful.runErrand (h : s.IsLawful) (now : Instant) (e : Errand) :
    (e.run now s).2.IsLawful := by
  cases e with
  | ask a b =>
    rw [run_ask_snd]
    exact h.afterAll [_]
  | look a b => exact h

theorem run_errand_eq (s : Store) (now : Instant) (e : Errand) :
    (e.run now s).2 = { s with connections := (e.run now s).2.connections } := by
  cases e with
  | ask a b =>
    rw [run_ask_snd]
    exact after_transition_eq s now .request a b
  | look a b => rfl

theorem pairRows_run_errand_of_ne (hs : s.IsLawful) {e : Errand} (hne : Lock.key u v ≠ e.key)
    (now : Instant) : (e.run now s).2.pairRows u v = s.pairRows u v := by
  cases e with
  | look a b => rfl
  | ask a b =>
    rw [run_ask_snd]
    exact pairRows_after_transition_of_ne hs hne now .request

theorem IsAt.of_rows (h : s.IsAt a b l) {e : Errand}
    (hrows : m.Fits ((e.run now s).2.pairRows a b)) :
    (e.run now s).2.IsAt a b m := by
  -- profiles and ledger are those from before
  have hprofiles : ∀ u, (e.run now s).2.isComplete u = s.isComplete u := fun u => by
    rw [run_errand_eq]
    rfl
  have hledger : ∀ u v, (e.run now s).2.hasDismissed u v = s.hasDismissed u v := fun u v => by
    rw [run_errand_eq]
    rfl
  exact
    { lawful := h.lawful.runErrand now e
      distinct := h.distinct
      complete := (hprofiles a).trans h.complete
      otherComplete := (hprofiles b).trans h.otherComplete
      ledger := (hledger a b).trans h.ledger
      otherLedger := (hledger b a).trans h.otherLedger
      rows := hrows }

/-- **An errand on another pair leaves a race where it was.** -/
theorem IsAt.run_of_ne (h : s.IsAt a b l) {e : Errand} (hne : e.key ≠ Lock.key a b)
    (now : Instant) : (e.run now s).2.IsAt a b l := by
  refine h.of_rows ?_
  rw [pairRows_run_errand_of_ne h.lawful hne.symm]
  exact h.rows

theorem IsAt.ask (h : s.IsAt a b .ready) (now : Instant) :
    ((Errand.ask a b).run now s).1 = .answer (.ok .pending) ∧
      ((Errand.ask a b).run now s).2.IsAt a b (.asked a) := by
  have hrows : s.pairRows a b = [] := h.rows
  have hrow : (s.read a b).row = none := deciding?_eq_none_iff.2 hrows
  have hrun : Transition.request.run now a b s =
      .ok (⟨.pending, s.nextConnection⟩, s.write now (.insert a b)) :=
    Transition.run_eq_ok_iff.2
      ⟨h.distinct, _, .ask h.complete h.otherComplete hrow h.ledger, rfl, rfl⟩
  have hafter : (s.write now (.insert a b)).pairRows a b =
      [⟨s.nextConnection, a, b, .pending, now, now⟩] := by
    have hnil : rowsOf s.connections a b = [] := hrows
    rw [write_eq, pairRows_eq, rowsOf_insert, hnil, List.nil_append, rowsOf_singleton rfl]
  refine ⟨by rw [Errand.run, hrun], h.of_rows ?_⟩
  rw [Errand.run, hrun]
  exact ⟨_, hafter, rfl, rfl⟩

theorem IsAt.agree (h : s.IsAt a b (.asked b)) (now : Instant) :
    ((Errand.ask a b).run now s).1 = .answer (.ok .accepted) ∧
      ((Errand.ask a b).run now s).2.IsAt a b .joined := by
  obtain ⟨c, hrows, hstatus, hfrom⟩ := h.rows
  have hrow : (s.read a b).row = some c := congrArg latest? hrows
  have hrun : Transition.request.run now a b s =
      .ok (⟨.accepted, c.id⟩, s.write now (.mark c.id .accepted)) :=
    Transition.run_eq_ok_iff.2
      ⟨h.distinct, _, .agree h.complete h.otherComplete hrow hstatus hfrom, rfl, rfl⟩
  have hafter : (s.write now (.mark c.id .accepted)).pairRows a b =
      [{ c with status := .accepted, updated := now }] := by
    have hone : rowsOf s.connections a b = [c] := hrows
    rw [write_eq, pairRows_eq, rowsOf_mark, hone, List.map_singleton, c.marked_self]
  refine ⟨by rw [Errand.run, hrun], h.of_rows ?_⟩
  rw [Errand.run, hrun]
  exact ⟨_, hafter, rfl⟩

theorem IsAt.relationship (h : s.IsAt a b .joined) : s.relationship a b = .accepted := by
  obtain ⟨c, hrows, hstatus⟩ := h.rows
  have hrow : s.deciding? a b = some c := congrArg latest? hrows
  exact Relationship.of_eq_accepted_iff.2 ⟨c, hrow, hstatus⟩

/-- **An errand on the pair is heard of, and leads, as its race goes.** -/
theorem IsAt.run (h : s.IsAt a b l) {e : Errand} {heard : Heard} (hgo : l.Goes (e, heard) m)
    (hk : e.key = Lock.key a b) (now : Instant) :
    (e.run now s).1 = heard ∧ (e.run now s).2.IsAt a b m := by
  cases hgo with
  | ask x y => exact ((h.congr hk).ask now).imp_right fun h' => h'.congr hk.symm
  | agree x y => exact ((h.congr hk).agree now).imp_right fun h' => h'.congr hk.symm
  | look x y => exact ⟨congrArg Heard.state (h.congr hk).relationship, h⟩

/-! ## Many errands -/

/-- **Each pair goes its own way.** After any errands a pair is where those on it lead, and its
members heard what they would have heard alone. -/
theorem IsAt.of_follows {steps : List (Instant × Errand)} {entries : List (Errand × Heard)}
    (h : s.IsAt a b l) (hway : l.Follows entries m)
    (hsteps : errandsOn (Lock.key a b) steps = entries.map Prod.fst) :
    entriesOn (Lock.key a b) (runAll Errand.run s steps).1 = entries ∧
      (runAll Errand.run s steps).2.IsAt a b m := by
  induction steps generalizing s l entries with
  | nil =>
    cases hway with
    | nil => exact ⟨rfl, h⟩
    | cons => cases hsteps
  | cons step steps ih =>
    obtain ⟨now, e⟩ := step
    by_cases hk : e.key = Lock.key a b
    · -- the errand is the next of the pair
      rw [errandsOn_cons_of_eq hk] at hsteps
      cases hway with
      | nil => cases hsteps
      | cons hgo hrest =>
        rename_i x xs
        obtain ⟨e', heard⟩ := x
        obtain ⟨rfl, htail⟩ := List.cons.inj hsteps
        obtain ⟨hheard, hnext⟩ := h.run hgo hk now
        obtain ⟨hentries, hend⟩ := ih hnext hrest htail
        refine ⟨?_, hend⟩
        rw [runAll, entriesOn_cons_of_eq hk, hheard, hentries]
    · rw [errandsOn_cons_of_ne hk] at hsteps
      obtain ⟨hentries, hend⟩ := ih (h.run_of_ne hk now) hway hsteps
      refine ⟨?_, hend⟩
      rw [runAll, entriesOn_cons_of_ne hk, hentries]

/-- `t` is `s` but for the rows of these pairs. -/
structure DiffersOn (pairs : List (Int × Int)) (s t : Store) : Prop where
  tables : t = { s with connections := t.connections }
  rows : ∀ u v, (∀ p ∈ pairs, Lock.key u v ≠ Lock.key p.1 p.2) → t.pairRows u v = s.pairRows u v

theorem DiffersOn.refl (pairs : List (Int × Int)) (s : Store) : DiffersOn pairs s s :=
  ⟨rfl, fun _ _ _ => rfl⟩

theorem DiffersOn.trans {pairs : List (Int × Int)} {s t r : Store} (h : DiffersOn pairs s t)
    (h' : DiffersOn pairs t r) : DiffersOn pairs s r where
  tables := by
    have htables := h'.tables
    rw [h.tables] at htables
    exact htables
  rows u v hne := (h'.rows u v hne).trans (h.rows u v hne)

/-- **Errands on pairs leave all else alone.** -/
theorem differsOn_runAll {pairs : List (Int × Int)} {steps : List (Instant × Errand)}
    (hs : s.IsLawful)
    (hsteps : ∀ step ∈ steps, ∃ p ∈ pairs, step.2.key = Lock.key p.1 p.2) :
    DiffersOn pairs s (runAll Errand.run s steps).2 := by
  induction steps generalizing s with
  | nil => exact .refl pairs s
  | cons step steps ih =>
    obtain ⟨now, e⟩ := step
    obtain ⟨p, hp, hk⟩ := hsteps (now, e) List.mem_cons_self
    have hfirst : DiffersOn pairs s (e.run now s).2 :=
      ⟨run_errand_eq s now e, fun u v hne =>
        pairRows_run_errand_of_ne hs (e := e) (hk ▸ hne p hp) now⟩
    exact hfirst.trans (ih (hs.runErrand now e) fun x hx => hsteps x (List.mem_cons_of_mem _ hx))

end Store

/-! ## Disjoint pairs -/

/-- The requests of some pairs, in both directions. -/
def requestsOf (pairs : List (Int × Int)) : List Errand :=
  pairs.flatMap fun p => [.ask p.1 p.2, .ask p.2 p.1]

section Disjoint

variable {pairs : List (Int × Int)} {p : Int × Int}

theorem ne_of_disjoint (h : (pairs.flatMap fun p => [p.1, p.2]).Nodup) (hp : p ∈ pairs) :
    p.1 ≠ p.2 := by
  have hpair := (List.nodup_flatMap.1 h).1 p hp
  simpa using hpair

theorem nodup_keys_of_disjoint (h : (pairs.flatMap fun p => [p.1, p.2]).Nodup) :
    (pairs.map fun p => Lock.key p.1 p.2).Nodup := by
  refine List.pairwise_map.2 ((List.nodup_flatMap.1 h).2.imp fun {p q} hpq hkey => ?_)
  -- a common key is a common member
  have hmem : p.1 ∈ [q.1, q.2] := by
    rcases Lock.key_eq_iff.1 hkey with ⟨h₁, -⟩ | ⟨h₁, -⟩
    · simp [h₁]
    · simp [h₁]
  exact hpq List.mem_cons_self hmem

theorem filter_key_flatMap {errands : Int × Int → List Errand}
    (herrands : ∀ p, ∀ e ∈ errands p, e.key = Lock.key p.1 p.2)
    (hkeys : (pairs.map fun p => Lock.key p.1 p.2).Nodup) (hp : p ∈ pairs) :
    (pairs.flatMap errands).filter (fun e => e.key == Lock.key p.1 p.2) = errands p := by
  induction pairs with
  | nil => cases hp
  | cons q qs ih =>
    rw [List.map_cons, List.nodup_cons] at hkeys
    rw [List.flatMap_cons, List.filter_append]
    rcases List.mem_cons.1 hp with rfl | hp
    · have hown : (errands p).filter (fun e => e.key == Lock.key p.1 p.2) = errands p := by
        rw [List.filter_eq_self]
        exact fun e he => beq_iff_eq.2 (herrands p e he)
      have hrest : (qs.flatMap errands).filter (fun e => e.key == Lock.key p.1 p.2) = [] := by
        rw [List.filter_eq_nil_iff]
        intro e he hkey
        obtain ⟨r, hr, he⟩ := List.mem_flatMap.1 he
        exact hkeys.1 (List.mem_map.2 ⟨r, hr, (herrands r e he).symm.trans (beq_iff_eq.1 hkey)⟩)
      rw [hown, hrest, List.append_nil]
    · have hfirst : (errands q).filter (fun e => e.key == Lock.key p.1 p.2) = [] := by
        rw [List.filter_eq_nil_iff]
        intro e he hkey
        exact hkeys.1 (List.mem_map.2 ⟨p, hp, (beq_iff_eq.1 hkey).symm.trans (herrands q e he)⟩)
      rw [hfirst, List.nil_append, ih hkeys.2 hp]

theorem key_of_mem_requests {e : Errand} (he : e ∈ [Errand.ask p.1 p.2, .ask p.2 p.1]) :
    e.key = Lock.key p.1 p.2 := by
  rcases List.mem_pair.1 he with rfl | rfl
  · rfl
  · exact Lock.key_comm p.2 p.1

/-- **However requests are ordered, those of a pair are two opposite ones.** -/
theorem errandsOn_of_perm (hdisjoint : (pairs.flatMap fun p => [p.1, p.2]).Nodup) (hp : p ∈ pairs)
    {steps : List (Instant × Errand)} (h : (steps.map Prod.snd).Perm (requestsOf pairs)) :
    errandsOn (Lock.key p.1 p.2) steps = [.ask p.1 p.2, .ask p.2 p.1] ∨
      errandsOn (Lock.key p.1 p.2) steps = [.ask p.2 p.1, .ask p.1 p.2] := by
  have hown := filter_key_flatMap (fun p e he => key_of_mem_requests he)
    (nodup_keys_of_disjoint hdisjoint) hp
  have hperm := h.filter fun e => e.key == Lock.key p.1 p.2
  rw [requestsOf, hown] at hperm
  exact List.perm_pair.1 hperm

theorem exists_key_of_perm {steps : List (Instant × Errand)}
    (h : (steps.map Prod.snd).Perm (requestsOf pairs)) :
    ∀ step ∈ steps, ∃ p ∈ pairs, step.2.key = Lock.key p.1 p.2 := by
  intro step hstep
  obtain ⟨p, hp, he⟩ := List.mem_flatMap.1 (h.mem_iff.1 (List.mem_map_of_mem hstep))
  exact ⟨p, hp, key_of_mem_requests he⟩

end Disjoint

namespace Store

variable {s : Store} {pairs : List (Int × Int)} {p : Int × Int}

/-- Disjoint pairs of members with complete profiles; between the two of a pair there is neither a
row nor a dismissal. -/
structure AreReady (s : Store) (pairs : List (Int × Int)) : Prop where
  disjoint : (pairs.flatMap fun p => [p.1, p.2]).Nodup
  complete : ∀ p ∈ pairs, s.isComplete p.1 = true ∧ s.isComplete p.2 = true
  ledger : ∀ p ∈ pairs, s.hasDismissed p.1 p.2 = false ∧ s.hasDismissed p.2 p.1 = false
  rows : ∀ p ∈ pairs, s.pairRows p.1 p.2 = []

theorem AreReady.isAt (h : s.AreReady pairs) (hs : s.IsLawful) (hp : p ∈ pairs) :
    s.IsAt p.1 p.2 .ready where
  lawful := hs
  distinct := ne_of_disjoint h.disjoint hp
  complete := (h.complete p hp).1
  otherComplete := (h.complete p hp).2
  ledger := (h.ledger p hp).1
  otherLedger := (h.ledger p hp).2
  rows := h.rows p hp

/-- The race of a pair is over: it has one row, an accepted one, and so both members see it. -/
structure HasJoined (s : Store) (a b : Int) : Prop where
  row : ∃ c, s.pairRows a b = [c] ∧ c.status = .accepted
  there : s.relationship a b = .accepted
  back : s.relationship b a = .accepted

theorem IsAt.hasJoined {a b : Int} (h : s.IsAt a b .joined) : s.HasJoined a b :=
  ⟨h.rows, h.relationship, h.swap.relationship⟩

/-- **In every order of the requests** the first of a pair waits, the second accepts it, and nothing
but the rows of the pairs is changed. -/
theorem AreReady.race (h : s.AreReady pairs) (hs : s.IsLawful)
    {steps : List (Instant × Errand)} (hsteps : (steps.map Prod.snd).Perm (requestsOf pairs)) :
    (∀ p ∈ pairs,
      (entriesOn (Lock.key p.1 p.2) (runAll Errand.run s steps).1).map Prod.snd =
          [.answer (.ok .pending), .answer (.ok .accepted)] ∧
        (runAll Errand.run s steps).2.HasJoined p.1 p.2) ∧
      DiffersOn pairs s (runAll Errand.run s steps).2 := by
  refine ⟨fun p hp => ?_, differsOn_runAll hs (exists_key_of_perm hsteps)⟩
  have hready := h.isAt hs hp
  rcases errandsOn_of_perm h.disjoint hp hsteps with hown | hown
  · obtain ⟨hentries, hend⟩ := hready.of_follows (Leg.follows_requests p.1 p.2) hown
    exact ⟨by rw [hentries]; rfl, hend.hasJoined⟩
  · obtain ⟨hentries, hend⟩ := hready.of_follows (Leg.follows_requests p.2 p.1) hown
    exact ⟨by rw [hentries]; rfl, hend.hasJoined⟩

end Store

end Matchmaker
