import Matchmaker.Proofs.Calls
import Matchmaker.Proofs.Deciding

/-!
# The state of a pair

A clean store knows one state for each unordered pair of members, and calls move it by an automaton:
nothing, a pending request of the one or of the other, accepted, disconnected, and the terminal
dismissed. A request also depends on what the automaton does not know, the two profiles and the
ledger of the one who asks.

* `PairState`, `PairState.step`: the states and the automaton;
* `PairState.of`, `Store.pairState`: the state that a store holds;
* `step_of`: a decision on a reading is a step of the automaton;
* **`pairState_refines`**: after every run of calls on a clean store, each pair is where the
  automaton leads, and each transition answers what the automaton answers.
-/

namespace Matchmaker

open Transition (Result Reading Write Outcome)

/-- The state of an unordered pair of members. -/
inductive PairState where
  | none
  | pending (requester target : Int)
  | accepted
  | disconnected
  | dismissed
  deriving DecidableEq, Repr

/-- What a transition depends on besides the state of its pair. -/
structure Standing where
  callerComplete : Bool
  otherComplete : Bool
  dismissed : Bool
  deriving DecidableEq, Repr

namespace PairState

/-! ## The automaton -/

/-- A request by `a` to `b`. -/
def request (a b : Int) (e : Standing) (σ : PairState) : Except Kind (Result × PairState) :=
  if e.callerComplete = false then .error .incompleteProfile
  else if e.otherComplete = false then .error .notFound
  else match σ with
    | none => if e.dismissed then .error .notFound else .ok (.pending, pending a b)
    | pending x y => if x = b ∧ y = a then .ok (.accepted, accepted) else .error .conflict
    | accepted => .error .alreadyConnected
    | disconnected | dismissed => .error .conflict

/-- What settles the request that `a` made to `b`. -/
def settle (a b : Int) (result : Result) (next : PairState) :
    PairState → Except Kind (Result × PairState)
  | none => .error .notFound
  | pending x y => if x = a ∧ y = b then .ok (result, next) else .error .notFound
  | accepted => .error .alreadyConnected
  | disconnected | dismissed => .error .conflict

/-- The end of a connection. -/
def disconnect : PairState → Except Kind (Result × PairState)
  | none => .error .notFound
  | accepted => .ok (.disconnected, disconnected)
  | pending _ _ | disconnected | dismissed => .error .conflict

/-- A transition by `a` on the pair with `b`: what it reports and the state it leads to, or the kind
of its refusal. -/
def step (t : Transition) (a b : Int) (e : Standing) (σ : PairState) :
    Except Kind (Result × PairState) :=
  if a = b then .error .invalid
  else match t with
    | .request => request a b e σ
    | .accept => settle b a .accepted accepted σ
    | .decline => settle b a .declined none σ
    | .cancel => settle a b .cancelled none σ
    | .disconnect => disconnect σ

theorem step_self {a b : Int} (hab : a = b) (t : Transition) (e : Standing) (σ : PairState) :
    σ.step t a b e = .error .invalid :=
  if_pos hab

/-- A transition with what it depends on. -/
structure Move where
  transition : Transition
  caller : Int
  other : Int
  standing : Standing
  deriving DecidableEq, Repr

/-- The state after a move, which a refusal leaves. -/
def next (σ : PairState) (m : Move) : PairState :=
  match σ.step m.transition m.caller m.other m.standing with
  | .ok (_, σ') => σ'
  | .error _ => σ

/-! ## Rows and states -/

/-- The state that the row of a pair stands for. -/
def of : Option Connection → PairState
  | Option.none => none
  | some c =>
    match c.status with
    | .pending => pending c.requester c.target
    | .accepted => accepted
    | .disconnected => disconnected
    | .dismissed => dismissed

theorem target_of_requester {c : Connection} {a b : Int} (hc : c.pair = Lock.key a b)
    (h : c.requester = a) : c.target = b := by
  rw [Connection.pair, Lock.key_eq_iff] at hc
  omega

section Decision

variable {a b : Int} {r : Reading} {row : Option Connection} {c : Connection}

theorem of_pending (h : c.status = .pending) : of (some c) = pending c.requester c.target := by
  simp [of, h]

theorem of_accepted (h : c.status = .accepted) : of (some c) = accepted := by
  simp [of, h]

theorem of_disconnected (h : c.status = .disconnected) : of (some c) = disconnected := by
  simp [of, h]

theorem of_dismissed (h : c.status = .dismissed) : of (some c) = dismissed := by
  simp [of, h]

theorem settle_of (hrow : ∀ c, row = some c → c.pair = Lock.key a b) (result : Result)
    (next : PairState) :
    settle a b result next (of row) =
      match Transition.pendingFrom a row with
      | .ok _ => .ok (result, next)
      | .error why => .error why.kind := by
  cases row with
  | none => rfl
  | some c =>
    cases hs : c.status with
    | pending =>
      rw [of_pending hs]
      by_cases hfrom : c.requester = a
      · have hto := target_of_requester (hrow c rfl) hfrom
        simp [settle, Transition.pendingFrom, hs, hfrom, hto]
      · simp [settle, Transition.pendingFrom, hs, hfrom, Refusal.kind]
    | accepted =>
      rw [of_accepted hs]
      simp [settle, Transition.pendingFrom, hs, Refusal.kind]
    | disconnected =>
      rw [of_disconnected hs]
      simp [settle, Transition.pendingFrom, hs, Refusal.kind]
    | dismissed =>
      rw [of_dismissed hs]
      simp [settle, Transition.pendingFrom, hs, Refusal.kind]

theorem request_of (hrow : ∀ c, r.row = some c → c.pair = Lock.key a b) (fresh : Int)
    (now : Instant) :
    request a b ⟨r.callerComplete, r.otherComplete, r.dismissed⟩ (of r.row) =
      match Transition.decideRequest a b r with
      | .ok (result, w) => .ok (result, of (w.row fresh now r.row))
      | .error why => .error why.kind := by
  obtain ⟨callerComplete, otherComplete, row, dismissed⟩ := r
  cases callerComplete with
  | false => rfl
  | true =>
    cases otherComplete with
    | false => rfl
    | true =>
      cases row with
      | none => cases dismissed <;> rfl
      | some c =>
        cases hs : c.status with
        | pending =>
          rw [of_pending hs]
          by_cases hfrom : c.requester = b
          · have hto : c.target = a :=
              target_of_requester ((hrow c rfl).trans (Lock.key_comm a b)) hfrom
            simp [request, Transition.decideRequest, hs, hfrom, hto, Write.row, of]
          · simp [request, Transition.decideRequest, hs, hfrom, Refusal.kind]
        | accepted =>
          rw [of_accepted hs]
          simp [request, Transition.decideRequest, hs, Refusal.kind]
        | disconnected =>
          rw [of_disconnected hs]
          simp [request, Transition.decideRequest, hs, Refusal.kind]
        | dismissed =>
          rw [of_dismissed hs]
          simp [request, Transition.decideRequest, hs, Refusal.kind]

theorem disconnect_of (b : Int) (r : Reading) (fresh : Int) (now : Instant) :
    disconnect (of r.row) =
      match Transition.decideDisconnect b r with
      | .ok (result, w) => .ok (result, of (w.row fresh now r.row))
      | .error why => .error why.kind := by
  obtain ⟨callerComplete, otherComplete, row, dismissed⟩ := r
  cases row with
  | none => rfl
  | some c =>
    cases hs : c.status with
    | pending =>
      rw [of_pending hs]
      simp [disconnect, Transition.decideDisconnect, hs, Refusal.kind]
    | accepted =>
      rw [of_accepted hs]
      simp [disconnect, Transition.decideDisconnect, hs, Write.row, of]
    | disconnected =>
      rw [of_disconnected hs]
      simp [disconnect, Transition.decideDisconnect, hs, Refusal.kind]
    | dismissed =>
      rw [of_dismissed hs]
      simp [disconnect, Transition.decideDisconnect, hs, Refusal.kind]

/-- **A decision on a reading is a step of the automaton.** -/
theorem step_of (hab : a ≠ b) (hrow : ∀ c, r.row = some c → c.pair = Lock.key a b) (fresh : Int)
    (now : Instant) (t : Transition) :
    (of r.row).step t a b ⟨r.callerComplete, r.otherComplete, r.dismissed⟩ =
      match t.decide a b r with
      | .ok (result, w) => .ok (result, of (w.row fresh now r.row))
      | .error why => .error why.kind := by
  have hrow' : ∀ c, r.row = some c → c.pair = Lock.key b a := fun c hc =>
    (hrow c hc).trans (Lock.key_comm a b)
  unfold step
  rw [if_neg hab]
  cases t with
  | request => exact request_of hrow fresh now
  | accept =>
    simp only [settle_of hrow', Transition.decide]
    cases hp : Transition.pendingFrom b r.row with
    | error why => rfl
    | ok c => simp [Except.map, Write.row, (Transition.pendingFrom_eq_ok_iff.1 hp).1, of]
  | decline =>
    simp only [settle_of hrow', Transition.decide]
    cases Transition.pendingFrom b r.row <;> rfl
  | cancel =>
    simp only [settle_of hrow, Transition.decide]
    cases Transition.pendingFrom a r.row <;> rfl
  | disconnect => exact disconnect_of b r fresh now

end Decision

end PairState

/-! ## On the store -/

/-- What a caller learns of a transition: the state reported, or the kind of its refusal. -/
def Transition.answer : Except Failure (Outcome × Store) → Except (Option Kind) Result
  | .ok (o, _) => .ok o.result
  | .error e => .error e.kind?

/-- What the automaton answers. -/
def PairState.answer (t : Transition) (a b : Int) (e : Standing) (σ : PairState) :
    Except (Option Kind) Result :=
  match σ.step t a b e with
  | .ok (result, _) => .ok result
  | .error kind => .error (some kind)

namespace Store

/-- The state that a store holds of a pair. -/
def pairState (s : Store) (a b : Int) : PairState :=
  .of (s.deciding? a b)

/-- What a transition by `a` on the pair with `b` depends on besides the state of the pair. -/
def standing (s : Store) (a b : Int) : Standing :=
  ⟨s.isComplete a, s.isComplete b, s.hasDismissed a b⟩

/-- The move that a call makes on the pair of `x` and `y`. -/
def move? (s : Store) (x y : Int) : Call → Option PairState.Move
  | .transition t a b =>
    if Lock.key a b = Lock.key x y then some ⟨t, a, b, s.standing a b⟩ else none
  | .dismiss _ _ | .upsert _ _ => none

/-- The moves that a run makes on the pair of `x` and `y`. -/
def moves (x y : Int) : Store → List (Instant × Call) → List PairState.Move
  | _, [] => []
  | s, step :: calls => (s.move? x y step.2).toList ++ moves x y (s.after step) calls

section Steps

variable {s : Store} {now : Instant} {t : Transition} {a b x y : Int} {w : Write}

theorem pairState_congr (h : Lock.key x y = Lock.key a b) : s.pairState x y = s.pairState a b := by
  rw [pairState, deciding?_congr h, pairState]

theorem pair_of_row {c : Connection} (h : (s.read a b).row = some c) : c.pair = Lock.key a b :=
  (mem_of_deciding? h).2

theorem deciding?_write (hone : (s.pairRows a b).length ≤ 1) (hw : w.IsOn s.connections a b) :
    (s.write now w).deciding? a b = w.row s.nextConnection now (s.deciding? a b) := by
  rw [deciding?, write_eq, pairRows_eq, rowsOf_apply_self hone hw]
  exact latest?_of_toList _

theorem deciding?_write_of_ne (hid : (s.connections.map Connection.id).Nodup)
    (hw : w.IsOn s.connections a b) (hne : Lock.key x y ≠ Lock.key a b) :
    (s.write now w).deciding? x y = s.deciding? x y := by
  rw [deciding?, pairRows_write_of_ne hid hw hne, deciding?]

/-- The step of the automaton at the state that the store holds. -/
theorem step_pairState (hab : a ≠ b) (now : Instant) (t : Transition) :
    (s.pairState a b).step t a b (s.standing a b) =
      match t.decide a b (s.read a b) with
      | .ok (result, w) => .ok (result, .of (w.row s.nextConnection now (s.deciding? a b)))
      | .error why => .error why.kind :=
  PairState.step_of hab (fun _ h => pair_of_row h) s.nextConnection now t

/-- **A transition answers what the automaton answers.** -/
theorem answer_run (s : Store) (now : Instant) (t : Transition) (a b : Int) :
    Transition.answer (t.run now a b s) =
      PairState.answer t a b (s.standing a b) (s.pairState a b) := by
  rw [Transition.run_eq]
  unfold PairState.answer
  by_cases hab : a = b
  · rw [if_pos hab, PairState.step_self hab]
    rfl
  · rw [if_neg hab, step_pairState hab now]
    cases t.decide a b (s.read a b) <;> rfl

theorem pairState_after_transition (hs : s.IsClean) (now : Instant) (t : Transition) (a b : Int) :
    (s.after (now, .transition t a b)).pairState a b =
      (s.pairState a b).next ⟨t, a, b, s.standing a b⟩ := by
  rw [after_transition, Transition.run_eq]
  unfold PairState.next
  by_cases hab : a = b
  · rw [if_pos hab, PairState.step_self hab]
    rfl
  · rw [if_neg hab, step_pairState hab now]
    cases hd : t.decide a b (s.read a b) with
    | error why => rfl
    | ok x =>
      obtain ⟨result, w⟩ := x
      have hw : w.IsOn s.connections a b := (Transition.decide_eq_ok_iff.1 hd).isOn
      show PairState.of ((s.write now w).deciding? a b) = _
      rw [deciding?_write (hs.onePerPair a b) hw]

theorem pairState_after_transition_of_ne (hs : s.IsClean) (hne : Lock.key x y ≠ Lock.key a b)
    (now : Instant) (t : Transition) :
    (s.after (now, .transition t a b)).pairState x y = s.pairState x y := by
  rw [after_transition]
  cases hrun : t.run now a b s with
  | error e => rfl
  | ok x =>
    obtain ⟨-, w, hw, -, hs'⟩ := Transition.run_eq_ok_iff.1 hrun
    show PairState.of (x.2.deciding? _ _) = _
    rw [hs', deciding?_write_of_ne hs.ids hw.isOn hne]
    rfl

theorem pairState_of_connections {s' : Store} (h : s'.connections = s.connections) :
    s'.pairState x y = s.pairState x y := by
  simp only [pairState, deciding?, pairRows, h]

theorem pairState_after (hs : s.IsClean) (step : Instant × Call) (x y : Int) :
    (s.after step).pairState x y =
      (s.move? x y step.2).toList.foldl PairState.next (s.pairState x y) := by
  obtain ⟨now, c⟩ := step
  cases c with
  | transition t a b =>
    by_cases hk : Lock.key a b = Lock.key x y
    · rw [move?, if_pos hk, pairState_congr hk.symm, pairState_congr hk.symm]
      exact pairState_after_transition hs now t a b
    · rw [move?, if_neg hk]
      exact pairState_after_transition_of_ne hs (Ne.symm hk) now t
  | dismiss a b => exact pairState_of_connections (connections_after nofun)
  | upsert user payload => exact pairState_of_connections (connections_after nofun)

end Steps

theorem pairState_afterAll {s : Store} (hs : s.IsClean) (calls : List (Instant × Call))
    (x y : Int) : (s.afterAll calls).pairState x y =
      (s.moves x y calls).foldl PairState.next (s.pairState x y) := by
  induction calls generalizing s with
  | nil => rfl
  | cons step calls ih =>
    have hstep : (s.after step).IsClean := hs.afterAll [step]
    rw [moves, List.foldl_append, ← pairState_after hs, ← ih hstep]
    rfl

/-- **A clean store refines the automaton of its pairs.** After every run of calls the store is
clean, each pair is where its moves lead, and each transition answers what the automaton answers. -/
theorem pairState_refines {s : Store} (hs : s.IsClean) (calls : List (Instant × Call)) :
    (s.afterAll calls).IsClean ∧
      (∀ x y, (s.afterAll calls).pairState x y =
        (s.moves x y calls).foldl PairState.next (s.pairState x y)) ∧
      (∀ now t a b, Transition.answer (t.run now a b (s.afterAll calls)) =
        PairState.answer t a b ((s.afterAll calls).standing a b)
          ((s.afterAll calls).pairState a b)) ∧
      (s.IsLinked → (∀ step ∈ calls, s.HasDismisser step.2) → (s.afterAll calls).IsLinked) :=
  ⟨hs.afterAll calls, pairState_afterAll hs calls, answer_run _, fun h hby => h.afterAll hby⟩

/-- The first member's request crosses that of the second, who disconnects; nobody can ask again. -/
theorem pairState_sample :
    let calls : List (Instant × Call) := [(1, .transition .cancel 2 1), (2, .dismiss 2 3),
      (3, .transition .request 2 1), (4, .upsert 1 .null), (5, .transition .disconnect 1 2)]
    sample.IsClean ∧ (sample.afterAll calls).IsClean ∧
      (sample.afterAll calls).pairState 1 2 = .disconnected ∧
      Transition.answer (Transition.run 6 .request 1 2 (sample.afterAll calls)) =
        .error (some .conflict) := by
  intro calls
  obtain ⟨hclean, hstate, hanswer, -⟩ := pairState_refines isClean_sample calls
  refine ⟨isClean_sample, hclean, ?_, ?_⟩
  · rw [hstate]
    decide
  · rw [hanswer]
    rfl

end Store

end Matchmaker
