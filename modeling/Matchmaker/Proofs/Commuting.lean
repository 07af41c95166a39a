import Matchmaker.Proofs.Contents
import Matchmaker.Proofs.Listings
import Matchmaker.Proofs.PairState
import Matchmaker.Proofs.Undisturbed

/-!
# Transitions on different pairs

Two transitions on different pairs, which may share a member, can be run in either order. What one
of them reads the other leaves alone, so both are answered alike; only the id of a new row tells
which came first.

* `Transition.known`, `known_run_congr`: an answer apart from the id of a new row depends on the
  reading;
* `read_after_of_ne`: a transition leaves what is read of every other pair;
* `PairState.seenBy`, `SamePool.of_pairState`: relationships and pools as states of pairs tell them;
* `contents_perm`: tables of one content for each pair have one content;
* **`transitions_commute`**: both orders come to the same.
-/

namespace Matchmaker

open Transition (Result Reading Write Outcome)

/-! ## Answers -/

namespace Transition

/-- What is reported of a transition, apart from the id of a new row. -/
def Outcome.known (o : Outcome) : Result × Option Int :=
  (o.result, if o.result = .pending then none else some o.connection)

/-- What the caller is answered, apart from the id of a new row. -/
def known (answer : Except Failure (Outcome × Store)) : Except Failure (Result × Option Int) :=
  answer.map fun x => x.1.known

theorem Decided.known_eq {a b : Int} {r : Reading} {t : Transition} {result : Result} {w : Write}
    (h : Decided a b r t result w) (s s' : Store) :
    Outcome.known ⟨result, s.written w⟩ = Outcome.known ⟨result, s'.written w⟩ := by
  cases h <;> rfl

/-- **Answers depend on readings**, whenever they are given. -/
theorem known_run_congr {t : Transition} {a b : Int} {s s' : Store} (h : s'.read a b = s.read a b)
    (now now' : Instant) : known (t.run now' a b s') = known (t.run now a b s) := by
  rw [run_eq, run_eq]
  by_cases hab : a = b
  · rw [if_pos hab, if_pos hab]
  · rw [if_neg hab, if_neg hab, h]
    cases hd : t.decide a b (s.read a b) with
    | error why => rfl
    | ok x => exact congrArg Except.ok ((decide_eq_ok_iff.1 hd).known_eq s' s)

end Transition

/-! ## What a transition leaves to other pairs -/

namespace Store

variable {s s' : Store} {a b x y : Int}

theorem after_transition_eq (s : Store) (now : Instant) (t : Transition) (a b : Int) :
    s.after (now, .transition t a b) =
      { s with connections := (s.after (now, .transition t a b)).connections } := by
  rw [after_transition]
  cases hrun : t.run now a b s with
  | error e => rfl
  | ok o => exact eq_of_run hrun

theorem isComplete_after_transition (s : Store) (now : Instant) (t : Transition) (a b v : Int) :
    (s.after (now, .transition t a b)).isComplete v = s.isComplete v := by
  rw [after_transition_eq]
  rfl

theorem hasDismissed_after_transition (s : Store) (now : Instant) (t : Transition)
    (a b v w : Int) : (s.after (now, .transition t a b)).hasDismissed v w = s.hasDismissed v w := by
  rw [after_transition_eq]
  rfl

theorem pairRows_after_transition_of_ne (hs : s.IsLawful) (hne : Lock.key x y ≠ Lock.key a b)
    (now : Instant) (t : Transition) :
    (s.after (now, .transition t a b)).pairRows x y = s.pairRows x y := by
  rw [after_transition]
  cases hrun : t.run now a b s with
  | error e => rfl
  | ok o =>
    obtain ⟨-, w, hw, -, hs'⟩ := Transition.run_eq_ok_iff.1 hrun
    show o.2.pairRows x y = _
    rw [hs']
    exact pairRows_write_of_ne hs.ids hw.isOn hne

theorem deciding?_after_transition_of_ne (hs : s.IsLawful) (hne : Lock.key x y ≠ Lock.key a b)
    (now : Instant) (t : Transition) :
    (s.after (now, .transition t a b)).deciding? x y = s.deciding? x y :=
  congrArg latest? (pairRows_after_transition_of_ne hs hne now t)

/-- **A transition leaves what is read of every other pair.** -/
theorem read_after_of_ne (hs : s.IsLawful) (hne : Lock.key x y ≠ Lock.key a b) (now : Instant)
    (t : Transition) : (s.after (now, .transition t a b)).read x y = s.read x y := by
  unfold read
  rw [isComplete_after_transition, isComplete_after_transition, hasDismissed_after_transition,
    deciding?_after_transition_of_ne hs hne]

end Store

/-! ## What states of pairs tell -/

/-- How `a` sees a pair in this state. -/
def PairState.seenBy (a : Int) : PairState → Relationship
  | none => .none
  | pending x _ => if x = a then .pendingOutgoing else .pendingIncoming
  | accepted => .accepted
  | disconnected => .disconnected
  | dismissed => .dismissed

theorem PairState.seenBy_of (a : Int) (row : Option Connection) :
    (PairState.of row).seenBy a = Relationship.of a row := by
  cases row with
  | none => rfl
  | some c => cases hs : c.status <;> simp [of, Relationship.of, seenBy, hs]

theorem PairState.of_eq_none_iff {row : Option Connection} : of row = none ↔ row = .none := by
  cases row with
  | none => exact iff_of_true rfl rfl
  | some c => cases hs : c.status <;> simp [of, hs]

namespace Store

variable {s s' : Store} {a b x y : Int}

theorem relationship_eq_seenBy (s : Store) (a b : Int) :
    s.relationship a b = (s.pairState a b).seenBy a :=
  (PairState.seenBy_of a _).symm

theorem pairRows_isEmpty_iff_pairState :
    (s.pairRows a b).isEmpty = true ↔ s.pairState a b = .none := by
  rw [pairState, PairState.of_eq_none_iff, deciding?_eq_none_iff, List.isEmpty_iff]

theorem SamePool.of_pairState (hprofiles : s'.profiles = s.profiles)
    (hledger : s'.dismissals = s.dismissals)
    (h : ∀ v w, s'.pairState v w = s.pairState v w) (u : Int) : SamePool u s s' where
  profiles := hprofiles
  rows v := by
    rw [Bool.eq_iff_iff, pairRows_isEmpty_iff_pairState, pairRows_isEmpty_iff_pairState, h]
  ledger v := by
    rw [hasDismissed, hledger, hasDismissed]

/-! ## Tables of one content -/

/-- What the rows of a pair say after a transition on it depends on what it reads. -/
theorem content_after_congr (hs : s.IsClean) (hs' : s'.IsClean) (h : s'.read a b = s.read a b)
    (now : Instant) (t : Transition) :
    ((s'.after (now, .transition t a b)).deciding? a b).map Connection.content =
      ((s.after (now, .transition t a b)).deciding? a b).map Connection.content := by
  have hrow : s'.deciding? a b = s.deciding? a b := congrArg Reading.row h
  rw [after_transition, after_transition, Transition.run_eq, Transition.run_eq]
  by_cases hab : a = b
  · rw [if_pos hab, if_pos hab]
    exact congrArg _ hrow
  · rw [if_neg hab, if_neg hab, h]
    cases hd : t.decide a b (s.read a b) with
    | error why => exact congrArg _ hrow
    | ok o =>
      obtain ⟨result, w⟩ := o
      have hdecided := Transition.decide_eq_ok_iff.1 hd
      have hw : w.IsOn s.connections a b := hdecided.isOn
      have hw' : w.IsOn s'.connections a b := (h ▸ hdecided).isOn
      show ((s'.write now w).deciding? a b).map _ = ((s.write now w).deciding? a b).map _
      rw [deciding?_write (hs'.onePerPair a b) hw', deciding?_write (hs.onePerPair a b) hw, hrow]
      cases w <;> rfl

theorem nodup_contents (hs : s.IsClean) : (contents s.connections).Nodup := by
  have hpairs : ((contents s.connections).map Connection.pair).Nodup := by
    rw [contents, List.map_map]
    exact nodup_pairs_iff.2 hs.onePerPair
  exact hpairs.of_map _

theorem mem_contents_iff (hs : s.IsClean) {c : Connection} : c ∈ contents s.connections ↔
    (s.deciding? c.requester c.target).map Connection.content = some c := by
  rw [contents, List.mem_map, Option.map_eq_some_iff]
  constructor
  · rintro ⟨d, hd, rfl⟩
    exact ⟨d, hs.deciding?_eq_some_iff.2 ⟨hd, Connection.joins_iff_pair.2 rfl⟩, rfl⟩
  · rintro ⟨d, hd, hdc⟩
    exact ⟨d, (mem_of_deciding? hd).1, hdc⟩

/-- **Clean tables that say the same of every pair say the same.** -/
theorem contents_perm (hs : s.IsClean) (hs' : s'.IsClean)
    (h : ∀ v w,
      (s'.deciding? v w).map Connection.content = (s.deciding? v w).map Connection.content) :
    (contents s'.connections).Perm (contents s.connections) := by
  rw [List.perm_ext_iff_of_nodup (nodup_contents hs') (nodup_contents hs)]
  intro c
  rw [mem_contents_iff hs', mem_contents_iff hs, h]

/-! ## Two transitions -/

section Both

variable {t t' : Transition} {v w : Int}

theorem after_both_eq (s : Store) (m n : Instant) (t t' : Transition) (a b x y : Int) :
    (s.after (m, .transition t a b)).after (n, .transition t' x y) =
      { s with connections :=
          ((s.after (m, .transition t a b)).after (n, .transition t' x y)).connections } := by
  have hsecond := after_transition_eq (s.after (m, .transition t a b)) n t' x y
  generalize (s.after (m, .transition t a b)).after (n, .transition t' x y) = r at hsecond ⊢
  rw [after_transition_eq s m t a b] at hsecond
  exact hsecond

theorem pairState_first (hs : s.IsClean) (hne : Lock.key a b ≠ Lock.key x y)
    (hk : Lock.key v w = Lock.key a b) (m n : Instant) :
    ((s.after (m, .transition t a b)).after (n, .transition t' x y)).pairState v w =
      (s.pairState a b).next ⟨t, a, b, s.standing a b⟩ := by
  have hfirst : (s.after (m, .transition t a b)).IsClean := hs.afterAll [_]
  rw [pairState_after_transition_of_ne hfirst (hk ▸ hne), pairState_congr hk,
    pairState_after_transition hs]

theorem pairState_second (hs : s.IsClean) (hne : Lock.key a b ≠ Lock.key x y)
    (hk : Lock.key v w = Lock.key x y) (m n : Instant) :
    ((s.after (m, .transition t a b)).after (n, .transition t' x y)).pairState v w =
      (s.pairState x y).next ⟨t', x, y, s.standing x y⟩ := by
  have hfirst : (s.after (m, .transition t a b)).IsClean := hs.afterAll [_]
  have hstanding : (s.after (m, .transition t a b)).standing x y = s.standing x y := by
    unfold standing
    rw [isComplete_after_transition, isComplete_after_transition, hasDismissed_after_transition]
  rw [pairState_congr hk, pairState_after_transition hfirst, hstanding,
    pairState_after_transition_of_ne hs hne.symm]

/-- **In both orders every pair comes to the same state.** -/
theorem pairState_comm (hs : s.IsClean) (hne : Lock.key a b ≠ Lock.key x y)
    (m m' n n' : Instant) (v w : Int) :
    ((s.after (m, .transition t a b)).after (n, .transition t' x y)).pairState v w =
      ((s.after (n', .transition t' x y)).after (m', .transition t a b)).pairState v w := by
  by_cases hab : Lock.key v w = Lock.key a b
  · rw [pairState_first hs hne hab, pairState_second hs hne.symm hab]
  · by_cases hxy : Lock.key v w = Lock.key x y
    · rw [pairState_second hs hne hxy, pairState_first hs hne.symm hxy]
    · have hfirst : (s.after (m, .transition t a b)).IsClean := hs.afterAll [_]
      have hsecond : (s.after (n', .transition t' x y)).IsClean := hs.afterAll [_]
      rw [pairState_after_transition_of_ne hfirst hxy, pairState_after_transition_of_ne hs hab,
        pairState_after_transition_of_ne hsecond hab, pairState_after_transition_of_ne hs hxy]

/-- In both orders, at the same instants, the rows of a pair say the same. -/
theorem content_comm (hs : s.IsClean) (hne : Lock.key a b ≠ Lock.key x y) (m n : Instant)
    (v w : Int) :
    (((s.after (m, .transition t a b)).after (n, .transition t' x y)).deciding? v w).map
        Connection.content =
      (((s.after (n, .transition t' x y)).after (m, .transition t a b)).deciding? v w).map
        Connection.content := by
  have hfirst : (s.after (m, .transition t a b)).IsClean := hs.afterAll [_]
  have hsecond : (s.after (n, .transition t' x y)).IsClean := hs.afterAll [_]
  by_cases hab : Lock.key v w = Lock.key a b
  · rw [deciding?_after_transition_of_ne hfirst.toIsLawful (hab ▸ hne), deciding?_congr hab,
      deciding?_congr hab]
    exact (content_after_congr hs hsecond (read_after_of_ne hs.toIsLawful hne n t') m t).symm
  · rw [deciding?_after_transition_of_ne hsecond.toIsLawful hab]
    by_cases hxy : Lock.key v w = Lock.key x y
    · rw [deciding?_congr hxy, deciding?_congr hxy]
      exact content_after_congr hs hfirst (read_after_of_ne hs.toIsLawful hne.symm m t) n t'
    · rw [deciding?_after_transition_of_ne hfirst.toIsLawful hxy,
        deciding?_after_transition_of_ne hs.toIsLawful hab,
        deciding?_after_transition_of_ne hs.toIsLawful hxy]

end Both

/-- **Transitions on different pairs commute.** In either order, and whenever they are run, each is
answered the same, apart from the id of a new row, and refused with the same failure; afterwards
every two members see each other the same, everybody has the same candidates and recommendations,
and the other tables are those from before. If the instants are the same, the rows say the same. -/
theorem transitions_commute (hs : s.IsClean) (hne : Lock.key a b ≠ Lock.key x y)
    (t t' : Transition) (m m' n n' : Instant) :
    let first := s.after (m, .transition t a b)
    let second := s.after (n', .transition t' x y)
    let one := first.after (n, .transition t' x y)
    let other := second.after (m', .transition t a b)
    Transition.known (t.run m' a b second) = Transition.known (t.run m a b s) ∧
      Transition.known (t'.run n x y first) = Transition.known (t'.run n' x y s) ∧
      (∀ v w, one.relationship v w = other.relationship v w) ∧
      (∀ v, one.openProfiles v = other.openProfiles v) ∧
      (∀ {α : Type} [Scalar α] (g : Geometry α) (v : Int),
        one.candidatesOf g v = other.candidatesOf g v ∧
          one.recommend g v = other.recommend g v) ∧
      one = { s with connections := one.connections } ∧
      other = { s with connections := other.connections } ∧
      (m = m' → n = n' → (contents one.connections).Perm (contents other.connections)) := by
  intro first second one other
  have hfirst : first.IsClean := hs.afterAll [_]
  have hsecond : second.IsClean := hs.afterAll [_]
  have hone : one = { s with connections := one.connections } := after_both_eq ..
  have hother : other = { s with connections := other.connections } := after_both_eq ..
  have hstate : ∀ v w, one.pairState v w = other.pairState v w :=
    pairState_comm hs hne m m' n n'
  have hprofiles : one.profiles = other.profiles := by
    rw [hone, hother]
  have hledger : one.dismissals = other.dismissals := by
    rw [hone, hother]
  have hpool : ∀ v, SamePool v other one := SamePool.of_pairState hprofiles hledger hstate
  refine ⟨Transition.known_run_congr (read_after_of_ne hs.toIsLawful hne n' t') m m',
    Transition.known_run_congr (read_after_of_ne hs.toIsLawful hne.symm m t) n' n,
    fun v w => ?_, fun v => (hpool v).openProfiles, fun g v =>
      ⟨candidatesOf_congr hprofiles (hpool v).openProfiles, (hpool v).recommend g⟩,
    hone, hother, ?_⟩
  · rw [relationship_eq_seenBy, relationship_eq_seenBy, hstate]
  · rintro rfl rfl
    exact contents_perm (hsecond.afterAll [_]) (hfirst.afterAll [_]) (content_comm hs hne m n)

/-- The first member asks the third, and the third asks the second: the rows change their ids with
the order, and nothing else. -/
theorem transitions_commute_sample :
    let one := (sample.after (5, .transition .request 1 3)).after (6, .transition .request 3 2)
    let other := (sample.after (6, .transition .request 3 2)).after (5, .transition .request 1 3)
    sample.IsClean ∧ Lock.key 1 3 ≠ Lock.key 3 2 ∧
      one.connections = [⟨1, 1, 2, .pending, 0, 0⟩, ⟨2, 1, 3, .pending, 5, 5⟩,
        ⟨3, 3, 2, .pending, 6, 6⟩] ∧
      other.connections = [⟨1, 1, 2, .pending, 0, 0⟩, ⟨2, 3, 2, .pending, 6, 6⟩,
        ⟨3, 1, 3, .pending, 5, 5⟩] ∧
      (∀ v w, one.relationship v w = other.relationship v w) ∧
      (contents one.connections).Perm (contents other.connections) := by
  intro one other
  have hne : Lock.key 1 3 ≠ Lock.key 3 2 := by decide
  obtain ⟨-, -, hrelationship, -, -, -, -, hcontents⟩ :=
    transitions_commute isClean_sample hne .request .request 5 5 6 6
  exact ⟨isClean_sample, hne, rfl, rfl, hrelationship, hcontents rfl rfl⟩

end Store

end Matchmaker
