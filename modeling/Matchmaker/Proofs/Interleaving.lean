import Matchmaker.Proofs.Calls
import Mathlib.Logic.Function.Basic

/-!
# Transitions in small steps

Clients run their transitions at the same time on one database. Each takes the lock of its pair,
looks at the profiles, the rows and the ledger, writes at most one row that nobody else sees yet,
and commits; a refusal ends the transaction where it is decided. Of the database this assumes that
a lock has one holder until the transaction ends, that a look sees what is committed, and that a new
row gets an id of its own.

* `Job`: a transition that a client asks for;
* `Seen`, `Phase`: what a client has read, and how far it is;
* `World`, `World.Step`: the database with its clients, and one step of one client;
* `World.Reachable`: the worlds that some interleaving leads to;
* `answers`: what jobs are answered when they run one at a time.
-/

namespace Matchmaker

open Transition (Result Reading Write Outcome)

/-- A transition that a client asks for, at an instant. -/
structure Job where
  transition : Transition
  caller : Int
  other : Int
  now : Instant
  deriving DecidableEq, Repr

namespace Job

/-- The key of the lock that a job needs. -/
def key (j : Job) : Int × Int :=
  Lock.key j.caller j.other

/-- The job as a call. -/
def call (j : Job) : Instant × Call :=
  (j.now, .transition j.transition j.caller j.other)

/-- The job as a whole. -/
def run (j : Job) (s : Store) : Except Failure (Outcome × Store) :=
  j.transition.run j.now j.caller j.other s

/-- What the job decides after a reading. -/
def decide (j : Job) (r : Reading) : Except Refusal (Result × Write) :=
  j.transition.decide j.caller j.other r

/-- What the job reads of a store. -/
def read (j : Job) (s : Store) : Reading :=
  s.read j.caller j.other

end Job

/-- The answers to jobs that run one at a time. -/
def answers : Store → List Job → List (Except Failure Result)
  | _, [] => []
  | s, j :: js => (j.run s).map (·.1.result) :: answers (s.after j.call) js

/-! ## Clients -/

/-- What a client has read so far. -/
structure Seen where
  callerComplete : Option Bool
  otherComplete : Option Bool
  row : Option (Option Connection)
  dismissed : Option Bool
  deriving DecidableEq, Repr

namespace Seen

/-- Nothing is read yet. -/
def nothing : Seen := ⟨none, none, none, none⟩

/-- A look at one more thing of what there is to read. -/
inductive Look (r : Reading) (seen : Seen) : Seen → Prop
  | caller : Look r seen { seen with callerComplete := some r.callerComplete }
  | other : Look r seen { seen with otherComplete := some r.otherComplete }
  | row : Look r seen { seen with row := some r.row }
  | ledger : Look r seen { seen with dismissed := some r.dismissed }

/-- A reading that agrees with all that was seen. -/
structure Fits (seen : Seen) (r : Reading) : Prop where
  callerComplete : ∀ x, seen.callerComplete = some x → r.callerComplete = x
  otherComplete : ∀ x, seen.otherComplete = some x → r.otherComplete = x
  row : ∀ x, seen.row = some x → r.row = x
  dismissed : ∀ x, seen.dismissed = some x → r.dismissed = x

theorem fits_nothing (r : Reading) : nothing.Fits r :=
  ⟨nofun, nofun, nofun, nofun⟩

theorem Fits.look {seen seen' : Seen} {r : Reading} (h : seen.Fits r)
    (hlook : Look r seen seen') : seen'.Fits r := by
  cases hlook with
  | caller => exact { h with callerComplete := fun _ hx => Option.some.inj hx }
  | other => exact { h with otherComplete := fun _ hx => Option.some.inj hx }
  | row => exact { h with row := fun _ hx => Option.some.inj hx }
  | ledger => exact { h with dismissed := fun _ hx => Option.some.inj hx }

end Seen

/-- How far a client is. -/
inductive Phase where
  /-- The client has no lock yet. -/
  | waiting
  /-- The client holds its lock and has read this. -/
  | reading (seen : Seen)
  /-- The client has written a row of this id and not committed. -/
  | written (result : Result) (w : Write) (id : Int)
  /-- The client is answered. -/
  | finished (answer : Except Failure Outcome)

namespace Phase

/-- The id of a new row that is not committed. -/
def newId? : Phase → Option Int
  | written _ (.insert _ _) id => some id
  | _ => none

/-- What the client is answered, the id of the row apart. -/
def answer? : Phase → Option (Except Failure Result)
  | finished x => some (x.map Outcome.result)
  | _ => none

end Phase

/-! ## The world -/

/-- The database with its clients. -/
structure World (ι : Type) where
  /-- The committed rows of the connections table. -/
  table : List Connection
  /-- The holders of the locks. -/
  locks : Int × Int → Option ι
  phase : ι → Phase
  /-- The clients that are answered, in the order of their answers. -/
  done : List ι

namespace World

variable {ι : Type}

/-- The world before any client does anything. -/
def init (s : Store) : World ι where
  table := s.connections
  locks _ := none
  phase _ := .waiting
  done := []

/-- The committed store, whose other tables do not change. -/
def store (s : Store) (w : World ι) : Store :=
  { s with connections := w.table }

/-- The id of the row that a change concerns: for a new row one that no row has, committed or
not. -/
def Allots (w : World ι) (id : Int) : Write → Prop
  | .insert _ _ => (∀ c ∈ w.table, c.id ≠ id) ∧ ∀ i, (w.phase i).newId? ≠ some id
  | .mark k _ | .delete k => id = k

variable [DecidableEq ι]

/-- The world after a client goes on to another phase. -/
def enter (w : World ι) (i : ι) (p : Phase) : World ι :=
  { w with phase := Function.update w.phase i p }

/-- The world with another holder of a lock. -/
def lock (w : World ι) (key : Int × Int) (holder : Option ι) : World ι :=
  { w with locks := Function.update w.locks key holder }

/-- The world after a client is answered. -/
def finish (w : World ι) (i : ι) (answer : Except Failure Outcome) : World ι :=
  { w.enter i (.finished answer) with done := w.done ++ [i] }

/-- The world with other committed rows. -/
def withTable (w : World ι) (rows : List Connection) : World ι :=
  { w with table := rows }

/-- One step of one client; `s` has the tables that do not change. A client that has seen enough to
be refused is refused, and one that has seen enough to write writes. -/
inductive Step (s : Store) (job : ι → Job) (w : World ι) : World ι → Prop
  /-- A member has no connection with themselves, which needs no transaction to find. -/
  | reject {i : ι} (hphase : w.phase i = .waiting) (hself : (job i).caller = (job i).other) :
      Step s job w (w.finish i (refuse .sameUser))
  | acquire {i : ι} (hphase : w.phase i = .waiting) (hne : (job i).caller ≠ (job i).other)
      (hfree : w.locks (job i).key = none) :
      Step s job w ((w.lock (job i).key (some i)).enter i (.reading .nothing))
  | look {i : ι} {seen seen' : Seen} (hphase : w.phase i = .reading seen)
      (hlook : Seen.Look ((job i).read (w.store s)) seen seen') :
      Step s job w (w.enter i (.reading seen'))
  /-- A refusal rolls the transaction back. -/
  | refuse {i : ι} {seen : Seen} {why : Refusal} (hphase : w.phase i = .reading seen)
      (hdecide : ∀ r, seen.Fits r → (job i).decide r = .error why) :
      Step s job w ((w.lock (job i).key none).finish i (refuse why))
  | write {i : ι} {seen : Seen} {result : Result} {v : Write} {id : Int}
      (hphase : w.phase i = .reading seen)
      (hdecide : ∀ r, seen.Fits r → (job i).decide r = .ok (result, v)) (hid : w.Allots id v) :
      Step s job w (w.enter i (.written result v id))
  | commit {i : ι} {result : Result} {v : Write} {id : Int}
      (hphase : w.phase i = .written result v id) :
      Step s job w (((w.withTable (v.apply id (job i).now w.table)).lock (job i).key none).finish i
        (.ok ⟨result, id⟩))

/-- The worlds that an interleaving of the clients leads to. -/
inductive Reachable (s : Store) (job : ι → Job) : World ι → Prop
  | init : Reachable s job (init s)
  | step {w w' : World ι} (h : Reachable s job w) (hstep : w.Step s job w') : Reachable s job w'

end World

end Matchmaker
