/-!
# Connections

A connection row leads from the member who asked to the member who was asked. Between two members
there may be a row in each direction; the row changed last, the one with the greater id among rows
of one instant, decides the state of the pair.

* `Connection.joins`: the row stands between two members, in either direction;
* `Connection.newer`: the order of change;
* `latest?`: the row changed last;
* `Relationship.of`: how a member sees the pair.
-/

namespace Matchmaker

/-- A point in time, counted in microseconds. -/
abbrev Instant := Nat

/-- The stored status of a connection. -/
inductive Status where
  | pending
  | accepted
  /-- A terminal status that no transition writes. -/
  | dismissed
  | disconnected
  deriving DecidableEq, Repr, Inhabited

namespace Status

/-- The name of a status in rows and messages. -/
def name : Status → String
  | pending => "pending"
  | accepted => "accepted"
  | dismissed => "dismissed"
  | disconnected => "disconnected"

/-- The status of a name. -/
def ofName? (s : String) : Option Status :=
  [pending, accepted, dismissed, disconnected].find? (·.name == s)

end Status

/-- A row of the connections table. -/
structure Connection where
  id : Int
  requester : Int
  target : Int
  status : Status
  created : Instant
  updated : Instant
  deriving DecidableEq, Repr, Inhabited

namespace Connection

/-- The row stands between `a` and `b`. -/
def joins (c : Connection) (a b : Int) : Bool :=
  (c.requester == a && c.target == b) || (c.requester == b && c.target == a)

/-- The row has `a` at one of its ends. -/
def touches (c : Connection) (a : Int) : Bool :=
  c.requester == a || c.target == a

/-- The member at the other end. -/
def peer (c : Connection) (a : Int) : Int :=
  if c.requester = a then c.target else c.requester

/-- The row was changed after the other one. -/
def newer (c d : Connection) : Bool :=
  d.updated < c.updated || (d.updated == c.updated && d.id < c.id)

/-- The short form of a row in listings. -/
def summary (c : Connection) : String :=
  "<Connection " ++ toString c.requester ++ " -> " ++ toString c.target ++ " status='" ++
    c.status.name ++ "'>"

theorem joins_comm (c : Connection) (a b : Int) : c.joins a b = c.joins b a := by
  simp only [joins, Bool.or_comm]

theorem joins_iff {c : Connection} {a b : Int} : c.joins a b = true ↔
    (c.requester = a ∧ c.target = b) ∨ (c.requester = b ∧ c.target = a) := by
  simp [joins]

end Connection

/-- The row changed last. -/
def latest? : List Connection → Option Connection
  | [] => none
  | c :: cs =>
    match latest? cs with
    | none => some c
    | some d => some (if d.newer c then d else c)

theorem latest?_eq_none_iff {cs : List Connection} : latest? cs = none ↔ cs = [] := by
  cases cs with
  | nil => simp [latest?]
  | cons c cs => cases h : latest? cs <;> simp [latest?, h]

theorem latest?_mem {cs : List Connection} {c : Connection} (h : latest? cs = some c) : c ∈ cs := by
  induction cs generalizing c with
  | nil => simp [latest?] at h
  | cons d cs ih =>
    cases hl : latest? cs with
    | none =>
      simp only [latest?, hl, Option.some.injEq] at h
      simp [h]
    | some e =>
      simp only [latest?, hl, Option.some.injEq] at h
      by_cases he : e.newer d = true
      · rw [if_pos he] at h
        subst h
        exact List.mem_cons_of_mem _ (ih hl)
      · rw [if_neg he] at h
        simp [h]

/-- The state of a pair as one of its members sees it. -/
inductive Relationship where
  | none
  | pendingOutgoing
  | pendingIncoming
  | accepted
  | disconnected
  | dismissed
  deriving DecidableEq, Repr

namespace Relationship

/-- The name of a state in answers. -/
def name : Relationship → String
  | none => "none"
  | pendingOutgoing => "pending_outgoing"
  | pendingIncoming => "pending_incoming"
  | accepted => "accepted"
  | disconnected => "disconnected"
  | dismissed => "dismissed"

/-- How `a` sees a pair whose deciding row is given. -/
def of (a : Int) : Option Connection → Relationship
  | Option.none => none
  | some c =>
    match c.status with
    | .pending => if c.requester = a then pendingOutgoing else pendingIncoming
    | .accepted => accepted
    | .dismissed => dismissed
    | .disconnected => disconnected

/-- A pending or accepted connection opens the profile of the other member. -/
def isVisible : Relationship → Bool
  | pendingOutgoing | pendingIncoming | accepted => true
  | _ => false

end Relationship

end Matchmaker
