import Matchmaker.Store.Basic

/-!
# Queries on connections

* `Store.relationship`: how a member sees the pair with another;
* `Store.connectionsOf`: the members connected with one, by the id of the row;
* `Store.incoming`, `Store.outgoing`: pending requests to and from a member, newest first, those of
  one instant by descending id.
-/

namespace Matchmaker.Store

/-- How `a` sees the pair with `b`. -/
def relationship (s : Store) (a b : Int) : Relationship :=
  Relationship.of a (s.deciding? a b)

/-- `a` and `b` are connected. -/
def areConnected (s : Store) (a b : Int) : Bool :=
  s.relationship a b == .accepted

/-- Rows from the one made last to the first. -/
def newestFirst (cs : List Connection) : List Connection :=
  cs.mergeSort fun c d => d.created < c.created || (d.created == c.created && d.id ≤ c.id)

/-- The members connected with `a`. -/
def connectionsOf (s : Store) (a : Int) : List Int :=
  ((s.connectionsById).filter fun c => c.touches a && c.status == .accepted).map (·.peer a)

/-- The members whose requests wait for `a`. -/
def incoming (s : Store) (a : Int) : List Int :=
  (newestFirst (s.connections.filter fun c => c.target == a && c.status == .pending)).map
    Connection.requester

/-- The members whose answer `a` waits for. -/
def outgoing (s : Store) (a : Int) : List Int :=
  (newestFirst (s.connections.filter fun c => c.requester == a && c.status == .pending)).map
    Connection.target

end Matchmaker.Store
