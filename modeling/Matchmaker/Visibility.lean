import Matchmaker.Candidates
import Matchmaker.Connection.Query

/-!
# Who sees a profile

A complete profile is seen by the members connected with its owner, by those with a pending request
from or to the owner, and by those to whom the owner is recommended. To all others it is as if the
owner did not exist.

* `Store.sees`: a member may see the profile of another;
* `Store.profileSeenBy`: the profile, or the refusal that hides it.
-/

namespace Matchmaker.Store

variable {α : Type} [Scalar α]

/-- `other` is recommended to `user`; nobody is to a member without a complete profile. -/
def isRecommended (g : Geometry α) (s : Store) (user other : Int) : Except Failure Bool :=
  match s.recommendedIds g user with
  | .ok ids => .ok (ids.contains other)
  | .error (.refused why) =>
    if why.kind = .incompleteProfile then .ok false else .error (.refused why)
  | .error e => .error e

/-- `user` may see the profile of `other`. -/
def sees (g : Geometry α) (s : Store) (user other : Int) : Except Failure Bool :=
  if (s.relationship user other).isVisible then .ok true else s.isRecommended g user other

/-- The profile of `other` as `user` gets it. -/
def profileSeenBy (g : Geometry α) (s : Store) (user other : Int) : Except Failure Profile := do
  if ← s.sees g user other then s.getProfile other true else refuse (.noUser other)

end Matchmaker.Store
