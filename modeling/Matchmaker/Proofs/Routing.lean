import Matchmaker.Api.Route

/-!
# Where requests lead

The first route that fits both method and path is taken. A path with an id in it is that of its
route followed by a text that is not empty and by the rest of the route, and so no earlier route of
the method fits it too.

* `find_eq_ok_iff`: the route that is found;
* `idText?_eq_some_iff`: the paths with an id in them;
* **`find_profile`**, **`find_relationship`**, **`find_transition`**, **`find_save`**: the routes of
  a member's profile, of the connection with a member, of the transitions and of the caller's own
  profile.
-/

namespace Matchmaker.Api

/-! ## Paths -/

theorem sameSegments_nil_iff {ys : List String} : sameSegments [] ys = true ↔ ys = [] := by
  cases ys <;> simp [sameSegments]

theorem sameSegments_singleton_iff {x : String} {ys : List String} :
    sameSegments [x] ys = true ↔ ys = [x] ∨ ys = [x ++ "\n"] := by
  cases ys with
  | nil => simp [sameSegments]
  | cons y ys => cases ys <;> simp [sameSegments]

theorem sameSegments_cons_cons_iff {x x' : String} {xs ys : List String} :
    sameSegments (x :: x' :: xs) ys = true ↔
      ∃ zs, ys = x :: zs ∧ sameSegments (x' :: xs) zs = true := by
  cases ys with
  | nil => simp [sameSegments]
  | cons y ys =>
    show (y == x && sameSegments (x' :: xs) ys) = true ↔ _
    rw [Bool.and_eq_true, beq_iff_eq]
    constructor
    · rintro ⟨rfl, h⟩
      exact ⟨ys, rfl, h⟩
    · rintro ⟨_, ⟨⟩, h⟩
      exact ⟨rfl, h⟩

theorem Route.idText?_eq_some_iff {path after segments : List String} {x : String} :
    idText? path after segments = some x ↔
      ∃ rest, segments = path ++ x :: rest ∧ x ≠ "" ∧ sameSegments after rest = true := by
  unfold idText?
  constructor
  · intro h
    split at h
    · rename_i htake
      split at h
      · rename_i y rest hdrop
        split at h
        · rename_i hy
          obtain rfl := Option.some.inj h
          rw [Bool.and_eq_true, Bool.not_eq_true', String.isEmpty_eq_false_iff] at hy
          have hsegments := List.take_append_drop path.length segments
          rw [beq_iff_eq.1 htake, hdrop] at hsegments
          exact ⟨rest, hsegments.symm, hy⟩
        · cases h
      · cases h
    · cases h
  · rintro ⟨rest, rfl, hx, hrest⟩
    simp [hx, hrest]

/-! ## The table -/

/-- **The first route of the method whose path fits.** -/
theorem find_eq_ok_iff {host method : String} {t : Target} {r : Route} :
    find host method t = .ok r ↔
      routes.find? (fun r => r.fits t.segments && r.method == method) = some r := by
  have hfind : (routes.filter (·.fits t.segments)).find? (·.method == method) =
      routes.find? fun r => r.fits t.segments && r.method == method := by
    rw [List.find?_filter]
    congr 1
    funext r
    rw [Bool.eq_iff_iff, Bool.and_eq_true, decide_eq_true_eq]
  simp only [find, hfind]
  cases routes.find? fun r => r.fits t.segments && r.method == method with
  | some r' => simp
  | none => cases routes.filter (·.fits t.segments) <;> simp

/-- The route of a member's profile. -/
def profileRoute : Route :=
  ⟨"GET", ["api", "v1", "profiles"], .about "other_id" [] .profile⟩

/-- The route of the connection with a member. -/
def relationshipRoute : Route :=
  ⟨"GET", ["api", "v1", "connections"], .about "other_id" [] .relationship⟩

/-- The method of a transition. -/
def transitionMethod : Transition → String
  | .disconnect => "DELETE"
  | _ => "POST"

/-- The name of the id in the path of a transition. -/
def transitionParameter : Transition → String
  | .request | .cancel => "target_id"
  | .accept | .decline => "requester_id"
  | .disconnect => "peer_id"

/-- What follows the id in the path of a transition. -/
def transitionAfter : Transition → List String
  | .disconnect => []
  | t => [t.name]

/-- The route of a transition. -/
def transitionRoute (t : Transition) : Route :=
  ⟨transitionMethod t, ["api", "v1", "connections"],
    .about (transitionParameter t) (transitionAfter t) (.transition t)⟩

/-- The route under which callers save their profiles. -/
def saveRoute : Route :=
  ⟨"PUT", ["api", "v1", "profiles", "me"], .submit .saveProfile⟩

section Table

-- the routes are compared one by one with a path of which only the id is left open
attribute [local simp] routes probeRoutes recommendationRoutes connectionRoutes profileRoutes
  profileRoute relationshipRoute saveRoute transitionRoute transitionMethod transitionParameter
  transitionAfter Transition.name Route.fits Route.idText? sameSegments List.find?

variable {host x : String} {target : Target}

/-- **The path of a member's profile leads there**, unless it is that of the caller's own. -/
theorem find_profile (h : Route.idText? profileRoute.path [] target.segments = some x)
    (hx : x ≠ "me") (hx' : x ≠ "me\n") : find host "GET" target = .ok profileRoute := by
  obtain ⟨rest, hsegments, hne, hrest⟩ := Route.idText?_eq_some_iff.1 h
  have hme : (x == "me" || x == "me\n") = false := by simp [hx, hx']
  rw [find_eq_ok_iff, hsegments, sameSegments_nil_iff.1 hrest]
  simp [hne, hme]

/-- **The path of the connection with a member leads there**, unless it is that of a list of
requests. -/
theorem find_relationship (h : Route.idText? relationshipRoute.path [] target.segments = some x)
    (hx : ∀ name ∈ ["requests", "outgoing"], x ≠ name ∧ x ≠ name ++ "\n") :
    find host "GET" target = .ok relationshipRoute := by
  obtain ⟨rest, hsegments, hne, hrest⟩ := Route.idText?_eq_some_iff.1 h
  have hrequests : (x == "requests" || x == "requests\n") = false := by
    simpa using hx "requests" (by simp)
  have houtgoing : (x == "outgoing" || x == "outgoing\n") = false := by
    simpa using hx "outgoing" (by simp)
  rw [find_eq_ok_iff, hsegments, sameSegments_nil_iff.1 hrest]
  simp [hne, hrequests, houtgoing]

/-- **The path of a transition leads there.** -/
theorem find_transition (t : Transition)
    (h : Route.idText? (transitionRoute t).path (transitionAfter t) target.segments = some x) :
    find host (transitionMethod t) target = .ok (transitionRoute t) := by
  obtain ⟨rest, hsegments, hne, hrest⟩ := Route.idText?_eq_some_iff.1 h
  rw [find_eq_ok_iff, hsegments]
  cases t with
  | disconnect =>
    rw [sameSegments_nil_iff.1 hrest]
    simp [hne]
  | request | accept | decline | cancel =>
    -- the name may be followed by one line end
    rcases sameSegments_singleton_iff.1 hrest with rfl | rfl
    · simp [hne]
    · simp [hne]

/-- **The path of the caller's own profile leads there.** -/
theorem find_save (h : sameSegments saveRoute.path target.segments = true) :
    find host "PUT" target = .ok saveRoute := by
  obtain ⟨_, hsegments, hv1⟩ := sameSegments_cons_cons_iff.1 h
  obtain ⟨_, rfl, hprofiles⟩ := sameSegments_cons_cons_iff.1 hv1
  obtain ⟨_, rfl, hme⟩ := sameSegments_cons_cons_iff.1 hprofiles
  rw [find_eq_ok_iff, hsegments]
  -- the last segment may be followed by one line end
  rcases sameSegments_singleton_iff.1 hme with rfl | rfl
  · simp
  · simp

end Table

end Matchmaker.Api
