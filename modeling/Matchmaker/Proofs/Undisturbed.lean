import Matchmaker.Proofs.Acting
import Matchmaker.Proofs.Ledger

/-!
# What others do

Whom a member is recommended depends on the profiles, on the other members with whom they share a
row, whatever its status, and on their own dismissals. Calls on the pairs of others, dismissals by
others and the changes that only mark a row change none of the three.

* `Store.SamePool`: two stores that are alike to a member who looks for others;
* `Store.Spares`, `SamePool.of_spares`: the calls that leave a store so;
* **`recommendations_undisturbed`**: after any run of such calls the recommendations are the same.
-/

namespace Matchmaker

/-! ## Calls that keep every row -/

namespace Transition

/-- Consent given, or a connection ended: what marks a row and neither makes nor removes one. -/
def Marks (t : Transition) (o : Outcome) : Prop :=
  t = .accept ∨ t = .disconnect ∨ (t = .request ∧ o.result = .accepted)

theorem Decided.eq_mark {a b : Int} {r : Reading} {t : Transition} {o : Outcome} {w : Write}
    (h : Decided a b r t o.result w) (hmarks : t.Marks o) : ∃ id status, w = .mark id status := by
  obtain ⟨result, written⟩ := o
  cases h with
  | agree | accept | disconnect => exact ⟨_, _, rfl⟩
  | ask | decline | cancel => simp [Marks] at hmarks

end Transition

namespace Store

variable {s s' s'' : Store} {u : Int}

/-! ## What recommendations depend on -/

/-- To `u`, who looks for others, the two stores are alike. -/
structure SamePool (u : Int) (s s' : Store) : Prop where
  profiles : s'.profiles = s.profiles
  rows : ∀ v, (s'.pairRows u v).isEmpty = (s.pairRows u v).isEmpty
  ledger : ∀ v, s'.hasDismissed u v = s.hasDismissed u v

theorem SamePool.refl (u : Int) (s : Store) : SamePool u s s :=
  ⟨rfl, fun _ => rfl, fun _ => rfl⟩

theorem SamePool.trans (h : SamePool u s s') (h' : SamePool u s' s'') : SamePool u s s'' where
  profiles := h'.profiles.trans h.profiles
  rows v := (h'.rows v).trans (h.rows v)
  ledger v := (h'.ledger v).trans (h.ledger v)

theorem SamePool.openProfiles (h : SamePool u s s') : s'.openProfiles u = s.openProfiles u := by
  have hopen : s'.isOpenTo u = s.isOpenTo u := by
    funext p
    rw [isOpenTo, h.rows, h.ledger, isOpenTo]
  rw [Store.openProfiles, profilesByUser, h.profiles, hopen, Store.openProfiles, profilesByUser]

theorem SamePool.recommend (h : SamePool u s s') {α : Type} [Scalar α] (g : Geometry α) :
    s'.recommend g u = s.recommend g u := by
  unfold Store.recommend compared
  rw [seeker_congr h.profiles]
  cases hme : s.seeker u with
  | error e => rfl
  | ok me =>
    have hpool : s'.openProfiles me.user = s.openProfiles me.user := by
      rw [user_of_seeker hme]
      exact h.openProfiles
    simp only [bind, Except.bind, candidates_congr hpool]

/-! ## One call -/

section Step

variable {now : Instant} {t : Transition} {a b x y : Int} {o : Transition.Outcome} {isNew : Bool}

theorem samePool_of_run (hs : s.IsLawful) (ha : a ≠ u) (hb : b ≠ u)
    (h : t.run now a b s = .ok (o, s')) : SamePool u s s' := by
  obtain ⟨-, w, hw, -, rfl⟩ := Transition.run_eq_ok_iff.1 h
  refine ⟨profiles_of_run h, fun v => ?_, fun v => ?_⟩
  · have hne : Lock.key u v ≠ Lock.key a b := by
      rw [ne_eq, Lock.key_eq_iff]
      rintro (⟨rfl, -⟩ | ⟨rfl, -⟩)
      · exact ha rfl
      · exact hb rfl
    rw [pairRows_write_of_ne hs.ids hw.isOn hne]
  · rw [hasDismissed, dismissals_of_run h, hasDismissed]

/-- A change that marks a row leaves everybody's recommendations, the two members' too. -/
theorem samePool_of_marks (hmarks : t.Marks o) (h : t.run now a b s = .ok (o, s')) (u : Int) :
    SamePool u s s' := by
  obtain ⟨-, w, hw, -, rfl⟩ := Transition.run_eq_ok_iff.1 h
  obtain ⟨id, status, rfl⟩ := hw.eq_mark hmarks
  refine ⟨profiles_of_run h, fun v => ?_, fun v => ?_⟩
  · rw [write_eq, pairRows_eq, rowsOf_mark, List.isEmpty_map, pairRows_eq]
  · rw [hasDismissed, dismissals_of_run h, hasDismissed]

theorem samePool_of_dismiss (hx : x ≠ u) (h : s.dismiss x y = .ok (isNew, s')) :
    SamePool u s s' := by
  refine ⟨profiles_of_dismiss h, fun v => ?_, fun v => ?_⟩
  · rw [pairRows, connections_of_dismiss h, pairRows]
  · have hother : (⟨u, v⟩ : Dismissal) ≠ ⟨x, y⟩ := fun he => hx (congrArg Dismissal.user he).symm
    rw [Bool.eq_iff_iff, hasDismissed_iff, hasDismissed_iff, dismissals_of_dismiss h, mem_enter,
      or_iff_left hother]

/-- A call, at an instant and on a store, that concerns others than `u` or keeps every row. -/
def Spares (s : Store) (u : Int) : Instant × Call → Prop
  | (now, .transition t a b) =>
    (a ≠ u ∧ b ≠ u) ∨ ∃ o s', t.run now a b s = .ok (o, s') ∧ t.Marks o
  | (_, .dismiss x _) => x ≠ u
  | (_, .upsert _ _) => False

theorem SamePool.of_spares (hs : s.IsLawful) {step : Instant × Call} (h : s.Spares u step) :
    SamePool u s (s.after step) := by
  obtain ⟨now, c⟩ := step
  rw [after_eq]
  split
  · rename_i hrun
    cases Call.run_eq_ok_iff.1 hrun with
    | transition ht =>
      rcases h with ⟨ha, hb⟩ | ⟨o, s', hok, hmarks⟩
      · exact samePool_of_run hs ha hb ht
      · cases hok.symm.trans ht
        exact samePool_of_marks hmarks ht u
    | dismiss hd => exact samePool_of_dismiss h hd
    | upsert => exact h.elim
  · exact .refl u s

end Step

/-! ## Runs -/

/-- Every call of a run spares `u` on the store that it meets. -/
def SparesAll (u : Int) : Store → List (Instant × Call) → Prop
  | _, [] => True
  | s, step :: calls => s.Spares u step ∧ SparesAll u (s.after step) calls

theorem SamePool.of_sparesAll (hs : s.IsLawful) {calls : List (Instant × Call)}
    (h : SparesAll u s calls) : SamePool u s (s.afterAll calls) := by
  induction calls generalizing s with
  | nil => exact .refl u s
  | cons step calls ih =>
    exact (SamePool.of_spares hs h.1).trans (ih (hs.afterAll [step]) h.2)

/-- **The actions of others do not disturb recommendations.** What a member is recommended, with
all scores, or the failure to recommend, is the same after every transition on a pair without them,
after every dismissal by somebody else, even of them, and after every consent and every end of a
connection, even their own; so it is after a run of such calls. -/
theorem recommendations_undisturbed (hs : s.IsLawful) (u : Int) {α : Type} [Scalar α]
    (g : Geometry α) :
    (∀ now t a b, a ≠ u → b ≠ u →
      (s.after (now, .transition t a b)).recommend g u = s.recommend g u) ∧
    (∀ now x y, x ≠ u → (s.after (now, .dismiss x y)).recommend g u = s.recommend g u) ∧
    (∀ (now : Instant) (t : Transition) (a b : Int) (o : Transition.Outcome) (s' : Store),
      t.run now a b s = .ok (o, s') →
      t = .accept ∨ t = .disconnect ∨ (t = .request ∧ o.result = .accepted) →
      s'.recommend g u = s.recommend g u) ∧
    ∀ calls, SparesAll u s calls → (s.afterAll calls).recommend g u = s.recommend g u := by
  refine ⟨fun now t a b ha hb => ?_, fun now x y hx => ?_, fun now t a b o s' hrun hmarks => ?_,
    fun calls h => ?_⟩
  · have hspares : s.Spares u (now, .transition t a b) := Or.inl ⟨ha, hb⟩
    exact (SamePool.of_spares hs hspares).recommend g
  · have hspares : s.Spares u (now, .dismiss x y) := hx
    exact (SamePool.of_spares hs hspares).recommend g
  · exact (samePool_of_marks hmarks hrun u).recommend g
  · exact (SamePool.of_sparesAll hs h).recommend g

open scoped Exact in
/-- The second neighbour accepts the first and dismisses them, the third asks the second, and the
first disconnects; the third is still recommended to the first. -/
theorem recommendations_undisturbed_sample :
    let calls : List (Instant × Call) := [(5, .transition .accept 2 1), (6, .dismiss 2 1),
      (7, .transition .request 3 2), (8, .transition .disconnect 1 2)]
    neighbours.IsLawful ∧ SparesAll 1 neighbours calls ∧
      (neighbours.afterAll calls).connections =
        [⟨1, 1, 2, .disconnected, 0, 8⟩, ⟨2, 3, 2, .pending, 7, 7⟩] ∧
      (neighbours.afterAll calls).recommend blocks 1 = neighbours.recommend blocks 1 ∧
      (neighbours.afterAll calls).recommendedIds blocks 1 = .ok [3] := by
  intro calls
  have hspares : SparesAll 1 neighbours calls :=
    ⟨Or.inr ⟨_, _, rfl, Or.inl rfl⟩, nofun, Or.inl (by decide),
      Or.inr ⟨_, _, rfl, Or.inr (Or.inl rfl)⟩, trivial⟩
  have hsame := (recommendations_undisturbed isLawful_neighbours 1 blocks).2.2.2 calls hspares
  refine ⟨isLawful_neighbours, hspares, rfl, hsame, ?_⟩
  rw [recommendedIds, hsame]
  exact recommendedIds_neighbours

end Store

end Matchmaker
