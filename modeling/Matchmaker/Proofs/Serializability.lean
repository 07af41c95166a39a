import Matchmaker.Proofs.Contents
import Matchmaker.Proofs.Interleaving

/-!
# Interleaved transitions are serial

However the clients' steps interleave, the answers and the rows are those of the same transitions
run one at a time in the order of their answers. What carries this is that a client that holds the
lock of its pair reads what is still there when it commits, since no other client changes the rows
of the pair meanwhile.

* `OnePerPair`: a table with unique ids and one row for each pair;
* `Sound`: what holds of a client between its steps;
* `World.Serial`: the invariant of the world, with the serial run beside it;
* **`Serial.step`**: every step keeps it;
* **`interleaving_is_serial`**: every interleaving is a serial run up to the ids of rows.
-/

namespace Matchmaker

open Transition (Result Reading Write Outcome Decided)

/-- Rows with ids of their own, no two of one pair. -/
structure OnePerPair (rows : List Connection) : Prop where
  ids : (rows.map Connection.id).Nodup
  pairs : ∀ a b, (rowsOf rows a b).length ≤ 1

theorem OnePerPair.apply {rows : List Connection} (h : OnePerPair rows) {w : Write} {a b : Int}
    (hw : w.IsOn rows a b) {fresh : Int} (now : Instant)
    (hfresh : ∀ x y, w = .insert x y → ∀ c ∈ rows, c.id ≠ fresh) :
    OnePerPair (w.apply fresh now rows) where
  ids := nodup_ids_apply h.ids hfresh
  pairs := nodup_pairs_iff.1 (nodup_pairs_apply (nodup_pairs_iff.2 h.pairs) hw)

/-! ## Jobs one at a time -/

section Serially

variable {s t : Store} {j : Job} {js : List Job}

theorem answers_append (s : Store) (js : List Job) (j : Job) :
    answers s (js ++ [j]) =
      answers s js ++ [(j.run (s.afterAll (js.map Job.call))).map (·.1.result)] := by
  induction js generalizing s with
  | nil => rfl
  | cons k ks ih =>
    rw [List.cons_append, answers, answers, ih, List.map_cons]
    rfl

theorem afterAll_append (s : Store) (js : List Job) (j : Job) :
    s.afterAll ((js ++ [j]).map Job.call) = (s.afterAll (js.map Job.call)).after j.call := by
  simp [Store.afterAll]

/-- What jobs leave: the other tables, and one row for each pair. -/
structure Kept (s t : Store) : Prop where
  profiles : t.profiles = s.profiles
  dismissals : t.dismissals = s.dismissals
  rows : OnePerPair t.connections

theorem after_call (t : Store) (j : Job) :
    t.after j.call =
      match j.run t with
      | .ok (_, t') => t'
      | .error _ => t :=
  Store.after_transition t j.now j.transition j.caller j.other

theorem run_eq (hne : j.caller ≠ j.other) :
    j.run t =
      match j.decide (j.read t) with
      | .error why => refuse why
      | .ok (result, w) => .ok (⟨result, t.written w⟩, t.write j.now w) :=
  (Transition.run_eq _ _ _ _ _).trans (if_neg hne)

theorem run_self (hself : j.caller = j.other) : j.run t = refuse .sameUser :=
  (Transition.run_eq _ _ _ _ _).trans (if_pos hself)

theorem Kept.after (h : Kept s t) (j : Job) : Kept s (t.after j.call) := by
  rw [after_call]
  cases hrun : j.run t with
  | error e => exact h
  | ok x =>
    obtain ⟨o, t'⟩ := x
    obtain ⟨-, w, hw, -, rfl⟩ := Transition.run_eq_ok_iff.1 hrun
    show Kept s (t.write j.now w)
    rw [Store.write_eq]
    refine { h with rows := h.rows.apply hw.isOn j.now ?_ }
    exact fun _ _ _ c hc => Int.ne_of_lt (Store.lt_nextConnection hc)

theorem Kept.afterAll (h : OnePerPair s.connections) (js : List Job) :
    Kept s (s.afterAll (js.map Job.call)) := by
  have key : ∀ t, Kept s t → Kept s (t.afterAll (js.map Job.call)) := by
    induction js with
    | nil => exact fun t ht => ht
    | cons j js ih => exact fun t ht => ih _ (ht.after j)
  exact key s ⟨rfl, rfl, h⟩

theorem read_content (h : Kept s t) {rows : List Connection} (hrows : OnePerPair rows)
    (hcontents : contents rows = contents t.connections) (j : Job) :
    (j.read t).content = (j.read { s with connections := rows }).content := by
  have hrow := latest?_contents (hrows.pairs j.caller j.other) (h.rows.pairs j.caller j.other)
    hcontents
  have hcaller : t.isComplete j.caller = s.isComplete j.caller := by
    simp only [Store.isComplete, Store.profile?, h.profiles]
  have hother : t.isComplete j.other = s.isComplete j.other := by
    simp only [Store.isComplete, Store.profile?, h.profiles]
  have hledger : t.hasDismissed j.caller j.other = s.hasDismissed j.caller j.other := by
    simp only [Store.hasDismissed, h.dismissals]
  show Reading.mk (t.isComplete j.caller) (t.isComplete j.other)
      ((latest? (rowsOf t.connections j.caller j.other)).map Connection.content)
      (t.hasDismissed j.caller j.other) = _
  rw [hcaller, hother, hledger, ← hrow]
  rfl

theorem decide_read (h : Kept s t) {rows : List Connection} (hrows : OnePerPair rows)
    (hcontents : contents rows = contents t.connections) (j : Job) :
    (j.decide (j.read t)).map (fun x => (x.1, x.2.content)) =
      (j.decide (j.read { s with connections := rows })).map fun x => (x.1, x.2.content) := by
  have hdecide : ∀ r, (j.decide r).map (fun x => (x.1, x.2.content)) = j.decide r.content :=
    fun r => (Transition.decide_content j.transition j.caller j.other r).symm
  rw [hdecide, hdecide, read_content h hrows hcontents]

theorem run_of_error (h : Kept s t) {rows : List Connection} (hrows : OnePerPair rows)
    (hcontents : contents rows = contents t.connections) (hne : j.caller ≠ j.other)
    {why : Refusal} (hd : j.decide (j.read { s with connections := rows }) = .error why) :
    j.run t = refuse why := by
  have heq := decide_read h hrows hcontents j
  rw [hd] at heq
  cases hdt : j.decide (j.read t) with
  | error why' =>
    rw [hdt] at heq
    rw [run_eq hne, hdt, Except.error.inj heq]
  | ok x =>
    rw [hdt] at heq
    cases heq

theorem run_of_ok (h : Kept s t) {rows : List Connection} (hrows : OnePerPair rows)
    (hcontents : contents rows = contents t.connections) (hne : j.caller ≠ j.other)
    {result : Result} {w : Write}
    (hd : j.decide (j.read { s with connections := rows }) = .ok (result, w)) (fresh : Int) :
    ∃ o t', j.run t = .ok (o, t') ∧ o.result = result ∧
      contents t'.connections = contents (w.apply fresh j.now rows) := by
  have heq := decide_read h hrows hcontents j
  rw [hd] at heq
  cases hdt : j.decide (j.read t) with
  | error why =>
    rw [hdt] at heq
    cases heq
  | ok x =>
    obtain ⟨result', w'⟩ := x
    rw [hdt] at heq
    simp only [Except.map, Except.ok.injEq, Prod.mk.injEq] at heq
    have hw : w.IsOn rows j.caller j.other :=
      (Transition.decide_eq_ok_iff.1 hd).isOn (s := { s with connections := rows })
    have hw' : w'.IsOn t.connections j.caller j.other := (Transition.decide_eq_ok_iff.1 hdt).isOn
    refine ⟨_, _, by rw [run_eq hne, hdt], heq.1, ?_⟩
    rw [Store.write_eq, contents_apply h.rows.ids (h.rows.pairs _ _) hw',
      contents_apply hrows.ids (hrows.pairs _ _) hw, ← hcontents]
    exact applyContents_congr heq.2 _

end Serially

/-! ## Clients between their steps -/

section Clients

variable {ι : Type} {s : Store} {rows : List Connection} {locks locks' : Int × Int → Option ι}
  {i : ι} {j : Job} {p : Phase}

/-- What holds of a client between its steps: from its lock to its commit all that it has read still
stands, and an id that it has for a new row is not in the table. -/
def Sound (s : Store) (rows : List Connection) (locks : Int × Int → Option ι) (i : ι) (j : Job) :
    Phase → Prop
  | .waiting | .finished _ => True
  | .reading seen => j.caller ≠ j.other ∧ locks j.key = some i ∧
    seen.Fits (j.read { s with connections := rows })
  | .written result v id => j.caller ≠ j.other ∧ locks j.key = some i ∧
    j.decide (j.read { s with connections := rows }) = .ok (result, v) ∧
    ∀ x y, v = .insert x y → ∀ c ∈ rows, c.id ≠ id

theorem Sound.of_locks (h : Sound s rows locks i j p)
    (hlocks : locks j.key = some i → locks' j.key = some i) : Sound s rows locks' i j p := by
  cases p with
  | waiting | finished => trivial
  | reading | written => exact ⟨h.1, hlocks h.2.1, h.2.2⟩

theorem read_apply_of_ne (hid : (rows.map Connection.id).Nodup) {v : Write} {a b : Int}
    (hv : v.IsOn rows a b) (hne : j.key ≠ Lock.key a b) (s : Store) (id : Int) (now : Instant) :
    j.read { s with connections := v.apply id now rows } =
      j.read { s with connections := rows } := by
  have hrow : rowsOf (v.apply id now rows) j.caller j.other = rowsOf rows j.caller j.other :=
    rowsOf_apply_of_ne hid hv hne
  show Reading.mk _ _ (latest? (rowsOf (v.apply id now rows) j.caller j.other)) _ = _
  rw [hrow]
  rfl

theorem Sound.of_apply (h : Sound s rows locks i j p) (hid : (rows.map Connection.id).Nodup)
    {v : Write} {a b : Int} (hv : v.IsOn rows a b)
    (hne : locks j.key = some i → j.key ≠ Lock.key a b) {id : Int} (now : Instant)
    (hnew : v = .insert a b → p.newId? ≠ some id) :
    Sound s (v.apply id now rows) locks i j p := by
  cases p with
  | waiting | finished => trivial
  | reading seen =>
    obtain ⟨hself, hlock, hfits⟩ := h
    refine ⟨hself, hlock, ?_⟩
    rw [read_apply_of_ne hid hv (hne hlock)]
    exact hfits
  | written result u k =>
    obtain ⟨hself, hlock, hdecide, hfresh⟩ := h
    refine ⟨hself, hlock, ?_, ?_⟩
    · rw [read_apply_of_ne hid hv (hne hlock)]
      exact hdecide
    · rintro x y rfl c hc
      rcases origin_of_mem_apply hv hc with ⟨d, hd, hdid, -, -⟩ | ⟨hins, rfl⟩
      · rw [hdid]
        exact hfresh x y rfl d hd
      · intro hk
        exact hnew hins (congrArg some hk.symm)

end Clients

/-! ## The world and its serial run -/

namespace World

variable {ι : Type} {s : Store} {job : ι → Job} {w w' : World ι}

/-- The jobs of the clients that are answered, in that order. -/
def serialJobs (job : ι → Job) (w : World ι) : List Job :=
  w.done.map job

/-- The store after these jobs one at a time. -/
def serialStore (s : Store) (job : ι → Job) (w : World ι) : Store :=
  s.afterAll ((w.serialJobs job).map Job.call)

/-- The world is that of a serial run, up to the ids of rows and the clients that are not done. -/
structure Serial (s : Store) (job : ι → Job) (w : World ι) : Prop where
  rows : OnePerPair w.table
  sound : ∀ i, Sound s w.table w.locks i (job i) (w.phase i)
  newIds : ∀ i k n, (w.phase i).newId? = some n → (w.phase k).newId? = some n → i = k
  nodup : w.done.Nodup
  mem_done : ∀ i, i ∈ w.done ↔ (w.phase i).answer?.isSome = true
  contents : contents w.table = contents (w.serialStore s job).connections
  answers : w.done.map (fun i => (w.phase i).answer?) = (answers s (w.serialJobs job)).map some

theorem serial_init (h : OnePerPair s.connections) : Serial s job (init s) where
  rows := h
  sound _ := trivial
  newIds _ _ _ h := by cases h
  nodup := .nil
  mem_done _ := by simp [init, Phase.answer?]
  contents := rfl
  answers := rfl

/-- The holder of a lock is the only client with work on its key. -/
theorem key_ne_of_holder {locks : Int × Int → Option ι} {i k : ι} (hne : k ≠ i) {x y : Int × Int}
    (hi : locks x = some i) (hk : locks y = some k) : y ≠ x := by
  intro he
  rw [he, hi] at hk
  exact hne (Option.some.inj hk).symm

/-- A lock that another client holds does not change with one that is taken or given up. -/
theorem locks_update {locks : Int × Int → Option ι} {x y : Int × Int} {k : ι} {holder : Option ι}
    (hne : y ≠ x) (hk : locks y = some k) : Function.update locks x holder y = some k := by
  rw [Function.update_of_ne hne, hk]

variable [DecidableEq ι]

theorem sound_update {phase : ι → Phase} {rows : List Connection}
    {locks : Int × Int → Option ι} {i : ι} {p : Phase} (hi : Sound s rows locks i (job i) p)
    (hother : ∀ k, k ≠ i → Sound s rows locks k (job k) (phase k)) (k : ι) :
    Sound s rows locks k (job k) (Function.update phase i p k) := by
  by_cases hk : k = i
  · subst hk
    rw [Function.update_self]
    exact hi
  · rw [Function.update_of_ne hk]
    exact hother k hk

namespace Serial

theorem newIds_update (h : Serial s job w) {i : ι} {p : Phase}
    (hp : ∀ n, p.newId? = some n → ∀ k, (w.phase k).newId? ≠ some n) (k l : ι) (n : Int)
    (hk : (Function.update w.phase i p k).newId? = some n)
    (hl : (Function.update w.phase i p l).newId? = some n) : k = l := by
  by_cases hki : k = i <;> by_cases hli : l = i
  · rw [hki, hli]
  · rw [hki, Function.update_self] at hk
    rw [Function.update_of_ne hli] at hl
    exact absurd hl (hp n hk l)
  · rw [hli, Function.update_self] at hl
    rw [Function.update_of_ne hki] at hk
    exact absurd hk (hp n hl k)
  · rw [Function.update_of_ne hki] at hk
    rw [Function.update_of_ne hli] at hl
    exact h.newIds k l n hk hl

/-- A client that goes on without an answer changes nothing for the serial run. -/
theorem enter (h : Serial s job w) {i : ι} {p : Phase} {locks : Int × Int → Option ι}
    (hi : (w.phase i).answer? = none) (hp : p.answer? = none)
    (hsound : ∀ k, Sound s w.table locks k (job k) (Function.update w.phase i p k))
    (hnew : ∀ n, p.newId? = some n → ∀ k, (w.phase k).newId? ≠ some n) :
    Serial s job ({ w with locks } |>.enter i p) := by
  have hanswer : ∀ k, (Function.update w.phase i p k).answer? = (w.phase k).answer? := by
    intro k
    by_cases hk : k = i
    · rw [hk, Function.update_self, hp, hi]
    · rw [Function.update_of_ne hk]
  refine ⟨h.rows, hsound, h.newIds_update hnew, h.nodup, fun k => ?_, h.contents, ?_⟩
  · show k ∈ w.done ↔ (Function.update w.phase i p k).answer?.isSome = true
    rw [hanswer, h.mem_done]
  · show w.done.map (fun k => (Function.update w.phase i p k).answer?) = _
    rw [List.map_congr_left fun k _ => hanswer k, h.answers]
    rfl

/-- A client that is answered as the serial run answers is the next of the serial run. -/
theorem finish (h : Serial s job w) {i : ι} {x : Except Failure Outcome}
    {rows : List Connection} {locks : Int × Int → Option ι} (hi : (w.phase i).answer? = none)
    (hrows : OnePerPair rows) (hsound : ∀ k, k ≠ i → Sound s rows locks k (job k) (w.phase k))
    (hanswer : ((job i).run (w.serialStore s job)).map (·.1.result) = x.map Outcome.result)
    (hcontents : Matchmaker.contents rows =
      Matchmaker.contents ((w.serialStore s job).after (job i).call).connections) :
    Serial s job ({ w with table := rows, locks } |>.finish i x) := by
  have hnot : i ∉ w.done := by
    rw [h.mem_done, hi]
    exact Bool.false_ne_true
  have hphase : ∀ k ∈ w.done, Function.update w.phase i (.finished x) k = w.phase k := by
    intro k hk
    exact Function.update_of_ne (fun hki : k = i => hnot (hki ▸ hk)) _ _
  refine ⟨hrows, sound_update trivial hsound, h.newIds_update nofun, ?_, fun k => ?_, ?_, ?_⟩
  · show (w.done ++ [i]).Nodup
    rw [List.nodup_append]
    refine ⟨h.nodup, by simp, ?_⟩
    intro k hk l hl hkl
    rw [hkl, List.mem_singleton.1 hl] at hk
    exact hnot hk
  · show k ∈ w.done ++ [i] ↔ (Function.update w.phase i (.finished x) k).answer?.isSome = true
    rw [List.mem_append, List.mem_singleton]
    by_cases hk : k = i
    · rw [hk, Function.update_self]
      simp [Phase.answer?]
    · rw [Function.update_of_ne hk, h.mem_done]
      simp [hk]
  · show Matchmaker.contents rows =
      Matchmaker.contents (s.afterAll (((w.done ++ [i]).map job).map Job.call)).connections
    rw [List.map_append, List.map_singleton, afterAll_append]
    exact hcontents
  · show (w.done ++ [i]).map (fun k => (Function.update w.phase i (.finished x) k).answer?) =
      (Matchmaker.answers s ((w.done ++ [i]).map job)).map some
    have hdone : w.done.map (fun k => (Function.update w.phase i (.finished x) k).answer?) =
        w.done.map fun k => (w.phase k).answer? :=
      List.map_congr_left fun k hk => by rw [hphase k hk]
    rw [List.map_append, List.map_append, hdone, h.answers, List.map_singleton, List.map_singleton,
      answers_append, List.map_append, Function.update_self, ← serialJobs]
    show _ ++ [some (x.map Outcome.result)] =
      _ ++ [some (((job i).run (w.serialStore s job)).map (·.1.result))]
    rw [hanswer]

theorem map_refuse (why : Refusal) :
    (refuse why : Except Failure (Outcome × Store)).map (·.1.result) =
      (refuse why : Except Failure Outcome).map Outcome.result := rfl

/-- **Every step keeps the world serial.** -/
theorem step (h : Serial s job w) (hs : OnePerPair s.connections) (hstep : w.Step s job w') :
    Serial s job w' := by
  have hkept : Kept s (w.serialStore s job) := Kept.afterAll hs _
  cases hstep with
  | @reject i hphase hself =>
    have hrun := run_self (t := w.serialStore s job) hself
    refine h.finish (by rw [hphase]; rfl) h.rows (fun k _ => h.sound k) ?_ ?_
    · rw [hrun, map_refuse]
    · rw [after_call, hrun]
      exact h.contents
  | @acquire i hphase hne hfree =>
    refine h.enter (by rw [hphase]; rfl) rfl (sound_update ?_ fun k hk => ?_) nofun
    · exact ⟨hne, Function.update_self .., Seen.fits_nothing _⟩
    · refine (h.sound k).of_locks fun hlock => locks_update ?_ hlock
      intro he
      rw [he, hfree] at hlock
      cases hlock
  | @look i seen seen' hphase hlook =>
    have hi := h.sound i
    rw [hphase] at hi
    obtain ⟨hne, hlock, hfits⟩ := hi
    refine h.enter (by rw [hphase]; rfl) rfl (sound_update ?_ fun k _ => h.sound k) nofun
    exact ⟨hne, hlock, hfits.look hlook⟩
  | @refuse i seen why hphase hdecide =>
    have hi := h.sound i
    rw [hphase] at hi
    obtain ⟨hne, hlock, hfits⟩ := hi
    have hrun := run_of_error hkept h.rows h.contents hne (hdecide _ hfits)
    refine h.finish (by rw [hphase]; rfl) h.rows (fun k hk => ?_) ?_ ?_
    · exact (h.sound k).of_locks fun hk' => locks_update (key_ne_of_holder hk hlock hk') hk'
    · rw [hrun, map_refuse]
    · rw [after_call, hrun]
      exact h.contents
  | @write i seen result v id hphase hdecide hid =>
    have hi := h.sound i
    rw [hphase] at hi
    obtain ⟨hne, hlock, hfits⟩ := hi
    refine h.enter (by rw [hphase]; rfl) rfl (sound_update ?_ fun k _ => h.sound k) ?_
    · refine ⟨hne, hlock, hdecide _ hfits, ?_⟩
      rintro x y rfl
      exact hid.1
    · intro n hn k hk
      cases v with
      | insert x y =>
        obtain rfl : id = n := Option.some.inj hn
        exact hid.2 k hk
      | mark | delete => cases hn
  | @commit i result v id hphase =>
    have hi := h.sound i
    rw [hphase] at hi
    obtain ⟨hne, hlock, hdecide, hfresh⟩ := hi
    have hv : v.IsOn w.table (job i).caller (job i).other :=
      (Transition.decide_eq_ok_iff.1 hdecide).isOn (s := w.store s)
    obtain ⟨o, t, hrun, hresult, hcontents⟩ :=
      run_of_ok hkept h.rows h.contents hne hdecide id
    refine h.finish (by rw [hphase]; rfl) (h.rows.apply hv _ hfresh) (fun k hk => ?_) ?_ ?_
    · -- the others hold other keys, so that the change leaves their pairs as they saw them
      refine Sound.of_locks (Sound.of_apply (h.sound k) h.rows.ids hv ?_ _ ?_) ?_
      · exact fun hk' => key_ne_of_holder hk hlock hk'
      · intro hins hnew
        refine hk (h.newIds k i id hnew ?_)
        rw [hphase, hins]
        rfl
      · exact fun hk' => locks_update (key_ne_of_holder hk hlock hk') hk'
    · rw [hrun]
      exact congrArg Except.ok hresult
    · rw [after_call, hrun]
      exact hcontents.symm

theorem of_reachable (hs : OnePerPair s.connections) (h : Reachable s job w) : Serial s job w := by
  induction h with
  | init => exact serial_init hs
  | step _ hstep ih => exact ih.step hs hstep

end Serial

/-- **Interleaved transitions are serial.** In every world that an interleaving of the clients leads
to, those answered have, in the order of their answers, the answers of the serial run of their jobs,
the committed rows are those that it leaves, up to their ids, and no pair has two of them. Two jobs
need one lock exactly when they concern one pair. -/
theorem interleaving_is_serial (hid : (s.connections.map Connection.id).Nodup)
    (hone : ∀ a b, (s.pairRows a b).length ≤ 1) (h : Reachable s job w) :
    w.done.Nodup ∧ (∀ i, i ∈ w.done ↔ (w.phase i).answer?.isSome = true) ∧
      w.done.map (fun i => (w.phase i).answer?) = (answers s (w.done.map job)).map some ∧
      contents w.table = contents (s.afterAll (w.done.map fun i => (job i).call)).connections ∧
      (∀ a b, (rowsOf w.table a b).length ≤ 1) ∧
      ∀ i k, (job i).key = (job k).key ↔
        ((job i).caller = (job k).caller ∧ (job i).other = (job k).other) ∨
          ((job i).caller = (job k).other ∧ (job i).other = (job k).caller) := by
  have hw : Serial s job w := Serial.of_reachable ⟨hid, hone⟩ h
  refine ⟨hw.nodup, hw.mem_done, hw.answers, ?_, hw.rows.pairs, fun _ _ => Lock.key_eq_iff⟩
  rw [hw.contents, serialStore, serialJobs, List.map_map]
  rfl

/-- Three clients of the sample store: the request of the first member is accepted, cancelled when
it is too late, and the third member declines one that there is not. -/
def sampleJob : Fin 3 → Job
  | 0 => ⟨.accept, 2, 1, 5⟩
  | 1 => ⟨.cancel, 1, 2, 6⟩
  | 2 => ⟨.decline, 3, 1, 7⟩

theorem interleaving_is_serial_sample :
    ∃ w : World (Fin 3), Reachable Store.sample sampleJob w ∧ w.done = [2, 0, 1] ∧
      w.done.map (fun i => (w.phase i).answer?) =
        (answers Store.sample (w.done.map sampleJob)).map some ∧
      w.table = [⟨1, 1, 2, .accepted, 0, 5⟩] := by
  have hwrite : ∀ r, Seen.Fits ⟨none, none, some (some ⟨1, 1, 2, .pending, 0, 0⟩), none⟩ r →
      (sampleJob 0).decide r = .ok (.accepted, .mark 1 .accepted) := by
    intro r hr
    simp only [sampleJob, Job.decide, Transition.decide, hr.row _ rfl]
    rfl
  have hlate : ∀ r, Seen.Fits ⟨none, none, some (some ⟨1, 1, 2, .accepted, 0, 5⟩), none⟩ r →
      (sampleJob 1).decide r = .error .alreadyAccepted := by
    intro r hr
    simp only [sampleJob, Job.decide, Transition.decide, hr.row _ rfl]
    rfl
  have hnone : ∀ r, Seen.Fits ⟨none, none, some none, none⟩ r →
      (sampleJob 2).decide r = .error .noRequest := by
    intro r hr
    simp only [sampleJob, Job.decide, Transition.decide, hr.row _ rfl]
    rfl
  have h₁ : Reachable Store.sample sampleJob _ :=
    .step .init (.acquire (i := 0) rfl (by decide) rfl)
  have h₂ := h₁.step (.acquire (i := 2) rfl (by decide) rfl)
  have h₃ := h₂.step (.look (i := 0) rfl .row)
  have h₄ := h₃.step (.look (i := 2) rfl .row)
  have h₅ := h₄.step (.write (i := 0) rfl hwrite rfl)
  have h₆ := h₅.step (.refuse (i := 2) rfl hnone)
  have h₇ := h₆.step (.commit (i := 0) rfl)
  have h₈ := h₇.step (.acquire (i := 1) rfl (by decide) rfl)
  have h₉ := h₈.step (.look (i := 1) rfl .row)
  have h := h₉.step (.refuse (i := 1) rfl hlate)
  obtain ⟨-, -, hanswers, -⟩ :=
    interleaving_is_serial (by decide) Store.isClean_sample.onePerPair h
  exact ⟨_, h, rfl, hanswers, rfl⟩

end World

end Matchmaker
