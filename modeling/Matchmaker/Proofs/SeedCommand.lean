import Matchmaker.Command.Seeding
import Matchmaker.Proofs.Arguments
import Matchmaker.Proofs.Seeding

/-!
# The command that seeds

Arguments that are understood lead to a plan, which asks for at least one user and has a share of a
whole for each rate, or to a message about the first option that is wrong. A run by a plan adds as
many users as were asked for, whatever is drawn, so that the command ends well or for its arguments.

* **`Seed.users_of_run`**: the number of users that a run adds;
* `States`: what an option says, its default where it is not given;
* `IsPlanOf`, **`planOf_eq_ok`**, **`planOf_eq_error`**: the plan that arguments ask for, or what is
  wrong with them;
* **`run_cases`**, **`exit_of_run`**: how the command ends.
-/

namespace Matchmaker

/-! ## Runs -/

namespace Seed

variable {α : Type} [Sampling α] {σ : Type} [Source σ] {fuel : Nat} {now : Instant} {plan : Plan α}
  {draws : σ} {s s' : Store} {counts : Counts}

theorem users_of_populate (h : (populate fuel now plan draws).outcome s = .ok (counts, s')) :
    counts.users = plan.count.toNat := by
  unfold populate at h
  simp only [Transaction.outcome_reading_bind, Transaction.outcome_writing_bind,
    bind_eq_ok_iff] at h
  obtain ⟨_, _, first, _, s₁, _, s₂, _, drawn, _, s₃, _, rate, _, s₄, _, h⟩ := h
  cases h
  simp [newUsers]

/-- **A run adds as many users as are asked for**, whatever is drawn. -/
theorem users_of_run (h : run fuel now plan s = some (.ok (counts, s'))) :
    counts.users = plan.count.toNat := by
  have hwork := ended_eq_ok h
  rw [outcome_work] at hwork
  exact users_of_populate hwork

end Seed

theorem Session.users_of_seed {α : Type} [Sampling α] {c : Conditions} {now : Instant}
    {plan : Seed.Plan α} {s s' : Store} {counts : Seed.Counts}
    (h : seed c now plan s = some (.ok (counts, s'))) : counts.users = plan.count.toNat := by
  unfold seed at h
  split at h
  · cases h
  · exact Seed.users_of_run h

namespace Command.Seeding

/-! ## What options say -/

/-- What an option says: the value that is given, else its default. -/
def States {β : Type} (u : Understood) (f : Flag) (toArgument : β → Argument)
    (default x : β) : Prop :=
  match u.find? f with
  | some xs => xs = [toArgument x]
  | none => x = default

variable {u : Understood} {f : Flag}

theorem exists_given (hu : u.IsTyped) (hone : f.arity = .one) {xs : List Argument}
    (hf : u.find? f = some xs) : ∃ x, xs = [x] ∧ x.reading = f.reading := by
  have htakes := hu.takes hf
  have hlength : xs.length = 1 := by
    have hadmits := htakes.admits
    rwa [hone] at hadmits
  obtain ⟨x, rfl⟩ := List.length_eq_one_iff.1 hlength
  exact ⟨x, rfl, htakes.reading x List.mem_cons_self⟩

theorem states_wholeOf (hu : u.IsTyped) (hone : f.arity = .one) (hwhole : f.reading = .whole)
    (default : Int) : States u f .whole default (wholeOf u f default) := by
  unfold States wholeOf
  cases hf : u.find? f with
  | none => rfl
  | some xs =>
    obtain ⟨x, rfl, hx⟩ := exists_given hu hone hf
    rw [hwhole] at hx
    cases x <;> cases hx
    rfl

theorem states_realOf (hu : u.IsTyped) (hone : f.arity = .one) (hreal : f.reading = .real)
    (default : Float) : States u f .real default (realOf u f default) := by
  unfold States realOf
  cases hf : u.find? f with
  | none => rfl
  | some xs =>
    obtain ⟨x, rfl, hx⟩ := exists_given hu hone hf
    rw [hreal] at hx
    cases x <;> cases hx
    rfl

theorem rateOf_eq_ok {default x : Float} (h : rateOf u f default = .ok x) :
    x = realOf u f default ∧ isShare (.real x) = true := by
  unfold rateOf at h
  dsimp only at h
  split at h
  · cases h
    exact ⟨rfl, ‹_›⟩
  · cases h

theorem rateOf_eq_error {default : Float} {fault : UsageFault}
    (h : rateOf u f default = .error fault) :
    isShare (.real (realOf u f default)) = false ∧
      fault.message = shareMessage f.label (Decimal.text (realOf u f default)) := by
  unfold rateOf at h
  dsimp only at h
  split at h
  · cases h
  · cases h
    exact ⟨Bool.eq_false_iff.2 ‹_›, rfl⟩

theorem countOf_eq_ok {n : Int} (h : countOf u = .ok n) : n = wholeOf u count 300 ∧ 1 ≤ n := by
  unfold countOf at h
  dsimp only at h
  split at h
  · cases h
  · cases h
    exact ⟨rfl, Int.not_lt.1 ‹_›⟩

theorem countOf_eq_error {fault : UsageFault} (h : countOf u = .error fault) :
    wholeOf u count 300 < 1 ∧ fault.message = "--count must be at least 1" := by
  unfold countOf at h
  dsimp only at h
  split at h
  · cases h
    exact ⟨‹_›, rfl⟩
  · cases h

/-! ## Plans -/

/-- A rate of a plan: what its option says, and a share of a whole. -/
structure IsRateOf (u : Understood) (f : Flag) (default x : Float) : Prop where
  states : States u f .real default x
  isShare : Seeding.isShare (.real x) = true

/-- A plan that arguments ask for. -/
structure IsPlanOf (u : Understood) (plan : Seed.Plan Float) : Prop where
  count : States u count .whole 300 plan.count
  count_pos : 1 ≤ plan.count
  seed : States u seed .whole 42 plan.seed
  truncate : plan.truncate = (u.find? truncate).isSome
  accepted : IsRateOf u connectRate 0.60 plan.rates.accepted
  pending : IsRateOf u pendingRate 0.10 plan.rates.pending
  disconnected : IsRateOf u disconnectedRate 0.05 plan.rates.disconnected
  dismissRate : IsRateOf u dismissRate 0.20 plan.dismissRate

theorem isRateOf_of_rateOf {default x : Float} (hu : u.IsTyped) (hone : f.arity = .one)
    (hreal : f.reading = .real) (h : rateOf u f default = .ok x) : IsRateOf u f default x := by
  obtain ⟨rfl, hshare⟩ := rateOf_eq_ok h
  exact ⟨states_realOf hu hone hreal default, hshare⟩

/-- **The plan that arguments ask for**, where none is wrong. -/
theorem planOf_eq_ok {plan : Seed.Plan Float} (hu : u.IsTyped) (h : planOf u = .ok plan) :
    IsPlanOf u plan := by
  unfold planOf at h
  simp only [bind_eq_ok_iff, pure_eq_ok_iff] at h
  obtain ⟨n, hn, x, hx, y, hy, z, hz, w, hw, rfl⟩ := h
  obtain ⟨rfl, hpos⟩ := countOf_eq_ok hn
  exact
    { count := states_wholeOf hu rfl rfl 300
      count_pos := hpos
      seed := states_wholeOf hu rfl rfl 42
      truncate := rfl
      accepted := isRateOf_of_rateOf hu rfl rfl hx
      pending := isRateOf_of_rateOf hu rfl rfl hy
      disconnected := isRateOf_of_rateOf hu rfl rfl hz
      dismissRate := isRateOf_of_rateOf hu rfl rfl hw }

/-- What is not the default has been given. -/
theorem given_of_ne {β : Type} {toArgument : β → Argument} {default x : β}
    (h : States u f toArgument default x) (hne : x ≠ default) :
    u.find? f = some [toArgument x] := by
  unfold States at h
  split at h
  · exact h ▸ ‹_›
  · exact absurd h hne

theorem given_of_rateOf {default : Float} {fault : UsageFault} (hu : u.IsTyped)
    (hone : f.arity = .one) (hreal : f.reading = .real) (hdefault : isShare (.real default) = true)
    (h : rateOf u f default = .error fault) : ∃ x, u.find? f = some [.real x] ∧
      isShare (.real x) = false ∧ fault.message = shareMessage f.label (Decimal.text x) := by
  obtain ⟨hshare, hmessage⟩ := rateOf_eq_error h
  refine ⟨_, given_of_ne (states_realOf hu hone hreal default) fun hsame => ?_, hshare, hmessage⟩
  rw [hsame, hdefault] at hshare
  cases hshare

/-- **What is wrong with arguments**: the number of users, or a rate, which has been given; the
defaults are in order. -/
theorem planOf_eq_error {fault : UsageFault} (hu : u.IsTyped) (h : planOf u = .error fault) :
    (∃ n < 1, u.find? count = some [.whole n] ∧ fault.message = "--count must be at least 1") ∨
      ∃ f ∈ [connectRate, pendingRate, disconnectedRate, dismissRate], ∃ x,
        u.find? f = some [.real x] ∧ isShare (.real x) = false ∧
          fault.message = shareMessage f.label (Decimal.text x) := by
  unfold planOf at h
  simp only [bind_eq_error_iff] at h
  rcases h with h | ⟨n, -, h | ⟨x, -, h | ⟨y, -, h | ⟨z, -, h | ⟨w, -, h⟩⟩⟩⟩⟩
  · obtain ⟨hless, hmessage⟩ := countOf_eq_error h
    refine Or.inl ⟨_, hless, given_of_ne (states_wholeOf hu rfl rfl 300) ?_, hmessage⟩
    omega
  · exact Or.inr ⟨connectRate, by simp, given_of_rateOf hu rfl rfl (by decide +kernel) h⟩
  · exact Or.inr ⟨pendingRate, by simp, given_of_rateOf hu rfl rfl (by decide +kernel) h⟩
  · exact Or.inr ⟨disconnectedRate, by simp, given_of_rateOf hu rfl rfl (by decide +kernel) h⟩
  · exact Or.inr ⟨dismissRate, by simp, given_of_rateOf hu rfl rfl (by decide +kernel) h⟩
  · cases h

/-! ## How the command ends -/

variable {c : Conditions} {now : Instant} {arguments : List String} {s s' : Store}
  {outcome : Except Failure (Report × Store)}

/-- **How the command ends.** It does not understand its arguments or explains itself, and leaves
the store alone; or it ends as the run by the plan that is asked for, with a report on as many users
as that asks for. -/
theorem run_cases (h : run c now arguments s = some outcome) :
    (∃ fault, outcome = .ok (Report.misused grammar.program fault, s)) ∨
      outcome = .ok (Report.done grammar.help, s) ∨
      ∃ u plan, grammar.read arguments = .ok u ∧ IsPlanOf u plan ∧
        ((∃ why, Session.seed c now plan s = some (.error why) ∧ outcome = .error why) ∨
          ∃ counts s', Session.seed c now plan s = some (.ok (counts, s')) ∧
            (counts.users : Int) = plan.count ∧
              outcome = .ok (Report.done (Seed.report plan.truncate counts), s')) := by
  unfold run at h
  split at h
  case h_1 fault _ => exact Or.inl ⟨fault, (Option.some.inj h).symm⟩
  case h_2 u hu =>
    split at h
    · exact Or.inr (Or.inl (Option.some.inj h).symm)
    · split at h
      case h_1 fault _ => exact Or.inl ⟨fault, (Option.some.inj h).symm⟩
      case h_2 plan hplan =>
        have hasked := planOf_eq_ok (Grammar.read_eq_ok hu).1 hplan
        refine Or.inr (Or.inr ⟨u, plan, hu, hasked, ?_⟩)
        obtain ⟨ended, hseed, rfl⟩ := Option.map_eq_some_iff.1 h
        cases ended with
        | error why => exact Or.inl ⟨why, hseed, rfl⟩
        | ok result =>
          obtain ⟨counts, s'⟩ := result
          have husers : (counts.users : Int) = plan.count := by
            have hpos := hasked.count_pos
            rw [Session.users_of_seed hseed]
            omega
          refine Or.inr ⟨counts, s', hseed, husers, ?_⟩
          show Except.ok (reportOf plan counts, s') = _
          rw [reportOf, if_pos husers]

/-- **The exit code tells what became of the store**: it is 2 where the arguments are wrong, which
leave the store alone, and else 0. -/
theorem exit_of_run {report : Report} (h : run c now arguments s = some (.ok (report, s'))) :
    report.exit = 2 ∧ s' = s ∨ report.exit = 0 := by
  rcases run_cases h with ⟨fault, hmisused⟩ | hhelp | ⟨u, plan, -, -, hfailed | hdone⟩
  · cases hmisused
    exact Or.inl ⟨rfl, rfl⟩
  · cases hhelp
    exact Or.inr rfl
  · obtain ⟨why, -, hwhy⟩ := hfailed
    cases hwhy
  · obtain ⟨counts, t, -, -, hreport⟩ := hdone
    cases hreport
    exact Or.inr rfl

end Command.Seeding

end Matchmaker
