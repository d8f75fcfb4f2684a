import DeployDrift.Drift.Detection
import DeployDrift.Proofs.Merge.Prediction
import DeployDrift.Proofs.Server.Runs

/-!
# Steps of the detection

A run of the detection goes on where the server answers and a result is no fault, whatever it warns
of on the way, and only there.  What it reports are the pairs that have drifted and are no hooks, in
the order of the pairs.
-/
namespace DeployDrift

/-- One side alone has drifted; two sides have if the comparison says so. -/
def Sides.Drifted (config : DriftConfig) (key : ResourceKey) (s : Sides) : Prop :=
  match s.live, s.target with
  | some live, some target =>
    ∃ comparison, Comparison.ofSides key (some live) (some target) config = .ok comparison ∧
      comparison.modified = true
  | none, none => False
  | _, _ => True

namespace DriftReport

section Drift

variable {config : DriftConfig} {key : ResourceKey} {sides : Sides}

/-- Unless both sides are absent, it is decided whether there is drift to report. -/
theorem exists_driftOf (config : DriftConfig) (key : ResourceKey)
    (h : sides.live.isSome = true ∨ sides.target.isSome = true) :
    ∃ drift, driftOf config key sides = .ok drift ∧
      (drift.isSome = true ↔ sides.isHook = false ∧ sides.Drifted config key) := by
  obtain ⟨live, target⟩ := sides
  unfold driftOf
  cases hhook : Sides.isHook ⟨live, target⟩ with
  | true => exact ⟨none, rfl, by simp⟩
  | false =>
    cases live with
    | none =>
      cases target with
      | none => simp at h
      | some target => exact ⟨_, rfl, by simp [Sides.Drifted]⟩
    | some live =>
      cases target with
      | none => exact ⟨_, rfl, by simp [Sides.Drifted]⟩
      | some target =>
        obtain ⟨comparison, hcomparison⟩ :
            ∃ comparison, Comparison.ofSides key (some live) (some target) config =
              .ok comparison := ⟨_, Comparison.ofSides_both key live target config⟩
        have hdrifted : Sides.Drifted config key ⟨some live, some target⟩ ↔
            comparison.modified = true := by simp [Sides.Drifted, hcomparison]
        dsimp only
        rw [hdrifted, hcomparison]
        cases hmodified : comparison.modified with
        | false => exact ⟨none, by simp [hmodified], by simp⟩
        | true =>
          exact ⟨some (.ofSides key comparison.normalized comparison.predicted),
            by simp [hmodified], by simp⟩

/-- The drift of a resource names the resource and says which of its sides exist. -/
theorem of_driftOf {d : ResourceDrift} (h : driftOf config key sides = .ok (some d)) :
    d.key = key ∧ d.status = .ofSides sides.live.isSome sides.target.isSome := by
  unfold driftOf at h
  split at h
  · cases h
  · split at h
    · cases h
    next comparison hcomparison =>
      split at h
      · cases h
      · split at h
        next hboth =>
          obtain ⟨live, target⟩ := sides
          cases live with
          | none => cases hboth
          | some live =>
            cases target with
            | none => cases hboth
            | some target =>
              rw [Comparison.ofSides_both] at hcomparison
              cases hcomparison
              cases h
              exact ⟨rfl, rfl⟩
        next =>
          cases h
          exact ⟨rfl, rfl⟩

variable {pairs : List (ResourceKey × Sides)} {drifts : List ResourceDrift}

theorem driftOfAll_cons_ok {e : ResourceKey × Sides}
    (h : driftOfAll config (e :: pairs) = .ok drifts) :
    ∃ drift rest, driftOf config e.1 e.2 = .ok drift ∧ driftOfAll config pairs = .ok rest ∧
      drifts = drift.toList ++ rest := by
  rw [driftOfAll] at h
  cases hdrift : driftOf config e.1 e.2 with
  | error failure =>
    rw [hdrift] at h
    cases h
  | ok drift =>
    rw [hdrift] at h
    cases hrest : driftOfAll config pairs with
    | error failure =>
      rw [hrest] at h
      cases h
    | ok rest =>
      rw [hrest] at h
      cases h
      exact ⟨drift, rest, rfl, rfl, rfl⟩

/-- What is reported is the drift of one of the pairs. -/
theorem mem_driftOfAll_iff (h : driftOfAll config pairs = .ok drifts) {d : ResourceDrift} :
    d ∈ drifts ↔ ∃ e ∈ pairs, driftOf config e.1 e.2 = .ok (some d) := by
  induction pairs generalizing drifts with
  | nil =>
    cases h
    simp
  | cons e rest ih =>
    obtain ⟨drift, tail, hdrift, htail, rfl⟩ := driftOfAll_cons_ok h
    rw [List.mem_append, ih htail, Option.mem_toList]
    simp only [List.mem_cons, exists_eq_or_imp, hdrift, Except.ok.injEq]

/-- Nothing is reported out of order or twice. -/
theorem keys_driftOfAll (h : driftOfAll config pairs = .ok drifts) :
    (drifts.map (·.key)).Sublist (pairs.map (·.1)) := by
  induction pairs generalizing drifts with
  | nil =>
    cases h
    exact .slnil
  | cons e rest ih =>
    obtain ⟨drift, tail, hdrift, htail, rfl⟩ := driftOfAll_cons_ok h
    cases drift with
    | none => exact (ih htail).cons e.1
    | some d =>
      obtain ⟨hkey, -⟩ := of_driftOf hdrift
      rw [List.map_cons, ← hkey]
      exact (ih htail).cons_cons d.key

/-- Pairs with a side each have a report. -/
theorem exists_driftOfAll (config : DriftConfig)
    (h : ∀ e ∈ pairs, e.2.live.isSome = true ∨ e.2.target.isSome = true) :
    ∃ drifts, driftOfAll config pairs = .ok drifts := by
  induction pairs with
  | nil => exact ⟨[], rfl⟩
  | cons e rest ih =>
    obtain ⟨drift, hdrift, -⟩ := exists_driftOf config e.1 (h e List.mem_cons_self)
    obtain ⟨drifts, hdrifts⟩ := ih fun f hf => h f (List.mem_cons_of_mem _ hf)
    rw [driftOfAll, hdrift, hdrifts]
    exact ⟨_, rfl⟩

end Drift

theorem driftOfAll_eq_nil {config : DriftConfig} {pairs : List (ResourceKey × Sides)}
    (h : ∀ e ∈ pairs, driftOf config e.1 e.2 = .ok none) : driftOfAll config pairs = .ok [] := by
  induction pairs with
  | nil => rfl
  | cons e rest ih =>
    obtain ⟨key, sides⟩ := e
    rw [driftOfAll, h _ List.mem_cons_self, ih fun f hf => h f (List.mem_cons_of_mem _ hf)]
    rfl

theorem configFor_ok {app : Application} {settings : ServerSettings} {config : DriftConfig}
    (h : configFor app settings = .ok config) :
    config.tracking = Tracking.ofSettings settings.appLabelKey settings.trackingMethod ∧
      config.ignoreAggregatedRoles = false := by
  unfold configFor DriftConfig.build at h
  obtain ⟨rules, -, h⟩ := exists_of_bind_ok h
  obtain ⟨pointers, -, h⟩ := exists_of_bind_ok h
  cases h
  exact ⟨rfl, rfl⟩

end DriftReport

namespace DiffAction

section Steps

variable {β : Type} {services : Services}

theorem orFail_ok {ε α : Type} {result : Except ε α} {a : α} (h : result = .ok a)
    (failure : ε → Failure) (next : α → Program (Except Failure β)) :
    orFail result failure next = next a := by
  rw [h]
  rfl

theorem run_ask {c : Call} {answer : c.Result} (h : (services c).outcome = .ok answer)
    (operation : String) (next : c.Result → Program (Except Failure β)) :
    ((askOrFail c operation next).run services).outcome = ((next answer).run services).outcome := by
  unfold askOrFail
  rw [Program.run, h]
  rfl

theorem run_orFail_ok {ε α : Type} {result : Except ε α} {failure : ε → Failure}
    {next : α → Program (Except Failure β)} {b : β}
    (h : ((orFail result failure next).run services).outcome = .ok b) :
    ∃ a, result = .ok a ∧ ((next a).run services).outcome = .ok b := by
  cases result with
  | error fault => cases h
  | ok a => exact ⟨a, rfl, h⟩

theorem run_ask_ok {c : Call} {operation : String} {next : c.Result → Program (Except Failure β)}
    {b : β} (h : ((askOrFail c operation next).run services).outcome = .ok b) :
    ∃ answer, (services c).outcome = .ok answer ∧ ((next answer).run services).outcome = .ok b :=
  run_orFail_ok h

theorem run_warn (messages : List String) (next : Program β) :
    ((warn messages next).run services).outcome = (next.run services).outcome := by
  induction messages with
  | nil => rfl
  | cons message rest ih => exact ih

/-- An action whose calls are all answered in time does what it would without a deadline. -/
theorem run_of_allowed (a : DiffAction) {deadline : Deadline}
    (hstart : Deadline.start a.timeout = .ok deadline)
    (hallowed : deadline.allows (a.program.duration services) = true) :
    a.run services = a.program.run services := by
  rw [← Nat.zero_add (a.program.duration services)] at hallowed
  unfold run
  rw [hstart]
  dsimp only
  rw [Program.runWithin_of_allowed services a.program hallowed]
  rfl

theorem outcome_run (a : DiffAction) {deadline : Deadline}
    (hstart : Deadline.start a.timeout = .ok deadline)
    (hallowed : deadline.allows (a.program.duration services) = true) :
    (a.run services).outcome = (a.program.run services).outcome := by
  rw [run_of_allowed a hstart hallowed]

/-- What is reported under a deadline is reported without one. -/
theorem outcome_of_run_ok {a : DiffAction} {report : DriftReport}
    (h : (a.run services).outcome = .ok report) :
    (a.program.run services).outcome = .ok report := by
  unfold run at h
  cases hstart : Deadline.start a.timeout with
  | error fault =>
    rw [hstart] at h
    cases h
  | ok deadline =>
    rw [hstart] at h
    cases hrun : (a.program.runWithin services deadline 0).outcome with
    | none => simp [hrun] at h
    | some outcome =>
      have houtcome := Program.outcome_of_runWithin services a.program hrun
      simpa [hrun, houtcome] using h

end Steps

end DiffAction
end DeployDrift
