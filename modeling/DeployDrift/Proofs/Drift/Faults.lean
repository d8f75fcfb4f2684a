import DeployDrift.Proofs.Drift.Ignored
import DeployDrift.Proofs.Drift.Order
import DeployDrift.Proofs.Drift.Stages

/-!
# Faults of the comparison

Of the faults that a comparison knows, a detection can meet one only: a pointer that is no pointer,
in an ignore rule or in an override.  What is paired has a side, and what is left of an object after
removal, merging and pruning is a mapping, so that neither of the other faults can arise.
-/
namespace DeployDrift

section Errors

variable {ε α β : Type} {f : α → Except ε β} {xs : List α} {e : ε}

theorem bind_error_iff {x : Except ε α} :
    x >>= f = .error e ↔ x = .error e ∨ ∃ a, x = .ok a ∧ f a = .error e := by
  cases x with
  | error e' =>
    constructor
    · exact fun h => .inl (congrArg Except.error (Except.error.inj h))
    · rintro (h | ⟨a, ha, -⟩)
      · exact congrArg Except.error (Except.error.inj h)
      · cases ha
  | ok a =>
    constructor
    · exact fun h => .inr ⟨a, rfl, h⟩
    · rintro (h | ⟨a', ha, h⟩)
      · cases h
      · cases ha
        exact h

theorem exists_of_mapM_error (h : xs.mapM f = .error e) : ∃ x ∈ xs, f x = .error e := by
  induction xs with
  | nil => cases h
  | cons x rest ih =>
    rw [List.mapM_cons, bind_error_iff] at h
    rcases h with hx | ⟨y, -, h⟩
    · exact ⟨x, List.mem_cons_self, hx⟩
    · rcases bind_error_iff.mp h with hrest | ⟨ys, -, h⟩
      · obtain ⟨x', hm, hx'⟩ := ih hrest
        exact ⟨x', List.mem_cons_of_mem _ hm, hx'⟩
      · cases h

theorem exists_ok_of_mapM_ok {ys : List β} (h : xs.mapM f = .ok ys) {x : α} (hx : x ∈ xs) :
    ∃ y, f x = .ok y := by
  have hread := mapM_ok_iff.mp h
  clear h
  induction hread with
  | nil => cases hx
  | @cons x' y' _ _ hx' _ ih =>
    rcases List.mem_cons.mp hx with rfl | hx
    · exact ⟨y', hx'⟩
    · exact ih hx

end Errors

/-- The pointer is neither empty nor does it start with a slash. -/
def Pointer.Refused (pointer : String) : Prop :=
  pointer ≠ "" ∧ pointer.toList.head? ≠ some '/'

theorem Pointer.isAcceptable_eq_false_iff {pointer : String} :
    isAcceptable pointer = false ↔ Refused pointer := by
  have hempty : pointer ≠ "" ↔ pointer.toList ≠ [] := by rw [Ne, Ne, String.toList_eq_nil_iff]
  rw [Refused, hempty, isAcceptable]
  cases pointer.toList with
  | nil => simp
  | cons c cs => simp

namespace DriftConfig

/-- What is said of a pointer that is refused. -/
def refusal (target pointer : String) : DriftFault :=
  .invalidIgnoreRule target ("JSON pointer " ++ Text.quote pointer ++ " must start with '/'")

/-- The pointer is to be ignored by the declarations or overrides, under the name. -/
def Declares (declared : List IgnoreDeclaration) (overrides : Table String ResourceOverride)
    (target pointer : String) : Prop :=
  (∃ d ∈ declared, declarationName d = target ∧ pointer ∈ d.pointers) ∨
    ∃ o, (target, o) ∈ overrides ∧ pointer ∈ o.pointers

section Building

variable {target : String} {pointers : List String} {fault : DriftFault}

/-- A refusal names one of the pointers, which is indeed malformed. -/
theorem checkPointers_error (h : checkPointers target pointers = .error fault) :
    ∃ pointer ∈ pointers, Pointer.Refused pointer ∧ fault = refusal target pointer := by
  unfold checkPointers at h
  cases hfind : pointers.find? (!Pointer.isAcceptable ·) with
  | none =>
    rw [hfind] at h
    cases h
  | some pointer =>
    rw [hfind] at h
    have hrefused := List.find?_some hfind
    rw [Bool.not_eq_true', Pointer.isAcceptable_eq_false_iff] at hrefused
    exact ⟨pointer, List.mem_of_find?_eq_some hfind, hrefused, (Except.error.inj h).symm⟩

theorem checkPointers_ok (h : checkPointers target pointers = .ok ()) :
    ∀ pointer ∈ pointers, ¬ Pointer.Refused pointer := by
  intro pointer hm hrefused
  unfold checkPointers at h
  cases hfind : pointers.find? (!Pointer.isAcceptable ·) with
  | none =>
    have hacceptable := List.find?_eq_none.mp hfind pointer hm
    rw [Pointer.isAcceptable_eq_false_iff.mpr hrefused] at hacceptable
    exact hacceptable rfl
  | some bad =>
    rw [hfind] at h
    cases h

variable {declared : List IgnoreDeclaration} {overrides : Table String ResourceOverride}
  {tracking : Tracking} {ignoreAggregatedRoles : Bool}

/-- Building fails with a pointer that is refused. -/
theorem build_error (h : build declared overrides tracking ignoreAggregatedRoles = .error fault) :
    ∃ target pointer, Declares declared overrides target pointer ∧ Pointer.Refused pointer ∧
      fault = refusal target pointer := by
  rcases bind_error_iff.mp h with hrules | ⟨rules, -, h⟩
  · obtain ⟨d, hd, hrule⟩ := exists_of_mapM_error hrules
    rcases bind_error_iff.mp hrule with hcheck | ⟨-, -, hrule⟩
    · obtain ⟨pointer, hm, hrefused, hfault⟩ := checkPointers_error hcheck
      exact ⟨_, pointer, .inl ⟨d, hd, rfl, hm⟩, hrefused, hfault⟩
    · cases hrule
  · rcases bind_error_iff.mp h with hoverrides | ⟨pointers, -, h⟩
    · obtain ⟨⟨name, o⟩, ho, hoverride⟩ := exists_of_mapM_error hoverrides
      rcases bind_error_iff.mp hoverride with hcheck | ⟨-, -, hoverride⟩
      · obtain ⟨pointer, hm, hrefused, hfault⟩ := checkPointers_error hcheck
        exact ⟨name, pointer, .inr ⟨o, ho, hm⟩, hrefused, hfault⟩
      · cases hoverride
    · cases h

theorem build_ok {config : DriftConfig}
    (h : build declared overrides tracking ignoreAggregatedRoles = .ok config)
    {target pointer : String} (hm : Declares declared overrides target pointer) :
    ¬ Pointer.Refused pointer := by
  obtain ⟨rules, hrules, h⟩ := exists_of_bind_ok h
  obtain ⟨pointers, hoverrides, -⟩ := exists_of_bind_ok h
  rcases hm with ⟨d, hd, -, hm⟩ | ⟨o, ho, hm⟩
  · obtain ⟨rule, hrule⟩ := exists_ok_of_mapM_ok hrules hd
    obtain ⟨_, hcheck, -⟩ := exists_of_bind_ok hrule
    exact checkPointers_ok hcheck pointer hm
  · obtain ⟨rule, hrule⟩ := exists_ok_of_mapM_ok hoverrides ho
    obtain ⟨_, hcheck, -⟩ := exists_of_bind_ok hrule
    exact checkPointers_ok hcheck pointer hm

/-- Building fails exactly if some pointer is refused. -/
theorem exists_build_error_iff :
    (∃ fault, build declared overrides tracking ignoreAggregatedRoles = .error fault) ↔
      ∃ target pointer, Declares declared overrides target pointer ∧ Pointer.Refused pointer := by
  constructor
  · rintro ⟨fault, h⟩
    obtain ⟨target, pointer, hm, hrefused, -⟩ := build_error h
    exact ⟨target, pointer, hm, hrefused⟩
  · rintro ⟨target, pointer, hm, hrefused⟩
    cases h : build declared overrides tracking ignoreAggregatedRoles with
    | error fault => exact ⟨fault, rfl⟩
    | ok config => exact absurd hrefused (build_ok h hm)

end Building

end DriftConfig

section Stages

variable {a : DiffAction} {services : Services} {stage : DetectionStage} {failure : Failure}
  {operation : String} {fault : DriftFault}

theorem failureOf_eq_some {ε α : Type} {result : Except ε α} {f : ε → Failure} :
    failureOf result f = some failure ↔ ∃ e, result = .error e ∧ f e = failure := by
  cases result with
  | error e => simp [failureOf]
  | ok x => simp [failureOf]

namespace DetectionStage

/-- Only the settings of the comparison make a fault of the comparison. -/
theorem eq_config_of_drift
    (h : stage.failure? a services = some (.drift operation fault)) : stage = .config := by
  cases stage with
  | config => rfl
  | application | managedResources | manifests | settings =>
    obtain ⟨e, -, heq⟩ := failureOf_eq_some.mp h
    cases heq
  | liveObjects | targets =>
    obtain ⟨read, -, h⟩ := Option.bind_eq_some_iff.mp h
    obtain ⟨e, -, heq⟩ := failureOf_eq_some.mp h
    cases heq
  | grouping =>
    obtain ⟨read, -, h⟩ := Option.bind_eq_some_iff.mp h
    obtain ⟨records, -, h⟩ := Option.bind_eq_some_iff.mp h
    obtain ⟨read', -, h⟩ := Option.bind_eq_some_iff.mp h
    obtain ⟨targets, -, h⟩ := Option.bind_eq_some_iff.mp h
    obtain ⟨app, -, h⟩ := Option.bind_eq_some_iff.mp h
    obtain ⟨e, -, heq⟩ := failureOf_eq_some.mp h
    cases heq

/-- The stage of the settings fails where both answers have come and what they ignore is
refused. -/
theorem failure?_config :
    config.failure? a services = some failure ↔
      ∃ app settings fault, (services (.application a.app.name a.app.namespace
          (Refresh.ofFlags a.refresh a.hardRefresh))).outcome = .ok app ∧
        (services .settings).outcome = .ok settings ∧
        DriftReport.configFor app settings = .error fault ∧
        failure = .drift "failed to build diff config" fault := by
  constructor
  · intro h
    obtain ⟨app, happ, h⟩ := Option.bind_eq_some_iff.mp h
    obtain ⟨settings, hsettings, h⟩ := Option.bind_eq_some_iff.mp h
    obtain ⟨fault, hfault, rfl⟩ := failureOf_eq_some.mp h
    exact ⟨app, settings, fault, eq_ok_of_toOption happ, eq_ok_of_toOption hsettings, hfault, rfl⟩
  · rintro ⟨app, settings, fault, happ, hsettings, hfault, rfl⟩
    rw [failure?, app?, happ, hsettings]
    exact failureOf_eq_some.mpr ⟨fault, hfault, rfl⟩

end DetectionStage

namespace DiffAction

/-- A run that ends in a failure has come to a stage that fails. -/
theorem Passes.exists_failure {stages : List DetectionStage} {calls : List Call}
    (h : a.Passes services stages calls (.error failure)) :
    ∃ before stage after, stages = before ++ stage :: after ∧
      (∀ s ∈ before, s.failure? a services = none) ∧
        stage.failure? a services = some failure := by
  generalize houtcome : (Except.error failure : Except Failure DriftReport) = outcome at h
  induction h with
  | reported report => cases houtcome
  | @stopped stage _ rest hstage =>
    cases houtcome
    exact ⟨[], stage, rest, rfl, nofun, hstage⟩
  | @passed stage _ _ _ hstage _ ih =>
    obtain ⟨before, last, after, rfl, hbefore, hlast⟩ := ih houtcome
    exact ⟨stage :: before, last, after, rfl, List.forall_mem_cons.mpr ⟨hstage, hbefore⟩, hlast⟩

/-- The stages before the last one. -/
def stagesBeforeConfig : List DetectionStage := DetectionStage.all.dropLast

theorem all_eq_append : DetectionStage.all = stagesBeforeConfig ++ [.config] := rfl

/-- A drift fault ends the program exactly where all stages before the settings pass and the
settings are refused: comparing the pairs raises none. -/
theorem outcome_drift_iff :
    (a.program.run services).outcome = .error (.drift operation fault) ↔
      (∀ s ∈ stagesBeforeConfig, s.failure? a services = none) ∧
        DetectionStage.config.failure? a services = some (.drift operation fault) := by
  have hpasses : a.Passes services DetectionStage.all (a.program.run services).calls
      (a.program.run services).outcome := passesProgram_program a services
  constructor
  · intro h
    rw [h] at hpasses
    obtain ⟨before, stage, after, hall, hbefore, hstage⟩ := hpasses.exists_failure
    cases DetectionStage.eq_config_of_drift hstage
    have hothers : ∀ s ∈ before, (s != .config) = true := by
      intro s hs
      rw [bne_iff_ne]
      rintro rfl
      cases (hbefore _ hs).symm.trans hstage
    have hcut : stagesBeforeConfig = before := by
      have hfirst : DetectionStage.all.takeWhile (· != .config) = stagesBeforeConfig := by decide
      rw [← hfirst, hall, List.takeWhile_append_of_pos hothers]
      simp
    exact ⟨hcut ▸ hbefore, hstage⟩
  · rintro ⟨hbefore, hstage⟩
    rw [all_eq_append] at hpasses
    exact (hpasses.of_first_failure hbefore hstage).1

/-- If no stage before the settings fails, all calls are made. -/
theorem calls_of_unfailed (h : ∀ s ∈ stagesBeforeConfig, s.failure? a services = none) :
    (a.program.run services).calls = a.callOrder := by
  have hpasses : a.Passes services DetectionStage.all (a.program.run services).calls
      (a.program.run services).outcome := passesProgram_program a services
  rw [all_eq_append] at hpasses
  cases hconfig : DetectionStage.config.failure? a services with
  | some failure => exact (hpasses.of_first_failure h hconfig).2
  | none =>
    have hnone : ∀ s ∈ stagesBeforeConfig ++ [.config], s.failure? a services = none := by
      intro s hs
      rcases List.mem_append.mp hs with hs | hs
      · exact h s hs
      · rw [List.mem_singleton.mp hs, hconfig]
    exact (hpasses.of_no_failure hnone).2

/-- A fault of the comparison under a deadline is one without, met in time. -/
theorem outcome_run_drift_iff :
    (a.run services).outcome = .error (.drift operation fault) ↔
      (∃ deadline, Deadline.start a.timeout = .ok deadline ∧
        deadline.allows (a.program.duration services) = true) ∧
      (a.program.run services).outcome = .error (.drift operation fault) := by
  constructor
  · intro h
    cases hstart : Deadline.start a.timeout with
    | error timeout =>
      rw [run, hstart] at h
      cases h
    | ok deadline =>
      have hintime : deadline.allows (a.program.duration services) = true := by
        by_contra hlate
        rw [← Nat.zero_add (a.program.duration services)] at hlate
        have hnow : deadline.allows 0 = true := Deadline.allows_iff.mpr (.inl rfl)
        rw [run, hstart] at h
        dsimp only at h
        rw [Program.outcome_runWithin_of_late services a.program hnow hlate] at h
        cases h
      rw [outcome_run a hstart hintime] at h
      exact ⟨⟨deadline, rfl, hintime⟩, h⟩
  · rintro ⟨⟨deadline, hstart, hallowed⟩, h⟩
    rw [outcome_run a hstart hallowed, h]

/-- The server tells of a pointer that is to be ignored under the name. -/
def Ignores (a : DiffAction) (services : Services) (target pointer : String) : Prop :=
  ∃ app settings, (services (.application a.app.name a.app.namespace
      (Refresh.ofFlags a.refresh a.hardRefresh))).outcome = .ok app ∧
    (services .settings).outcome = .ok settings ∧
    DriftConfig.Declares app.ignoreDifferences settings.overrides target pointer

/-- The run comes to the settings of the comparison: all calls are answered in time, and no stage
before fails. -/
structure ReachesConfig (a : DiffAction) (services : Services) : Prop where
  inTime : ∃ deadline, Deadline.start a.timeout = .ok deadline ∧
    deadline.allows (totalDelay services a.callOrder) = true
  unfailed : ∀ s ∈ stagesBeforeConfig, s.failure? a services = none

theorem outcome_run_drift_config :
    (a.run services).outcome = .error (.drift operation fault) ↔
      a.ReachesConfig services ∧
        DetectionStage.config.failure? a services = some (.drift operation fault) := by
  rw [outcome_run_drift_iff, outcome_drift_iff, Program.duration_eq]
  constructor
  · rintro ⟨hintime, hunfailed, hconfig⟩
    rw [calls_of_unfailed hunfailed] at hintime
    exact ⟨⟨hintime, hunfailed⟩, hconfig⟩
  · rintro ⟨⟨hintime, hunfailed⟩, hconfig⟩
    rw [calls_of_unfailed hunfailed]
    exact ⟨hintime, hunfailed, hconfig⟩

end DiffAction

end Stages

namespace Comparison

/-- What a comparison predicts on the documents of its sides. -/
def predictedOfSides (key : ResourceKey) (live target : Option ResourceObject)
    (config : DriftConfig) : Option Document :=
  match live, target with
  | some live, some target =>
    some ((live.document.withoutIgnored key config).predict
      (target.document.withoutIgnored key config) (live.lastAppliedDocument key config))
  | none, some target => some (target.document.withoutIgnored key config)
  | _, none => none

/-- Two sides, or one of them, can be compared; the outcome holds mappings, which are what removal,
merging and pruning make of the documents. -/
theorem ofSides_cases (key : ResourceKey) (live target : Option ResourceObject)
    (config : DriftConfig) :
    (live = none ∧ target = none ∧
        ofSides key live target config = .error (.nothingToCompare key.text)) ∨
      ∃ comparison, ofSides key live target config = .ok comparison ∧
        comparison.normalized.map (·.document) =
          live.map (·.document.withoutIgnored key config) ∧
        comparison.predicted.map (·.document) = predictedOfSides key live target config ∧
        ¬ (live = none ∧ target = none) := by
  cases live with
  | none =>
    cases target with
    | none => exact .inl ⟨rfl, rfl, rfl⟩
    | some target =>
      refine .inr ⟨_, rfl, rfl, ?_, by simp⟩
      exact congrArg some (ResourceObject.document_normalize target key config)
  | some live =>
    have hlive := congrArg some (ResourceObject.document_normalize live key config)
    cases target with
    | none => exact .inr ⟨_, rfl, hlive, rfl, by simp⟩
    | some target =>
      refine .inr ⟨_, ofSides_predictedOf key live target config, hlive, ?_, by simp⟩
      rw [Option.map_some, document_predictedOf, ResourceObject.document_normalize,
        ResourceObject.document_normalize]
      rfl

/-- A comparison fails exactly without sides. -/
theorem exists_ofSides_error_iff (key : ResourceKey) (live target : Option ResourceObject)
    (config : DriftConfig) :
    (∃ fault, ofSides key live target config = .error fault) ↔ live = none ∧ target = none := by
  rcases ofSides_cases key live target config with
    ⟨hlive, htarget, hfault⟩ | ⟨comparison, hok, -, -, hside⟩
  · exact iff_of_true ⟨_, hfault⟩ ⟨hlive, htarget⟩
  · refine iff_of_false (fun ⟨fault, hfault⟩ => ?_) hside
    cases hok.symm.trans hfault

theorem ofSides_ok {key : ResourceKey} {live target : Option ResourceObject} {config : DriftConfig}
    {comparison : Comparison} (h : ofSides key live target config = .ok comparison) :
    comparison.normalized.map (·.document) = live.map (·.document.withoutIgnored key config) ∧
      comparison.predicted.map (·.document) = predictedOfSides key live target config := by
  rcases ofSides_cases key live target config with
    ⟨-, -, hfault⟩ | ⟨comparison', hok, hnormalized, hpredicted, -⟩
  · cases hfault.symm.trans h
  · cases hok.symm.trans h
    exact ⟨hnormalized, hpredicted⟩

end Comparison

theorem ResourceObject.exists_mapping {o : Option ResourceObject} {d : Document}
    (h : o.map (·.document) = some d) : ∃ fields, d = .mapping fields := by
  obtain ⟨o, -, rfl⟩ := Option.map_eq_some_iff.mp h
  exact ⟨o.fields, rfl⟩

namespace DiffAction

section Config

variable {a : DiffAction} {services : Services} {operation target pointer : String}
  {fault : DriftFault}

/-- The settings of the comparison are refused for a pointer. -/
theorem exists_refused_of_config
    (h : DetectionStage.config.failure? a services = some (.drift operation fault)) :
    operation = "failed to build diff config" ∧
      ∃ target pointer, a.Ignores services target pointer ∧ Pointer.Refused pointer ∧
        fault = DriftConfig.refusal target pointer := by
  obtain ⟨app, settings, _, happ, hsettings, hfault, heq⟩ := DetectionStage.failure?_config.mp h
  cases heq
  obtain ⟨target, pointer, hdeclares, hrefused, hfault⟩ := DriftConfig.build_error hfault
  exact ⟨rfl, target, pointer, ⟨app, settings, happ, hsettings, hdeclares⟩, hrefused, hfault⟩

theorem exists_config_of_refused (h : a.Ignores services target pointer)
    (hrefused : Pointer.Refused pointer) :
    ∃ fault, DetectionStage.config.failure? a services =
      some (.drift "failed to build diff config" fault) := by
  obtain ⟨app, settings, happ, hsettings, hdeclares⟩ := h
  obtain ⟨fault, hfault⟩ :=
    DriftConfig.exists_build_error_iff.mpr ⟨target, pointer, hdeclares, hrefused⟩
  exact ⟨fault, DetectionStage.failure?_config.mpr
    ⟨app, settings, fault, happ, hsettings, hfault, rfl⟩⟩

end Config

/-- A detection fails for the sake of the comparison only where its settings are built, and exactly
if some pointer to be ignored is refused.  The comparison itself fails exactly without sides, and
mappings come of it. -/
theorem drift_faults_exact (a : DiffAction) (services : Services) :
    (∀ operation fault, (a.run services).outcome = .error (.drift operation fault) →
      operation = "failed to build diff config" ∧
        ∃ target pointer, a.Ignores services target pointer ∧ Pointer.Refused pointer ∧
          fault = DriftConfig.refusal target pointer) ∧
    ((∃ operation fault, (a.run services).outcome = .error (.drift operation fault)) ↔
      a.ReachesConfig services ∧
        ∃ target pointer, a.Ignores services target pointer ∧ Pointer.Refused pointer) ∧
    ∀ key live target config,
      ((∃ fault, Comparison.ofSides key live target config = .error fault) ↔
        live = none ∧ target = none) ∧
      ∀ comparison, Comparison.ofSides key live target config = .ok comparison →
        comparison.normalized.map (·.document) =
            live.map (·.document.withoutIgnored key config) ∧
          comparison.predicted.map (·.document) =
            Comparison.predictedOfSides key live target config ∧
          ∀ d, live.map (·.document.withoutIgnored key config) = some d ∨
            Comparison.predictedOfSides key live target config = some d →
              ∃ fields, d = .mapping fields := by
  refine ⟨?_, ⟨?_, ?_⟩, ?_⟩
  · intro operation fault h
    exact exists_refused_of_config (outcome_run_drift_config.mp h).2
  · rintro ⟨operation, fault, h⟩
    obtain ⟨hreaches, hconfig⟩ := outcome_run_drift_config.mp h
    obtain ⟨-, target, pointer, hignores, hrefused, -⟩ := exists_refused_of_config hconfig
    exact ⟨hreaches, target, pointer, hignores, hrefused⟩
  · rintro ⟨hreaches, target, pointer, hignores, hrefused⟩
    obtain ⟨fault, hconfig⟩ := exists_config_of_refused hignores hrefused
    exact ⟨_, fault, outcome_run_drift_config.mpr ⟨hreaches, hconfig⟩⟩
  · intro key live target config
    refine ⟨Comparison.exists_ofSides_error_iff key live target config, fun comparison hok => ?_⟩
    obtain ⟨hnormalized, hpredicted⟩ := Comparison.ofSides_ok hok
    refine ⟨hnormalized, hpredicted, ?_⟩
    rw [← hnormalized, ← hpredicted]
    exact fun d hd => hd.elim ResourceObject.exists_mapping ResourceObject.exists_mapping

/-- A server whose settings ignore something that is no pointer. -/
def carelessServer : Services
  | .application .. => ⟨0, .ok shop⟩
  | .managedResources .. => ⟨0, .ok []⟩
  | .manifests .. => ⟨0, .ok []⟩
  | .settings => ⟨0, .ok ⟨"app", "", [("apps/Deployment", ⟨["spec/replicas"], [], []⟩)]⟩⟩
  | .sync .. => ⟨0, .ok ()⟩

theorem run_carelessServer :
    ∃ operation fault, (diffShop.run carelessServer).outcome = .error (.drift operation fault) := by
  have hreaches : diffShop.ReachesConfig carelessServer :=
    { inTime := ⟨.never, rfl, rfl⟩
      unfailed := by decide }
  have hrefused : Pointer.Refused "spec/replicas" :=
    Pointer.isAcceptable_eq_false_iff.mp (by decide)
  have hignores : diffShop.Ignores carelessServer "apps/Deployment" "spec/replicas" :=
    ⟨shop, _, rfl, rfl, .inr ⟨_, List.mem_cons_self, List.mem_cons_self⟩⟩
  exact (drift_faults_exact diffShop carelessServer).2.1.mpr ⟨hreaches, _, _, hignores, hrefused⟩

end DiffAction

end DeployDrift
