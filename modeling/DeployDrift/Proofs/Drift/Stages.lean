import DeployDrift.Proofs.Drift.Exactness

/-!
# The stages of a detection

A detection asks four things of the server, and works on what it is told before it asks on.  The
first stage that fails decides the outcome, and no call of a later stage is started; if none fails
there is a report on all that has drifted.  A deadline cuts the run short where it is, and what comes
of it then is no report and no other failure.
-/
namespace DeployDrift

/-- The failure that a fault means, where there is one. -/
def failureOf {ε α : Type} (result : Except ε α) (failure : ε → Failure) : Option Failure :=
  match result with
  | .ok _ => none
  | .error fault => some (failure fault)

/-- The stages of a detection. -/
inductive DetectionStage where
  | application
  | managedResources
  /-- Reading the live states of the managed resources. -/
  | liveObjects
  | manifests
  /-- Reading the manifests. -/
  | targets
  | grouping
  | settings
  /-- Building the settings of the comparison. -/
  | config
  deriving DecidableEq, Repr

namespace DetectionStage

/-- The stages in the order in which they are passed. -/
def all : List DetectionStage :=
  [.application, .managedResources, .liveObjects, .manifests, .targets, .grouping, .settings,
    .config]

/-- The call of a stage that asks the server. -/
def call? (a : DiffAction) : DetectionStage → Option Call
  | .application =>
    some (.application a.app.name a.app.namespace (Refresh.ofFlags a.refresh a.hardRefresh))
  | .managedResources => some (.managedResources a.app.name a.app.namespace)
  | .manifests => some (.manifests a.app.name a.app.namespace a.revision)
  | .settings => some .settings
  | .liveObjects | .targets | .grouping | .config => none

section Failures

variable (a : DiffAction) (services : Services)

/-- What the server says of the application. -/
def app? : Option Application :=
  (services (.application a.app.name a.app.namespace
    (Refresh.ofFlags a.refresh a.hardRefresh))).outcome.toOption

/-- What is read from the states of the managed resources. -/
def records? : Option (Except ResourceFault (List LiveRecord)) :=
  (services (.managedResources a.app.name a.app.namespace)).outcome.toOption.map liveRecords

/-- What is read from the manifests. -/
def targets? : Option (Except ResourceFault (List ResourceObject)) :=
  (services (.manifests a.app.name a.app.namespace a.revision)).outcome.toOption.map
    DriftReport.targetsOf

/-- The failure of a stage, on what the stages before it have found; a stage that lacks any of this
does not fail itself. -/
def failure? : DetectionStage → Option Failure
  | .application =>
    failureOf (services (.application a.app.name a.app.namespace
      (Refresh.ofFlags a.refresh a.hardRefresh))).outcome (.remote "failed to get application")
  | .managedResources =>
    failureOf (services (.managedResources a.app.name a.app.namespace)).outcome
      (.remote "failed to get managed resources for app")
  | .liveObjects => do
    failureOf (← records? a services) (.resource "failed to get live objects")
  | .manifests =>
    failureOf (services (.manifests a.app.name a.app.namespace a.revision)).outcome
      (.remote "failed to get manifests for app")
  | .targets => do
    failureOf (← targets? a services) (.resource "failed to unmarshal manifest to unstructured")
  | .grouping => do
    let records ← (← records? a services).toOption
    let targets ← (← targets? a services).toOption
    failureOf
      (groupByKey targets (records.filterMap (·.2)) (← app? a services).destinationNamespace)
      (.resource "failed to group objects by key")
  | .settings =>
    failureOf (services .settings).outcome (.remote "failed to get argo settings")
  | .config => do
    failureOf
      (DriftReport.configFor (← app? a services) (← (services .settings).outcome.toOption))
      (.drift "failed to build diff config")

end Failures

end DetectionStage

namespace DiffAction

open DriftReport

/-- The run from one stage on: the calls it starts and what it comes to.  It ends with the first
stage that fails, or with a report. -/
inductive Passes (a : DiffAction) (services : Services) :
    List DetectionStage → List Call → Except Failure DriftReport → Prop
  | reported (report : DriftReport) : Passes a services [] [] (.ok report)
  | stopped {stage : DetectionStage} {failure : Failure} (rest : List DetectionStage)
      (h : stage.failure? a services = some failure) :
      Passes a services (stage :: rest) (stage.call? a).toList (.error failure)
  | passed {stage : DetectionStage} {rest : List DetectionStage} {calls : List Call}
      {outcome : Except Failure DriftReport} (h : stage.failure? a services = none)
      (hrest : Passes a services rest calls outcome) :
      Passes a services (stage :: rest) ((stage.call? a).toList ++ calls) outcome

/-- A program that goes through stages. -/
def PassesProgram (a : DiffAction) (services : Services) (stages : List DetectionStage)
    (p : Program (Except Failure DriftReport)) : Prop :=
  a.Passes services stages (p.run services).calls (p.run services).outcome

section Steps

variable {a : DiffAction} {services : Services} {stage : DetectionStage}
  {rest : List DetectionStage}

/-- A stage that asks nothing passes or fails as its result does. -/
theorem passesProgram_orFail {ε α : Type} {result : Except ε α} {failure : ε → Failure}
    {next : α → Program (Except Failure DriftReport)} (hcall : stage.call? a = none)
    (hfailure : stage.failure? a services = failureOf result failure)
    (hnext : ∀ x, result = .ok x → a.PassesProgram services rest (next x)) :
    a.PassesProgram services (stage :: rest) (orFail result failure next) := by
  cases result with
  | error fault =>
    have hstopped := Passes.stopped rest hfailure
    rw [hcall] at hstopped
    exact hstopped
  | ok x =>
    have hpassed := Passes.passed hfailure (hnext x rfl)
    rw [hcall] at hpassed
    exact hpassed

/-- A stage that asks the server passes or fails as the answer does. -/
theorem passesProgram_ask {c : Call} {operation : String}
    {next : c.Result → Program (Except Failure DriftReport)} (hcall : stage.call? a = some c)
    (hfailure : stage.failure? a services = failureOf (services c).outcome (.remote operation))
    (hnext : ∀ x, (services c).outcome = .ok x → a.PassesProgram services rest (next x)) :
    a.PassesProgram services (stage :: rest) (askOrFail c operation next) := by
  unfold PassesProgram askOrFail
  rw [Program.run]
  cases hresult : (services c).outcome with
  | error fault =>
    rw [hresult] at hfailure
    have hstopped := Passes.stopped rest hfailure
    rw [hcall] at hstopped
    exact hstopped
  | ok x =>
    rw [hresult] at hfailure
    have hpassed := Passes.passed hfailure (hnext x hresult)
    rw [hcall] at hpassed
    exact hpassed

theorem passesProgram_warn (messages : List String) {next : Program (Except Failure DriftReport)}
    (h : a.PassesProgram services rest next) :
    a.PassesProgram services rest (warn messages next) := by
  induction messages with
  | nil => exact h
  | cons message messages ih => exact ih

/-- The detection goes through all stages in order. -/
theorem passesProgram_program (a : DiffAction) (services : Services) :
    a.PassesProgram services DetectionStage.all a.program := by
  refine passesProgram_ask rfl rfl fun app happ => ?_
  refine passesProgram_ask rfl rfl fun resources hresources => ?_
  have hrecords : DetectionStage.records? a services = some (liveRecords resources) := by
    rw [DetectionStage.records?, hresources]
    rfl
  refine passesProgram_orFail rfl (by rw [DetectionStage.failure?, hrecords]; rfl)
    fun records hlive => ?_
  refine passesProgram_ask rfl rfl fun manifests hmanifests => ?_
  have htargets : DetectionStage.targets? a services = some (targetsOf manifests) := by
    rw [DetectionStage.targets?, hmanifests]
    rfl
  refine passesProgram_orFail rfl (by rw [DetectionStage.failure?, htargets]; rfl)
    fun targets hread => passesProgram_warn _ ?_
  have happ : DetectionStage.app? a services = some app := by
    rw [DetectionStage.app?, happ]
    rfl
  refine passesProgram_orFail rfl
    (by rw [DetectionStage.failure?, hrecords, htargets, happ, hlive, hread]; rfl)
    fun grouped hgrouped => ?_
  refine passesProgram_ask rfl rfl fun settings hsettings => passesProgram_warn _ ?_
  refine passesProgram_orFail rfl (by rw [DetectionStage.failure?, happ, hsettings]; rfl)
    fun config hconfig => passesProgram_warn _ ?_
  -- whatever is compared has a side, so nothing is left to fail
  have hsorted : Table.Sorted grouped := by
    obtain ⟨entries, -, rfl⟩ := exists_of_map_ok hgrouped
    exact Table.sorted_ofList entries
  obtain ⟨drifts, hdrifts⟩ := exists_driftOfAll config
    fun e (he : e ∈ pairForDrift records grouped config.tracking a.app.name) =>
      (of_mem_pairForDrift hsorted he).1
  rw [hdrifts]
  exact .reported ⟨a.app.name, drifts⟩

end Steps

section Outcomes

variable {a : DiffAction} {services : Services} {stages : List DetectionStage} {calls : List Call}
  {outcome : Except Failure DriftReport}

theorem filterMap_call?_cons (stage : DetectionStage) (rest : List DetectionStage) :
    (stage :: rest).filterMap (·.call? a) =
      (stage.call? a).toList ++ rest.filterMap (·.call? a) := by
  rw [List.filterMap_cons]
  cases stage.call? a with
  | none => rfl
  | some c => rfl

/-- The calls made are the first ones of those that the stages ask for. -/
theorem Passes.calls_initial (h : a.Passes services stages calls outcome) :
    calls <+: stages.filterMap (·.call? a) := by
  induction h with
  | reported report => exact List.nil_prefix
  | stopped rest hstage =>
    rw [filterMap_call?_cons]
    exact List.prefix_append _ _
  | passed hstage hrest ih =>
    rw [filterMap_call?_cons]
    exact (List.prefix_append_right_inj _).mpr ih

/-- The first stage that fails decides the outcome, and no call comes after its own. -/
theorem Passes.of_first_failure {before after : List DetectionStage} {stage : DetectionStage}
    {failure : Failure} (h : a.Passes services (before ++ stage :: after) calls outcome)
    (hbefore : ∀ s ∈ before, s.failure? a services = none)
    (hstage : stage.failure? a services = some failure) :
    outcome = .error failure ∧ calls = (before ++ [stage]).filterMap (·.call? a) := by
  induction before generalizing calls with
  | nil =>
    rw [List.nil_append, filterMap_call?_cons, List.filterMap_nil, List.append_nil]
    cases h with
    | stopped _ hstopped =>
      cases hstage.symm.trans hstopped
      exact ⟨rfl, rfl⟩
    | passed hpassed _ => cases hstage.symm.trans hpassed
  | cons s before ih =>
    obtain ⟨hs, hbefore⟩ := List.forall_mem_cons.mp hbefore
    rw [List.cons_append, filterMap_call?_cons]
    cases h with
    | stopped _ hstopped => cases hs.symm.trans hstopped
    | passed _ hrest =>
      obtain ⟨houtcome, rfl⟩ := ih hrest hbefore
      exact ⟨houtcome, rfl⟩

/-- If no stage fails, all calls are made, and there is a report. -/
theorem Passes.of_no_failure (h : a.Passes services stages calls outcome)
    (hnone : ∀ s ∈ stages, s.failure? a services = none) :
    (∃ report, outcome = .ok report) ∧ calls = stages.filterMap (·.call? a) := by
  induction h with
  | reported report => exact ⟨⟨report, rfl⟩, rfl⟩
  | stopped rest hstage => cases hstage.symm.trans (hnone _ List.mem_cons_self)
  | passed hstage hrest ih =>
    obtain ⟨hreport, rfl⟩ := ih fun s hs => hnone s (List.mem_cons_of_mem _ hs)
    rw [filterMap_call?_cons]
    exact ⟨hreport, rfl⟩

end Outcomes

/-- The calls of a detection that nothing stops. -/
def callOrder (a : DiffAction) : List Call := [
  .application a.app.name a.app.namespace (Refresh.ofFlags a.refresh a.hardRefresh),
  .managedResources a.app.name a.app.namespace,
  .manifests a.app.name a.app.namespace a.revision,
  .settings]

theorem nodup_callOrder (a : DiffAction) : a.callOrder.Nodup := by
  simp [callOrder]

theorem not_sync_of_mem_callOrder {a : DiffAction} {c : Call} (h : c ∈ a.callOrder)
    (name ns : String) (options : List String) : c ≠ .sync name ns options := by
  rintro rfl
  simp [callOrder] at h

/-- The action without a timeout. -/
def unbounded (a : DiffAction) : DiffAction := { a with timeout := "" }

section Deadlines

variable {a : DiffAction} {services : Services} {deadline : Deadline}

theorem run_unbounded : a.unbounded.run services = a.program.run services := by
  have hstart : Deadline.start a.unbounded.timeout = .ok .never := rfl
  exact run_of_allowed a.unbounded hstart rfl

theorem calls_run (hstart : Deadline.start a.timeout = .ok deadline) :
    (a.run services).calls = (a.program.runWithin services deadline 0).calls := by
  rw [run, hstart]

theorem calls_run_initial (hstart : Deadline.start a.timeout = .ok deadline) :
    (a.run services).calls <+: a.callOrder := by
  rw [calls_run hstart]
  exact (Program.calls_runWithin_initial services a.program 0).trans
    (passesProgram_program a services).calls_initial

theorem outcome_run_of_late {limit : Duration} (hstart : Deadline.start a.timeout = .ok ⟨some limit⟩)
    (hlate : ¬ Deadline.allows ⟨some limit⟩ (a.program.duration services) = true) :
    (a.run services).outcome = .error (.deadlineExceeded "timed out diffing app" limit) := by
  rw [← Nat.zero_add (a.program.duration services)] at hlate
  have hnow : Deadline.allows ⟨some limit⟩ 0 = true := Deadline.allows_iff.mpr (.inl rfl)
  rw [run, hstart]
  dsimp only
  rw [Program.outcome_runWithin_of_late services a.program hnow hlate]
  rfl

end Deadlines

/-- What a detection does under a deadline, and what comes of it. -/
structure AllOrNothing (a : DiffAction) (services : Services) (deadline : Deadline) : Prop where
  ordered : (a.run services).calls <+: a.callOrder
  once : (a.run services).calls.Nodup
  unsynced : ∀ c ∈ (a.run services).calls, ∀ name ns options, c ≠ .sync name ns options
  /-- Without a deadline the first failure is the outcome. -/
  failed : ∀ before stage after failure, DetectionStage.all = before ++ stage :: after →
    (∀ s ∈ before, s.failure? a services = none) → stage.failure? a services = some failure →
      (a.unbounded.run services).outcome = .error failure ∧
        (a.unbounded.run services).calls = (before ++ [stage]).filterMap (·.call? a)
  /-- Without a failure everything is answered, and the report on it is complete. -/
  reported : (∀ s ∈ DetectionStage.all, s.failure? a services = none) →
    Nonempty (Answers a services) ∧ ∃ report,
      (a.unbounded.run services).outcome = .ok report ∧
        (a.unbounded.run services).calls = a.callOrder ∧
        ∀ answers : Answers a services, answers.Complete report
  /-- A deadline that is met makes no difference. -/
  inTime : deadline.Follows (totalDelay services (a.unbounded.run services).calls) →
    a.run services = a.unbounded.run services
  /-- One that is not leaves the calls that were started by then, and no other outcome. -/
  late : ∀ limit, deadline.timeout = some limit →
    limit.nanos < totalDelay services (a.unbounded.run services).calls →
      (a.run services).outcome = .error (.deadlineExceeded "timed out diffing app" limit) ∧
        (a.run services).calls = startedBy services limit.nanos (a.unbounded.run services).calls

/-- A detection makes its calls in one order, and comes to the first failure, to a complete report or
to the end of its time. -/
theorem run_allOrNothing (a : DiffAction) (services : Services) {deadline : Deadline}
    (hstart : Deadline.start a.timeout = .ok deadline)
    (havoids : ∀ e ∈ startTimes services 0 (a.unbounded.run services).calls,
      deadline.Avoids (e.1 + (services e.2).delay)) :
    a.AllOrNothing services deadline := by
  have hpasses : a.Passes services DetectionStage.all (a.program.run services).calls
      (a.program.run services).outcome := passesProgram_program a services
  have hinitial : (a.run services).calls <+: a.callOrder := calls_run_initial hstart
  rw [run_unbounded] at havoids
  constructor
  case ordered => exact hinitial
  case once => exact hinitial.sublist.nodup a.nodup_callOrder
  case unsynced => exact fun c hc => not_sync_of_mem_callOrder (hinitial.subset hc)
  case failed =>
    intro before stage after failure hall hbefore hstage
    rw [hall] at hpasses
    rw [run_unbounded]
    exact hpasses.of_first_failure hbefore hstage
  case reported =>
    intro hnone
    obtain ⟨⟨report, hreport⟩, hcalls⟩ := hpasses.of_no_failure hnone
    rw [run_unbounded]
    exact ⟨Answers.exists_of_outcome hreport, report, hreport, hcalls,
      fun answers => Answers.complete_of_outcome hreport⟩
  case inTime =>
    intro hfollows
    rw [run_unbounded] at hfollows ⊢
    rw [← Program.duration_eq] at hfollows
    exact run_of_allowed a hstart (Deadline.allows_iff.mpr (.inr hfollows))
  case late =>
    intro limit hlimit hlate
    obtain rfl : deadline = ⟨some limit⟩ := congrArg Deadline.mk hlimit
    rw [run_unbounded] at hlate ⊢
    constructor
    · refine outcome_run_of_late hstart ?_
      rw [Program.duration_eq, Deadline.allows_iff, Deadline.follows_some_iff]
      omega
    · have hnow : Deadline.allows ⟨some limit⟩ 0 = true := Deadline.allows_iff.mpr (.inl rfl)
      rw [calls_run hstart, Program.calls_runWithin services a.program hnow, startedBy]
      congr 1
      refine List.filter_congr fun e he => ?_
      rw [Bool.eq_iff_iff, decide_eq_true_iff]
      exact allows_startTime_iff havoids he

section Timely

/-- A server that tells of `shop` and takes two nanoseconds for each answer. -/
def slowServer (resources : List ManagedResource) (manifests : Except ServerFault (List String)) :
    Services
  | .application _ _ _ => ⟨2, .ok shop⟩
  | .managedResources _ _ => ⟨2, .ok resources⟩
  | .manifests _ _ _ => ⟨2, manifests⟩
  | .settings => ⟨2, .ok shopSettings⟩
  | .sync _ _ _ => ⟨2, .ok ()⟩

def hastyShop : DiffAction := { diffShop with timeout := "5ns" }

def patientShop : DiffAction := { diffShop with timeout := "9ns" }

/-- A resource whose live state ends in the middle. -/
def tornRecord : ManagedResource := ⟨"", "ConfigMap", "prod", "torn", "", "\x7b", ""⟩

/-- A manifest that describes no resource. -/
def listManifest : String := "[]"

/-- The server after the application has drifted. -/
def slowDrift : Services := slowServer driftingRecords (.ok driftingManifests)

/-- What the server says, as it is read. -/
def slowAnswers : Answers patientShop slowDrift where
  app := shop
  resources := driftingRecords
  records := driftingAnswers.records
  liveKeys := driftingAnswers.liveKeys
  manifests := driftingManifests
  declarations := driftingAnswers.declarations
  settings := shopSettings
  config := shopConfig
  application := rfl
  managed := rfl
  decoded := liveRecords_drifting
  embedded := keysOf_drifting
  rendered := rfl
  readable := targetsOf_drifting
  known := rfl
  accepted := driftingAnswers.accepted

/-- Five nanoseconds end in the middle of the third call.  Nine are enough for a report on what has
drifted, and for the first failure: that of a live state comes before that of a manifest, although
neither can be read. -/
theorem run_allOrNothing_shop :
    (hastyShop.run slowDrift).outcome =
        .error (.deadlineExceeded "timed out diffing app" ⟨5⟩) ∧
      (hastyShop.run slowDrift).calls = diffShop.callOrder.take 3 ∧
      (∃ report, (patientShop.run slowDrift).outcome = .ok report ∧ report.app = "shop" ∧
        orphanKey ∈ report.resources.map (·.key) ∧ modeKey ∈ report.resources.map (·.key) ∧
        migrationKey ∉ report.resources.map (·.key)) ∧
      (patientShop.run (slowServer driftingRecords (.ok [listManifest]))).outcome =
        .error (.resource "failed to unmarshal manifest to unstructured"
          (.notAMapping "sequence")) ∧
      (patientShop.run (slowServer driftingRecords (.ok [listManifest]))).calls =
        diffShop.callOrder.take 3 ∧
      (patientShop.run (slowServer [tornRecord] (.ok [listManifest]))).outcome =
        .error (.resource "failed to get live objects"
          (.unreadable "EOF while parsing an object at line 1 column 1")) ∧
      (patientShop.run (slowServer [tornRecord] (.ok [listManifest]))).calls =
        diffShop.callOrder.take 2 := by
  have hfive : Deadline.start hastyShop.timeout = .ok ⟨some ⟨5⟩⟩ :=
    eq_ok_of_toOption (by decide +kernel)
  have hnine : Deadline.start patientShop.timeout = .ok ⟨some ⟨9⟩⟩ :=
    eq_ok_of_toOption (by decide +kernel)
  have hhasty := run_allOrNothing hastyShop slowDrift hfive
    fun e he => Deadline.avoids_some_iff.mpr (by revert e; decide +kernel)
  have hpatient := run_allOrNothing patientShop slowDrift hnine
    fun e he => Deadline.avoids_some_iff.mpr (by revert e; decide +kernel)
  have hlisted := run_allOrNothing patientShop (slowServer driftingRecords (.ok [listManifest]))
    hnine fun e he => Deadline.avoids_some_iff.mpr (by revert e; decide +kernel)
  have htorn := run_allOrNothing patientShop (slowServer [tornRecord] (.ok [listManifest]))
    hnine fun e he => Deadline.avoids_some_iff.mpr (by revert e; decide +kernel)
  have hlate := hhasty.late ⟨5⟩ rfl (by decide +kernel)
  have htarget := hlisted.failed [.application, .managedResources, .liveObjects, .manifests] .targets
    [.grouping, .settings, .config]
    (.resource "failed to unmarshal manifest to unstructured" (.notAMapping "sequence")) rfl
    (by decide +kernel) (by decide +kernel)
  have hlive := htorn.failed [.application, .managedResources] .liveObjects
    [.manifests, .targets, .grouping, .settings, .config]
    (.resource "failed to get live objects"
      (.unreadable "EOF while parsing an object at line 1 column 1")) rfl
    (by decide +kernel) (by decide +kernel)
  refine ⟨hlate.1, ?_, ?_, ?_⟩
  · rw [hlate.2]
    decide +kernel
  · obtain ⟨-, report, houtcome, hcalls, hcomplete⟩ := hpatient.reported (by decide +kernel)
    have hreport := hcomplete slowAnswers
    refine ⟨report, ?_, hreport.app, ?_, ?_, ?_⟩
    · rw [hpatient.inTime (Deadline.follows_some_iff.mpr (by rw [hcalls]; decide +kernel))]
      exact houtcome
    · have hfound : slowAnswers.found orphanKey = ⟨some orphan, none⟩ := by decide +kernel
      rw [hreport.reported_iff_found, hfound]
      exact ⟨by decide, by decide, trivial⟩
    · have hfound : slowAnswers.found modeKey =
          ⟨some unmarkedMode, some (shopPlacement.expected shopMode.own shopTarget)⟩ := by
        decide +kernel
      rw [hreport.reported_iff_found, hfound]
      exact ⟨by decide, by decide +kernel, _, Comparison.ofSides_both _ _ _ _, by decide +kernel⟩
    · rw [hreport.reported]
      rintro ⟨-, -, hdeclared, -⟩
      have hhook : migration.isHook = false := hdeclared ⟨migration, _, _⟩ (by decide +kernel) rfl
      revert hhook
      decide
  · rw [hlisted.inTime (Deadline.follows_some_iff.mpr (by rw [htarget.2]; decide +kernel)),
      htorn.inTime (Deadline.follows_some_iff.mpr (by rw [hlive.2]; decide +kernel))]
    refine ⟨htarget.1, ?_, hlive.1, ?_⟩
    · rw [htarget.2]
      rfl
    · rw [hlive.2]
      rfl

end Timely

end DiffAction
end DeployDrift
