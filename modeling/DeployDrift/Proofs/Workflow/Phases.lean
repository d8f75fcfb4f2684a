import DeployDrift.Proofs.Drift.Detection
import DeployDrift.Proofs.Sync.Interleaving
import DeployDrift.Workflow

/-!
# What the phase tells

A failure has the phase `error` if nothing was asked of the server, and `failed` if something was.
The phase is read off the failure, which does not know of any calls; that it is right is shown of
each of the two actions: what can go wrong before the first call are faults of the action, and what
can go wrong from then on are not.
-/
namespace DeployDrift

namespace DriftReport

theorem phase_of_driftOf {config : DriftConfig} {key : ResourceKey} {sides : Sides}
    {failure : Failure} (h : driftOf config key sides = .error failure) :
    failure.phase = .failed := by
  unfold driftOf at h
  split at h
  · cases h
  · split at h
    · cases h
      rfl
    · split at h
      · cases h
      · split at h
        · cases h
        · cases h

theorem phase_of_driftOfAll {config : DriftConfig} {pairs : List (ResourceKey × Sides)}
    {failure : Failure} (h : driftOfAll config pairs = .error failure) :
    failure.phase = .failed := by
  induction pairs with
  | nil => cases h
  | cons e rest ih =>
    rw [driftOfAll] at h
    split at h
    next other hfirst =>
      cases h
      exact phase_of_driftOf hfirst
    next =>
      split at h
      next other hrest =>
        cases h
        exact ih hrest
      next => cases h

end DriftReport

namespace DiffAction

open DriftReport

/-- A result that is no failure before the server was asked. -/
def Attempted {β : Type} (outcome : Except Failure β) : Prop :=
  ∀ failure, outcome = .error failure → failure.phase = .failed

section Steps

variable {β : Type}

theorem attempted_error {failure : Failure} (h : failure.phase = .failed) :
    Attempted (.error failure : Except Failure β) := by
  intro other hother
  cases hother
  exact h

theorem ends_orFail {ε α : Type} {result : Except ε α} {failure : ε → Failure}
    {next : α → Program (Except Failure β)} (hfault : ∀ fault, (failure fault).phase = .failed)
    (hnext : ∀ a, (next a).Ends Attempted) : (orFail result failure next).Ends Attempted := by
  cases result with
  | error fault => exact .done (attempted_error (hfault fault))
  | ok a => exact hnext a

theorem ends_ask {c : Call} {operation : String} {next : c.Result → Program (Except Failure β)}
    (hnext : ∀ answer, (next answer).Ends Attempted) :
    (askOrFail c operation next).Ends Attempted :=
  .call fun _ => ends_orFail (fun _ => rfl) hnext

theorem ends_warn {condition : β → Prop} (messages : List String) {next : Program β}
    (h : next.Ends condition) : (warn messages next).Ends condition := by
  induction messages with
  | nil => exact h
  | cons message rest ih => exact .log ih

/-- Whatever the server answers, a failure of the detection has the phase `failed`. -/
theorem ends_program (a : DiffAction) : a.program.Ends Attempted := by
  unfold program
  refine ends_ask fun app => ends_ask fun resources => ends_orFail (fun _ => rfl) fun live => ?_
  refine ends_ask fun manifests => ends_orFail (fun _ => rfl) fun targets => ?_
  refine ends_warn _ (ends_orFail (fun _ => rfl) fun grouped => ends_ask fun settings => ?_)
  refine ends_warn _ (ends_orFail (fun _ => rfl) fun config => ends_warn _ (.done ?_))
  intro failure hfailure
  cases hdrifts : driftOfAll config (pairForDrift live grouped config.tracking a.app.name) with
  | error other =>
    rw [hdrifts] at hfailure
    cases hfailure
    exact phase_of_driftOfAll hdrifts
  | ok drifts =>
    rw [hdrifts] at hfailure
    cases hfailure

end Steps

/-- A detection fails either before its first call, for its timeout, or after it. -/
theorem phase_of_run {a : DiffAction} {services : Services} {failure : Failure}
    (h : (a.run services).outcome = .error failure) :
    failure.phase = .error ∧ (a.run services).calls = [] ∨
      failure.phase = .failed ∧ (a.run services).calls ≠ [] := by
  unfold run at h ⊢
  cases hstart : Deadline.start a.timeout with
  | error fault =>
    rw [hstart] at h
    cases h
    exact .inl ⟨rfl, rfl⟩
  | ok deadline =>
    rw [hstart] at h
    refine .inr ⟨?_, Program.calls_runWithin_call services deadline 0 _ _⟩
    cases hrun : (a.program.runWithin services deadline 0).outcome with
    | none =>
      simp only [hrun] at h
      cases h
      rfl
    | some outcome =>
      simp only [hrun] at h
      exact a.ends_program.outcome_runWithin services deadline hrun failure h

end DiffAction

namespace SyncBatch

/-- A batch that fails has an application, whose call was started. -/
theorem calls_of_conclude_error {apps : List AppRef} {options : List String} {calls : List Call}
    {failures : List String} (hcalls : calls.Perm (apps.map (·.syncCall options)))
    {failure : Failure} (h : (conclude apps calls failures).outcome = .error failure) :
    (∃ failures, failure = .sync failures) ∧ (conclude apps calls failures).calls ≠ [] := by
  obtain ⟨hsome, rfl⟩ := conclude_error h
  refine ⟨⟨failures, rfl⟩, fun hnil => ?_⟩
  rw [calls_conclude fun hempty => absurd hempty hsome] at hnil
  rw [hnil] at hcalls
  exact hsome (List.map_eq_nil_iff.mp hcalls.symm.eq_nil)

end SyncBatch

namespace SyncAction

/-- Whatever is refused before the first call gives the phase of an error. -/
theorem phase_of_prepare {a : SyncAction} {failure : Failure} (h : a.prepare = .error failure) :
    failure.phase = .error := by
  unfold prepare at h
  cases happs : decodeApps a.apps with
  | error fault =>
    rw [happs] at h
    cases h
    rfl
  | ok apps =>
    cases hoptions : decodeOptions a.options with
    | error fault =>
      rw [happs, hoptions] at h
      cases h
      rfl
    | ok options =>
      cases hdeadline : Deadline.start a.timeout with
      | error fault =>
        rw [happs, hoptions, hdeadline] at h
        cases h
        rfl
      | ok deadline =>
        rw [happs, hoptions, hdeadline] at h
        cases h

/-- A batch fails before any call, as an error, or after some, with the failures of its tasks. -/
theorem phase_of_run {a : SyncAction} {services : Services} {scheduler : Scheduler}
    {failure : Failure} (h : (a.run services scheduler).outcome = .error failure) :
    failure.phase = .error ∧ (a.run services scheduler).calls = [] ∨
      (∃ failures, failure = .sync failures) ∧ (a.run services scheduler).calls ≠ [] := by
  unfold run at h ⊢
  cases hprepare : a.prepare with
  | error fault =>
    rw [hprepare] at h
    cases h
    exact .inl ⟨phase_of_prepare hprepare, rfl⟩
  | ok prepared =>
    obtain ⟨apps, options, deadline⟩ := prepared
    rw [hprepare] at h
    have hcalls : (SyncBatch.atPlaces (apps.map (·.syncCall options))
        (scheduler apps.length).started).Perm (apps.map (·.syncCall options)) :=
      SyncBatch.atPlaces_perm (by simpa using (scheduler apps.length).started_perm)
    exact .inr (SyncBatch.calls_of_conclude_error hcalls h)

end SyncAction

namespace ActionSpec

theorem phase_inSync (failure : Failure) : (inSync failure).phase = failure.phase := by
  cases failure <;> rfl

variable {spec : ActionSpec} {services : Services} {scheduler : Scheduler} {failure : Failure}

/-- A failed action has the phase `error` and no call, or the phase `failed` and some call. -/
theorem phase_of_run (h : (spec.run services scheduler).outcome = .error failure) :
    failure.phase = .error ∧ (spec.run services scheduler).calls = [] ∨
      failure.phase = .failed ∧ (spec.run services scheduler).calls ≠ [] := by
  unfold run at h ⊢
  cases hroute : spec.route with
  | error fault =>
    rw [hroute] at h
    cases h
    exact .inl ⟨rfl, rfl⟩
  | ok action =>
    rw [hroute] at h
    cases action with
    | sync a =>
      dsimp only at h ⊢
      cases hrun : (a.run services scheduler).outcome with
      | ok done =>
        rw [hrun] at h
        cases h
      | error cause =>
        rw [hrun] at h
        cases h
        rw [phase_inSync]
        rcases SyncAction.phase_of_run hrun with hearly | ⟨⟨failures, rfl⟩, hcalls⟩
        · exact .inl hearly
        · exact .inr ⟨rfl, hcalls⟩
    | diff a =>
      dsimp only at h ⊢
      cases hrun : (a.run services).outcome with
      | ok report =>
        rw [hrun] at h
        cases h
      | error cause =>
        rw [hrun] at h
        cases h
        have hphase := DiffAction.phase_of_run hrun
        exact hphase

end ActionSpec

namespace Batch

/-- However the tasks of a batch interleave and are answered, one that fails has started a call. -/
theorem calls_of_result_error {b : Batch} {s : Snapshot} (h : Reaches b s) (hdone : s.Done b)
    {failure : Failure} (hfailure : (s.result b).outcome = .error failure) :
    (∃ failures, failure = .sync failures) ∧ (s.result b).calls ≠ [] := by
  exact SyncBatch.calls_of_conclude_error (h.calls_perm hdone) hfailure

end Batch

namespace TemplateRequest

/-- The request carries a block for this plugin that can be read and asks for an action. -/
def AsksFor (request : TemplateRequest) (spec : ActionSpec) : Prop :=
  ∃ plugin block, request.plugin = some plugin ∧ PluginBlock.shape.decode plugin = .ok block ∧
    (PluginBlock.ofDocument block).action = some spec

/-- What the reply to a request tells of the run behind it. -/
structure Told (request : TemplateRequest) (services : Services) (scheduler : Scheduler) :
    Prop where
  /-- The reply without a node is that to a request which no call was started for. -/
  unsupported : (request.execute services scheduler).outcome.node = none →
    (request.execute services scheduler).calls = []
  /-- The node has succeeded, with the output of the action, exactly if the action has. -/
  succeeded : ∀ output,
    (∃ node, (request.execute services scheduler).outcome.node = some node ∧
      node.phase = .succeeded ∧ node.outputs = some (some output)) ↔
    ∃ spec, request.AsksFor spec ∧ (spec.run services scheduler).outcome = .ok output
  /-- Any other node is without outputs, and its phase says whether a call was started. -/
  otherwise : ∀ node, (request.execute services scheduler).outcome.node = some node →
    (¬ ∃ spec output, request.AsksFor spec ∧ (spec.run services scheduler).outcome = .ok output) →
    node.outputs = none ∧
      (node.phase = .error ∧ (request.execute services scheduler).calls = [] ∨
        node.phase = .failed ∧ (request.execute services scheduler).calls ≠ [])
  /-- The calls are those of the action that is asked for. -/
  calls : ∀ spec, request.AsksFor spec →
    (request.execute services scheduler).calls = (spec.run services scheduler).calls

section Replies

variable {request : TemplateRequest} {spec : ActionSpec} {services : Services}
  {scheduler : Scheduler}

theorem execute_of_plugin {plugin : Document} (h : request.plugin = some plugin)
    (hnull : plugin ≠ .null) :
    request.execute services scheduler = executePlugin plugin services scheduler := by
  unfold execute
  rw [h]
  cases plugin with
  | null => exact absurd rfl hnull
  | _ => rfl

/-- Null is no block for this plugin. -/
theorem ne_null_of_decode {plugin block : Document}
    (h : PluginBlock.shape.decode plugin = .ok block) : plugin ≠ .null := by
  rintro rfl
  simp [PluginBlock.shape, Shape.decode, Shape.decodeWith] at h

theorem execute_of_done (h : request.AsksFor spec) {output : String}
    (hdone : (spec.run services scheduler).outcome = .ok output) :
    request.execute services scheduler =
      ⟨(spec.run services scheduler).calls, (spec.run services scheduler).log,
        .succeeded output⟩ := by
  obtain ⟨plugin, block, hplugin, hblock, haction⟩ := h
  rw [execute_of_plugin hplugin (ne_null_of_decode hblock)]
  simp only [executePlugin, hblock, haction, hdone]

theorem execute_of_failed (h : request.AsksFor spec) {failure : Failure}
    (hfailed : (spec.run services scheduler).outcome = .error failure) :
    request.execute services scheduler =
      ⟨(spec.run services scheduler).calls,
        (spec.run services scheduler).log ++
          LogEntry.errors ["Action failed: " ++ failure.message], .ofFailure failure⟩ := by
  obtain ⟨plugin, block, hplugin, hblock, haction⟩ := h
  rw [execute_of_plugin hplugin (ne_null_of_decode hblock)]
  simp only [executePlugin, hblock, haction, hfailed]

/-- The calls are those of the action. -/
theorem calls_execute (h : request.AsksFor spec) (services : Services) (scheduler : Scheduler) :
    (request.execute services scheduler).calls = (spec.run services scheduler).calls := by
  cases hrun : (spec.run services scheduler).outcome with
  | ok output => rw [execute_of_done h hrun]
  | error failure => rw [execute_of_failed h hrun]

theorem AsksFor.unique {other : ActionSpec} (h : request.AsksFor spec)
    (hother : request.AsksFor other) : other = spec := by
  obtain ⟨plugin, block, hplugin, hblock, haction⟩ := h
  obtain ⟨plugin', block', hplugin', hblock', haction'⟩ := hother
  cases hplugin.symm.trans hplugin'
  cases hblock.symm.trans hblock'
  exact Option.some.inj (haction'.symm.trans haction)

/-- Without an action there is no call; a block that cannot be read gives a node, null and the other
blocks give none. -/
theorem execute_of_no_action (h : ∀ spec, ¬ request.AsksFor spec) (services : Services)
    (scheduler : Scheduler) :
    (request.execute services scheduler).calls = [] ∧
      ((request.execute services scheduler).outcome = .unsupported ∨
        ∃ fault, (request.execute services scheduler).outcome = .error (.action fault)) := by
  unfold execute
  split
  next => exact ⟨rfl, .inl rfl⟩
  next => exact ⟨rfl, .inl rfl⟩
  next plugin _ hplugin =>
    unfold executePlugin
    split
    next mismatch => exact ⟨rfl, .inr ⟨_, rfl⟩⟩
    next block hblock =>
      split
      next => exact ⟨rfl, .inl rfl⟩
      next spec haction => exact absurd ⟨plugin, block, hplugin, hblock, haction⟩ (h spec)

/-- The reply to a failed action has a node without outputs in the phase of the failure. -/
theorem exists_node_ofFailure (failure : Failure) (h : failure.phase ≠ .succeeded) :
    ∃ node, (Reply.ofFailure failure).node = some node ∧ node.phase = failure.phase ∧
      node.outputs = none := by
  unfold Reply.ofFailure
  cases hphase : failure.phase with
  | succeeded => exact absurd hphase h
  | failed => exact ⟨_, rfl, rfl, rfl⟩
  | error => exact ⟨_, rfl, rfl, rfl⟩

/-- What is told of an action that is asked for. -/
theorem told_of_asksFor (h : request.AsksFor spec) : request.Told services scheduler := by
  cases hrun : (spec.run services scheduler).outcome with
  | ok output =>
    have hexecute := execute_of_done h hrun
    constructor
    case unsupported =>
      intro hnode
      rw [hexecute] at hnode
      cases hnode
    case succeeded =>
      intro other
      rw [hexecute]
      constructor
      · rintro ⟨node, hnode, -, houtputs⟩
        cases hnode
        cases houtputs
        exact ⟨spec, h, hrun⟩
      · rintro ⟨asked, hasked, hdone⟩
        rw [h.unique hasked, hrun] at hdone
        cases hdone
        exact ⟨_, rfl, rfl, rfl⟩
    case otherwise => exact fun node _ hfailed => absurd ⟨spec, output, h, hrun⟩ hfailed
    case calls =>
      intro asked hasked
      rw [h.unique hasked, calls_execute h]
  | error failure =>
    have hexecute := execute_of_failed h hrun
    have hphase := ActionSpec.phase_of_run hrun
    have hunfinished : failure.phase ≠ .succeeded := by
      rcases hphase with ⟨herror, -⟩ | ⟨hfailed, -⟩
      · simp [herror]
      · simp [hfailed]
    obtain ⟨told, htold, htoldPhase, houtputs⟩ := exists_node_ofFailure failure hunfinished
    constructor
    case unsupported =>
      intro hnode
      rw [hexecute] at hnode
      cases htold.symm.trans hnode
    case succeeded =>
      intro output
      rw [hexecute]
      constructor
      · rintro ⟨node, hnode, hsucceeded, -⟩
        cases htold.symm.trans hnode
        exact absurd (htoldPhase.symm.trans hsucceeded) hunfinished
      · rintro ⟨asked, hasked, hdone⟩
        rw [h.unique hasked, hrun] at hdone
        cases hdone
    case otherwise =>
      intro node hnode _
      rw [hexecute] at hnode ⊢
      cases htold.symm.trans hnode
      rw [htoldPhase]
      exact ⟨houtputs, hphase⟩
    case calls =>
      intro asked hasked
      rw [h.unique hasked, calls_execute h]

/-- A request without an action is answered without a call. -/
theorem told_of_no_action (h : ∀ spec, ¬ request.AsksFor spec) :
    request.Told services scheduler := by
  obtain ⟨hcalls, hreply⟩ := execute_of_no_action h services scheduler
  constructor
  case unsupported => exact fun _ => hcalls
  case succeeded =>
    intro output
    constructor
    · rintro ⟨node, hnode, hsucceeded, -⟩
      rcases hreply with hreply | ⟨fault, hreply⟩
      · rw [hreply] at hnode
        cases hnode
      · rw [hreply] at hnode
        cases hnode
        cases hsucceeded
    · rintro ⟨spec, hasked, -⟩
      exact absurd hasked (h spec)
  case otherwise =>
    intro node hnode _
    rcases hreply with hreply | ⟨fault, hreply⟩
    · rw [hreply] at hnode
      cases hnode
    · rw [hreply] at hnode
      cases hnode
      exact ⟨rfl, .inl ⟨rfl, hcalls⟩⟩
  case calls => exact fun spec hasked => absurd hasked (h spec)

end Replies

end TemplateRequest

/-- The phase of a failed action says whether a call was started, however the server answers and
however long it takes, also where the tasks of a batch are answered each on its own.  So does the
phase of the node that a reply has, unless the action has succeeded. -/
theorem phases_exact :
    (∀ (spec : ActionSpec) (services : Services) (scheduler : Scheduler) (failure : Failure),
      (spec.run services scheduler).outcome = .error failure →
        ((spec.run services scheduler).calls = [] → failure.phase = .error) ∧
        ((spec.run services scheduler).calls ≠ [] → failure.phase = .failed)) ∧
    (∀ (b : Batch) (s : Batch.Snapshot), Batch.Reaches b s → s.Done b → ∀ failure : Failure,
      (s.result b).outcome = .error failure →
        (s.result b).calls ≠ [] ∧ (ActionSpec.inSync failure).phase = .failed) ∧
    ∀ (request : TemplateRequest) (services : Services) (scheduler : Scheduler),
      request.Told services scheduler := by
  refine ⟨?_, ?_, ?_⟩
  · intro spec services scheduler failure hfailure
    rcases ActionSpec.phase_of_run hfailure with ⟨hphase, hnone⟩ | ⟨hphase, hsome⟩
    · exact ⟨fun _ => hphase, fun hsome => absurd hnone hsome⟩
    · exact ⟨fun hnone => absurd hnone hsome, fun _ => hphase⟩
  · intro b s hreaches hdone failure hfailure
    obtain ⟨⟨failures, rfl⟩, hcalls⟩ := Batch.calls_of_result_error hreaches hdone hfailure
    exact ⟨hcalls, rfl⟩
  · intro request services scheduler
    by_cases hasks : ∃ spec, request.AsksFor spec
    · obtain ⟨spec, hspec⟩ := hasks
      exact TemplateRequest.told_of_asksFor hspec
    · exact TemplateRequest.told_of_no_action fun spec hspec => hasks ⟨spec, hspec⟩

section Unreachable

/-- A server that does not answer. -/
def unreachableServer : Services := fun _ => ⟨3, .error (.unreachable "connection refused")⟩

/-- A block that asks for the drift of an application. -/
def shopPlugin : Document :=
  .ofFields [("argocd", .ofFields [("app", .ofFields [("diff", .ofFields
    [("app", .ofFields [("name", .text "shop")])])])])]

/-- A request with the block. -/
def shopRequest : TemplateRequest := ⟨"nightly", "argo", "drift", some shopPlugin⟩

/-- What the request asks for. -/
def shopSpec : ActionSpec := ⟨some ⟨none, some ⟨⟨"shop", ""⟩, "", false, false, ""⟩⟩, ""⟩

theorem decode_shopPlugin : PluginBlock.shape.decode shopPlugin =
    .ok (.ofFields [("argocd", .ofFields [("app", .ofFields [("sync", .null),
      ("diff", .ofFields [("app", .ofFields [("name", .text "shop"), ("namespace", .text "")]),
        ("revision", .text ""), ("refresh", .bool false), ("hardRefresh", .bool false),
        ("timeout", .text "")])]), ("timeout", .text "")])]) := by
  have hplugin : shopPlugin = .mapping [("argocd", .mapping [("app", .mapping [("diff",
      .mapping [("app", .mapping [("name", .text "shop")])])])])] := rfl
  simp [hplugin, PluginBlock.shape, ActionSpec.shape, AppActions.shape, DiffAction.shape,
    AppRef.shape, Shape.decode, Shape.decodeWith, Shape.decodeByName, Shape.decodeByName_cons,
    Shape.complete, Shape.blank, Slot.answersTo, List.lookup_cons, bind, Except.bind]

theorem asksFor_shop : shopRequest.AsksFor shopSpec :=
  ⟨shopPlugin, _, rfl, decode_shopPlugin, by decide⟩

/-- With a timeout that is no duration nothing is asked; without one the server is asked in vain, and
the node says so.  A batch with a task that is refused and one that is too slow has failed. -/
theorem phases_unreachable :
    (∃ failure, (ActionSpec.run { shopSpec with timeout := "-1s" } unreachableServer
        Schedule.inOrder).outcome = .error failure ∧ failure.phase = .error) ∧
      (∃ failure, (shopSpec.run unreachableServer Schedule.inOrder).outcome = .error failure ∧
        failure.phase = .failed) ∧
      (∃ node, (shopRequest.execute unreachableServer Schedule.inOrder).outcome.node = some node ∧
        node.phase = .failed ∧ node.outputs = none) ∧
      ∃ s, Batch.Reaches Batch.shopTwice s ∧ s.Done Batch.shopTwice ∧
        (s.result Batch.shopTwice).calls ≠ [] := by
  obtain ⟨hphase, hbatch, htold⟩ := phases_exact
  have hcalls : (shopSpec.run unreachableServer Schedule.inOrder).calls ≠ [] := by decide
  refine ⟨⟨_, rfl, ?_⟩, ⟨_, rfl, ?_⟩, ?_, ?_⟩
  · exact (hphase { shopSpec with timeout := "-1s" } unreachableServer Schedule.inOrder _ rfl).1 rfl
  · exact (hphase shopSpec unreachableServer Schedule.inOrder _ rfl).2 hcalls
  · have hshop := htold shopRequest unreachableServer Schedule.inOrder
    have hreply : (shopRequest.execute unreachableServer Schedule.inOrder).outcome =
        .ofFailure (.within "failed to diff app"
          (.remote "failed to get application" (.unreachable "connection refused"))) := by
      rw [TemplateRequest.execute_of_failed asksFor_shop rfl]
    obtain ⟨node, hnode, hfailed, -⟩ := TemplateRequest.exists_node_ofFailure
      (.within "failed to diff app"
        (.remote "failed to get application" (.unreachable "connection refused"))) (by decide)
    rw [← hreply] at hnode
    have hunfinished : ¬ ∃ spec output, shopRequest.AsksFor spec ∧
        (spec.run unreachableServer Schedule.inOrder).outcome = .ok output := by
      rintro ⟨spec, output, hasked, hdone⟩
      rw [asksFor_shop.unique hasked] at hdone
      cases hdone
    exact ⟨node, hnode, hfailed, (hshop.otherwise node hnode hunfinished).1⟩
  · obtain ⟨s, hreaches, hdone, -, -, hfailures⟩ := Batch.exists_execution_shopTwice
    have hfailed : (s.result Batch.shopTwice).outcome = .error (.sync s.failures) := by
      rw [Batch.Snapshot.result, hfailures]
      rfl
    exact ⟨s, hreaches, hdone, (hbatch _ s hreaches hdone _ hfailed).1⟩

end Unreachable

end DeployDrift
