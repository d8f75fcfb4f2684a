import DeployDrift.Action
import DeployDrift.Drift.Report

/-!
# From the server to a report

What the server tells is paired by resource, and the pairs are compared.
-/
namespace DeployDrift

/-!
## Pairing live objects with targets

Every record of a managed resource takes the target under its key with it; targets that no record
takes stand alone.  Secrets of the core group are dropped from both sides, and so are records with
neither a live object nor a target.  Targets other than definitions of custom resources are stamped.
-/

/-- The two sides of a comparison. -/
structure Sides where
  live : Option ResourceObject
  target : Option ResourceObject
  deriving DecidableEq

namespace Sides

/-- One of the sides is a lifecycle hook. -/
def isHook (s : Sides) : Bool := s.live.any (·.isHook) || s.target.any (·.isHook)

/-- The sides with the target marked as belonging to the application. -/
def stamp (tracking : Tracking) (app : String) (key : ResourceKey) (s : Sides) : Sides :=
  if key.isDefinition then s else { s with target := s.target.map (tracking.stamp app key) }

end Sides

/-- A live object under the key of its record; absent where the resource is not deployed. -/
abbrev LiveRecord := ResourceKey × Option ResourceObject

def ManagedResource.key (r : ManagedResource) : ResourceKey :=
  ⟨r.group, r.kind, r.namespace, r.name⟩

/-- The live objects of managed resources; the first unreadable one decides the fault. -/
def liveRecords (resources : List ManagedResource) : Except ResourceFault (List LiveRecord) :=
  resources.mapM fun r => (r.key, ·) <$> ResourceObject.ofLiveState r.effectiveLiveState

/-- What is paired so far, and the targets that no record has taken yet. -/
structure PairingState where
  paired : Table ResourceKey Sides
  left : ResourceTable

namespace PairingState

/-- Adds one record, which takes the target under its key. -/
def add (s : PairingState) : LiveRecord → PairingState
  | (key, live) =>
    let target := s.left.get? key
    ⟨if key.isSecret || (live.isNone && target.isNone) then s.paired
      else s.paired.insert key ⟨live, target⟩, s.left.erase key⟩

/-- Adds the targets that are left. -/
def finish (s : PairingState) : Table ResourceKey Sides :=
  (s.left.filter fun (key, _) => !key.isSecret).foldl
    (fun paired (key, target) => paired.insert key ⟨none, some target⟩) s.paired

end PairingState

/-- The sides under their keys, before stamping. -/
def pairSides (live : List LiveRecord) (targets : ResourceTable) : Table ResourceKey Sides :=
  (live.foldl PairingState.add ⟨[], targets⟩).finish

/-- The sides to be compared, in key order. -/
def pairForDrift (live : List LiveRecord) (targets : ResourceTable) (tracking : Tracking)
    (app : String) : Table ResourceKey Sides :=
  (pairSides live targets).map fun (key, sides) => (key, sides.stamp tracking app key)

/-!
## Detecting the drift of an application

The live state and the target state are asked of the server, paired by resource, and every pair that
differs is reported.  Hooks are left out: they come and go by design.  The whole runs under the
deadline of the action, and there is either a complete report or none.
-/

namespace DriftReport

/-- Aggregated roles are compared like everything else. -/
def ignoreAggregatedRoles : Bool := false

def configFor (app : Application) (settings : ServerSettings) : Except DriftFault DriftConfig :=
  DriftConfig.build app.ignoreDifferences settings.overrides
    (Tracking.ofSettings settings.appLabelKey settings.trackingMethod) ignoreAggregatedRoles

def configWarnings (app : Application) (settings : ServerSettings) : List String :=
  Tracking.warnings settings.trackingMethod ++
    DriftConfig.buildWarnings app.ignoreDifferences settings.overrides

/-- The drift of one resource, if it has drifted.  What is shown of a resource that exists on both
sides is what was compared; otherwise it is the one side as it is. -/
def driftOf (config : DriftConfig) (key : ResourceKey) (sides : Sides) :
    Except Failure (Option ResourceDrift) :=
  if sides.isHook then .ok none
  else
    match Comparison.ofSides key sides.live sides.target config with
    | .error fault => .error (.drift "failed to build state diff" fault)
    | .ok comparison =>
      if !comparison.modified then .ok none
      else if sides.live.isSome && sides.target.isSome then
        .ok (some (.ofSides key comparison.normalized comparison.predicted))
      else .ok (some (.ofSides key sides.live sides.target))

def driftOfAll (config : DriftConfig) :
    List (ResourceKey × Sides) → Except Failure (List ResourceDrift)
  | [] => .ok []
  | (key, sides) :: rest =>
    match driftOf config key sides with
    | .error failure => .error failure
    | .ok drift =>
      match driftOfAll config rest with
      | .error failure => .error failure
      | .ok drifts => .ok (drift.toList ++ drifts)

def comparisonWarnings (pairs : List (ResourceKey × Sides)) : List String :=
  (pairs.filter fun (_, sides) => !sides.isHook).flatMap fun (key, sides) =>
    Comparison.warnings key sides.live sides.target

def targetsOf : List String → Except ResourceFault (List ResourceObject)
  | [] => .ok []
  | manifest :: rest =>
    match ResourceObject.ofManifest manifest with
    | .error fault => .error fault
    | .ok target =>
      match targetsOf rest with
      | .error fault => .error fault
      | .ok targets => .ok (target :: targets)

end DriftReport

namespace DiffAction

open DriftReport

/-- Goes on with a result, or ends with the failure that its fault means. -/
def orFail {ε α β : Type} (result : Except ε α) (failure : ε → Failure)
    (next : α → Program (Except Failure β)) : Program (Except Failure β) :=
  match result with
  | .ok a => next a
  | .error fault => .done (.error (failure fault))

/-- Asks the server, and goes on with its answer. -/
def askOrFail {β : Type} (c : Call) (operation : String)
    (next : c.Result → Program (Except Failure β)) : Program (Except Failure β) :=
  .call c fun answer => orFail answer (.remote operation) next

def warn {β : Type} (messages : List String) (next : Program β) : Program β :=
  messages.foldr (fun message next => .log ⟨.warning, message⟩ next) next

/-- The detection of drift, without a deadline. -/
def program (a : DiffAction) : Program (Except Failure DriftReport) :=
  let name := a.app.name
  let ns := a.app.namespace
  askOrFail (.application name ns (Refresh.ofFlags a.refresh a.hardRefresh))
    "failed to get application" fun (app : Application) =>
  askOrFail (.managedResources name ns) "failed to get managed resources for app"
    fun (resources : List ManagedResource) =>
  orFail (liveRecords resources) (.resource "failed to get live objects") fun live =>
  askOrFail (.manifests name ns a.revision) "failed to get manifests for app"
    fun (manifests : List String) =>
  orFail (targetsOf manifests) (.resource "failed to unmarshal manifest to unstructured")
    fun targets =>
  let liveObjects := live.filterMap (·.2)
  warn (groupingWarnings targets liveObjects app.destinationNamespace) <|
  orFail (groupByKey targets liveObjects app.destinationNamespace)
    (.resource "failed to group objects by key") fun grouped =>
  askOrFail .settings "failed to get argo settings" fun (settings : ServerSettings) =>
  warn (configWarnings app settings) <|
  orFail (configFor app settings) (.drift "failed to build diff config") fun config =>
  let pairs := pairForDrift live grouped config.tracking name
  warn (comparisonWarnings pairs) <|
  .done ((driftOfAll config pairs).map (⟨name, ·⟩))

def run (a : DiffAction) (services : Services) : Run (Except Failure DriftReport) :=
  match Deadline.start a.timeout with
  | .error fault => ⟨[], [], .error (.ofTimeout fault)⟩
  | .ok deadline =>
    let run := a.program.runWithin services deadline 0
    { run with
      outcome := run.outcome.getD
        (.error (.deadlineExceeded "timed out diffing app" (deadline.timeout.getD default))) }

end DiffAction
end DeployDrift
