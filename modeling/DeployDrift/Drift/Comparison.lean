import DeployDrift.Drift.IgnoreRules
import DeployDrift.Drift.Merge

/-!
# Comparing a live object with its target

The target is laid over the live object to predict what the cluster would hold after a sync, so that
only what the target declares can show up as drift.  Where the live object records the
configuration that was applied last, fields that were in it and are in the target no longer are
taken away as well.  There is drift exactly if the prediction differs from the live object.
-/
namespace DeployDrift

/-- The annotation that records the configuration applied last. -/
def lastAppliedKey : String := "kubectl.kubernetes.io/last-applied-configuration"

/-- The outcome of comparing one resource. -/
structure Comparison where
  /-- Applying the target would change the live object. -/
  modified : Bool
  /-- The live object without ignored fields. -/
  normalized : Option ResourceObject
  /-- The live object as it would be after a sync. -/
  predicted : Option ResourceObject
  deriving DecidableEq

namespace ResourceObject

/-- The configuration applied last, or why the record of it is unreadable; `none` without a
record. -/
def lastAppliedRecord (live : ResourceObject) : Option (Except String ResourceObject) :=
  (live.annotationText? lastAppliedKey).map fun record =>
    match Json.readDocument record with
    | .error fault => .error fault.message
    | .ok d =>
      match ofDocument d with
      | .error fault => .error fault.message
      | .ok applied => .ok applied

/-- The configuration applied last without ignored fields, if it is recorded and readable. -/
def lastApplied? (live : ResourceObject) (key : ResourceKey) (config : DriftConfig) :
    Option ResourceObject :=
  match live.lastAppliedRecord with
  | some (.ok applied) => some (applied.normalize key config)
  | _ => none

end ResourceObject

namespace Comparison

/-- The live object after a sync of the target, as a document. -/
def predictedDocument (normalizedLive normalizedTarget : ResourceObject)
    (lastApplied : Option ResourceObject) : Document :=
  let merged := normalizedLive.document.merge normalizedTarget.document
  match lastApplied with
  | none => merged
  | some applied => merged.prune normalizedTarget.document applied.document

theorem predictedDocument_wellFormed (normalizedLive normalizedTarget : ResourceObject)
    (lastApplied : Option ResourceObject) :
    (predictedDocument normalizedLive normalizedTarget lastApplied).WellFormed := by
  have hmerged := Document.merge_wellFormed _ normalizedLive.wellFormed _
    normalizedTarget.wellFormed
  cases lastApplied with
  | none => exact hmerged
  | some applied => exact Document.prune_wellFormed _ _ hmerged _

/-- Compares the two sides of a resource.  With one side alone there is always drift. -/
def ofSides (key : ResourceKey) (live target : Option ResourceObject) (config : DriftConfig) :
    Except DriftFault Comparison :=
  match live, target with
  | some live, some target =>
    let normalized := live.normalize key config
    let normalizedTarget := target.normalize key config
    let applied := live.lastApplied? key config
    match ResourceObject.ofWellFormed (predictedDocument normalized normalizedTarget applied)
        (predictedDocument_wellFormed normalized normalizedTarget applied) with
    | .error fault => .error (.notRenderable key.text fault.message)
    | .ok predicted =>
      .ok ⟨!predicted.document.same normalized.document, some normalized, some predicted⟩
  | some live, none => .ok ⟨true, some (live.normalize key config), none⟩
  | none, some target => .ok ⟨true, none, some (target.normalize key config)⟩
  | none, none => .error (.nothingToCompare key.text)

def warnings (key : ResourceKey) (live target : Option ResourceObject) : List String :=
  match live, target with
  | some live, some _ =>
    match live.lastAppliedRecord with
    | some (.error message) =>
      ["Ignoring unreadable last applied configuration of " ++ key.text ++ ": " ++ message]
    | _ => []
  | _, _ => []

end Comparison
end DeployDrift
