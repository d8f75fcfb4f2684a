import DeployDrift.Resource.Identity

/-!
# Tracking

The server marks every resource it manages with the owning application, by a label, by an
annotation or by both.  Targets are stamped in the same way before they are compared with live
objects.
-/
namespace DeployDrift

/-- The label used where the settings name none. -/
def defaultLabelKey : String := "app.kubernetes.io/instance"

/-- The annotation that holds the tracking id. -/
def trackingKey : String := "argocd.argoproj.io/tracking-id"

/-- How resources are associated with their application. -/
inductive TrackingMethod where
  | labels
  | annotations
  | both
  deriving DecidableEq, Repr

namespace TrackingMethod

/-- The method of a setting; the empty setting means the label. -/
def parse? : String → Option TrackingMethod
  | "" | "label" => some .labels
  | "annotation" => some .annotations
  | "annotation+label" => some .both
  | _ => none

def text : TrackingMethod → String
  | .labels => "label"
  | .annotations => "annotation"
  | .both => "annotation+label"

def unknownMessage (setting : String) : String := "unknown tracking method " ++ Text.quote setting

def usesLabels : TrackingMethod → Bool
  | .labels | .both => true
  | .annotations => false

def usesAnnotations : TrackingMethod → Bool
  | .annotations | .both => true
  | .labels => false

end TrackingMethod

structure Tracking where
  labelKey : String
  method : TrackingMethod
  deriving DecidableEq, Repr

namespace Tracking

def standard : Tracking := ⟨defaultLabelKey, .labels⟩

/-- The settings with defaults for an empty label key and an unknown method. -/
def ofSettings (labelKey method : String) : Tracking :=
  ⟨if labelKey = "" then defaultLabelKey else labelKey,
    (TrackingMethod.parse? method).getD .labels⟩

def warnings (method : String) : List String :=
  match TrackingMethod.parse? method with
  | some _ => []
  | none => [TrackingMethod.unknownMessage method ++ ", falling back to label tracking"]

/-- The tracking id of a resource. -/
def id (app : String) (key : ResourceKey) : String :=
  app ++ ":" ++ key.group ++ "/" ++ key.kind ++ ":" ++ key.namespace ++ "/" ++ key.name

/-- Marks an object as belonging to an application. -/
def stamp (t : Tracking) (app : String) (key : ResourceKey) (o : ResourceObject) : ResourceObject :=
  let labelled := if t.method.usesLabels then o.setLabelText t.labelKey app else o
  if t.method.usesAnnotations then labelled.setAnnotationText trackingKey (id app key)
  else labelled

end Tracking
end DeployDrift
