import DeployDrift.Shape

/-!
# What the server tells about an application

The application itself, the resources it manages and its rendered manifests.  Of each answer only
the parts that drift detection reads are kept, and each part that is not given is empty.
-/
namespace DeployDrift

/-- How far the server is asked to look at an application anew before it answers. -/
inductive Refresh where
  | normal
  | hard
  deriving DecidableEq, Repr

namespace Refresh

/-- The request made by two flags; the hard one wins. -/
def ofFlags (normal hard : Bool) : Option Refresh :=
  if hard then some .hard else if normal then some .normal else none

def text : Refresh → String
  | .normal => "normal"
  | .hard => "hard"

end Refresh

/-- Fields to be ignored in resources of some kinds, as declared on an application. -/
structure IgnoreDeclaration where
  group : String
  kind : String
  name : String
  «namespace» : String
  pointers : List String
  jqPaths : List String
  managers : List String
  deriving DecidableEq, Repr

namespace IgnoreDeclaration

def shape : Shape := .record "ResourceIgnoreDifferences" [
  ({ name := "group" }, .text),
  ({ name := "kind" }, .text),
  ({ name := "name" }, .text),
  ({ name := "namespace" }, .text),
  ({ name := "jsonPointers" }, .list .text),
  ({ name := "jqPathExpressions" }, .list .text),
  ({ name := "managedFieldsManagers" }, .list .text)]

def ofDocument (d : Document) : IgnoreDeclaration where
  group := d.textAt "group"
  kind := d.textAt "kind"
  name := d.textAt "name"
  «namespace» := d.textAt "namespace"
  pointers := d.textsAt "jsonPointers"
  jqPaths := d.textsAt "jqPathExpressions"
  managers := d.textsAt "managedFieldsManagers"

def document (i : IgnoreDeclaration) : Document :=
  .ofFields [("group", .text i.group), ("kind", .text i.kind), ("name", .text i.name),
    ("namespace", .text i.namespace), ("jsonPointers", .list (i.pointers.map .text)),
    ("jqPathExpressions", .list (i.jqPaths.map .text)),
    ("managedFieldsManagers", .list (i.managers.map .text))]

end IgnoreDeclaration

structure Application where
  name : String
  «namespace» : String
  destinationServer : String
  destinationNamespace : String
  destinationName : String
  ignoreDifferences : List IgnoreDeclaration
  deriving DecidableEq, Repr

namespace Application

def shape : Shape := .record "Application" [
  ({ name := "metadata" }, .record "ObjectMeta" [
    ({ name := "name" }, .text),
    ({ name := "namespace" }, .text)]),
  ({ name := "spec" }, .record "ApplicationSpec" [
    ({ name := "destination" }, .record "ApplicationDestination" [
      ({ name := "server" }, .text),
      ({ name := "namespace" }, .text),
      ({ name := "name" }, .text)]),
    ({ name := "ignoreDifferences" }, .list IgnoreDeclaration.shape)])]

def ofDocument (d : Document) : Application :=
  let metadata := d.partAt "metadata"
  let spec := d.partAt "spec"
  let destination := spec.partAt "destination"
  { name := metadata.textAt "name"
    «namespace» := metadata.textAt "namespace"
    destinationServer := destination.textAt "server"
    destinationNamespace := destination.textAt "namespace"
    destinationName := destination.textAt "name"
    ignoreDifferences := (spec.itemsAt "ignoreDifferences").map IgnoreDeclaration.ofDocument }

def document (a : Application) : Document :=
  .ofFields [
    ("metadata", .ofFields [("name", .text a.name), ("namespace", .text a.namespace)]),
    ("spec", .ofFields [
      ("destination", .ofFields [("server", .text a.destinationServer),
        ("namespace", .text a.destinationNamespace), ("name", .text a.destinationName)]),
      ("ignoreDifferences", .list (a.ignoreDifferences.map (·.document)))])]

end Application

/-- The record of a resource that an application manages; its states are texts of JSON
documents. -/
structure ManagedResource where
  group : String
  kind : String
  «namespace» : String
  name : String
  targetState : String
  liveState : String
  normalizedLiveState : String
  deriving DecidableEq, Repr

namespace ManagedResource

def shape : Shape := .record "ManagedResource" [
  ({ name := "group" }, .text),
  ({ name := "kind" }, .text),
  ({ name := "namespace" }, .text),
  ({ name := "name" }, .text),
  ({ name := "targetState" }, .text),
  ({ name := "liveState" }, .text),
  ({ name := "normalizedLiveState" }, .text)]

def ofDocument (d : Document) : ManagedResource where
  group := d.textAt "group"
  kind := d.textAt "kind"
  «namespace» := d.textAt "namespace"
  name := d.textAt "name"
  targetState := d.textAt "targetState"
  liveState := d.textAt "liveState"
  normalizedLiveState := d.textAt "normalizedLiveState"

def document (r : ManagedResource) : Document :=
  .ofFields [("group", .text r.group), ("kind", .text r.kind), ("namespace", .text r.namespace),
    ("name", .text r.name), ("targetState", .text r.targetState),
    ("liveState", .text r.liveState), ("normalizedLiveState", .text r.normalizedLiveState)]

/-- The live state that counts: the normalized one, unless it is blank. -/
def effectiveLiveState (r : ManagedResource) : String :=
  if Text.isBlankText r.normalizedLiveState then r.liveState else r.normalizedLiveState

def listShape : Shape := .record "ManagedResourcesResponse" [({ name := "items" }, .list shape)]

def listOfDocument (d : Document) : List ManagedResource := (d.itemsAt "items").map ofDocument

end ManagedResource

structure Manifests where
  texts : List String
  revision : String
  deriving DecidableEq, Repr

namespace Manifests

def shape : Shape := .record "ManifestResponse" [
  ({ name := "manifests" }, .list .text),
  ({ name := "revision" }, .text)]

def ofDocument (d : Document) : Manifests := ⟨d.textsAt "manifests", d.textAt "revision"⟩

end Manifests

/-- Fields to be ignored in every resource of a kind. -/
structure ResourceOverride where
  pointers : List String
  jqPaths : List String
  managers : List String
  deriving DecidableEq, Repr

namespace ResourceOverride

/-- The ignored fields are given as a record, or as the text of a YAML document. -/
def shape : Shape := .record "ResourceOverride" [
  ({ name := "ignoreDifferences" }, .embedded (.record "OverrideIgnoreDiff" [
    ({ name := "jsonPointers", otherName := some "jSONPointers" }, .list .text),
    ({ name := "jqPathExpressions" }, .list .text),
    ({ name := "managedFieldsManagers" }, .list .text)]))]

def ofDocument (d : Document) : ResourceOverride :=
  let ignored := d.partAt "ignoreDifferences"
  ⟨ignored.textsAt "jsonPointers", ignored.textsAt "jqPathExpressions",
    ignored.textsAt "managedFieldsManagers"⟩

end ResourceOverride

/-- The settings of the server that matter here. -/
structure ServerSettings where
  appLabelKey : String
  trackingMethod : String
  overrides : Table String ResourceOverride
  deriving DecidableEq, Repr

namespace ServerSettings

def shape : Shape := .record "Settings" [
  ({ name := "appLabelKey" }, .text),
  ({ name := "trackingMethod" }, .text),
  ({ name := "resourceOverrides" }, .map ResourceOverride.shape)]

def ofDocument (d : Document) : ServerSettings where
  appLabelKey := d.textAt "appLabelKey"
  trackingMethod := d.textAt "trackingMethod"
  overrides := (d.partAt "resourceOverrides").fieldsOrEmpty.map fun (kind, part) =>
    (kind, ResourceOverride.ofDocument part)

end ServerSettings
end DeployDrift
