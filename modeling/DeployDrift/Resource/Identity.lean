import DeployDrift.Resource

/-!
# Keys of resources

Which resource an object is, whether it is one of the steady state, and which targets have one key.
-/
namespace DeployDrift

/-!
## Resource keys

A resource is identified by group, kind, namespace and name, and ordered by them in this order.
-/

/-- The identity of a resource. -/
structure ResourceKey where
  group : String
  kind : String
  «namespace» : String
  name : String
  deriving DecidableEq, Repr, Inhabited

namespace ResourceKey

/-- The four parts, in the order that counts. -/
def parts (k : ResourceKey) : List String := [k.group, k.kind, k.namespace, k.name]

theorem parts_inj {a b : ResourceKey} (h : a.parts = b.parts) : a = b := by
  cases a; cases b
  simpa [parts] using h

instance : LT ResourceKey := ⟨fun a b => a.parts < b.parts⟩

instance : DecidableLT ResourceKey := fun a b => inferInstanceAs (Decidable (a.parts < b.parts))

instance : Trans (α := ResourceKey) (· < ·) (· < ·) (· < ·) :=
  ⟨fun {a b c} (h : a.parts < b.parts) (h' : b.parts < c.parts) => List.lt_trans h h'⟩

instance : Std.Trichotomous (α := ResourceKey) (· < ·) :=
  ⟨fun a b h h' => parts_inj (Std.Trichotomous.trichotomous (r := (· < ·)) a.parts b.parts h h')⟩

instance : Std.Irrefl (α := ResourceKey) (· < ·) :=
  ⟨fun a h => Std.Irrefl.irrefl (r := (· < ·)) a.parts h⟩

def ofObject (o : ResourceObject) : Except ResourceFault ResourceKey := do
  let group ← o.group
  match o.kind? with
  | none | some "" => .error (.missingKind (o.apiVersion?.getD ""))
  | some kind => .ok ⟨group, kind, o.namespace, o.name⟩

/-- A secret of the core group, whose contents the server does not show. -/
def isSecret (k : ResourceKey) : Bool := k.group == "" && k.kind == "Secret"

def isDefinition (k : ResourceKey) : Bool :=
  k.group == "apiextensions.k8s.io" && k.kind == "CustomResourceDefinition"

def text (k : ResourceKey) : String :=
  k.group ++ "/" ++ k.kind ++ " " ++ k.namespace ++ "/" ++ k.name

/-- The form in which the key is written as JSON, its fields in the order of the text. -/
def document (k : ResourceKey) : Document :=
  .mapping [("group", .text k.group), ("kind", .text k.kind), ("namespace", .text k.namespace),
    ("name", .text k.name)]

end ResourceKey

/-!
## Lifecycle hooks

Hooks run at some phase of a sync and describe no steady state, so they take no part in drift
detection.  The server's own hook annotation decides wherever it is present.
-/

def hookKey : String := "argocd.argoproj.io/hook"

/-- The hook annotation of packaged charts. -/
def chartHookKey : String := "helm.sh/hook"

def hookPhases (value : String) : List String :=
  ((Text.splitOnChar ',' value.toList).map fun cs => Text.trim (String.ofList cs)).filter (· ≠ "")

/-- The object is a lifecycle hook.  The lone phase `Skip` makes no hook, and neither does the
chart phase `crd-install`. -/
def ResourceObject.isHook (o : ResourceObject) : Bool :=
  match o.annotationText? hookKey with
  | some phases => hookPhases phases ≠ ["Skip"]
  | none =>
    match o.annotationText? chartHookKey with
    | some phases => (hookPhases phases).any (· ≠ "crd-install")
    | none => false

/-!
## Grouping by key

Targets are collected under their keys.  A target without a namespace gets the destination
namespace if its kind is namespaced, which the live objects of that kind decide, or, where there is
none, a list of kinds that are cluster-scoped everywhere.  Of several targets with one key the last
one stays.
-/

/-- Groups and kinds that are cluster-scoped in every cluster. -/
def clusterScopedKinds : List (String × String) := [
  ("", "Namespace"),
  ("", "Node"),
  ("", "PersistentVolume"),
  ("apiextensions.k8s.io", "CustomResourceDefinition"),
  ("admissionregistration.k8s.io", "MutatingWebhookConfiguration"),
  ("admissionregistration.k8s.io", "ValidatingWebhookConfiguration"),
  ("apiregistration.k8s.io", "APIService"),
  ("rbac.authorization.k8s.io", "ClusterRole"),
  ("rbac.authorization.k8s.io", "ClusterRoleBinding"),
  ("scheduling.k8s.io", "PriorityClass"),
  ("storage.k8s.io", "StorageClass"),
  ("storage.k8s.io", "CSIDriver"),
  ("networking.k8s.io", "IngressClass")]

/-- Objects under their keys. -/
abbrev ResourceTable := Table ResourceKey ResourceObject

/-- The kind is namespaced, as far as the keys of live objects and the well-known kinds tell. -/
def isNamespaced (live : List ResourceKey) (group kind : String) : Bool :=
  match live.filter fun k => k.group == group && k.kind == kind with
  | [] => !clusterScopedKinds.contains (group, kind)
  | seen => seen.any fun k => k.namespace != ""

/-- A target and its key, with the destination namespace filled in where one is due. -/
def withNamespace (live : List ResourceKey) (destination : String) (key : ResourceKey)
    (target : ResourceObject) : ResourceKey × ResourceObject :=
  if key.namespace = "" ∧ destination ≠ "" ∧ isNamespaced live key.group key.kind then
    (⟨key.group, key.kind, destination, key.name⟩, target.setNamespace destination)
  else (key, target)

/-- The keys of objects; the first object without a key decides the fault. -/
def keysOf : List ResourceObject → Except ResourceFault (List ResourceKey)
  | [] => .ok []
  | o :: rest => do
    let key ← ResourceKey.ofObject o
    return key :: (← keysOf rest)

/-- The targets with their final keys, in input order. -/
def namespacedTargets (targets : List ResourceObject) (live : List ResourceObject)
    (destination : String) : Except ResourceFault (List (ResourceKey × ResourceObject)) := do
  let liveKeys ← keysOf live
  let targetKeys ← keysOf targets
  return (targetKeys.zip targets).map fun (key, target) =>
    withNamespace liveKeys destination key target

/-- The targets under their final keys. -/
def groupByKey (targets : List ResourceObject) (live : List ResourceObject)
    (destination : String) : Except ResourceFault ResourceTable :=
  Table.ofList <$> namespacedTargets targets live destination

/-- The keys that occur again further on in a list, once for each repetition. -/
def repeatedKeys (seen : List ResourceKey) : List ResourceKey → List ResourceKey
  | [] => []
  | k :: rest => (if k ∈ seen then [k] else []) ++ repeatedKeys (k :: seen) rest

/-- What grouping gives reason to warn of, up to the first target without a key. -/
def groupingWarnings (targets : List ResourceObject) (live : List ResourceObject)
    (destination : String) : List String :=
  match keysOf live with
  | .error _ => []
  | .ok liveKeys =>
    let keyed := targets.map fun t => (ResourceKey.ofObject t).map fun k =>
      (withNamespace liveKeys destination k t).1
    let readable := keyed.takeWhile fun k => k.toOption.isSome
    (repeatedKeys [] (readable.filterMap (·.toOption))).map fun key =>
      "Duplicate target resource " ++ key.text ++ ", keeping the last occurrence"

end DeployDrift
