import DeployDrift.Resource.Ownership
import DeployDrift.Server.Application

/-!
# Ignore rules

What an application and the server's overrides declare to be ignored, reduced to the pointers that
are taken off both sides of a comparison.  Only pointers are evaluated; path expressions and field
managers give a warning.
-/
namespace DeployDrift

inductive DriftFault where
  | invalidIgnoreRule (target message : String)
  | nothingToCompare (key : String)
  | notRenderable (key message : String)
  deriving DecidableEq, Repr

def DriftFault.message : DriftFault → String
  | .invalidIgnoreRule target text => "invalid ignore rule for " ++ target ++ ": " ++ text
  | .nothingToCompare key => "no live or target object for " ++ key
  | .notRenderable key text => "failed to render " ++ key ++ " as YAML: " ++ text

/-- Pointers ignored in the resources that a rule matches. -/
structure IgnoreRule where
  group : String
  kind : String
  name : String
  «namespace» : String
  pointers : List String
  deriving DecidableEq, Repr

/-- The group or kind that stands for any. -/
def anyName : String := "*"

/-- The name of the override for all resources. -/
def everyKind : String := "*/*"

/-- The rule applies to the resource: group and kind agree or are a star, name and namespace agree
or are empty. -/
def IgnoreRule.covers (rule : IgnoreRule) (key : ResourceKey) : Bool :=
  (rule.group == anyName || rule.group == key.group) &&
    (rule.kind == anyName || rule.kind == key.kind) &&
    (rule.name == "" || rule.name == key.name) &&
    (rule.namespace == "" || rule.namespace == key.namespace)

/-- What one comparison of an application ignores, and how targets are stamped. -/
structure DriftConfig where
  rules : List IgnoreRule
  /-- Pointers under the names of kinds. -/
  overrides : Table String (List String)
  tracking : Tracking
  ignoreAggregatedRoles : Bool
  deriving DecidableEq, Repr

namespace DriftConfig

/-- The names under which an override of the resource's kind may be registered. -/
def overrideNames (key : ResourceKey) : List String :=
  [if key.group = "" then key.kind else key.group ++ "/" ++ key.kind, everyKind]

/-- All pointers ignored in a resource: those of the rules, then those of the overrides. -/
def ignoredPointers (config : DriftConfig) (key : ResourceKey) : List String :=
  (config.rules.filter (·.covers key)).flatMap (·.pointers) ++
    (overrideNames key).flatMap fun name => (config.overrides.get? name).getD []

/-- The first pointer that is neither empty nor starts with a slash makes a rule invalid. -/
def checkPointers (target : String) (pointers : List String) : Except DriftFault Unit :=
  match pointers.find? (!Pointer.isAcceptable ·) with
  | none => .ok ()
  | some pointer =>
    .error (.invalidIgnoreRule target
      ("JSON pointer " ++ Text.quote pointer ++ " must start with '/'"))

def declarationName (d : IgnoreDeclaration) : String := d.group ++ "/" ++ d.kind

def ruleOf (d : IgnoreDeclaration) : Except DriftFault IgnoreRule := do
  checkPointers (declarationName d) d.pointers
  return ⟨d.group, d.kind, d.name, d.namespace, d.pointers⟩

def overrideOf : String × ResourceOverride → Except DriftFault (String × List String)
  | (name, o) => do
    checkPointers name o.pointers
    return (name, o.pointers)

def build (declared : List IgnoreDeclaration) (overrides : Table String ResourceOverride)
    (tracking : Tracking) (ignoreAggregatedRoles : Bool) : Except DriftFault DriftConfig := do
  let rules ← declared.mapM ruleOf
  let pointers ← overrides.mapM overrideOf
  return ⟨rules, pointers.filter (·.2 ≠ []), tracking, ignoreAggregatedRoles⟩

def standard : DriftConfig := ⟨[], [], .standard, false⟩

def unsupported (target : String) (jqPaths managers : List String) : List String :=
  (if jqPaths = [] then []
    else ["Ignoring " ++ toString jqPaths.length ++ " jq path expressions for " ++ target ++
      ": not supported"]) ++
  (if managers = [] then []
    else ["Ignoring managed fields managers " ++ Text.quoteList managers ++ " for " ++ target ++
      ": not supported"])

/-- What building gives reason to warn of, up to the first invalid rule. -/
def buildWarnings (declared : List IgnoreDeclaration) (overrides : Table String ResourceOverride) :
    List String :=
  let valid (d : IgnoreDeclaration) := d.pointers.all Pointer.isAcceptable
  let ofRules := (declared.takeWhile valid).flatMap fun d =>
    unsupported (declarationName d) d.jqPaths d.managers
  if declared.all valid then
    ofRules ++ (overrides.takeWhile fun o => o.2.pointers.all Pointer.isAcceptable).flatMap
      fun (name, o) => unsupported name o.jqPaths o.managers
  else ofRules

end DriftConfig

/-!
## Taking ignored fields off an object

Ignored pointers are removed one after another, the deepest first, and under one parent list
elements from the highest position down, so that no removal moves what a later pointer leads to.
-/

/-- What decides when a pointer is removed. -/
structure RemovalRank where
  depth : Nat
  parent : List Char
  index : Option Nat
  last : List Char
  deriving DecidableEq, Repr

namespace RemovalRank

def ofPointer (pointer : String) : RemovalRank :=
  let cs := pointer.toList
  let (parent, last) := (Text.splitLast? '/' cs).getD ([], cs)
  ⟨cs.count '/', parent, Pointer.looseIndex? last, last⟩

/-- Descending order of positions; what is no position comes first. -/
def indexLe : Option Nat → Option Nat → Bool
  | none, _ => true
  | some _, none => false
  | some i, some j => j ≤ i

/-- The pointer with the first rank is removed before that with the second, or may be. -/
def le (a b : RemovalRank) : Bool :=
  if a.depth ≠ b.depth then b.depth < a.depth
  else if a.parent ≠ b.parent then a.parent.lex b.parent fun x y => x < y
  else if a.index ≠ b.index then indexLe a.index b.index
  else !(b.last.lex a.last fun x y => x < y)

end RemovalRank

def dropRepeats {α : Type} [DecidableEq α] : List α → List α
  | [] => []
  | [a] => [a]
  | a :: b :: rest => if a = b then dropRepeats (b :: rest) else a :: dropRepeats (b :: rest)

/-- Pointers in the order of their removal. -/
def removalOrder (pointers : List String) : List String :=
  dropRepeats
    (pointers.mergeSort fun a b => (RemovalRank.ofPointer a).le (RemovalRank.ofPointer b))

namespace ResourceObject

def removeAll (o : ResourceObject) (pointers : List String) : ResourceObject :=
  (removalOrder pointers).foldl (fun o pointer => (o.removePointer pointer).1) o

def isClusterRole (key : ResourceKey) : Bool :=
  key.group == "rbac.authorization.k8s.io" && key.kind == "ClusterRole"

/-- The object without the fields ignored for the key. -/
def normalize (o : ResourceObject) (key : ResourceKey) (config : DriftConfig) : ResourceObject :=
  let o := o.removeAll (config.ignoredPointers key)
  if config.ignoreAggregatedRoles && isClusterRole key &&
      (o.field? "aggregationRule").isSome then
    (o.removePointer "/rules").1
  else o

end ResourceObject
end DeployDrift
