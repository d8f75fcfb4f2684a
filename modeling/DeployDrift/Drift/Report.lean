import DeployDrift.Drift.Comparison
import DeployDrift.LineDiff.Unified
import DeployDrift.Yaml.Writer

/-!
# Drift reports

What is reported of a resource that drifted: its key, the kind of drift, and a unified diff of the
YAML of its two sides under a banner that names it.  A side that does not exist is an empty text.
-/
namespace DeployDrift

inductive DriftStatus where
  /-- Declared, but not live. -/
  | added
  /-- Live, but not declared. -/
  | deleted
  /-- Both, and they differ. -/
  | modified
  deriving DecidableEq, Repr

namespace DriftStatus

def ofSides (live target : Bool) : DriftStatus :=
  match live, target with
  | false, _ => .added
  | true, false => .deleted
  | true, true => .modified

def text : DriftStatus → String
  | .added => "added"
  | .deleted => "deleted"
  | .modified => "modified"

end DriftStatus

structure ResourceDrift where
  key : ResourceKey
  status : DriftStatus
  /-- The banner and the unified diff. -/
  diff : String
  deriving DecidableEq

/-- The drift of an application. -/
structure DriftReport where
  app : String
  resources : List ResourceDrift
  deriving DecidableEq

def ResourceObject.yaml (o : ResourceObject) : String := Yaml.write o.document

namespace ResourceDrift

def banner (key : ResourceKey) : String :=
  "===== " ++ key.group ++ "/" ++ key.kind ++ " " ++ key.namespace ++ "/" ++ key.name ++ " ======\n"

def absentName : String := "/dev/null"

def ofSides (key : ResourceKey) (live target : Option ResourceObject) : ResourceDrift where
  key := key
  status := .ofSides live.isSome target.isSome
  diff := banner key ++
    LineDiff.unified (if live.isSome then "live" else absentName)
      (if target.isSome then "target" else absentName)
      ((live.map (·.yaml)).getD "") ((target.map (·.yaml)).getD "")

/-- The form in which the drift is written as JSON, its fields in the order of the text. -/
def document (d : ResourceDrift) : Document :=
  .mapping [("key", d.key.document), ("status", .text d.status.text), ("diff", .text d.diff)]

end ResourceDrift

namespace DriftReport

def isEmpty (r : DriftReport) : Bool := r.resources.isEmpty

def text (r : DriftReport) : String := String.join (r.resources.map (·.diff))

/-- The form in which the report is written as JSON, its fields in the order of the text. -/
def document (r : DriftReport) : Document :=
  .mapping [("app", .text r.app), ("resources", .list (r.resources.map (·.document)))]

end DriftReport
end DeployDrift
