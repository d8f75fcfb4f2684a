import DeployDrift.Drift.IgnoreRules
import DeployDrift.Server.Program
import DeployDrift.Settings.Environment

/-!
# Actions

What a request asks for: to bring applications to their target state, or to report how far one has
drifted from it.
-/
namespace DeployDrift

structure AppRef where
  name : String
  «namespace» : String
  deriving DecidableEq, Repr

namespace AppRef

def shape : Shape := .record "AppRef" [
  ({ name := "name", required := true }, .text),
  ({ name := "namespace" }, .text)]

def ofDocument (d : Document) : AppRef := ⟨d.textAt "name", d.textAt "namespace"⟩

end AppRef

/-- Brings applications to their target state.  The lists of applications and options are texts in
YAML. -/
structure SyncAction where
  apps : String
  options : String
  timeout : String
  deriving DecidableEq, Repr

namespace SyncAction

def shape : Shape := .record "SyncAction" [
  ({ name := "apps" }, .text),
  ({ name := "options" }, .text),
  ({ name := "timeout" }, .text)]

def ofDocument (d : Document) : SyncAction :=
  ⟨d.textAt "apps", d.textAt "options", d.textAt "timeout"⟩

def document (a : SyncAction) : Document :=
  .ofFields [("apps", .text a.apps), ("options", .text a.options), ("timeout", .text a.timeout)]

end SyncAction

structure DiffAction where
  app : AppRef
  revision : String
  refresh : Bool
  hardRefresh : Bool
  timeout : String
  deriving DecidableEq, Repr

namespace DiffAction

def shape : Shape := .record "DiffAction" [
  ({ name := "app", required := true }, AppRef.shape),
  ({ name := "revision" }, .text),
  ({ name := "refresh" }, .bool),
  ({ name := "hardRefresh" }, .bool),
  ({ name := "timeout" }, .text)]

def ofDocument (d : Document) : DiffAction where
  app := .ofDocument (d.partAt "app")
  revision := d.textAt "revision"
  refresh := d.boolAt "refresh"
  hardRefresh := d.boolAt "hardRefresh"
  timeout := d.textAt "timeout"

def document (a : DiffAction) : Document :=
  .ofFields [
    ("app", .ofFields [("name", .text a.app.name), ("namespace", .text a.app.namespace)]),
    ("revision", .text a.revision), ("refresh", .bool a.refresh),
    ("hardRefresh", .bool a.hardRefresh), ("timeout", .text a.timeout)]

end DiffAction

structure AppActions where
  sync : Option SyncAction
  diff : Option DiffAction
  deriving DecidableEq, Repr

namespace AppActions

def shape : Shape := .record "AppActions" [
  ({ name := "sync" }, .optional SyncAction.shape),
  ({ name := "diff" }, .optional DiffAction.shape)]

def ofDocument (d : Document) : AppActions :=
  ⟨(d.optionAt "sync").map .ofDocument, (d.optionAt "diff").map .ofDocument⟩

end AppActions

/-- A request for an action, with a timeout that stands in where the action has none. -/
structure ActionSpec where
  app : Option AppActions
  timeout : String
  deriving DecidableEq, Repr

namespace ActionSpec

def shape : Shape := .record "ActionSpec" [
  ({ name := "app" }, .optional AppActions.shape),
  ({ name := "timeout" }, .text)]

def ofDocument (d : Document) : ActionSpec :=
  ⟨(d.optionAt "app").map .ofDocument, d.textAt "timeout"⟩

end ActionSpec

/-!
## Why an action cannot be started

Faults of the action itself: nothing was asked of the server yet.
-/

inductive ActionFault where
  | invalidPlugin (message : String)
  /-- There is no application block. -/
  | missingType
  /-- The application block asks for nothing. -/
  | noAction
  /-- The application block asks for both actions. -/
  | severalActions
  | invalidApps (message : String)
  | invalidOptions (message : String)
  | invalidTimeout (text message : String)
  deriving DecidableEq, Repr

def ActionFault.message : ActionFault → String
  | .invalidPlugin message => "failed to unmarshal plugin JSON to plugin struct: " ++ message
  | .missingType => "action is missing a valid action type (i.e. an 'app' block)"
  | .noAction => "app action has no action type specified (must be sync or diff)"
  | .severalActions => "action has multiple types of action defined (both sync and diff)"
  | .invalidApps message => "failed to unmarshal apps: " ++ message
  | .invalidOptions message => "failed to unmarshal options: " ++ message
  | .invalidTimeout text message =>
    "failed to parse timeout " ++ Text.quote text ++ ": " ++ message

/-!
## Choosing the action

A request has to ask for exactly one action.
-/

inductive Action where
  | sync (action : SyncAction)
  | diff (action : DiffAction)
  deriving DecidableEq, Repr

namespace Action

def name : Action → String
  | .sync _ => "sync"
  | .diff _ => "diff"

def timeout : Action → String
  | .sync a => a.timeout
  | .diff a => a.timeout

end Action

namespace ActionSpec

/-- The timeout of an action, or the shared one where it has none. -/
def inheritTimeout (own shared : String) : String := if own = "" then shared else own

def route (spec : ActionSpec) : Except ActionFault Action :=
  match spec.app with
  | none => .error .missingType
  | some app =>
    match app.sync, app.diff with
    | some _, some _ => .error .severalActions
    | none, none => .error .noAction
    | some a, none => .ok (.sync { a with timeout := inheritTimeout a.timeout spec.timeout })
    | none, some a => .ok (.diff { a with timeout := inheritTimeout a.timeout spec.timeout })

end ActionSpec

/-!
## Failures

Everything that can go wrong on the way from a request to its result, and the phase that the
workflow is told.  A fault of the action or of the settings arises before the server is asked for
anything; every other failure means that the action was attempted.
-/

inductive Failure where
  | action (fault : ActionFault)
  | remote (operation : String) (fault : ServerFault)
  | resource (operation : String) (fault : ResourceFault)
  | drift (operation : String) (fault : DriftFault)
  /-- Some applications of a batch failed; each message names its application. -/
  | sync (failures : List String)
  /-- A failure, with the action that it arose in. -/
  | within (operation : String) (failure : Failure)
  | deadlineExceeded (operation : String) (timeout : Duration)
  | settings (fault : SettingFault)
  | io (message : String)
  | internal (message : String)
  deriving DecidableEq, Repr

inductive Phase where
  | succeeded
  /-- The action was attempted. -/
  | failed
  /-- The action could not be started. -/
  | error
  deriving DecidableEq, Repr

def Phase.text : Phase → String
  | .succeeded => "Succeeded"
  | .failed => "Failed"
  | .error => "Error"

namespace Failure

def message : Failure → String
  | .action fault => fault.message
  | .remote operation fault => operation ++ ": " ++ fault.message
  | .resource operation fault => operation ++ ": " ++ fault.message
  | .drift operation fault => operation ++ ": " ++ fault.message
  | .sync failures => "failed to sync apps: " ++ Text.joinWith ", " failures
  | .within operation failure => operation ++ ": " ++ failure.message
  | .deadlineExceeded operation timeout =>
    operation ++ ": " ++ Deadline.exceededMessage timeout
  | .settings fault => "Configuration error: " ++ fault.message
  | .io message => "IO error: " ++ message
  | .internal message => "Internal error: " ++ message

def phase : Failure → Phase
  | .action _ | .settings _ => .error
  | .within _ failure => failure.phase
  | _ => .failed

/-- A timeout that is no duration. -/
def ofTimeout (fault : TimeoutFault) : Failure :=
  .action (.invalidTimeout fault.text fault.fault.message)

end Failure
end DeployDrift
