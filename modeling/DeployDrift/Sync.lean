import DeployDrift.Action

/-!
# Syncing applications

The texts of a sync action are read, and its applications are synced together.
-/
namespace DeployDrift.SyncAction

/-!
## The lists of a sync action

Applications and options are given as texts in YAML.  A blank text, and null, is an empty list.
-/

def decodeList (item : Shape) (text : String) : Except Yaml.Fault (List Document) :=
  if Text.isBlankText text then .ok []
  else (fun d => (d.list?).getD []) <$> Yaml.read (.optional (.list item)) text

def decodeApps (text : String) : Except ActionFault (List AppRef) :=
  match decodeList AppRef.shape text with
  | .ok items => .ok (items.map .ofDocument)
  | .error fault => .error (.invalidApps fault.message)

def decodeOptions (text : String) : Except ActionFault (List String) :=
  match decodeList .text text with
  | .ok items => .ok (items.filterMap Document.text?)
  | .error fault => .error (.invalidOptions fault.message)

end DeployDrift.SyncAction

/-!
## Syncing a batch of applications

Every application of a batch is a task of its own.  All tasks start together and share one deadline,
and all are waited for.  In which order the tasks start and finish is up to the scheduler; the
failures are collected in the order in which the tasks finish.
-/
namespace DeployDrift

/-- An order in which `n` tasks start, and one in which they finish. -/
structure Schedule (n : Nat) where
  started : List Nat
  finished : List Nat
  started_perm : started.Perm (List.range n)
  finished_perm : finished.Perm (List.range n)

/-- The tasks start and finish in the order in which they are listed. -/
def Schedule.inOrder (n : Nat) : Schedule n :=
  ⟨List.range n, List.range n, List.Perm.refl _, List.Perm.refl _⟩

namespace AppRef

def syncCall (options : List String) (app : AppRef) : Call := .sync app.name app.namespace options

/-- What is said of an application that failed to sync. -/
def syncFailure (app : AppRef) (cause : String) : String :=
  "failed to sync app " ++ Text.quote app.name ++ ": " ++ cause

/-- Why a task fails whose call is answered, if it does. -/
def answered (app : AppRef) : Except ServerFault Unit → Option String
  | .ok () => none
  | .error fault => some (app.syncFailure fault.message)

/-- Why a task fails that the deadline cuts short. -/
def cutShort (app : AppRef) (limit : Duration) : String :=
  app.syncFailure (Deadline.exceededMessage limit)

/-- Why a task fails, if it does: the server refuses, or the deadline comes first. -/
def syncOutcome (deadline : Deadline) (answer : Timed (Except ServerFault Unit)) (app : AppRef) :
    Option String :=
  if deadline.allows answer.delay then app.answered answer.outcome
  else deadline.timeout.map app.cutShort

end AppRef

namespace SyncBatch

def emptyWarning : String := "Sync action lists no applications"

def atPlaces {α : Type} (items : List α) (places : List Nat) : List α :=
  places.filterMap fun i => items[i]?

/-- Why the tasks fail, those that do, in the order of the list. -/
def outcomes (deadline : Deadline) (answers : Nat → Timed (Except ServerFault Unit))
    (apps : List AppRef) : List (Option String) :=
  apps.mapIdx fun i app => app.syncOutcome deadline (answers i)

/-- What comes of a batch whose tasks have made these calls and failed so. -/
def conclude (apps : List AppRef) (calls : List Call) (failures : List String) :
    Run (Except Failure Unit) :=
  if apps.isEmpty then ⟨[], LogEntry.warnings [emptyWarning], .ok ()⟩
  else if failures.isEmpty then ⟨calls, [], .ok ()⟩
  else ⟨calls, LogEntry.errors failures, .error (.sync failures)⟩

/-- Syncs the applications; the task for the `i`th of them gets the `i`th answer. -/
def run (apps : List AppRef) (options : List String) (deadline : Deadline)
    (answers : Nat → Timed (Except ServerFault Unit)) (schedule : Schedule apps.length) :
    Run (Except Failure Unit) :=
  conclude apps (atPlaces (apps.map (·.syncCall options)) schedule.started)
    ((atPlaces (outcomes deadline answers apps) schedule.finished).filterMap id)

end SyncBatch

/-- Schedules for batches of every size. -/
abbrev Scheduler := (n : Nat) → Schedule n

namespace SyncAction

/-- Reads the applications, the options and the timeout of an action, in this order. -/
def prepare (a : SyncAction) : Except Failure (List AppRef × List String × Deadline) := do
  let apps ← (decodeApps a.apps).mapError .action
  let options ← (decodeOptions a.options).mapError .action
  let deadline ← (Deadline.start a.timeout).mapError .ofTimeout
  return (apps, options, deadline)

/-- The answer of a server to the `i`th application of a batch. -/
def answerOf (services : Services) (apps : List AppRef) (options : List String) (i : Nat) :
    Timed (Except ServerFault Unit) :=
  match apps[i]? with
  | some app => services (.sync app.name app.namespace options)
  | none => ⟨0, .ok ()⟩

def run (a : SyncAction) (services : Services) (scheduler : Scheduler) :
    Run (Except Failure Unit) :=
  match a.prepare with
  | .error failure => ⟨[], [], .error failure⟩
  | .ok (apps, options, deadline) =>
    SyncBatch.run apps options deadline (answerOf services apps options) (scheduler apps.length)

end SyncAction
end DeployDrift
