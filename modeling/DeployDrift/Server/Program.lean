import DeployDrift.Deadline
import DeployDrift.Server.Application

/-!
# Talking to the server

What is written to the log, what the server is asked for, and programs that do both.
-/
namespace DeployDrift

/-!
## Log entries

What happened on the way that a person should know of.
-/

inductive LogLevel where
  | warning
  | error
  deriving DecidableEq, Repr

structure LogEntry where
  level : LogLevel
  message : String
  deriving DecidableEq, Repr

def LogLevel.text : LogLevel → String
  | .warning => "WARN"
  | .error => "ERROR"

namespace LogEntry

def text (e : LogEntry) : String := e.level.text ++ " " ++ e.message

def warnings (messages : List String) : List LogEntry := messages.map (⟨.warning, ·⟩)

def errors (messages : List String) : List LogEntry := messages.map (⟨.error, ·⟩)

end LogEntry

/-!
## Calls to the server

The five things the server can be asked for, and what can go wrong.  A server is a function: it says
for every call how long the answer takes and what it is.
-/

inductive ServerFault where
  | notAuthenticated (message : String)
  | refused (status : Nat) (message : String)
  | unreachable (message : String)
  | unintelligible (message : String)
  deriving DecidableEq, Repr

def ServerFault.message : ServerFault → String
  | .notAuthenticated message => "Argo CD authentication failed: " ++ message
  | .refused status message =>
    "Argo CD API request failed: " ++ toString status ++ " - " ++ message
  | .unreachable message => "Network error communicating with Argo CD: " ++ message
  | .unintelligible message => "Invalid response from Argo CD API: " ++ message

inductive Call where
  | application (name «namespace» : String) (refresh : Option Refresh)
  | managedResources (name «namespace» : String)
  /-- The manifests at a revision; an empty one leaves the choice to the server. -/
  | manifests (name «namespace» revision : String)
  | settings
  /-- Asks for an application to be brought to its target state. -/
  | sync (name «namespace» : String) (options : List String)
  deriving DecidableEq, Repr

/-- The call as it is recorded. -/
def Call.document : Call → Document
  | .application name ns refresh => .ofFields [("call", .text "get"), ("name", .text name),
      ("namespace", .text ns), ("refresh", (refresh.map fun r => .text r.text).getD .null)]
  | .managedResources name ns => .ofFields [("call", .text "managed_resources"),
      ("name", .text name), ("namespace", .text ns)]
  | .manifests name ns revision => .ofFields [("call", .text "manifests"), ("name", .text name),
      ("namespace", .text ns), ("revision", .text revision)]
  | .settings => .ofFields [("call", .text "settings")]
  | .sync name ns options => .ofFields [("call", .text "sync"), ("name", .text name),
      ("namespace", .text ns), ("options", .list (options.map .text))]

def Call.Result : Call → Type
  | .application .. => Application
  | .managedResources .. => List ManagedResource
  | .manifests .. => List String
  | .settings => ServerSettings
  | .sync .. => Unit

/-- An answer, and how long it takes in nanoseconds. -/
structure Timed (α : Type) where
  delay : Nat
  outcome : α

abbrev Services := (c : Call) → Timed (Except ServerFault c.Result)

/-!
## Programs that talk to a server

A program makes calls one after another, each depending on the answers before it, and writes to a
log.  Running it against a server gives its outcome and everything it did.  Under a deadline it is
cut short at the first call whose answer does not come in time; that call has been started, and no
later one is.
-/

inductive Program (α : Type) where
  | done (a : α)
  | log (entry : LogEntry) (next : Program α)
  | call (c : Call) (next : Except ServerFault c.Result → Program α)

namespace Program

def bind {α β : Type} : Program α → (α → Program β) → Program β
  | .done a, f => f a
  | .log entry next, f => .log entry (next.bind f)
  | .call c next, f => .call c fun answer => (next answer).bind f

instance : Monad Program where
  pure := .done
  bind := Program.bind

def ask (c : Call) : Program (Except ServerFault c.Result) := .call c .done

def logAll : List LogEntry → Program Unit
  | [] => .done ()
  | entry :: rest => .log entry (logAll rest)

end Program

/-- What happened while a program ran. -/
structure Run (α : Type) where
  /-- The calls that were started, in order. -/
  calls : List Call
  log : List LogEntry
  outcome : α

namespace Program

def run {α : Type} (services : Services) : Program α → Run α
  | .done a => ⟨[], [], a⟩
  | .log entry next =>
    let rest := next.run services
    { rest with log := entry :: rest.log }
  | .call c next =>
    let rest := (next (services c).outcome).run services
    { rest with calls := c :: rest.calls }

def duration {α : Type} (services : Services) : Program α → Nat
  | .done _ => 0
  | .log _ next => next.duration services
  | .call c next => (services c).delay + (next (services c).outcome).duration services

/-- Runs a program that started `elapsed` nanoseconds ago until the deadline; the outcome is `none`
if it was cut short. -/
def runWithin {α : Type} (services : Services) (deadline : Deadline) :
    (elapsed : Nat) → Program α → Run (Option α)
  | _, .done a => ⟨[], [], some a⟩
  | elapsed, .log entry next =>
    let rest := next.runWithin services deadline elapsed
    { rest with log := entry :: rest.log }
  | elapsed, .call c next =>
    let finished := elapsed + (services c).delay
    if deadline.allows finished then
      let rest := (next (services c).outcome).runWithin services deadline finished
      { rest with calls := c :: rest.calls }
    else ⟨[c], [], none⟩

end Program
end DeployDrift
