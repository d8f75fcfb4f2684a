import DeployDrift.Table
import DeployDrift.Text

/-!
# The environment and what is read from it

What a program finds when it starts, and the token that it expects of its callers.
-/
namespace DeployDrift

/-!
## What is wrong with the settings
-/

inductive SettingFault where
  | missing (name : String)
  | invalid (name message : String)
  /-- The file that holds a token cannot be read. -/
  | tokenFile (path message : String)
  deriving DecidableEq, Repr

def SettingFault.message : SettingFault → String
  | .missing name => "Missing setting: " ++ name
  | .invalid name message => "Invalid value for " ++ name ++ ": " ++ message
  | .tokenFile path message => "Failed to read agent token from " ++ path ++ ": " ++ message

/-!
## The environment of a program

The variables and files that a program finds when it starts.  They are data here, so that a program
that reads them can be run on any of them.
-/

abbrev Variables := Table String String

/-- What stands in a file, or why it cannot be read. -/
abbrev Files := String → Except String String

def Files.noSuchFile : String := "No such file or directory (os error 2)"

/-- Only the given files exist. -/
def Files.ofTable (files : Table String String) : Files := fun path =>
  match Table.get? files path with
  | some content => .ok content
  | none => .error noSuchFile

/-!
## The agent token

The token that a workflow controller has to show.  It is given directly or stands in a file; white
space around it does not belong to it, and an empty token is refused.
-/

/-- Where the agent token comes from. -/
inductive AgentToken where
  | value (token : String)
  | file (path : String)
  deriving DecidableEq, Repr

namespace AgentToken

def tokenVariable : String := "ARGO_AGENT_TOKEN"

def source (files : Files) : AgentToken → Except SettingFault String
  | .value token => .ok token
  | .file path => (files path).mapError (.tokenFile path)

def resolve (files : Files) (token : AgentToken) : Except SettingFault String := do
  let token := Text.trim (← token.source files)
  if token = "" then throw (.invalid tokenVariable "agent token is empty")
  return token

end AgentToken
end DeployDrift
