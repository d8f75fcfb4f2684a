import DeployDrift.CommandLine.Reading
import DeployDrift.Console
import DeployDrift.Settings.Connection

/-!
# The commands of the program

Running the plugin server, reporting the drift of an application, and syncing applications.
-/
namespace DeployDrift

inductive Command where
  | serve (listen : String) (agentToken : Option String) (agentTokenFile : String)
  | diff (app : String) (appNamespace revision : Option String) (refresh hardRefresh : Bool)
      (timeout : Option String)
  | sync (apps : List String) (appNamespace : Option String) (options : List String)
      (timeout : Option String)
  deriving DecidableEq, Repr

structure Invocation where
  /-- Asks for log entries of less weight than warnings, of which there are none here. -/
  verbose : Bool
  logFormat : OutputFormat
  output : OutputFormat
  server : Option String
  token : Option String
  insecure : Bool
  plaintext : Bool
  command : Command
  deriving DecidableEq, Repr

namespace Invocation

open CommandLine

def programName : String := "argocd-executor"

def version : String := "0.1.0"

def defaultListen : String := "0.0.0.0:3000"

def defaultTokenFile : String := "/var/run/argo/token"

def tokenFileVariable : String := "ARGO_AGENT_TOKEN_FILE"

def isTruthValue (s : String) : Bool := s == "true" || s == "false"

def isFormat (s : String) : Bool := (OutputFormat.ofWord? s).isSome

/-- The options that may stand anywhere. -/
def globalOptions : List OptionRule := [
  { name := "verbose", short := some 'v', kind := .flag },
  { name := "log-format", kind := .value, accepts := isFormat },
  { name := "output", kind := .value, accepts := isFormat },
  { name := "server", kind := .value, variableName := some Connection.serverVariable },
  { name := "auth-token", kind := .value, variableName := some Connection.tokenVariable },
  { name := "insecure", kind := .flag, variableName := some "ARGOCD_INSECURE",
    accepts := isTruthValue },
  { name := "plaintext", kind := .flag, variableName := some "ARGOCD_PLAINTEXT",
    accepts := isTruthValue },
  { name := "help", short := some 'h', kind := .help },
  { name := "version", short := some 'V', kind := .version }]

def appNamespaceOption : OptionRule :=
  { name := "app-namespace", short := some 'N', kind := .value }

def timeoutOption : OptionRule := { name := "timeout", short := some 't', kind := .value }

def ruleOf (command : String) : CommandRule :=
  let (options, operands) : List OptionRule × Operands := match command with
    | "serve" => ([
      { name := "listen", kind := .value, variableName := some SocketAddress.settingName },
      { name := "agent-token", kind := .value, variableName := some AgentToken.tokenVariable },
      { name := "agent-token-file", kind := .value, variableName := some tokenFileVariable,
        accepts := (· ≠ "") }], .none)
    | "diff" => ([appNamespaceOption,
      { name := "revision", short := some 'r', kind := .value },
      { name := "refresh", kind := .flag },
      { name := "hard-refresh", kind := .flag },
      timeoutOption], .one)
    | _ => ([appNamespaceOption,
      { name := "option", short := some 'o', kind := .values },
      timeoutOption], .many)
  ⟨programName ++ "-" ++ command, options ++ globalOptions, operands, []⟩

def helpWord : String := "help"

def program : CommandRule :=
  ⟨programName, globalOptions, .none, ["serve", "diff", "sync", helpWord]⟩

def usage : String :=
  "Usage: " ++ programName ++ " [OPTIONS] <COMMAND>\n\nCommands:\n" ++
    String.join (program.commands.map fun c => "  " ++ c ++ "\n") ++ "\nOptions:\n" ++
    program.usage

def versionText (title : String) : String := title ++ " " ++ version ++ "\n"

def commandOf (p : Parsed) : Command :=
  match p.command with
  | "serve" => .serve ((p.value? "listen").getD defaultListen) (p.value? "agent-token")
    ((p.value? "agent-token-file").getD defaultTokenFile)
  | "diff" => .diff (p.inner.operands.headD "") (p.value? "app-namespace") (p.value? "revision")
    (p.isSet "refresh") (p.isSet "hard-refresh") (p.value? "timeout")
  | _ => .sync p.inner.operands (p.value? "app-namespace") (p.values "option") (p.value? "timeout")

def formatOf (p : Parsed) (name : String) : OutputFormat :=
  ((p.value? name).bind OutputFormat.ofWord?).getD .text

def parse (env : Variables) (args : List String) : Except Fault Invocation := do
  let p ← CommandLine.parse program helpWord ruleOf env args
  return {
    verbose := p.isSet "verbose"
    logFormat := formatOf p "log-format"
    output := formatOf p "output"
    server := p.value? "server"
    token := p.value? "auth-token"
    insecure := p.isSet "insecure"
    plaintext := p.isSet "plaintext"
    command := commandOf p }

end Invocation
end DeployDrift
