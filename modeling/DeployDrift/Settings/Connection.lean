import DeployDrift.Network.Address
import DeployDrift.Shape

/-!
# Connections and servers

The settings of a client, and those of a plugin server.
-/
namespace DeployDrift

/-!
## The connection to the server

Where the server is found and how a client proves who it is.  The token is read but never written.
-/

structure Connection where
  /-- The address of the server, with or without scheme. -/
  server : String
  token : String
  /-- Certificates of the server are not checked. -/
  insecure : Bool
  /-- An address without scheme is reached without encryption. -/
  plaintext : Bool
  deriving DecidableEq, Repr

namespace Connection

def serverVariable : String := "ARGOCD_SERVER"

def tokenVariable : String := "ARGOCD_AUTH_TOKEN"

/-- A value without the white space around it, unless nothing is left of it. -/
def nonBlank? (value : Option String) : Option String :=
  (value.map Text.trim).filter (· ≠ "")

/-- The connection that the settings describe; server and token must be given. -/
def resolve (server token : Option String) (insecure plaintext : Bool) :
    Except SettingFault Connection :=
  match nonBlank? server, nonBlank? token with
  | none, _ => .error (.missing serverVariable)
  | some _, none => .error (.missing tokenVariable)
  | some server, some token => .ok ⟨server, token, insecure, plaintext⟩

def hasScheme (server : String) : Bool :=
  Text.startsWith "http://" server || Text.startsWith "https://" server

/-- The URL under which the server is reached: the address without slashes at its end, with a scheme
in front if it has none. -/
def baseUrl (c : Connection) : String :=
  let server := Text.trimEnd '/' (Text.trim c.server)
  if hasScheme server then server
  else (if c.plaintext then "http://" else "https://") ++ server

def shape : Shape := .record "ArgoCdConnection" [
  ({ name := "server", required := true }, .text),
  ({ name := "auth_token", required := true }, .text),
  ({ name := "insecure" }, .bool),
  ({ name := "plaintext" }, .bool)]

def ofDocument (d : Document) : Connection :=
  ⟨d.textAt "server", d.textAt "auth_token", d.boolAt "insecure", d.boolAt "plaintext"⟩

def document (c : Connection) : Document :=
  .ofFields [("server", .text c.server), ("insecure", .bool c.insecure),
    ("plaintext", .bool c.plaintext)]

end Connection

/-!
## The settings of the plugin server
-/

structure ExecutorSettings where
  connection : Connection
  /-- Where the server listens for requests. -/
  listen : SocketAddress
  /-- What a request has to show. -/
  agentToken : String
  deriving DecidableEq, Repr

/-- The settings that the given texts stand for; the address is looked at before the token. -/
def ExecutorSettings.resolve (files : Files) (connection : Connection) (listen : String)
    (token : AgentToken) : Except SettingFault ExecutorSettings := do
  let address ← SocketAddress.resolve listen
  return ⟨connection, address, ← token.resolve files⟩

end DeployDrift
