import DeployDrift.Session
import Std.Async.DNS
import Std.Async.Signal
import Std.Async.TCP

/-!
# The program

The outer layer: variables, files, connections, signals and the two output streams.  What is done
with them is decided by `Session`.  Connections are not encrypted, so a server whose address asks
for encryption is not reached.
-/
namespace DeployDrift.Main

open Std.Async

/-! ## The environment -/

def systemFault : IO.Error → String
  | .noFileOrDirectory .. => Files.noSuchFile
  | .permissionDenied .. => "Permission denied (os error 13)"
  | .resourceBusy .. => SocketAddress.inUse
  | e => toString e

def readFile (path : String) : IO (Except String String) := do
  try return .ok (← IO.FS.readFile path) catch e => return .error (systemFault e)

def wordsOf (s : String) : List String :=
  let isNameChar : Char → Bool := fun c => c.isAlphanum || c = '_'
  (s.toList.splitBy fun a b => isNameChar a = isNameChar b).map String.ofList

/-- The variables that the program or its environment file may ask for. -/
def readVariables (environmentFile : String) : IO Variables := do
  let rules := ["serve", "diff", "sync"].map Invocation.ruleOf
  let names := ["CLICOLOR", "CLICOLOR_FORCE", "NO_COLOR"] ++
    (rules.flatMap fun rule => rule.options.filterMap (·.variableName)) ++ wordsOf environmentFile
  let values ← names.mapM fun name => do return (← IO.getEnv name).map fun value => (name, value)
  return Table.ofList (values.filterMap id)

/-! ## Connections -/

/-- The address of a host, whose name is looked up if it is no address. -/
def resolveHost (host : String) (port : UInt16) : IO Std.Net.SocketAddress := do
  let addresses ← (DNS.getAddrInfo host (toString port)).block
  match (addresses[0]? : Option Std.Net.IPAddr) with
  | some (.v4 a) => return .v4 ⟨a, port⟩
  | some (.v6 a) => return .v6 ⟨a, port⟩
  | none => throw (.userError "no address")

/-- Receives from a connection until what came is complete. -/
partial def receive {α : Type} (read : List UInt8 → Bool → Option α) (socket : TCP.Socket.Client)
    (before : ByteArray) : IO (Option α) := do
  let chunk ← (socket.recv? 65536).block
  let all := before ++ chunk.getD ByteArray.empty
  match read all.data.toList chunk.isNone with
  | some a => return some a
  | none => if chunk.isNone then return none else receive read socket all

def exchange (r : AddressedRequest) : IO HttpResponse := do
  if r.url.secure then throw (.userError "no encryption")
  let host := String.ofList (r.url.host.toList.filter fun c => c ≠ '[' && c ≠ ']')
  let socket ← TCP.Socket.Client.mk
  (socket.connect (← resolveHost host (r.url.port.getD 80).toUInt16)).block
  (socket.send (r.request.message r.url.authority).toByteArray).block
  match ← receive HttpResponse.ofMessage? socket ByteArray.empty with
  | some response => return response
  | none => throw (.userError "no response")

/-! ## Calls -/

abbrev Answered := (c : Call) × Timed (Except ServerFault c.Result)

def perform (client : Client) (c : Call) : IO Answered := do
  let start ← IO.monoNanosNow
  let outcome ← match client.request c with
    | .error fault => pure (.error fault)
    | .ok r => do
      let response ← try some <$> exchange r catch _ => pure none
      pure (Client.outcome c r.url response)
  return ⟨c, (← IO.monoNanosNow) - start, outcome⟩

/-- The server as far as its answers are known; the others fail with a message after some time. -/
def knownServices (answers : List Answered) (delay : Nat) (message : String) : Services := fun c =>
  (answers.findSome? fun ⟨given, answer⟩ => if h : given = c then some (h ▸ answer) else none).getD
    ⟨delay, .error (.unreachable message)⟩

/-- Runs something against a server.  The calls whose answers are not known yet are made, until no
missing answer matters any more, which a deadline may bring about while a call is under way. -/
partial def settle {α : Type} [BEq α] (client : Client) (run : Services → Run α)
    (answers : List Answered) : IO (Run α) := do
  let current := run (knownServices answers 0 "")
  match (current.calls.filter fun c => !answers.any (·.1 = c)) with
  | [] => return current
  | missing =>
    let start ← IO.monoNanosNow
    wait start (← missing.mapM fun c => IO.asTask (perform client c))
where
  /-- Waits for calls that are under way. -/
  wait (start : Nat) (tasks : List (Task (Except IO.Error Answered))) : IO (Run α) := do
    if ← tasks.allM (fun t => IO.hasFinished t) then
      settle client run (answers ++ tasks.filterMap fun t => t.get.toOption)
    else
      let elapsed := (← IO.monoNanosNow) - start
      let first := run (knownServices answers elapsed "first")
      let second := run (knownServices answers elapsed "second")
      if first.outcome == second.outcome then return first
      IO.sleep 5
      wait start tasks

/-! ## The plugin server -/

def writeLog (s : Session) (log : List LogEntry) : IO Unit := do
  for entry in log do IO.eprintln (s.logLine entry)

def answer (s : Session) (socket : TCP.Socket.Client) : IO Unit := do
  match ← receive (fun message _ => HttpRequest.ofMessage? message) socket ByteArray.empty with
  | none => return
  | some request =>
    let run ← settle s.client (s.respond · Schedule.inOrder request) []
    writeLog s run.log
    (socket.send run.outcome.message.toByteArray).block
    socket.shutdown.block

/-- Accepts connections until the program is interrupted. -/
partial def accept (s : Session) (server : TCP.Socket.Server) (interrupt : Signal.Waiter) :
    IO Unit := do
  let next : Async (Option TCP.Socket.Client) := Selectable.one #[
    .case server.acceptSelector fun socket => pure (some socket),
    .case interrupt.selector fun _ => pure none]
  match ← next.block with
  | none => return
  | some socket =>
    let _ ← IO.asTask (answer s socket)
    accept s server interrupt

def nativeAddress : SocketAddress → Std.Net.SocketAddress
  | .v4 a port => .v4 ⟨.ofParts a.first a.second a.third a.fourth, port⟩
  | .v6 a _ port => .v6 ⟨⟨a.groups⟩, port⟩

/-- Listens at an address and answers until the program is interrupted. -/
def serve (s : Session) (address : SocketAddress) : IO (Except String Unit) := do
  try
    let server ← TCP.Socket.Server.mk
    server.bind (nativeAddress address)
    server.listen 128
    accept s server (← Signal.Waiter.mk .sigint false)
    return .ok ()
  catch e => return .error (systemFault e)

/-! ## The program -/

def finish (s : Session) : IO Output := do
  let listening ← match s.job with
    | .serve settings => serve s settings.listen
    | _ => pure (.ok ())
  let run ← settle s.client (s.run · Schedule.inOrder fun _ => listening) []
  writeLog s run.log
  return run.outcome

def tokenPath (env : Variables) (args : List String) : Option String :=
  match Invocation.parse env args with
  | .ok { command := .serve _ none path, .. } => some path
  | _ => none

def run (args : List String) : IO Output := do
  let environmentFile ← readFile EnvironmentFile.fileName
  let env ← readVariables (environmentFile.toOption.getD "")
  let all := match environmentFile with
    | .ok content => (EnvironmentFile.load env EnvironmentFile.fileName content).toOption.getD env
    | .error _ => env
  let token ← (tokenPath all args).mapM fun path => do return (path, ← readFile path)
  let files : Files := fun path =>
    if path = EnvironmentFile.fileName then environmentFile
    else match token with
      | some (given, content) => if path = given then content else .error Files.noSuchFile
      | none => .error Files.noSuchFile
  match Session.start env files (← (← IO.getStdout).isTty) args with
  | .error output => return output
  | .ok s => finish s

end DeployDrift.Main

def main (args : List String) : IO UInt32 := do
  let output ← DeployDrift.Main.run args
  IO.print output.stdout
  IO.eprint output.stderr
  return output.exitCode.toUInt32
