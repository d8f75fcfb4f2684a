import DeployDrift.CommandLine.Invocation
import DeployDrift.Server.Client
import DeployDrift.Settings.EnvironmentFile
import DeployDrift.Workflow

/-!
# Sessions

What the program does from its start to its end: it looks at the environment and the command line,
and then either ends at once or has one job to carry out.
-/
namespace DeployDrift

/-- What a program leaves behind when it ends. -/
structure Output where
  exitCode : Nat
  stdout : String
  stderr : String
  deriving DecidableEq, Repr

/-- What the program was started for. -/
inductive Job where
  | diff (action : DiffAction)
  | sync (apps : List AppRef) (options : List String) (timeout : String)
  | serve (settings : ExecutorSettings)
  deriving DecidableEq, Repr

/-- A job, the client to carry it out with, and how its outcome is shown. -/
structure Session where
  presentation : Presentation
  logFormat : OutputFormat
  client : Client
  job : Job
  deriving DecidableEq, Repr

namespace Session

/-! ## The start -/

/-- The environment together with the environment file, if there is one. -/
def loadVariables (env : Variables) (files : Files) : Except SettingFault Variables :=
  let path := EnvironmentFile.fileName
  match files path with
  | .ok content => EnvironmentFile.load env path content
  | .error message =>
    if message = Files.noSuchFile then .ok env
    else .error (EnvironmentFile.unreadable path message)

/-- Output is coloured on a terminal, unless a variable forces or forbids it. -/
def isColoured (env : Variables) (terminal : Bool) : Bool :=
  let isOn : String → Option Bool := fun name => (Table.get? env name).map (· != "0")
  if isOn "CLICOLOR_FORCE" = some true then true
  else if (isOn "NO_COLOR").isSome then false
  else (isOn "CLICOLOR").getD true && terminal

/-- What is shown where a command line is not carried out. -/
def refusal (fault : CommandLine.Fault) : Output :=
  match fault with
  | .help => ⟨fault.exitCode, Invocation.usage, ""⟩
  | .version title => ⟨fault.exitCode, Invocation.versionText title, ""⟩
  | .nothingGiven => ⟨fault.exitCode, "", Invocation.usage⟩
  | _ => ⟨fault.exitCode, "", "error: " ++ fault.message ++ "\n\n" ++ Invocation.usage⟩

def failed (p : Presentation) (failure : Failure) : Output :=
  ⟨1, "", p.error failure.message⟩

def jobOf (files : Files) (connection : Connection) : Command → Except Failure Job
  | .serve listen token tokenFile =>
    let token := match token with
      | some token => .value token
      | none => .file tokenFile
    ((ExecutorSettings.resolve files connection listen token).map .serve).mapError .settings
  | .diff app ns revision refresh hardRefresh timeout =>
    .ok (.diff ⟨⟨app, ns.getD ""⟩, revision.getD "", refresh, hardRefresh, timeout.getD ""⟩)
  | .sync apps ns options timeout =>
    .ok (.sync (apps.map fun name => ⟨name, ns.getD ""⟩) options (timeout.getD ""))

/-- Starts the program; it may end at once. -/
def start (env : Variables) (files : Files) (terminal : Bool) (args : List String) :
    Except Output Session :=
  match loadVariables env files with
  | .error fault => .error ⟨1, "", "Error: " ++ (Failure.settings fault).message ++ "\n"⟩
  | .ok env =>
    match Invocation.parse env args with
    | .error fault => .error (refusal fault)
    | .ok i =>
      let p : Presentation := ⟨i.output, isColoured env terminal⟩
      match Connection.resolve i.server i.token i.insecure i.plaintext with
      | .error fault => .error (failed p (.settings fault))
      | .ok connection =>
        match jobOf files connection i.command with
        | .error failure => .error (failed p failure)
        | .ok job => .ok ⟨p, i.logFormat, Client.ofConnection connection, job⟩

/-! ## The end -/

def logLine (s : Session) (e : LogEntry) : String :=
  match s.logFormat with
  | .text => e.text
  | .json => Json.write
    (.mapping [("level", .text e.level.text), ("fields", .mapping [("message", .text e.message)])])

def showDiff (p : Presentation) : Except Failure DriftReport → Output
  | .ok report => ⟨0, p.report report, ""⟩
  | .error failure => failed p (.within "failed to diff app" failure)

def showSync (p : Presentation) (apps : List AppRef) : Except Failure Unit → Output
  | .ok () => ⟨0, p.synced (apps.map (·.name)), ""⟩
  | .error failure => failed p failure

def showServe (p : Presentation) : Except String Unit → Output
  | .ok () => ⟨0, "", ""⟩
  | .error message => failed p (.io message)

def runSync (apps : List AppRef) (options : List String) (timeout : String)
    (answers : Nat → Timed (Except ServerFault Unit)) (schedule : Schedule apps.length) :
    Run (Except Failure Unit) :=
  match Deadline.start timeout with
  | .error fault => ⟨[], [], .error (.ofTimeout fault)⟩
  | .ok deadline => SyncBatch.run apps options deadline answers schedule

/-- Carries out the job; a plugin server ends at once if it cannot listen at its address. -/
def run (s : Session) (services : Services) (scheduler : Scheduler)
    (listen : SocketAddress → Except String Unit) : Run Output :=
  match s.job with
  | .diff action =>
    let run := action.run services
    { run with outcome := showDiff s.presentation run.outcome }
  | .sync apps options timeout =>
    let run := runSync apps options timeout (SyncAction.answerOf services apps options)
      (scheduler apps.length)
    { run with outcome := showSync s.presentation apps run.outcome }
  | .serve settings => ⟨[], [], showServe s.presentation (listen settings.listen)⟩

def respond (s : Session) (services : Services) (scheduler : Scheduler) (r : HttpRequest) :
    Run HttpResponse :=
  match s.job with
  | .serve settings => Endpoint.respond settings.agentToken services scheduler r.received
  | _ => ⟨[], [], .notFound⟩

end Session
end DeployDrift
