import DeployDrift.Drift.Detection
import DeployDrift.Json.Writer
import DeployDrift.Network.Http
import DeployDrift.Sync

/-!
# Requests of workflows

A workflow asks over HTTP for a template to be executed, and is told what came of it.
-/
namespace DeployDrift

/-!
## What a request holds

The template may carry a block for a plugin, of any form; only a block for this plugin is looked at
closely.
-/

structure TemplateRequest where
  workflowName : String
  workflowNamespace : String
  templateName : String
  /-- The block for a plugin. -/
  plugin : Option Document
  deriving DecidableEq

namespace TemplateRequest

def shape : Shape := .record "ExecuteTemplateArgs" [
  ({ name := "workflow" }, .record "WorkflowRef" [
    ({ name := "metadata" }, .record "WorkflowMetadata" [
      ({ name := "name" }, .text),
      ({ name := "namespace" }, .text)])]),
  ({ name := "template" }, .record "TemplateRef" [
    ({ name := "name" }, .text),
    ({ name := "plugin" }, .optional .any)])]

def ofDocument (d : Document) : TemplateRequest :=
  let workflow := (d.partAt "workflow").partAt "metadata"
  let template := d.partAt "template"
  ⟨workflow.textAt "name", workflow.textAt "namespace", template.textAt "name",
    template.optionAt "plugin"⟩

end TemplateRequest

structure PluginBlock where
  action : Option ActionSpec
  deriving DecidableEq, Repr

namespace PluginBlock

def shape : Shape := .record "PluginSpec" [
  ({ name := "argocd" }, .optional ActionSpec.shape)]

def ofDocument (d : Document) : PluginBlock := ⟨(d.optionAt "argocd").map .ofDocument⟩

end PluginBlock

/-!
## Replies

What the workflow is told of a node: its phase, a message, how far it got, and what it put out.  A
reply without a node says that the request is none of this plugin's business.
-/

/-- What a workflow is told of a node. -/
structure NodeResult where
  phase : Phase
  message : String
  progress : String
  /-- The outputs of the node, of which the result may be missing. -/
  outputs : Option (Option String)
  deriving DecidableEq, Repr

structure Reply where
  node : Option NodeResult
  deriving DecidableEq, Repr

namespace Reply

def completedMessage : String := "Action completed"

def succeeded (output : String) : Reply :=
  ⟨some ⟨.succeeded, completedMessage, "1/1", some (some output)⟩⟩

/-- The action was attempted and failed. -/
def failed (failure : Failure) : Reply :=
  ⟨some ⟨.failed, "action failed: " ++ failure.message, "0/1", none⟩⟩

/-- The action could not be started. -/
def error (failure : Failure) : Reply := ⟨some ⟨.error, failure.message, "0/0", none⟩⟩

def ofFailure (failure : Failure) : Reply :=
  match failure.phase with
  | .error => error failure
  | .failed | .succeeded => failed failure

/-- The request asks for another plugin. -/
def unsupported : Reply := ⟨none⟩

def shape : Shape := .record "ExecuteTemplateReply" [
  ({ name := "node" }, .optional (.record "NodeResult" [
    ({ name := "phase", required := true }, .choice ["Succeeded", "Failed", "Error"]),
    ({ name := "message", required := true }, .text),
    ({ name := "progress", required := true }, .text),
    ({ name := "outputs" }, .optional (.record "Outputs" [
      ({ name := "result" }, .optional .text)]))]))]

def phaseOf (text : String) : Phase :=
  if text = "Succeeded" then .succeeded else if text = "Failed" then .failed else .error

def ofDocument (d : Document) : Reply :=
  ⟨(d.optionAt "node").map fun node =>
    { phase := phaseOf (node.textAt "phase")
      message := node.textAt "message"
      progress := node.textAt "progress"
      outputs := (node.optionAt "outputs").map fun o => (o.optionAt "result").bind Document.text? }⟩

/-- The outputs of a node as a field; a result that is missing is left out. -/
def outputFields : Option (Option String) → List (String × Document)
  | none => []
  | some none => [("outputs", .mapping [])]
  | some (some result) => [("outputs", .mapping [("result", .text result)])]

/-- The reply as it is sent, its fields in this order; parts that it lacks are left out. -/
def document (r : Reply) : Document :=
  match r.node with
  | none => .mapping []
  | some node =>
    .mapping [("node", .mapping ([("phase", .text node.phase.text),
      ("message", .text node.message), ("progress", .text node.progress)] ++
        outputFields node.outputs))]

end Reply

/-!
## Executing templates

A request is taken apart, its action is carried out, and the workflow gets a reply in every case.
-/

namespace ActionSpec

/-- A failure in an action, unless it is a failed batch, says which action it was. -/
def inSync : Failure → Failure
  | .sync failures => .sync failures
  | failure => .within "failed to sync apps" failure

/-- Carries out the action that is asked for; its output is the text of the report. -/
def run (spec : ActionSpec) (services : Services) (scheduler : Scheduler) :
    Run (Except Failure String) :=
  match spec.route with
  | .error fault => ⟨[], [], .error (.action fault)⟩
  | .ok (.sync a) =>
    let run := a.run services scheduler
    { run with outcome := match run.outcome with
      | .ok () => .ok ""
      | .error failure => .error (inSync failure) }
  | .ok (.diff a) =>
    let run := a.run services
    { run with outcome := match run.outcome with
      | .ok report => .ok report.text
      | .error failure => .error (.within "failed to diff app" failure) }

end ActionSpec

namespace TemplateRequest

def executePlugin (plugin : Document) (services : Services) (scheduler : Scheduler) :
    Run Reply :=
  match PluginBlock.shape.decode plugin with
  | .error mismatch =>
    let failure := Failure.action (.invalidPlugin (Json.Fault.ofMismatch mismatch).message)
    ⟨[], LogEntry.errors [failure.message], .error failure⟩
  | .ok block =>
    match (PluginBlock.ofDocument block).action with
    | none => ⟨[], [], .unsupported⟩
    | some spec =>
      let run := spec.run services scheduler
      match run.outcome with
      | .ok output => ⟨run.calls, run.log, .succeeded output⟩
      | .error failure =>
        ⟨run.calls, run.log ++ LogEntry.errors ["Action failed: " ++ failure.message],
          .ofFailure failure⟩

/-- Executes the template; a block that is null counts as none. -/
def execute (request : TemplateRequest) (services : Services) (scheduler : Scheduler) :
    Run Reply :=
  match request.plugin with
  | none | some .null => ⟨[], [], .unsupported⟩
  | some plugin => executePlugin plugin services scheduler

end TemplateRequest

/-!
## The endpoint

Requests come over HTTP.  Only a request to execute a template, with the token that was agreed on
and a body that can be read, leads to any call of the server.
-/

namespace HttpResponse

def plain (status : Nat) (text : String) : HttpResponse :=
  ⟨status, some "text/plain; charset=utf-8", none, text⟩

def json (d : Document) : HttpResponse := ⟨200, some "application/json", none, Json.write d⟩

def notFound : HttpResponse := ⟨404, none, none, ""⟩

def wrongMethod (allowed : String) : HttpResponse := ⟨405, none, some allowed, ""⟩

end HttpResponse

namespace Endpoint

def executePath : String := "/api/v1/template.execute"

/-- The byte may stand in a credential: a visible ASCII character, a space or a tab. -/
def isVisible (b : UInt8) : Bool := (0x20 ≤ b && b < 0x7f) || b == 0x09

/-- The text of a header, if it can be read as one. -/
def headerText? (value : List UInt8) : Option String :=
  if value.all isVisible then some (Text.ofLatin value) else none

/-- The texts have the same bytes.  All of them are looked at, so that the time this takes does not
tell where the texts differ. -/
def tokensMatch (provided expected : String) : Bool :=
  let a := provided.toUTF8.data.toList
  let b := expected.toUTF8.data.toList
  a.length == b.length &&
    (List.zipWith (fun x y : UInt8 => x ^^^ y) a b).foldl (fun acc d => acc ||| d) 0 == 0

def isAuthorized (token : String) (r : HttpRequest) : Bool :=
  ((r.header? "authorization").bind headerText?).any fun given =>
    tokensMatch given ("Bearer " ++ token)

def execute (token : String) (services : Services) (scheduler : Scheduler) (r : HttpRequest) :
    Run HttpResponse :=
  if isAuthorized token r then
    match Json.readBytes TemplateRequest.shape r.body with
    | .error fault =>
      ⟨[], LogEntry.warnings
          ["Rejected malformed template execution request: " ++ fault.message],
        .plain 400 fault.message⟩
    | .ok d =>
      let run := (TemplateRequest.ofDocument d).execute services scheduler
      { run with outcome := .json run.outcome.document }
  else
    ⟨[], LogEntry.warnings ["Rejected template execution with an invalid agent token"],
      .plain 403 "invalid agent token"⟩

def respond (token : String) (services : Services) (scheduler : Scheduler) (r : HttpRequest) :
    Run HttpResponse :=
  if r.path ≠ executePath then ⟨[], [], .notFound⟩
  else if r.method ≠ "POST" then ⟨[], [], .wrongMethod "POST"⟩
  else execute token services scheduler r

end Endpoint
end DeployDrift
