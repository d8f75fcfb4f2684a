import DeployDrift.Json.Reader
import DeployDrift.Json.Writer
import DeployDrift.Network.Http
import DeployDrift.Network.Url
import DeployDrift.Server.Program
import DeployDrift.Settings.Connection

/-!
# Calls over HTTP

Every call is one request, which carries the token of the client, and no call is made again.  The
name of an application is put into the URL as it is.  An answer that reports success is read as
JSON; of any other one the message it holds is passed on.
-/
namespace DeployDrift

structure Client where
  /-- The URL that all requests start with, without a slash at its end. -/
  baseUrl : String
  token : String
  deriving DecidableEq, Repr

structure AddressedRequest where
  url : Url
  request : HttpRequest
  deriving DecidableEq, Repr

/-- The network: how long a request takes and what is answered, if anything is. -/
abbrev Transport := AddressedRequest → Timed (Option HttpResponse)

namespace Client

def ofConnection (c : Connection) : Client := ⟨c.baseUrl, c.token⟩

def ofUrl (url token : String) : Client := ⟨Text.trimEnd '/' url, token⟩

/-! ## Requests -/

def resource : Call → String
  | .application name .. => "applications/" ++ name
  | .managedResources name .. => "applications/" ++ name ++ "/managed-resources"
  | .manifests name .. => "applications/" ++ name ++ "/manifests"
  | .settings => "settings"
  | .sync name .. => "applications/" ++ name ++ "/sync"

def namespaceParameter (ns : String) : List (String × String) :=
  if ns = "" then [] else [("appNamespace", ns)]

def parameters : Call → List (String × String)
  | .application _ ns refresh =>
    namespaceParameter ns ++ (refresh.map fun r => ("refresh", r.text)).toList
  | .managedResources _ ns => namespaceParameter ns
  | .manifests _ ns revision =>
    namespaceParameter ns ++ if revision = "" then [] else [("revision", revision)]
  | .settings | .sync .. => []

/-- The body of the request to sync an application, its fields in the order of the text. -/
def syncBody (name ns : String) (options : List String) : Document :=
  .mapping ([("name", .text name)] ++ (if ns = "" then [] else [("appNamespace", .text ns)]) ++
    [("syncOptions", .mapping [("items", .list (options.map .text))])])

/-- The character may not stand in a header. -/
def isControl (c : Char) : Bool := (c.toNat < 32 && c ≠ '\t') || c.toNat == 127

def unwritable : String := "Request failed: builder error"

def url (client : Client) (c : Call) : String := client.baseUrl ++ "/api/v1/" ++ resource c

def request (client : Client) (c : Call) : Except ServerFault AddressedRequest :=
  match Url.parse (client.url c) with
  | .error .malformed => .error (.unreachable unwritable)
  | .error (.otherScheme url) => .error (.unreachable (unwritable ++ " for url (" ++ url ++ ")"))
  | .ok url =>
    if client.token.toList.any isControl then .error (.unreachable unwritable)
    else
      let authorization := ("authorization", Text.bytes ("Bearer " ++ client.token).toList)
      match c with
      | .sync name ns options => .ok ⟨url, "POST", url.target,
          [authorization, ("content-type", Text.bytes "application/json".toList)],
          Text.bytes (Json.write (syncBody name ns options)).toList⟩
      | c =>
        let url := url.withParameters (parameters c)
        .ok ⟨url, "GET", url.target, [authorization], []⟩

/-! ## Answers -/

/-- What an answer says that reports a failure. -/
def refusalShape : Shape := .record "ApiErrorBody" [
  ({ name := "message" }, .text),
  ({ name := "error" }, .text)]

/-- The message in a body, or else the error in it, or else the body itself. -/
def refusalMessage (body : String) : String :=
  match Json.read refusalShape body with
  | .error _ => body
  | .ok d =>
    let message := if d.textAt "message" = "" then d.textAt "error" else d.textAt "message"
    if message = "" then body else message

def success (r : HttpResponse) : Except ServerFault String :=
  if 200 ≤ r.status && r.status < 300 then .ok r.body
  else
    let message := refusalMessage r.body
    .error (if r.status = 401 || r.status = 403 then .notAuthenticated message
      else .refused r.status message)

def read (shape : Shape) (body : String) : Except ServerFault Document :=
  (Json.read shape body).mapError fun _ =>
    .unintelligible "Failed to parse response: error decoding response body"

def content : (c : Call) → (body : String) → Except ServerFault c.Result
  | .application .., body => Application.ofDocument <$> read Application.shape body
  | .managedResources .., body =>
    ManagedResource.listOfDocument <$> read ManagedResource.listShape body
  | .manifests .., body => (fun d => (Manifests.ofDocument d).texts) <$> read Manifests.shape body
  | .settings, body => ServerSettings.ofDocument <$> read ServerSettings.shape body
  | .sync .., _ => .ok ()

def unanswered (url : Url) : ServerFault :=
  .unreachable ("Request failed: error sending request for url (" ++ url.text ++ ")")

/-- The outcome of a call whose request went to `url`. -/
def outcome (c : Call) (url : Url) : Option HttpResponse → Except ServerFault c.Result
  | none => .error (unanswered url)
  | some r => success r >>= content c

/-- The server as the client sees it over a network. -/
def services (client : Client) (transport : Transport) : Services := fun c =>
  match client.request c with
  | .error fault => ⟨0, .error fault⟩
  | .ok request =>
    let answer := transport request
    ⟨answer.delay, outcome c request.url answer.outcome⟩

end Client
end DeployDrift
