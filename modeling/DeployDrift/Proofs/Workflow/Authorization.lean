import DeployDrift.Proofs.Json.Texts
import DeployDrift.Proofs.Workflow.Phases

/-!
# Who may have a template executed

Two credentials match exactly if they are equal: the differences of their bytes are collected by
disjunction, in which none can cancel another.  A request without the right credential is turned
away before its body is looked at, and one whose body cannot be read before anything is asked of the
server.  Every other request gets the reply to the template that it carries, as JSON.  Headers and
bodies are bytes here, whether they form texts or not.
-/
namespace DeployDrift.Endpoint

section Tokens

/-- Once a bit is set, no further difference takes it back. -/
theorem foldl_or_eq_zero_iff (differences : List UInt8) (acc : UInt8) :
    differences.foldl (fun acc d => acc ||| d) acc = 0 ↔ acc = 0 ∧ ∀ d ∈ differences, d = 0 := by
  induction differences generalizing acc with
  | nil => simp
  | cons d rest ih =>
    rw [List.foldl_cons, ih, UInt8.or_eq_zero_iff, List.forall_mem_cons, and_assoc]

theorem zipWith_xor_eq_zero_iff {a b : List UInt8} (h : a.length = b.length) :
    (∀ d ∈ List.zipWith (fun x y : UInt8 => x ^^^ y) a b, d = 0) ↔ a = b := by
  induction a generalizing b with
  | nil =>
    have hb : b = [] := List.length_eq_zero_iff.mp h.symm
    simp [hb]
  | cons x a ih =>
    cases b with
    | nil => cases h
    | cons y b =>
      have hlength : a.length = b.length := Nat.succ.inj h
      rw [List.zipWith_cons_cons, List.forall_mem_cons, ih hlength, UInt8.xor_eq_zero_iff,
        List.cons.injEq]

/-- The comparison in constant time is equality of the two texts. -/
theorem tokensMatch_iff (a b : String) : tokensMatch a b = true ↔ a = b := by
  unfold tokensMatch
  dsimp only
  rw [Bool.and_eq_true, beq_iff_eq, beq_iff_eq, foldl_or_eq_zero_iff, ← Text.bytes_toList_inj,
    Text.bytes_toList, Text.bytes_toList]
  constructor
  · rintro ⟨hlength, -, hnone⟩
    exact (zipWith_xor_eq_zero_iff hlength).mp hnone
  · intro h
    have hlength := congrArg List.length h
    exact ⟨hlength, rfl, (zipWith_xor_eq_zero_iff hlength).mpr h⟩

end Tokens

/-- The first header of a name has this value; letters in names may be large or small. -/
def HasFirst (r : HttpRequest) (name : String) (value : List UInt8) : Prop :=
  ∃ before given after, r.headers = before ++ (given, value) :: after ∧ given.toLower = name ∧
    ∀ header ∈ before, header.1.toLower ≠ name

/-- All bytes are visible ASCII characters; spaces and tabs count as visible. -/
def IsLegible (value : List UInt8) : Prop := ∀ b ∈ value, 0x20 ≤ b ∧ b ≤ 0x7e ∨ b = 0x09

/-- The first credential of the request is visible ASCII and byte for byte the agreed one. -/
def Authorized (token : String) (r : HttpRequest) : Prop :=
  ∃ value, HasFirst r "authorization" value ∧ IsLegible value ∧
    value = Text.bytes ("Bearer " ++ token).toList

section Headers

variable {token : String} {r : HttpRequest}

theorem header?_eq_some_iff {name : String} {value : List UInt8} :
    r.header? name = some value ↔ HasFirst r name value := by
  unfold HttpRequest.header? HasFirst
  rw [Option.map_eq_some_iff]
  constructor
  · rintro ⟨⟨given, value'⟩, hfind, rfl⟩
    obtain ⟨hname, before, after, hheaders, hbefore⟩ := List.find?_eq_some_iff_append.mp hfind
    refine ⟨before, given, after, hheaders, beq_iff_eq.mp hname, ?_⟩
    intro header hheader
    simpa using hbefore header hheader
  · rintro ⟨before, given, after, hheaders, hname, hbefore⟩
    refine ⟨(given, value), List.find?_eq_some_iff_append.mpr ?_, rfl⟩
    refine ⟨beq_iff_eq.mpr hname, before, after, hheaders, ?_⟩
    intro header hheader
    simpa using hbefore header hheader

theorem isVisible_iff (b : UInt8) : isVisible b = true ↔ 0x20 ≤ b ∧ b ≤ 0x7e ∨ b = 0x09 := by
  simp only [isVisible, Bool.or_eq_true, Bool.and_eq_true, decide_eq_true_iff, beq_iff_eq,
    UInt8.lt_iff_toNat_lt, UInt8.le_iff_toNat_le, ← UInt8.toNat_inj, UInt8.reduceToNat]
  omega

theorem headerText?_eq_some_iff {value : List UInt8} {given : String} :
    headerText? value = some given ↔
      IsLegible value ∧ value = Text.bytes given.toList := by
  unfold headerText? IsLegible
  simp only [Option.ite_none_right_eq_some, List.all_eq_true, isVisible_iff, Option.some.injEq]
  refine and_congr_right fun hvisible => ?_
  have hascii : ∀ b ∈ value, b < 0x80 := by
    intro b hb
    have hrange := hvisible b hb
    simp only [UInt8.lt_iff_toNat_lt, UInt8.le_iff_toNat_le, ← UInt8.toNat_inj,
      UInt8.reduceToNat] at hrange ⊢
    omega
  rw [← Text.bytes_toList_inj, Text.bytes_ofLatin hascii]

/-- A request is let in exactly if its first credential is, byte for byte, the agreed one.
-/
theorem isAuthorized_iff : isAuthorized token r = true ↔ Authorized token r := by
  unfold isAuthorized Authorized
  simp only [Option.any_eq_true, Option.bind_eq_some_iff, tokensMatch_iff, header?_eq_some_iff,
    headerText?_eq_some_iff]
  constructor
  · rintro ⟨given, ⟨value, hfirst, hvisible, hvalue⟩, rfl⟩
    exact ⟨value, hfirst, hvisible, hvalue⟩
  · rintro ⟨value, hfirst, hvisible, hvalue⟩
    exact ⟨_, ⟨value, hfirst, hvisible, hvalue⟩, rfl⟩

end Headers

section Answers

/-- The outputs of a node as they follow its other fields. -/
def outputsText : Option (Option String) → String
  | none => ""
  | some none => ",\"outputs\":\x7b\x7d"
  | some (some result) => ",\"outputs\":\x7b\"result\":" ++ Json.writeText result ++ "\x7d"

def phaseName : Phase → String
  | .succeeded => "Succeeded"
  | .failed => "Failed"
  | .error => "Error"

/-- The JSON text of a reply. -/
def replyText (reply : Reply) : String :=
  match reply.node with
  | none => "\x7b\x7d"
  | some node =>
    "\x7b\"node\":\x7b\"phase\":\"" ++ phaseName node.phase ++ "\",\"message\":" ++
      Json.writeText node.message ++ ",\"progress\":" ++ Json.writeText node.progress ++
      outputsText node.outputs ++ "\x7d\x7d"

theorem outputsText_result (result : String) : outputsText (some (some result)) =
    ",\"outputs\":\x7b\"result\":" ++ Json.writeText result ++ "\x7d" := rfl

theorem writeText_phase (phase : Phase) :
    Json.writeText phase.text = "\"" ++ phaseName phase ++ "\"" := by
  cases phase <;> decide +kernel

theorem writeText_names : Json.writeText "node" = "\"node\"" ∧
    Json.writeText "phase" = "\"phase\"" ∧ Json.writeText "message" = "\"message\"" ∧
    Json.writeText "progress" = "\"progress\"" ∧ Json.writeText "outputs" = "\"outputs\"" ∧
    Json.writeText "result" = "\"result\"" := by
  decide +kernel

/-- The fields of a node are written in the order of the reply. -/
theorem joinWith_nodeFields (phase : Phase) (message progress : String)
    (outputs : Option (Option String)) :
    Text.joinWith "," (Json.writeFields ([("phase", .text phase.text), ("message", .text message),
        ("progress", .text progress)] ++ Reply.outputFields outputs)) =
      "\"phase\":\"" ++ phaseName phase ++ "\",\"message\":" ++ Json.writeText message ++
        ",\"progress\":" ++ Json.writeText progress ++ outputsText outputs := by
  obtain ⟨-, hphase, hmessage, hprogress, houtputs, hresult⟩ := writeText_names
  have hvalue := writeText_phase phase
  -- compared as lists of characters, since the texts are put together in another order
  rw [← String.toList_inj]
  rcases outputs with _ | _ | result
  · have hnone : outputsText none = "" := rfl
    simp [Reply.outputFields, hphase, hmessage, hprogress, hvalue, hnone]
  · have hempty : outputsText (some none) = ",\"outputs\":\x7b\x7d" := rfl
    simp [Reply.outputFields, hphase, hmessage, hprogress, hvalue, houtputs, hempty]
  · simp [Reply.outputFields, hphase, hmessage, hprogress, hvalue, houtputs, hresult,
      outputsText_result]

theorem write_document (reply : Reply) : Json.write reply.document = replyText reply := by
  obtain ⟨node⟩ := reply
  cases node with
  | none => simp [Reply.document, replyText]
  | some node =>
    have hnode := writeText_names.1
    have hfields := joinWith_nodeFields node.phase node.message node.progress node.outputs
    simp only [Reply.document, Json.write_mapping, Json.writeFields_cons, Json.writeFields_nil,
      Text.joinWith_singleton, hnode, hfields, replyText]
    simp [← String.toList_inj]

end Answers

section Requests

variable {token : String} {services : Services} {scheduler : Scheduler} {r : HttpRequest}

theorem execute_of_not_authorized (h : ¬ Authorized token r) :
    execute token services scheduler r =
      ⟨[], LogEntry.warnings ["Rejected template execution with an invalid agent token"],
        .plain 403 "invalid agent token"⟩ := by
  have hclosed : ¬ isAuthorized token r = true := fun hopen => h (isAuthorized_iff.mp hopen)
  rw [execute, if_neg hclosed]

theorem execute_of_unreadable (h : Authorized token r) {fault : Json.Fault}
    (hbody : Json.readBytes TemplateRequest.shape r.body = .error fault) :
    execute token services scheduler r =
      ⟨[], LogEntry.warnings ["Rejected malformed template execution request: " ++ fault.message],
        .plain 400 fault.message⟩ := by
  rw [execute, if_pos (isAuthorized_iff.mpr h), hbody]

theorem execute_of_readable (h : Authorized token r) {d : Document}
    (hbody : Json.readBytes TemplateRequest.shape r.body = .ok d) :
    execute token services scheduler r =
      { (TemplateRequest.ofDocument d).execute services scheduler with
        outcome := .json
          ((TemplateRequest.ofDocument d).execute services scheduler).outcome.document } := by
  rw [execute, if_pos (isAuthorized_iff.mpr h), hbody]

/-- Only a request to execute a template leads to a call. -/
theorem execute_of_calls_respond (h : (respond token services scheduler r).calls ≠ []) :
    r.path = executePath ∧ r.method = "POST" ∧
      respond token services scheduler r = execute token services scheduler r := by
  unfold respond at h ⊢
  split at h
  · exact absurd rfl h
  next hpath =>
    split at h
    · exact absurd rfl h
    next hmethod =>
      rw [if_neg hpath, if_neg hmethod]
      exact ⟨Decidable.not_not.mp hpath, Decidable.not_not.mp hmethod, rfl⟩

/-- A request that leads to a call is authorized and carries a template. -/
theorem readable_of_calls_execute (h : (execute token services scheduler r).calls ≠ []) :
    Authorized token r ∧ ∃ d, Json.readBytes TemplateRequest.shape r.body = .ok d := by
  have hauthorized : Authorized token r := by
    refine Classical.byContradiction fun hunknown => ?_
    rw [execute_of_not_authorized hunknown] at h
    exact h rfl
  refine ⟨hauthorized, ?_⟩
  cases hbody : Json.readBytes TemplateRequest.shape r.body with
  | error fault =>
    rw [execute_of_unreadable hauthorized hbody] at h
    exact absurd rfl h
  | ok d => exact ⟨d, rfl⟩

end Requests

/-- What a request comes to, by its credential and its body. -/
structure Guarded (token : String) (services : Services) (scheduler : Scheduler)
    (r : HttpRequest) : Prop where
  /-- Without the credential the body makes no difference. -/
  forbidden : ¬ Authorized token r → ∀ body : List UInt8,
    (execute token services scheduler { r with body := body }).calls = [] ∧
      (execute token services scheduler { r with body := body }).outcome =
        ⟨403, some "text/plain; charset=utf-8", none, "invalid agent token"⟩
  malformed : Authorized token r →
    ∀ fault, Json.readBytes TemplateRequest.shape r.body = .error fault →
      (execute token services scheduler r).calls = [] ∧
        (execute token services scheduler r).outcome =
          ⟨400, some "text/plain; charset=utf-8", none, fault.message⟩
  /-- The answer is the reply to the template as JSON, and what is asked of the server is what the
  template asks for. -/
  executed : Authorized token r →
    ∀ d, Json.readBytes TemplateRequest.shape r.body = .ok d →
      ∃ reply, (TemplateRequest.ofDocument d).execute services scheduler = reply ∧
        execute token services scheduler r = ⟨reply.calls, reply.log,
          ⟨200, some "application/json", none, replyText reply.outcome⟩⟩
  acts : (respond token services scheduler r).calls ≠ [] →
    r.path = executePath ∧ r.method = "POST" ∧ Authorized token r ∧
      ∃ d, Json.readBytes TemplateRequest.shape r.body = .ok d

/-- Credentials match exactly if they are equal, and only a request with the right one and a body
that can be read has anything asked of the server.  It is answered with the JSON text of the reply,
in which every text is read back as it is. -/
theorem execute_guarded (token : String) :
    (∀ a b : String, tokensMatch a b = true ↔ a = b) ∧
      (∀ s : String, Json.read .text (Json.writeText s) = .ok (.text s)) ∧
      ∀ services scheduler r, Guarded token services scheduler r := by
  refine ⟨tokensMatch_iff, Json.read_writeText, fun services scheduler r => ?_⟩
  constructor
  case forbidden =>
    intro hunknown body
    -- the credential is in the headers, which the body does not change
    have hstill : ¬ Authorized token { r with body := body } := hunknown
    rw [execute_of_not_authorized hstill]
    exact ⟨rfl, rfl⟩
  case malformed =>
    intro hauthorized fault hbody
    rw [execute_of_unreadable hauthorized hbody]
    exact ⟨rfl, rfl⟩
  case executed =>
    intro hauthorized d hbody
    refine ⟨_, rfl, ?_⟩
    rw [execute_of_readable hauthorized hbody, HttpResponse.json, write_document]
  case acts =>
    intro hcalls
    obtain ⟨hpath, hmethod, heq⟩ := execute_of_calls_respond hcalls
    rw [heq] at hcalls
    exact ⟨hpath, hmethod, readable_of_calls_execute hcalls⟩

section Agent

/-- A request to execute a template. -/
def templateRequest (credential body : List UInt8) : HttpRequest :=
  ⟨"POST", executePath, [("Authorization", credential)], body⟩

def credential : List UInt8 := Text.bytes "Bearer abc123".toList

/-- A mapping whose only name is no UTF-8. -/
def strayBody : List UInt8 := Text.bytes "\x7b\"".toList ++ 0xff :: Text.bytes "\":1\x7d".toList

/-- A template with a block for a plugin. -/
def templateWith (plugin : Document) : List UInt8 :=
  Text.bytes ("\x7b\"template\":\x7b\"plugin\":" ++ Json.write plugin ++ "\x7d\x7d").toList

/-- The template as it is read, with the fields that it leaves out. -/
def templateDocument (plugin : Document) : Document :=
  .ofFields [
    ("template", .ofFields [("name", .text ""), ("plugin", plugin)]),
    ("workflow", .ofFields [
      ("metadata", .ofFields [("name", .text ""), ("namespace", .text "")])])]

/-- A block that asks for a batch without applications. -/
def emptySyncPlugin : Document :=
  .ofFields [("argocd", .ofFields [("app", .ofFields [("sync", .mapping [])])])]

def emptySyncSpec : ActionSpec := ⟨some ⟨some ⟨"", "", ""⟩, none⟩, ""⟩

theorem read_templates :
    Json.readBytes TemplateRequest.shape (templateWith shopPlugin) =
        .ok (templateDocument shopPlugin) ∧
      Json.readBytes TemplateRequest.shape (templateWith emptySyncPlugin) =
        .ok (templateDocument emptySyncPlugin) ∧
      Json.readBytes TemplateRequest.shape (templateWith .null) =
        .ok (templateDocument .null) :=
  ⟨eq_ok_of_toOption (by decide +kernel), eq_ok_of_toOption (by decide +kernel),
    eq_ok_of_toOption (by decide +kernel)⟩

theorem decode_emptySyncPlugin : PluginBlock.shape.decode emptySyncPlugin =
    .ok (.ofFields [("argocd", .ofFields [("app", .ofFields [("sync",
      .ofFields [("apps", .text ""), ("options", .text ""), ("timeout", .text "")]),
      ("diff", .null)]), ("timeout", .text "")])]) := by
  have hplugin : emptySyncPlugin = .mapping [("argocd", .mapping [("app", .mapping [("sync",
      .mapping [])])])] := rfl
  simp [hplugin, PluginBlock.shape, ActionSpec.shape, AppActions.shape, SyncAction.shape,
    Shape.decode, Shape.decodeWith, Shape.decodeByName, Shape.decodeByName_cons,
    Shape.complete, Shape.blank, Slot.answersTo, List.lookup_cons, bind, Except.bind]

theorem asksFor_emptySync :
    (TemplateRequest.ofDocument (templateDocument emptySyncPlugin)).AsksFor emptySyncSpec :=
  ⟨emptySyncPlugin, _, rfl, decode_emptySyncPlugin, by decide⟩

theorem authorized_abc123 (body : List UInt8) :
    Authorized "abc123" (templateRequest credential body) := by
  refine ⟨credential, ⟨[], "Authorization", [], rfl, ?_, ?_⟩, ?_, by decide +kernel⟩
  · decide +kernel
  · intro header hheader
    cases hheader
  · unfold IsLegible
    decide +kernel

theorem calls_respond_shopTemplate :
    (respond "abc123" unreachableServer Schedule.inOrder
      (templateRequest credential (templateWith shopPlugin))).calls =
        [.application "shop" "" none] := by
  have hread : Json.readBytes TemplateRequest.shape
      (templateRequest credential (templateWith shopPlugin)).body =
        .ok (templateDocument shopPlugin) := read_templates.1
  have hasks : (TemplateRequest.ofDocument (templateDocument shopPlugin)).AsksFor shopSpec :=
    asksFor_shop
  rw [respond, if_neg (by decide +kernel), if_neg (by decide),
    execute_of_readable (authorized_abc123 _) hread, TemplateRequest.calls_execute hasks]
  rfl

/-- A credential is refused for its last byte, which may be another letter or no character at all,
and then every body is refused alike.  With the right one a body that is no JSON is refused too, as
is one with a text that is no UTF-8; the other bodies are answered with a reply. -/
theorem execute_guarded_abc123 :
    (∀ body : List UInt8, ∀ last ∈ [0x34, 0xff],
      (execute "abc123" unreachableServer Schedule.inOrder
        (templateRequest (Text.bytes "Bearer abc12".toList ++ [last]) body)).outcome =
          ⟨403, some "text/plain; charset=utf-8", none, "invalid agent token"⟩) ∧
      (execute "abc123" unreachableServer Schedule.inOrder
        (templateRequest credential (Text.bytes "not json".toList))).outcome =
          ⟨400, some "text/plain; charset=utf-8", none, "expected ident at line 1 column 2"⟩ ∧
      (execute "abc123" unreachableServer Schedule.inOrder
        (templateRequest credential strayBody)).outcome =
          ⟨400, some "text/plain; charset=utf-8", none,
            "invalid unicode code point at line 1 column 4"⟩ ∧
      (execute "abc123" unreachableServer Schedule.inOrder
        (templateRequest credential (templateWith shopPlugin))).outcome =
          ⟨200, some "application/json", none, "\x7b\"node\":\x7b\"phase\":\"Failed\"," ++
            "\"message\":\"action failed: failed to diff app: failed to get application: " ++
            "Network error communicating with Argo CD: connection refused\"," ++
            "\"progress\":\"0/1\"\x7d\x7d"⟩ ∧
      (execute "abc123" unreachableServer Schedule.inOrder
        (templateRequest credential (templateWith emptySyncPlugin))).outcome =
          ⟨200, some "application/json", none, "\x7b\"node\":\x7b\"phase\":\"Succeeded\"," ++
            "\"message\":\"Action completed\",\"progress\":\"1/1\"," ++
            "\"outputs\":\x7b\"result\":\"\"\x7d\x7d\x7d"⟩ ∧
      (execute "abc123" unreachableServer Schedule.inOrder
        (templateRequest credential (templateWith .null))).outcome =
          ⟨200, some "application/json", none, "\x7b\x7d"⟩ ∧
      (respond "abc123" unreachableServer Schedule.inOrder
        (templateRequest credential (templateWith shopPlugin))).calls =
          [.application "shop" "" none] ∧
      Authorized "abc123" (templateRequest credential (templateWith shopPlugin)) := by
  obtain ⟨-, -, hguarded⟩ := execute_guarded "abc123"
  have hexecuted (plugin : Document) (reply : Run Reply)
      (hread : Json.readBytes TemplateRequest.shape (templateWith plugin) =
        .ok (templateDocument plugin))
      (hreply : (TemplateRequest.ofDocument (templateDocument plugin)).execute unreachableServer
        Schedule.inOrder = reply) :
      (execute "abc123" unreachableServer Schedule.inOrder
        (templateRequest credential (templateWith plugin))).outcome =
          ⟨200, some "application/json", none, replyText reply.outcome⟩ := by
    obtain ⟨told, htold, hanswer⟩ := (hguarded unreachableServer Schedule.inOrder
      (templateRequest credential (templateWith plugin))).executed (authorized_abc123 _) _ hread
    rw [hanswer, ← htold, hreply]
  obtain ⟨hshop, hsync, hnone⟩ := read_templates
  refine ⟨?_, ?_, ?_, ?_, ?_, ?_, calls_respond_shopTemplate, ?_⟩
  · intro body last hlast
    have hother : ¬ Authorized "abc123"
        (templateRequest (Text.bytes "Bearer abc12".toList ++ [last]) []) := by
      rw [← isAuthorized_iff]
      revert last
      decide +kernel
    exact ((hguarded unreachableServer Schedule.inOrder _).forbidden hother body).2
  · have hfault : Json.readBytes TemplateRequest.shape (Text.bytes "not json".toList) =
        .error ⟨.flaw .expectedIdent, some (1, 2)⟩ :=
      eq_error_of_fault? (by decide +kernel)
    exact ((hguarded unreachableServer Schedule.inOrder
      (templateRequest credential _)).malformed (authorized_abc123 _) _ hfault).2
  · have hfault : Json.readBytes TemplateRequest.shape strayBody =
        .error ⟨.flaw .strayByte, some (1, 4)⟩ :=
      eq_error_of_fault? (by decide +kernel)
    exact ((hguarded unreachableServer Schedule.inOrder
      (templateRequest credential _)).malformed (authorized_abc123 _) _ hfault).2
  · rw [hexecuted shopPlugin _ hshop (TemplateRequest.execute_of_failed asksFor_shop rfl)]
    decide +kernel
  · rw [hexecuted emptySyncPlugin _ hsync (TemplateRequest.execute_of_done asksFor_emptySync rfl)]
    decide +kernel
  · rw [hexecuted .null _ hnone rfl]
    rfl
  · refine ((hguarded unreachableServer Schedule.inOrder
      (templateRequest credential (templateWith shopPlugin))).acts ?_).2.2.1
    rw [calls_respond_shopTemplate]
    exact List.cons_ne_nil _ _

end Agent
end DeployDrift.Endpoint
