import DeployDrift.Proofs.Network.Url
import DeployDrift.Proofs.Server.Runs
import DeployDrift.Server.Client

/-!
# Where calls go

The name of an application is put into the URL of a call as it is, and the URL is read again.  A name
stays one segment exactly if it is plain: it holds nothing that separates the parts of a URL, nothing
that is left aside and no escape, and is no dots.  Then the request goes to the endpoint of the named
application, to no other one, and asks for the parameters of the call, unless the URL of the server
has a query or a fragment, which takes up all that follows.
-/
namespace DeployDrift

namespace Call

/-- The application that a call is about. -/
def application? : Call → Option String
  | .application name .. | .managedResources name .. | .manifests name .. | .sync name .. =>
    some name
  | .settings => none

/-- The segments of the path behind the name. -/
def suffix : Call → List String
  | .managedResources .. => ["managed-resources"]
  | .manifests .. => ["manifests"]
  | .sync .. => ["sync"]
  | .application .. | .settings => []

end Call

namespace Client

/-- The client starts all requests with a URL that has no blanks at its end. -/
structure Rooted (client : Client) (base : Url) : Prop where
  parse : Url.parse client.baseUrl = .ok base
  ending : Text.Closes Url.isBlank client.baseUrl.toList

/-- The character separates the parts of a URL or is left aside in one. -/
def isSeparator (ch : Char) : Bool := ['/', '\\', '?', '#', '\t', '\n', '\r'].contains ch

/-- A name that stays one segment of the URL of a call. -/
structure Plain (c : Call) (name : String) : Prop where
  separators : name.toList.any isSeparator = false
  escapes : Percent.hasEscape name.toList = false
  dots : name ≠ "." ∧ name ≠ ".."
  /-- Blanks are left aside where the name is the end of the URL. -/
  ending : c.suffix = [] → Text.Closes Url.isBlank name.toList

/-- The request goes to the endpoint of the call for the application and asks for the parameters of
the call, nothing else.  `above` is the path under which the server is found. -/
structure Addresses (base : Url) (above : List String) (c : Call) (name : String)
    (r : AddressedRequest) : Prop where
  server : r.url.secure = base.secure ∧ r.url.host = base.host ∧ r.url.port = base.port
  path : ∃ segment, r.url.path = above ++ "api" :: "v1" :: "applications" :: segment :: c.suffix ∧
    (∀ ch ∈ segment.toList, Percent.inPath ch = true ∧ Url.isSlash ch = false) ∧
    Percent.decode segment.toList = Text.bytes name.toList
  query : (r.url.query.map Percent.readParameters).getD [] =
    (parameters c).map Percent.parameterBytes
  target : r.request.target = r.url.target

/-- Where the requests of a client go. -/
structure Addressing (client : Client) (base : Url) (above : List String) : Prop where
  root : above = base.path ∨ above ++ [""] = base.path
  /-- A request is sent unless the token cannot be written. -/
  sent : ∀ c, (∃ r, client.request c = .ok r) ↔ client.token.toList.any isControl = false
  settings : base.IsOpen → ∀ r, client.request .settings = .ok r →
    r.url.path = above ++ ["api", "v1", "settings"]
  named : ∀ c name r, c.application? = some name → client.request c = .ok r →
    (Addresses base above c name r ↔ base.IsOpen ∧ Plain c name)
  /-- Calls about applications with plain names go to one endpoint only if they are the same
  operation on the same application, and none goes to the endpoint of the settings. -/
  distinct : base.IsOpen → ∀ c₁ c₂ name₁ name₂ r₁ r₂,
    c₁.application? = some name₁ → c₂.application? = some name₂ →
    Plain c₁ name₁ → Plain c₂ name₂ → client.request c₁ = .ok r₁ → client.request c₂ = .ok r₂ →
    r₁.url.path = r₂.url.path → name₁ = name₂ ∧ c₁.suffix = c₂.suffix
  apart : base.IsOpen → ∀ c name r s, c.application? = some name → Plain c name →
    client.request c = .ok r → client.request .settings = .ok s → r.url.path ≠ s.url.path

section Requests

variable {client : Client} {c : Call} {name : String} {url : Url} {r : AddressedRequest}

theorem url_eq (client : Client) (c : Call) : client.url c =
    client.baseUrl ++ String.ofList ('/' :: ("api/v1/".toList ++ (resource c).toList)) := by
  rw [← String.toList_inj]
  simp [Client.url]

theorem any_isControl_of_request (h : client.request c = .ok r) :
    client.token.toList.any isControl = false := by
  unfold request at h
  split at h
  next => cases h
  next => cases h
  next =>
    split at h
    next => cases h
    next htoken => exact Bool.eq_false_iff.mpr htoken

theorem request_of_any_isControl (hparse : Url.parse (client.url c) = .ok url)
    (htoken : client.token.toList.any isControl = false) : ∃ r, client.request c = .ok r := by
  rw [request, hparse]
  dsimp only
  rw [htoken, if_neg Bool.false_ne_true]
  cases c <;> exact ⟨_, rfl⟩

/-- A request goes to the URL of the call, with the parameters of the call if that has no query. -/
theorem url_of_request (hparse : Url.parse (client.url c) = .ok url)
    (h : client.request c = .ok r) :
    r.request.target = r.url.target ∧ r.url = { url with query := r.url.query } ∧
      (url.query = none → (r.url.query.map Percent.readParameters).getD [] =
        (parameters c).map Percent.parameterBytes) := by
  have htoken := any_isControl_of_request h
  rw [request, hparse] at h
  dsimp only at h
  rw [htoken, if_neg Bool.false_ne_true] at h
  cases c with
  | sync name ns options =>
    cases h
    refine ⟨rfl, rfl, fun hquery => ?_⟩
    rw [hquery]
    rfl
  | _ =>
    cases h
    exact ⟨rfl, rfl, fun hquery => Url.query_withParameters hquery _⟩

end Requests

section Names

variable {base url : Url} {directory : List String} {c : Call} {name : String}

/-- What stands in the URL of a call behind the name of the resource. -/
def namePart (c : Call) (name : String) : List Char :=
  name.toList ++ c.suffix.flatMap fun word => '/' :: word.toList

theorem resource_eq (h : c.application? = some name) :
    (resource c).toList = "applications/".toList ++ namePart c name := by
  cases c <;> cases h <;> dsimp only [resource] <;> simp [namePart, Call.suffix]

/-- The names of the operations, as they stand in a URL. -/
def words : List String := ["managed-resources", "manifests", "sync"]

theorem suffix_eq (c : Call) : c.suffix = [] ∨ ∃ word ∈ words, c.suffix = [word] := by
  cases c <;> simp [Call.suffix, words]

theorem tail_resource (h : c.application? = some name) :
    Url.tail ("api/v1/".toList ++ (resource c).toList) =
      "api/v1/applications/".toList ++ Url.tail (namePart c name) := by
  have hlead : "api/v1/".toList ++ (resource c).toList =
      "api/v1/applications/".toList ++ namePart c name := by
    rw [resource_eq h]
    simp
  have hlegible : Url.legible "api/v1/applications/".toList = "api/v1/applications/".toList := by
    decide
  rw [hlead, Url.tail_append (by decide), hlegible]

/-- The path of a call goes through the version of the interface to the applications, and from there
along the name and what follows it. -/
theorem path_of_continues (h : c.application? = some name)
    (hurl : Url.Continues base directory ("api/v1/".toList ++ (resource c).toList) url) :
    url.path = Url.resolve ("applications" :: "v1" :: "api" :: directory)
      (Url.splitSlashes (Url.pathPart (Url.tail (namePart c name)))) := by
  have hslash (cs : List Char) : "api/v1/applications/".toList ++ cs =
      "api/v1/applications".toList ++ '/' :: cs := by simp
  have hpieces : Url.splitSlashes "api/v1/applications".toList =
      ["api".toList, "v1".toList, "applications".toList] := by decide
  rw [hurl.path, tail_resource h, Url.pathPart_append (by decide), hslash,
    Url.splitSlashes_append _ (by decide), hpieces,
    Url.resolve_append _ _ (Url.splitSlashes_ne_nil _),
    Url.foldl_enter_of_not_isDots _ (by decide)]
  rfl

end Names

section Plainness

variable {c : Call} {name : String}

/-- The name of an operation is one segment of a path. -/
theorem pathPart_word : ∀ word ∈ words, Url.pathPart ('/' :: word.toList) = '/' :: word.toList ∧
    Url.splitSlashes word.toList = [word.toList] := by
  decide

theorem not_isDots_of_plain (h : Plain c name) : ¬ Url.IsDots name.toList := by
  intro hdots
  rw [Url.IsDots, Url.plainDots_of_hasEscape h.escapes] at hdots
  rcases hdots with hone | htwo
  · exact h.dots.1 (String.toList_inj.mp hone)
  · exact h.dots.2 (String.toList_inj.mp htwo)

theorem namePart_of_nil (h : c.suffix = []) (name : String) : namePart c name = name.toList := by
  rw [namePart, h, List.flatMap_nil, List.append_nil]

theorem tail_namePart {word : String} (hword : word ∈ words) (h : c.suffix = [word])
    (name : String) :
    Url.tail (namePart c name) = Url.legible name.toList ++ '/' :: word.toList := by
  have hlast : ∀ word ∈ words, Text.Closes Url.isBlank ('/' :: word.toList) := by decide
  have hkept : ∀ word ∈ words, Url.legible ('/' :: word.toList) = '/' :: word.toList := by decide
  rw [namePart, h, List.flatMap_singleton, Url.tail,
    Text.trimBack_append_self (List.cons_ne_nil _ _) (hlast word hword), Url.legible,
    List.filter_append]
  exact congrArg _ (hkept word hword)

/-- A plain name and what follows it are the last segments of the path, and all of it is path. -/
theorem splitSlashes_of_plain (h : Plain c name) :
    Url.pathPart (Url.tail (namePart c name)) = Url.tail (namePart c name) ∧
      Url.splitSlashes (Url.tail (namePart c name)) = name.toList :: c.suffix.map String.toList := by
  have hseparators := h.separators
  simp only [List.any_eq_false, isSeparator, List.contains_eq_mem, decide_eq_true_eq, List.mem_cons,
    List.not_mem_nil, or_false, not_or] at hseparators
  have hlegible : Url.legible name.toList = name.toList :=
    Url.legible_eq_self_iff.mpr fun ch hch => (hseparators ch hch).2.2.2.2
  have hpath : Url.pathPart name.toList = name.toList :=
    Url.pathPart_eq_self_iff.mpr fun ch hch =>
      ⟨(hseparators ch hch).2.2.1, (hseparators ch hch).2.2.2.1⟩
  have hpiece : Url.splitSlashes name.toList = [name.toList] := by
    refine Url.splitSlashes_of_forall fun ch hch => ?_
    simp [Url.isSlash, (hseparators ch hch).1, (hseparators ch hch).2.1]
  rcases suffix_eq c with hnone | ⟨word, hword, hsuffix⟩
  · rw [namePart_of_nil hnone, Url.tail, Text.trimBack_eq_self_iff.mpr (h.ending hnone), hlegible,
      hpiece, hnone]
    exact ⟨hpath, rfl⟩
  · obtain ⟨hwhole, hsegment⟩ := pathPart_word word hword
    rw [tail_namePart hword hsuffix, hlegible, Url.pathPart_append hpath, hwhole,
      Url.splitSlashes_append _ (by decide), hpiece, hsegment, hsuffix]
    exact ⟨rfl, rfl⟩

/-- A piece of a part of the name that stands for the whole name is all of it, and the name is
plain. -/
theorem plain_of_piece {part piece : List Char} (hpart : part.Sublist name.toList)
    (hending : c.suffix = [] → part = Text.trimBack Url.isBlank name.toList)
    (hpiece : piece ∈ Url.splitSlashes (Url.pathPart (Url.legible part)))
    (hdots : ¬ Url.IsDots piece) (hname : Percent.decode piece = Text.bytes name.toList) :
    Plain c name := by
  obtain ⟨hsub, hslash⟩ := Url.mem_splitSlashes hpiece
  have hpath : (Url.pathPart (Url.legible part)).Sublist (Url.legible part) :=
    List.takeWhile_sublist _
  have hlegible : (Url.legible part).Sublist part := List.filter_sublist
  -- An escape would stand for fewer bytes than it is long, and a shorter text has fewer bytes.
  have heq : piece = name.toList := by
    refine Percent.eq_of_length_bytes_le (((hsub.trans hpath).trans hlegible).trans hpart) ?_
    rw [← hname]
    exact (Percent.length_decode_le piece).1
  subst heq
  have hwhole : part = name.toList :=
    hpart.eq_of_length_le ((hsub.trans hpath).trans hlegible).length_le
  refine ⟨List.any_eq_false.mpr fun ch hch => ?_, Percent.decode_eq_bytes_iff.mp hname, ⟨?_, ?_⟩,
    fun hnone => ?_⟩
  · have hinpath := Url.ne_of_mem_pathPart (hsub.subset hch)
    have hkept := (List.mem_filter.mp (hpath.subset (hsub.subset hch))).2
    have hnoslash := hslash ch hch
    simp [Url.isSlash] at hkept hnoslash
    simp [isSeparator, hinpath, hkept, hnoslash]
  · rintro rfl
    exact hdots (by decide)
  · rintro rfl
    exact hdots (by decide)
  · exact Text.trimBack_eq_self_iff.mp ((hending hnone).symm.trans hwhole)

/-- If a piece of what stands behind the name of the resource stands for the name of the application,
that is plain. -/
theorem plain_of_mem {piece : List Char}
    (hpiece : piece ∈ Url.splitSlashes (Url.pathPart (Url.tail (namePart c name))))
    (hdots : ¬ Url.IsDots piece) (hname : Percent.decode piece = Text.bytes name.toList) :
    Plain c name := by
  rcases suffix_eq c with hnone | ⟨word, hword, hsuffix⟩
  · rw [namePart_of_nil hnone, Url.tail] at hpiece
    exact plain_of_piece (Text.trimBack_sublist _ _) (fun _ => rfl) hpiece hdots hname
  · have hsome : c.suffix = [] → name.toList = Text.trimBack Url.isBlank name.toList := by
      rw [hsuffix]
      exact fun h => absurd h (List.cons_ne_nil _ _)
    rw [tail_namePart hword hsuffix] at hpiece
    by_cases hpath : Url.pathPart (Url.legible name.toList) = Url.legible name.toList
    · obtain ⟨hwhole, hsegment⟩ := pathPart_word word hword
      rw [Url.pathPart_append hpath, hwhole, Url.splitSlashes_append _ (by decide), hsegment,
        List.mem_append, List.mem_singleton, ← hpath] at hpiece
      rcases hpiece with hpiece | rfl
      · exact plain_of_piece (List.Sublist.refl _) hsome hpiece hdots hname
      · -- The piece is the operation: the application is called as the operation is.
        have hplain : ∀ word ∈ words, word.toList.any isSeparator = false ∧
            Percent.hasEscape word.toList = false ∧ word ≠ "." ∧ word ≠ ".." := by decide
        obtain ⟨hseparators, hescapes, hdots⟩ := hplain word hword
        rw [Percent.decode_eq_bytes hescapes, Text.bytes_toList_inj] at hname
        subst hname
        refine ⟨hseparators, hescapes, hdots, fun hnone => ?_⟩
        rw [hsuffix] at hnone
        cases hnone
    · rw [Url.pathPart_append_of_ne hpath] at hpiece
      exact plain_of_piece (List.Sublist.refl _) hsome hpiece hdots hname

end Plainness

section Endpoints

variable {client : Client} {base url : Url} {directory : List String} {c : Call} {name : String}
  {r : AddressedRequest}

theorem written_suffix (c : Call) : (c.suffix.map String.toList).map Url.written = c.suffix ∧
    ∀ segment ∈ c.suffix.map String.toList, ¬ Url.IsDots segment := by
  rcases suffix_eq c with hnone | ⟨word, hword, hsuffix⟩
  · rw [hnone]
    exact ⟨rfl, by simp⟩
  · have hwords : ∀ word ∈ words, Url.written word.toList = word ∧
        ¬ Url.IsDots word.toList := by decide
    rw [hsuffix]
    simpa using hwords word hword

theorem path_settings
    (hurl : Url.Continues base directory ("api/v1/".toList ++ (resource .settings).toList) url) :
    url.path = directory.reverse ++ ["api", "v1", "settings"] := by
  have hpieces : Url.splitSlashes (Url.pathPart (Url.tail
      ("api/v1/".toList ++ (resource .settings).toList))) =
      ["api".toList, "v1".toList, "settings".toList] := by decide
  rw [hurl.path, hpieces, Url.resolve_of_not_isDots _ (by decide)]
  rfl

/-- A name that stays one segment is asked for under its own path. -/
theorem addresses_of_plain
    (hurl : Url.Continues base directory ("api/v1/".toList ++ (resource c).toList) url)
    (hparse : Url.parse (client.url c) = .ok url) (hc : c.application? = some name)
    (hplain : Plain c name) (h : client.request c = .ok r) :
    Addresses base directory.reverse c name r := by
  obtain ⟨htarget, hrest, hquery⟩ := url_of_request hparse h
  obtain ⟨hpure, hpieces⟩ := splitSlashes_of_plain hplain
  obtain ⟨hwritten, hwords⟩ := written_suffix c
  have hname : name.toList ∈ Url.splitSlashes (Url.tail (namePart c name)) := by
    rw [hpieces]
    exact List.mem_cons_self
  have hslash := (Url.mem_splitSlashes hname).2
  refine ⟨?_, ⟨Url.written name.toList, ?_, Url.isSlash_of_mem_written hslash, ?_⟩, ?_, htarget⟩
  · rw [hrest]
    exact hurl.server
  · have hdots : ∀ segment ∈ name.toList :: c.suffix.map String.toList, ¬ Url.IsDots segment :=
      List.forall_mem_cons.mpr ⟨not_isDots_of_plain hplain, hwords⟩
    rw [hrest]
    dsimp only
    rw [path_of_continues hc hurl, hpure, hpieces, Url.resolve_of_not_isDots _ hdots, List.map_cons,
      hwritten]
    simp
  · rw [Url.decode_written, Percent.decode_eq_bytes hplain.escapes]
  · have htail : Url.pathPart (Url.tail ("api/v1/".toList ++ (resource c).toList)) =
        Url.tail ("api/v1/".toList ++ (resource c).toList) := by
      rw [tail_resource hc, Url.pathPart_append (by decide), hpure]
    exact hquery (hurl.pure htail).1

/-- A request that reaches the path of its name was made from a name that stays one segment.
-/
theorem plain_of_addresses
    (hurl : Url.Continues base directory ("api/v1/".toList ++ (resource c).toList) url)
    (hparse : Url.parse (client.url c) = .ok url) (hc : c.application? = some name)
    (h : client.request c = .ok r) (haddresses : Addresses base directory.reverse c name r) :
    Plain c name := by
  obtain ⟨-, hrest, -⟩ := url_of_request hparse h
  obtain ⟨segment, hpath, -, hdecode⟩ := haddresses.path
  rw [hrest] at hpath
  dsimp only at hpath
  rw [path_of_continues hc hurl] at hpath
  have hplain : ∀ text ∈ (Url.resolve ("applications" :: "v1" :: "api" :: directory)
      (Url.splitSlashes (Url.pathPart (Url.tail (namePart c name)))))[directory.length + 3]?,
      Percent.decode text.toList = Text.bytes name.toList → Plain c name := by
    refine Url.of_mem_getElem?_resolve (fun hname => ?empty) ?before
      fun piece hpiece hdots hname => ?piece
    case empty =>
      rw [Percent.decode_eq_bytes rfl, Text.bytes_toList_inj] at hname
      subst hname
      exact ⟨rfl, rfl, by decide, fun _ => by decide⟩
    case before =>
      rw [List.getElem?_eq_none (by simp)]
      simp
    case piece =>
      rw [Url.decode_written] at hname
      exact plain_of_mem hpiece hdots hname
  rw [hpath] at hplain
  exact hplain segment (by simp) hdecode

/-- Endpoints of calls are the same only for the same operation on the same application. -/
theorem eq_of_addresses {above : List String} {c₁ c₂ : Call} {name₁ name₂ : String}
    {r₁ r₂ : AddressedRequest} (h₁ : Addresses base above c₁ name₁ r₁)
    (h₂ : Addresses base above c₂ name₂ r₂) (hpath : r₁.url.path = r₂.url.path) :
    name₁ = name₂ ∧ c₁.suffix = c₂.suffix := by
  obtain ⟨segment₁, hpath₁, -, hname₁⟩ := h₁.path
  obtain ⟨segment₂, hpath₂, -, hname₂⟩ := h₂.path
  rw [hpath₁, hpath₂, List.append_cancel_left_eq] at hpath
  simp only [List.cons.injEq, true_and] at hpath
  obtain ⟨rfl, hsuffix⟩ := hpath
  exact ⟨Text.bytes_toList_inj.mp (hname₁.symm.trans hname₂), hsuffix⟩

theorem sent_iff (h : Url.parse (client.url c) = .ok url) :
    (∃ r, client.request c = .ok r) ↔ client.token.toList.any isControl = false := by
  constructor
  · rintro ⟨r, hr⟩
    exact any_isControl_of_request hr
  · exact request_of_any_isControl h

/-- Where the URL of the server ends in its path, requests go to the endpoints below it. -/
theorem addressing_of_isOpen (h : client.Rooted base) (hopen : base.IsOpen) :
    ∃ above, client.Addressing base above := by
  obtain ⟨directory, hroot, hcontinues⟩ := Url.parse_append h.parse hopen h.ending
  have hurl (c : Call) : ∃ url, Url.parse (client.url c) = .ok url ∧
      Url.Continues base directory ("api/v1/".toList ++ (resource c).toList) url := by
    rw [url_eq]
    exact hcontinues _
  have hnamed (c : Call) (name : String) (r : AddressedRequest) (hc : c.application? = some name)
      (hr : client.request c = .ok r) :
      Addresses base directory.reverse c name r ↔ Plain c name := by
    obtain ⟨url, hparse, hurl⟩ := hurl c
    exact ⟨plain_of_addresses hurl hparse hc hr, fun hplain =>
      addresses_of_plain hurl hparse hc hplain hr⟩
  have hsettings (r : AddressedRequest) (hr : client.request .settings = .ok r) :
      r.url.path = directory.reverse ++ ["api", "v1", "settings"] := by
    obtain ⟨url, hparse, hurl⟩ := hurl .settings
    rw [(url_of_request hparse hr).2.1]
    dsimp only
    exact path_settings hurl
  refine ⟨directory.reverse, hroot, fun c => ?sent, fun _ => hsettings, ?named, ?distinct, ?apart⟩
  case sent =>
    obtain ⟨url, hparse, -⟩ := hurl c
    exact sent_iff hparse
  case named =>
    intro c name r hc hr
    rw [hnamed c name r hc hr, and_iff_right hopen]
  case distinct =>
    intro _ c₁ c₂ name₁ name₂ r₁ r₂ hc₁ hc₂ hplain₁ hplain₂ hr₁ hr₂ hpath
    exact eq_of_addresses ((hnamed c₁ name₁ r₁ hc₁ hr₁).mpr hplain₁)
      ((hnamed c₂ name₂ r₂ hc₂ hr₂).mpr hplain₂) hpath
  case apart =>
    intro _ c name r s hc hplain hr hs hpath
    obtain ⟨segment, hnamed, -⟩ := ((hnamed c name r hc hr).mpr hplain).path
    rw [hnamed, hsettings s hs, List.append_cancel_left_eq] at hpath
    simp at hpath

/-- Where it has a query or a fragment, all requests go to the URL of the server itself. -/
theorem addressing_of_not_isOpen (h : client.Rooted base) (hclosed : ¬ base.IsOpen) :
    client.Addressing base base.path := by
  have hurl (c : Call) : ∃ url, Url.parse (client.url c) = .ok url ∧ url.path = base.path := by
    rw [url_eq]
    exact Url.path_of_not_isOpen h.parse hclosed h.ending _
  refine ⟨.inl rfl, fun c => ?sent, fun hopen => absurd hopen hclosed, ?named,
    fun hopen => absurd hopen hclosed, fun hopen => absurd hopen hclosed⟩
  case sent =>
    obtain ⟨url, hparse, -⟩ := hurl c
    exact sent_iff hparse
  case named =>
    intro c name r _ hr
    refine ⟨fun haddresses => ?_, fun hplain => absurd hplain.1 hclosed⟩
    obtain ⟨url, hparse, hsame⟩ := hurl c
    obtain ⟨segment, hpath, -⟩ := haddresses.path
    rw [(url_of_request hparse hr).2.1] at hpath
    dsimp only at hpath
    rw [hsame] at hpath
    simp at hpath

end Endpoints

/-- Every request goes to the endpoint of its call for the application that is named, with the
parameters of the call and nothing else, exactly if the name is plain and the URL of the server has
neither query nor fragment. -/
theorem request_exact {client : Client} {base : Url} (h : client.Rooted base) :
    ∃ above, client.Addressing base above := by
  by_cases hopen : base.IsOpen
  · exact addressing_of_isOpen h hopen
  · exact ⟨base.path, addressing_of_not_isOpen h hopen⟩

/-- A client of a server that is found under a path. -/
def cdClient : Client := ⟨"https://argo.example.com/cd", "secret"⟩

def cdServer : Url := ⟨true, "argo.example.com", none, ["cd"], none, none⟩

theorem rooted_cd : cdClient.Rooted cdServer :=
  ⟨eq_ok_of_toOption (by decide +kernel), by decide⟩

/-- The manifests of an application with a blank and a percent sign in its name, at a revision that
would end the query. -/
theorem request_manifests :
    cdClient.Rooted cdServer ∧ ∃ above r,
      cdClient.request (.manifests "web 100%" "" "a&b#c") = .ok r ∧
      Addresses cdServer above (.manifests "web 100%" "" "a&b#c") "web 100%" r ∧
      r.request.target = "/cd/api/v1/applications/web%20100%/manifests?revision=a%26b%23c" := by
  obtain ⟨above, h⟩ := request_exact rooted_cd
  obtain ⟨r, hr⟩ := (h.sent (.manifests "web 100%" "" "a&b#c")).mpr (by decide)
  have haddresses := (h.named _ _ r rfl hr).mpr
    ⟨⟨rfl, rfl⟩, by decide, by decide, by decide, by decide⟩
  have htarget : (cdClient.request (.manifests "web 100%" "" "a&b#c")).toOption.map
      (·.request.target) =
        some "/cd/api/v1/applications/web%20100%/manifests?revision=a%26b%23c" := by
    decide +kernel
  rw [hr] at htarget
  exact ⟨rooted_cd, above, r, hr, haddresses, Option.some.inj htarget⟩

/-- The request for the settings of the server. -/
def settingsRequest : AddressedRequest :=
  ⟨⟨true, "argo.example.com", none, ["cd", "api", "v1", "settings"], none, none⟩,
    "GET", "/cd/api/v1/settings", [("authorization", Text.bytes "Bearer secret".toList)], []⟩

/-- The request for an application of the name `../settings` is the one for the settings. -/
theorem request_climbing :
    cdClient.request (.application "../settings" "" none) = .ok settingsRequest ∧
      cdClient.request .settings = .ok settingsRequest ∧
      ∀ above, ¬ Addresses cdServer above (.application "../settings" "" none) "../settings"
        settingsRequest := by
  refine ⟨eq_ok_of_toOption (by decide +kernel), eq_ok_of_toOption (by decide +kernel), ?_⟩
  intro above haddresses
  obtain ⟨segment, hpath, -⟩ := haddresses.path
  have hlength := congrArg List.length hpath
  cases above with
  | nil => simp [settingsRequest] at hpath
  | cons first rest =>
    simp [settingsRequest, Call.suffix] at hlength

end Client
end DeployDrift
