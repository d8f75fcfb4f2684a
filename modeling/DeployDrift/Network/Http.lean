import DeployDrift.Text
import DeployDrift.Text.Bytes

/-!
# Requests and responses

What goes over HTTP, as far as it matters here.
-/
namespace DeployDrift

/-- A request over HTTP.  Neither the value of a header nor the body has to be a text. -/
structure HttpRequest where
  method : String
  /-- Path and query. -/
  target : String
  headers : List (String × List UInt8)
  body : List UInt8
  deriving DecidableEq, Repr

structure HttpResponse where
  status : Nat
  contentType : Option String
  /-- The methods that are allowed, where another one was asked for. -/
  allow : Option String
  body : String
  deriving DecidableEq, Repr

namespace HttpRequest

def path (r : HttpRequest) : String := String.ofList (r.target.toList.takeWhile (· != '?'))

/-- The first header of a name; letters in names may be large or small. -/
def header? (r : HttpRequest) (name : String) : Option (List UInt8) :=
  (r.headers.find? fun (given, _) => given.toLower == name).map (·.2)

/-- The request as it is received: blanks around the value of a header do not belong to it. -/
def received (r : HttpRequest) : HttpRequest :=
  { r with headers := r.headers.map fun (name, value) =>
      (name, Text.trimBy (fun b => b = 0x20 || b = 0x09) value) }

end HttpRequest

/-!
## Messages on a connection

The bytes of requests and responses on a connection that is closed after one exchange: a first line,
headers, an empty line, and a body.  Where a body ends is said by its length in bytes, by the
lengths of the chunks it comes in, or by the end of the connection.
-/

/-- What stands before the body of a message. -/
structure MessageHead where
  /-- The words of the first line. -/
  first : List String
  headers : List (String × List UInt8)
  deriving DecidableEq, Repr

namespace MessageHead

/-- The bytes before and behind the first empty line. -/
def splitBody? : List UInt8 → Option (List UInt8 × List UInt8)
  | 0x0d :: 0x0a :: 0x0d :: 0x0a :: body => some ([], body)
  | b :: bs => (splitBody? bs).map fun (before, body) => (b :: before, body)
  | [] => none

def header? (line : List Char) : Option (String × List UInt8) :=
  (Text.splitFirst? ':' line).map fun (name, value) =>
    (String.ofList name, (Text.trimBy Text.isBlank value).map Char.toUInt8)

/-- The head of a message and the bytes behind it, if the head is complete. -/
def read? (message : List UInt8) : Option (MessageHead × List UInt8) :=
  (splitBody? message).bind fun (before, body) =>
    let lines := Text.splitOnChar '\n' (Text.ofLatin before).toList
    match lines.map fun line => line.filter (· ≠ '\r') with
    | [] => none
    | first :: headers =>
      some (⟨(Text.splitOnChar ' ' first).map String.ofList, headers.filterMap header?⟩, body)

/-- The value of a header; letters in names may be large or small. -/
def value? (h : MessageHead) (name : String) : Option String :=
  (h.headers.find? fun (given, _) => given.toLower == name).map fun (_, value) =>
    Text.ofLatin value

end MessageHead

namespace Message

/-- The first `n` bytes and the rest; none if there are fewer. -/
def takeBytes? (n : Nat) (bs : List UInt8) : Option (List UInt8 × List UInt8) :=
  if bs.length < n then none else some (bs.splitAt n)

/-- The body that comes in chunks, if all of them are there; no more than `fuel` chunks are read. -/
def chunks? : (fuel : Nat) → List UInt8 → Option (List UInt8)
  | 0, _ => none
  | fuel + 1, bs => do
    let (size, rest) := bs.span (· ≠ 0x0a)
    if rest.isEmpty then none
    let n ← Text.hexValue?
      ((Text.ofLatin size).toList.takeWhile fun c => (Text.hexDigit? c).isSome)
    if n = 0 then return []
    let (chunk, rest) ← takeBytes? n (rest.drop 1)
    return chunk ++ (← chunks? fuel (rest.drop 2))

/-- The body of a message, if it is complete.  `ended` says that nothing more will come. -/
def body? (head : MessageHead) (rest : List UInt8) (untilEnd ended : Bool) :
    Option (List UInt8) :=
  if (head.value? "transfer-encoding").isSome then chunks? (rest.length + 1) rest
  else
    match head.value? "content-length" with
    | some length => (takeBytes? (Text.decimalValue length.toList) rest).map (·.1)
    | none => if !untilEnd then some [] else if ended then some rest else none

def lines (lines : List (List UInt8)) : List UInt8 := lines.flatMap (· ++ [0x0d, 0x0a])

def headerLines (headers : List (String × List UInt8)) : List (List UInt8) :=
  headers.map fun (name, value) => Text.bytes (name ++ ": ").toList ++ value

/-- The headers that say how long a body is and that no other message follows. -/
def closing (body : List UInt8) : List (String × List UInt8) :=
  [("content-length", Text.bytes (toString body.length).toList),
    ("connection", Text.bytes "close".toList)]

end Message

namespace HttpRequest

def message (r : HttpRequest) (host : String) : List UInt8 :=
  let length :=
    if r.method = "GET" then [("connection", Text.bytes "close".toList)] else Message.closing r.body
  let headers := ("host", Text.bytes host.toList) :: ("accept", Text.bytes "*/*".toList) ::
    r.headers ++ length
  let first := r.method ++ " " ++ r.target ++ " HTTP/1.1"
  Message.lines (Text.bytes first.toList :: Message.headerLines headers ++ [[]]) ++ r.body

/-- The request that a message holds, if it is complete. -/
def ofMessage? (message : List UInt8) : Option HttpRequest := do
  let (head, rest) ← MessageHead.read? message
  let body ← Message.body? head rest false false
  match head.first with
  | method :: target :: _ => return ⟨method, target, head.headers, body⟩
  | _ => none

end HttpRequest

namespace HttpResponse

def message (r : HttpResponse) : List UInt8 :=
  let body := Text.bytes r.body.toList
  let headers := (r.contentType.map fun t => ("content-type", Text.bytes t.toList)).toList ++
    (r.allow.map fun a => ("allow", Text.bytes a.toList)).toList ++ Message.closing body
  let first := "HTTP/1.1 " ++ toString r.status ++ " "
  Message.lines (Text.bytes first.toList :: Message.headerLines headers ++ [[]]) ++ body

/-- The response that a message holds, if it is complete and its body is a text. -/
def ofMessage? (message : List UInt8) (ended : Bool) : Option HttpResponse := do
  let (head, rest) ← MessageHead.read? message
  let status ← (head.first[1]?).bind (·.toNat?)
  let isEmpty := status = 204 || status = 304 || status < 200
  let body ← if isEmpty then some [] else Message.body? head rest true ended
  let cs ← (Text.Letter.ofBytes body).mapM Text.Letter.char?
  return ⟨status, head.value? "content-type", head.value? "allow", String.ofList cs⟩

end HttpResponse
end DeployDrift
