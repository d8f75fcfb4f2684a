import DeployDrift.Network.Address

/-!
# The parts of a URL

Escapes, hosts, and the URL as a whole.
-/
namespace DeployDrift.Percent

/-!
## Percent encoding

In a URL a byte that may not stand for itself is written as `%` and two hexadecimal digits.  Which
characters stand for themselves depends on the part of the URL.
-/

def escape (b : UInt8) : List Char :=
  '%' :: ((Text.paddedHexadecimal 2 b.toNat).toList.map Char.toUpper)

/-- The bytes of a character in UTF-8, each as `%` and two digits. -/
def escapeChar (c : Char) : List Char := c.toString.toUTF8.toList.flatMap escape

def encode (keep : Char → Bool) (cs : List Char) : List Char :=
  cs.flatMap fun c => if keep c then [c] else escapeChar c

/-- A visible ASCII character, or none of the given ones. -/
def isVisibleBut (others : String) (c : Char) : Bool :=
  32 < c.toNat && c.toNat < 127 && !others.toList.contains c

def inPath : Char → Bool := isVisibleBut "\"#<>?`\x7b\x7d"

def inQuery : Char → Bool := isVisibleBut "\"#<>'"

def inFragment : Char → Bool := isVisibleBut "\"<>`"

def inParameter (c : Char) : Bool :=
  c.isAlphanum || c = '*' || c = '-' || c = '.' || c = '_'

/-- The name or value of a parameter in a query; a space is written as `+`. -/
def encodeParameter (s : String) : List Char :=
  s.toList.flatMap fun c =>
    if c = ' ' then ['+'] else if inParameter c then [c] else escapeChar c

def parameters (pairs : List (String × String)) : List Char :=
  ['&'].intercalate (pairs.map fun (name, value) =>
    encodeParameter name ++ '=' :: encodeParameter value)

/-- The characters that escapes of ASCII characters stand for; other escapes are left alone. -/
def decodeAscii : List Char → List Char
  | '%' :: high :: low :: cs =>
    match Text.hexDigit? high, Text.hexDigit? low with
    | some h, some l =>
      if h < 8 then Char.ofNat (16 * h + l) :: decodeAscii cs
      else '%' :: high :: low :: decodeAscii cs
    | _, _ => '%' :: decodeAscii (high :: low :: cs)
  | c :: cs => c :: decodeAscii cs
  | [] => []

end DeployDrift.Percent

/-!
## Hosts in URLs

A host is a name or an address.  Names are written in small letters; a name whose last label is a
number is an address of the fourth version, the last number of which fills all bytes that are left.
-/
namespace DeployDrift.Host

def isForbidden (c : Char) : Bool :=
  c.toNat ≤ 32 || c.toNat == 127 || "#/:<>?@[\\]^|%".toList.contains c

def number? : List Char → Option Nat
  | [] => none
  | '0' :: 'x' :: ds => if ds.isEmpty then some 0 else Text.hexValue? ds
  | '0' :: d :: ds =>
    if (d :: ds).all fun c => '0' ≤ c && c ≤ '7' then
      some ((d :: ds).foldl (fun n c => 8 * n + (c.toNat - '0'.toNat)) 0)
    else none
  | ds => if ds.all Char.isDigit then some (Text.decimalValue ds) else none

/-- The labels of a name; a dot at the end is left aside. -/
def labels (name : List Char) : List (List Char) :=
  let pieces := Text.splitOnChar '.' name
  if 1 < pieces.length && pieces.getLast? == some [] then pieces.dropLast else pieces

def endsInNumber (name : List Char) : Bool :=
  match (labels name).getLast? with
  | none => false
  | some label => Text.isDecimal label || (Text.startsWith "0x" (String.ofList label) &&
      (number? label).isSome)

def address? (numbers : List Nat) : Option IPv4 :=
  let leading := numbers.dropLast
  let last := numbers.getLastD 0
  let bound := Nat.pow 256 (4 - leading.length)
  if 4 < numbers.length || leading.any (255 < ·) || bound ≤ last then none
  else
    let value := (leading.mapIdx fun i n => n * Nat.pow 256 (3 - i)).foldl (· + ·) last
    some ⟨(value / 0x1000000).toUInt8, (value / 0x10000).toUInt8, (value / 0x100).toUInt8,
      value.toUInt8⟩

def normalize? (host : List Char) : Option String :=
  match host with
  | '[' :: inner =>
    match IPv6.read.run (inner.takeWhile (· ≠ ']')), inner.dropWhile (· ≠ ']') with
    | some (address, []), [']'] => some ("[" ++ address.hexText ++ "]")
    | _, _ => none
  | _ =>
    let name := (Percent.decodeAscii host).map Char.toLower
    if name.isEmpty || name.any isForbidden then none
    else if endsInNumber name then
      (((labels name).mapM number?).bind address?).map (·.text)
    else some (String.ofList name)

end DeployDrift.Host

/-!
## URLs

URLs of the schemes `http` and `https` as browsers read them: blanks around the text and line breaks
in it are left aside, a backslash is a slash, any number of slashes follows the scheme, and segments
of one or two dots are resolved.  What may not stand for itself is escaped.
-/
namespace DeployDrift

structure Url where
  secure : Bool
  host : String
  /-- The port, unless it is the usual one of the scheme. -/
  port : Option Nat
  /-- The segments of the path. -/
  path : List String
  query : Option String
  fragment : Option String
  deriving DecidableEq, Repr

inductive UrlFault where
  | malformed
  /-- It is a URL of another scheme. -/
  | otherScheme (url : String)
  deriving DecidableEq, Repr

namespace Url

def isSlash (c : Char) : Bool := c = '/' || c = '\\'

/-- The scheme in small letters, and what stands behind its colon. -/
def splitScheme? (cs : List Char) : Option (String × List Char) :=
  match Text.splitFirst? ':' cs with
  | some (first :: scheme, rest) =>
    if first.isAlpha && scheme.all fun c => c.isAlphanum || c = '+' || c = '-' || c = '.' then
      some ((String.ofList (first :: scheme)).toLower, rest)
    else none
  | _ => none

def splitSlashes : List Char → List (List Char)
  | [] => [[]]
  | c :: cs =>
    if isSlash c then [] :: splitSlashes cs
    else
      match splitSlashes cs with
      | [] => [[c]]
      | piece :: pieces => (c :: piece) :: pieces

/-- The segment with escaped dots written out, in small letters. -/
def plainDots : List Char → List Char
  | '%' :: '2' :: e :: cs => if e.toLower = 'e' then '.' :: plainDots cs else '%' :: '2' :: e :: cs
  | c :: cs => c :: plainDots cs
  | [] => []

/-- Goes along segments from the path `before`, written backwards. -/
def resolve (before : List String) : List (List Char) → List String
  | [] => before.reverse
  | segment :: rest =>
    let dots := plainDots segment
    let before :=
      if dots = ['.', '.'] then before.drop 1
      else if dots = ['.'] then before
      else String.ofList (Percent.encode Percent.inPath segment) :: before
    if rest.isEmpty && (dots = ['.'] || dots = ['.', '.']) then ("" :: before).reverse
    else resolve before rest

/-- The port behind a host; none for the usual one. -/
def port? (usual : Nat) (digits : List Char) : Option (Option Nat) :=
  if digits.isEmpty then some none
  else if digits.all Char.isDigit && Text.decimalValue digits < 0x10000 then
    let n := Text.decimalValue digits
    some (if n = usual then none else some n)
  else none

def splitPort (authority : List Char) : List Char × List Char :=
  match authority with
  | '[' :: _ =>
    let host := authority.takeWhile (· ≠ ']')
    match authority.drop host.length with
    | ']' :: ':' :: port => (host ++ [']'], port)
    | rest => (host ++ rest, [])
  | _ => (authority.takeWhile (· ≠ ':'), (authority.dropWhile (· ≠ ':')).drop 1)

def parse (s : String) : Except UrlFault Url :=
  let cs := (Text.trimBy (fun c => c.toNat ≤ 32) s.toList).filter fun c =>
    c ≠ '\t' && c ≠ '\n' && c ≠ '\r'
  match splitScheme? cs with
  | none => .error .malformed
  | some (scheme, rest) =>
    if scheme ≠ "http" && scheme ≠ "https" then
      .error (.otherScheme (scheme ++ ":" ++ String.ofList (Percent.encode (· ≠ ' ') rest)))
    else
      let rest := rest.dropWhile isSlash
      let isEnd := fun c => isSlash c || c = '?' || c = '#'
      let authority := rest.takeWhile fun c => !isEnd c
      let rest := rest.drop authority.length
      let authority := match Text.splitLast? '@' authority with
        | some (_, behind) => behind
        | none => authority
      let (host, port) := splitPort authority
      let secure := scheme = "https"
      match Host.normalize? host, port? (if secure then 443 else 80) port with
      | some host, some port =>
        let path := rest.takeWhile fun c => c ≠ '?' && c ≠ '#'
        let rest := rest.drop path.length
        let (query, fragment) := match Text.splitFirst? '#' rest with
          | some (query, fragment) => (query, some fragment)
          | none => (rest, none)
        .ok {
          secure, host, port
          path := resolve [] (splitSlashes (path.drop 1))
          query := match query with
            | '?' :: query => some (String.ofList (Percent.encode Percent.inQuery query))
            | _ => none
          fragment := fragment.map fun f => String.ofList (Percent.encode Percent.inFragment f) }
      | _, _ => .error .malformed

/-- The URL with parameters added to its query; an empty query is left out. -/
def withParameters (u : Url) (pairs : List (String × String)) : Url :=
  let given := u.query.getD ""
  let added := String.ofList (Percent.parameters pairs)
  let query := if given ≠ "" && added ≠ "" then given ++ "&" ++ added else given ++ added
  { u with query := if query = "" then none else some query }

def pathText (u : Url) : String := "/" ++ "/".intercalate u.path

def target (u : Url) : String :=
  u.pathText ++ (match u.query with | some q => "?" ++ q | none => "")

def authority (u : Url) : String :=
  u.host ++ (match u.port with | some p => ":" ++ toString p | none => "")

def text (u : Url) : String :=
  (if u.secure then "https://" else "http://") ++ u.authority ++ u.target ++
    (match u.fragment with | some f => "#" ++ f | none => "")

end Url
end DeployDrift
