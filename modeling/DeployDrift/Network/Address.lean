import DeployDrift.Settings.Environment
import DeployDrift.Text.Quoted

/-!
# Addresses of hosts

Addresses of the fourth and of the sixth version of the Internet Protocol.  The readers take an
address off the front of a text; a text has to be an address in full detail, since no names are
looked up and no abbreviation but `::` is known.
-/
namespace DeployDrift

structure IPv4 where
  first : UInt8
  second : UInt8
  third : UInt8
  fourth : UInt8
  deriving DecidableEq, Repr

structure IPv6 where
  groups : Vector UInt16 8
  deriving DecidableEq, Repr

inductive IPAddress where
  | v4 (address : IPv4)
  | v6 (address : IPv6)
  deriving DecidableEq, Repr

/-- Takes something off the front of a text, if it stands there. -/
abbrev FrontReader := StateT (List Char) Option

namespace FrontReader

def expect (c : Char) : FrontReader Unit := fun cs =>
  match cs with
  | [] => none
  | d :: rest => if c = d then some ((), rest) else none

/-- Takes off all decimal digits in front, at least one and no more than `most`, whose value is
below `bound`. -/
def decimal (most : Option Nat) (bound : Nat) : FrontReader Nat := fun cs =>
  let digits := cs.takeWhile Char.isDigit
  let value := Text.decimalValue digits
  if digits.isEmpty || (most.any (· < digits.length)) || bound ≤ value then none
  else some (value, cs.drop digits.length)

end FrontReader

namespace IPv4

open FrontReader

/-- One of the four numbers: up to three digits, without superfluous zeros in front. -/
def readPart : FrontReader UInt8 := fun cs =>
  if cs.head? == some '0' && (cs.drop 1).head?.any Char.isDigit then none
  else (decimal (some 3) 256 cs).map fun (n, rest) => (n.toUInt8, rest)

def read : FrontReader IPv4 := do
  let first ← readPart
  expect '.'
  let second ← readPart
  expect '.'
  let third ← readPart
  expect '.'
  return ⟨first, second, third, ← readPart⟩

def text (a : IPv4) : String :=
  toString a.first ++ "." ++ toString a.second ++ "." ++ toString a.third ++ "." ++
    toString a.fourth

/-- The address in two groups of sixteen bits. -/
def pairs (a : IPv4) : List UInt16 :=
  [a.first.toUInt16 * 256 + a.second.toUInt16, a.third.toUInt16 * 256 + a.fourth.toUInt16]

/-- The address that two groups of sixteen bits stand for. -/
def ofPairs (high low : UInt16) : IPv4 :=
  ⟨(high / 256).toUInt8, high.toUInt8, (low / 256).toUInt8, low.toUInt8⟩

end IPv4

namespace IPv6

open FrontReader

def readGroup : FrontReader UInt16 := fun cs =>
  let digits := cs.takeWhile fun c => (Text.hexDigit? c).isSome
  if digits.isEmpty || 4 < digits.length then none
  else (Text.hexValue? digits).map fun n => (n.toUInt16, cs.drop digits.length)

/-- Takes off what stands before a group: a colon, unless it is the first one. -/
def separator (isFirst : Bool) : FrontReader Unit := if isFirst then pure () else expect ':'

/-- Groups at the front of a text, as many as there are up to `room`, and whether the last two of
them were written as an address of the fourth version. -/
def readGroups : (room : Nat) → (isFirst : Bool) → List Char → List UInt16 × Bool × List Char
  | 0, _, cs => ([], false, cs)
  | room + 1, isFirst, cs =>
    match if 0 < room then (separator isFirst *> IPv4.read).run cs else none with
    | some (address, rest) => (address.pairs, true, rest)
    | none =>
      match (separator isFirst *> readGroup).run cs with
      | none => ([], false, cs)
      | some (group, rest) =>
        let (groups, endsInV4, rest) := readGroups room false rest
        (group :: groups, endsInV4, rest)

/-- The address with the given groups, if they are eight. -/
def ofGroups? (groups : List UInt16) : Option IPv6 :=
  if h : groups.length = 8 then some ⟨⟨groups.toArray, by simpa using h⟩⟩ else none

/-- Eight groups, or fewer with `::` once in place of at least one group of zeros. -/
def read : FrontReader IPv6 := fun cs =>
  let (head, endsInV4, rest) := readGroups 8 true cs
  if head.length = 8 then (ofGroups? head).map (·, rest)
  else if endsInV4 then none
  else do
    let (_, rest) ← (expect ':' *> expect ':').run rest
    let (tail, _, rest) := readGroups (7 - head.length) true rest
    let zeros := List.replicate (8 - head.length - tail.length) 0
    return (← ofGroups? (head ++ zeros ++ tail), rest)

/-- Start and length of the longest run of zeros in the groups from place `index` on; of several the
first one. -/
def longestZeros : (index : Nat) → List UInt16 → Nat × Nat
  | _, [] => (0, 0)
  | index, g :: groups =>
    let here := ((g :: groups).takeWhile (· == 0)).length
    let later := longestZeros (index + 1) groups
    if here ≠ 0 && later.2 ≤ here then (index, here) else later

def groupsText (groups : List UInt16) : String :=
  ":".intercalate (groups.map fun g => Text.hexadecimal g.toNat)

/-- All groups in hexadecimal digits, with `::` for the longest run of two or more zeros. -/
def hexText (a : IPv6) : String :=
  let groups := a.groups.toList
  let (start, length) := longestZeros 0 groups
  if 1 < length then
    groupsText (groups.take start) ++ "::" ++ groupsText (groups.drop (start + length))
  else groupsText groups

/-- The canonical form; the end of an address that stands for one of the fourth version is written
like that. -/
def text (a : IPv6) : String :=
  match a.groups.toList with
  | [0, 0, 0, 0, 0, 0xFFFF, high, low] => "::ffff:" ++ (IPv4.ofPairs high low).text
  | _ => a.hexText

end IPv6

def IPAddress.text : IPAddress → String
  | .v4 address => address.text
  | .v6 address => address.text

/-!
## Addresses to listen on

The address of a host and a port.  An address of the sixth version stands in brackets and may say in
which scope it is meant.
-/

inductive SocketAddress where
  | v4 (address : IPv4) (port : UInt16)
  | v6 (address : IPv6) (scope : UInt32) (port : UInt16)
  deriving DecidableEq, Repr

namespace SocketAddress

open FrontReader

def address : SocketAddress → IPAddress
  | .v4 address _ => .v4 address
  | .v6 address .. => .v6 address

def port : SocketAddress → UInt16
  | .v4 _ port => port
  | .v6 _ _ port => port

def isV4 : SocketAddress → Bool
  | .v4 .. => true
  | .v6 .. => false

def readPort : FrontReader UInt16 := do
  expect ':'
  return (← decimal none 0x10000).toUInt16

def readScope : FrontReader UInt32 := do
  expect '%'
  return (← decimal none 0x100000000).toUInt32

def readV4 : FrontReader SocketAddress := return .v4 (← IPv4.read) (← readPort)

def readV6 : FrontReader SocketAddress := do
  expect '['
  let address ← IPv6.read
  let scope ← readScope <|> pure 0
  expect ']'
  return .v6 address scope (← readPort)

def parse? (s : String) : Option SocketAddress :=
  match (readV4 <|> readV6).run s.toList with
  | some (address, []) => some address
  | _ => none

def text : SocketAddress → String
  | .v4 address port => address.text ++ ":" ++ toString port
  | .v6 address scope port =>
    "[" ++ address.text ++ (if scope = 0 then "" else "%" ++ toString scope) ++ "]:" ++
      toString port

def settingName : String := "ARGOCD_EXECUTOR_LISTEN"

/-- The address that a setting gives, white space around it left aside. -/
def resolve (setting : String) : Except SettingFault SocketAddress :=
  match parse? (Text.trim setting) with
  | some address => .ok address
  | none => .error (.invalid settingName (Text.quote setting ++ ": invalid socket address syntax"))

def inUse : String := "Address already in use (os error 98)"

end SocketAddress
end DeployDrift
