import DeployDrift.Json.Numeral
import DeployDrift.Yaml.Reader

/-!
# Reading JSON texts

One reader serves every shape.  It checks the shape while it reads, so that of two faults the one
that comes first in the text is reported; fields that a record does not know are passed over by a
laxer rule that looks neither at the size of numbers nor at the pairing of surrogates.  Values nest
at most 127 levels deep.

Every step uses up fuel, and `read` supplies two units for each character, which is more than any
text can use: each value and each further element starts with a character of its own.
-/
namespace DeployDrift.Json

open Text (Letter)

/-- Levels of lists and mappings that may stand inside each other, and one more. -/
def depthLimit : Nat := 128

namespace Cursor

/-- Goes on to the next element of a list: `none` at its end. -/
def nextElement (c : Cursor) (first : Bool) : Except Stop (Bool × Cursor) :=
  let c := c.skipSpace
  match c.rest with
  | [] => c.stopNext .endInList
  | .char ']' :: _ => .ok (false, c)
  | x :: _ =>
    if first then .ok (true, c)
    else if x = .char ',' then
      let c := c.skip.skipSpace
      match c.rest with
      | [] => c.stopNext .endInValue
      | .char ']' :: _ => c.stopNext .trailingComma
      | _ => .ok (true, c)
    else c.stopNext .expectedCommaOrBracket

/-- Goes on to the next name of a mapping, up to its opening quote. -/
def nextName (c : Cursor) (first : Bool) : Except Stop (Bool × Cursor) :=
  let c := c.skipSpace
  match c.rest with
  | [] => c.stopNext .endInObject
  | .char '\x7d' :: _ => .ok (false, c)
  | x :: _ =>
    if first then (if x = .char '"' then .ok (true, c) else c.stopNext .keyNotText)
    else if x = .char ',' then
      let c := c.skip.skipSpace
      match c.rest with
      | [] => c.stopNext .endInValue
      | .char '"' :: _ => .ok (true, c)
      | .char '\x7d' :: _ => c.stopNext .trailingComma
      | _ => c.stopNext .keyNotText
    else c.stopNext .expectedCommaOrBrace

def colon (c : Cursor) : Except Stop Cursor :=
  let c := c.skipSpace
  match c.rest with
  | [] => c.stopNext .endInObject
  | .char ':' :: _ => .ok c.skip
  | _ => c.stopNext .expectedColon

/-- Where a list ends, if its end comes next; else how far a look for it goes. -/
def afterListEnd (c : Cursor) : Except (Flaw × Cursor) Cursor :=
  let c := c.skipSpace
  match c.rest with
  | [] => .error (.endInList, c)
  | .char ']' :: _ => .ok c.skip
  | .char ',' :: _ =>
    let d := c.skip.skipSpace
    match d.rest with
    | .char ']' :: _ => .error (.trailingComma, d)
    | _ => .error (.trailingCharacters, d)
  | _ => .error (.trailingCharacters, c)

/-- Where a mapping ends, if its end comes next; else how far a look for it goes. -/
def afterMapEnd (c : Cursor) : Except (Flaw × Cursor) Cursor :=
  let c := c.skipSpace
  match c.rest with
  | [] => .error (.endInObject, c)
  | .char '\x7d' :: _ => .ok c.skip
  | .char ',' :: _ => .error (.trailingComma, c)
  | _ => .error (.trailingCharacters, c)

end Cursor

/-- Closes a list or mapping.  A fault whose place is still open is settled behind the end of the
enclosing value, as far as that can be reached. -/
def enclose {α : Type} (close : Cursor → Except (Flaw × Cursor) Cursor) :
    Except Stop (α × Cursor) → Except Stop (α × Cursor)
  | .ok (value, c) =>
    match close c with
    | .ok c => .ok (value, c)
    | .error (flaw, c) => c.stopNext flaw
  | .error (.at cause offset) => .error (.at cause offset)
  | .error (.open mismatch c) =>
    match close c with
    | .ok c | .error (_, c) => .error (.at (.mismatch mismatch) c.offset)

/-- A fault in a value that is neither list nor mapping lies behind that value. -/
def wrongType {α : Type} (found : Found) (expected : String) (c : Cursor) : Except Stop α :=
  .error (.at (.mismatch (.wrongType found expected)) c.offset)

/-- A value that has not the expected type: a scalar is read first, and its own flaws win. -/
def unexpected {α : Type} (expected : String) (c : Cursor) : Except Stop α :=
  match c.rest with
  | .char 'n' :: _ => do wrongType .null expected (← c.skip.literal ['u', 'l', 'l'])
  | .char 't' :: _ => do wrongType (.bool true) expected (← c.skip.literal ['r', 'u', 'e'])
  | .char 'f' :: _ => do wrongType (.bool false) expected (← c.skip.literal ['a', 'l', 's', 'e'])
  | .char '-' :: _ => do
    let (n, c) ← c.skip.numeral true
    wrongType (.number n) expected c
  | .char '"' :: _ => do
    let (s, c) ← c.skip.text
    wrongType (.text s) expected c
  | .char '[' :: _ => wrongType .sequence expected c
  | .char '\x7b' :: _ => wrongType .map expected c
  | x :: _ =>
    if x.isDigit then do
      let (n, c) ← c.numeral false
      wrongType (.number n) expected c
    else c.stopNext .expectedValue
  | [] => c.stopNext .expectedValue

/-- Passes over a value.  `accept` names the closing characters of the lists and mappings it is
inside of, innermost first. -/
def pass : (fuel : Nat) → Cursor → Except Stop Cursor
  | 0, c => c.stopNext .endInValue
  | fuel + 1, c =>
    let c := c.skipSpace
    match c.rest with
    | [] => c.stopNext .endInValue
    | .char 'n' :: _ => c.skip.literal ['u', 'l', 'l']
    | .char 't' :: _ => c.skip.literal ['r', 'u', 'e']
    | .char 'f' :: _ => c.skip.literal ['a', 'l', 's', 'e']
    | .char '-' :: _ => c.skip.passNumeral
    | .char '"' :: _ => c.skip.passText
    | .char '[' :: _ => passElements fuel c.skip true
    | .char '\x7b' :: _ => passFields fuel c.skip true
    | x :: _ => if x.isDigit then c.passNumeral else c.stopNext .expectedValue
where
  passElements : (fuel : Nat) → Cursor → Bool → Except Stop Cursor
    | 0, c, _ => c.stopNext .endInList
    | fuel + 1, c, first =>
      let c := c.skipSpace
      match c.rest with
      | [] => c.stopNext .endInList
      | .char ']' :: _ => .ok c.skip
      | x :: _ =>
        if first then do passElements fuel (← pass fuel c) false
        else if x = .char ',' then do passElements fuel (← pass fuel c.skip) false
        else c.stopNext .expectedCommaOrBracket
  passFields : (fuel : Nat) → Cursor → Bool → Except Stop Cursor
    | 0, c, _ => c.stopNext .endInObject
    | fuel + 1, c, first =>
      let c := c.skipSpace
      match c.rest with
      | [] => c.stopNext .endInObject
      | .char '\x7d' :: _ => .ok c.skip
      | x :: _ =>
        if first then passField fuel c
        else if x = .char ',' then passField fuel c.skip.skipSpace
        else c.stopNext .expectedCommaOrBrace
  passField : (fuel : Nat) → Cursor → Except Stop Cursor
    | 0, c => c.stopNext .endInObject
    | fuel + 1, c =>
      match c.rest with
      | [] => c.stopNext .endInObject
      | .char '"' :: _ => do
        let c ← c.skip.passText
        let c ← c.colon
        passFields fuel (← pass fuel c) false
      | _ => c.stopNext .keyNotText

def wordText (words : List String) (c : Cursor) : Except Stop (Document × Cursor) :=
  match c.rest with
  | .char '"' :: _ => do
    let (s, c) ← c.skip.text
    if words.contains s then .ok (.text s, c)
    else .error (.at (.mismatch (.unknownWord s words)) c.offset)
  | _ => unexpected "variant identifier" c

/-- One of some words, as a text or as the only field of a mapping whose value is null. -/
def word (depth : Nat) (words : List String) (c : Cursor) : Except Stop (Document × Cursor) :=
  match c.rest with
  | [] => c.stopNext .endInValue
  | .char '"' :: _ => wordText words c
  | .char '\x7b' :: _ =>
    if depth ≤ 1 then c.stopNext .tooDeep
    else do
      let c := c.skip.skipSpace
      match c.rest with
      | [] => c.stopNext .endInValue
      | _ =>
        let (d, c) ← wordText words c
        let c ← c.colon
        let c := c.skipSpace
        match c.rest with
        | [] => c.stopNext .endInValue
        | .char 'n' :: _ =>
          let c ← c.skip.literal ['u', 'l', 'l']
          let c := c.skipSpace
          match c.rest with
          | [] => c.stop .endInObject
          | .char '\x7d' :: _ => .ok (d, c.skip)
          | _ => c.stop .expectedValue
        | _ => unexpected "unit" c
  | _ => c.stopNext .expectedValue

mutual
/-- Reads a value of the given shape.  The fields of schema-free mappings come in the order of the
text, with repetitions. -/
def value : (fuel : Nat) → (depth : Nat) → Shape → Cursor → Except Stop (Document × Cursor)
  | 0, _, _, c => c.stopNext .endInValue
  | fuel + 1, depth, shape, c =>
    let c := c.skipSpace
    match shape with
    | .optional inner =>
      match c.rest with
      | .char 'n' :: _ => do .ok (.null, ← c.skip.literal ['u', 'l', 'l'])
      | _ => value fuel depth inner c
    | .embedded inner => do
      let (raw, after) ← value fuel depth .any c
      match Shape.decode (.embedded inner) raw with
      | .ok d => .ok (d, after)
      | .error mismatch => .error (.open mismatch after)
    | .any =>
      match c.rest with
      | [] => c.stopNext .endInValue
      | .char 'n' :: _ => do .ok (.null, ← c.skip.literal ['u', 'l', 'l'])
      | .char 't' :: _ => do .ok (.bool true, ← c.skip.literal ['r', 'u', 'e'])
      | .char 'f' :: _ => do .ok (.bool false, ← c.skip.literal ['a', 'l', 's', 'e'])
      | .char '-' :: _ => do
        let (n, c) ← c.skip.numeral true
        .ok (.number n, c)
      | .char '"' :: _ => do
        let (s, c) ← c.skip.text
        .ok (.text s, c)
      | .char '[' :: _ =>
        if depth ≤ 1 then c.stopNext .tooDeep
        else enclose Cursor.afterListEnd do
          let (items, c) ← elements fuel (depth - 1) .any c.skip true
          .ok (.list items, c)
      | .char '\x7b' :: _ =>
        if depth ≤ 1 then c.stopNext .tooDeep
        else enclose Cursor.afterMapEnd do
          let (fields, c) ← entries fuel (depth - 1) .any c.skip true
          .ok (.mapping fields, c)
      | x :: _ =>
        if x.isDigit then do
          let (n, c) ← c.numeral false
          .ok (.number n, c)
        else c.stopNext .expectedValue
    | .text =>
      match c.rest with
      | [] => c.stopNext .endInValue
      | .char '"' :: _ => do
        let (s, c) ← c.skip.text
        .ok (.text s, c)
      | _ => unexpected shape.expectation c
    | .bool =>
      match c.rest with
      | [] => c.stopNext .endInValue
      | .char 't' :: _ => do .ok (.bool true, ← c.skip.literal ['r', 'u', 'e'])
      | .char 'f' :: _ => do .ok (.bool false, ← c.skip.literal ['a', 'l', 's', 'e'])
      | _ => unexpected shape.expectation c
    | .list item =>
      match c.rest with
      | [] => c.stopNext .endInValue
      | .char '[' :: _ =>
        if depth ≤ 1 then c.stopNext .tooDeep
        else enclose Cursor.afterListEnd do
          let (items, c) ← elements fuel (depth - 1) item c.skip true
          .ok (.list items, c)
      | _ => unexpected shape.expectation c
    | .map inner =>
      match c.rest with
      | [] => c.stopNext .endInValue
      | .char '\x7b' :: _ =>
        if depth ≤ 1 then c.stopNext .tooDeep
        else enclose Cursor.afterMapEnd do
          let (fields, c) ← entries fuel (depth - 1) inner c.skip true
          .ok (.ofFields fields, c)
      | _ => unexpected shape.expectation c
    | .choice words => word depth words c
    | .record name fields =>
      match c.rest with
      | [] => c.stopNext .endInValue
      | .char '[' :: _ =>
        if depth ≤ 1 then c.stopNext .tooDeep
        else enclose Cursor.afterListEnd do
          let (given, c) ← inOrder fuel (depth - 1) name fields.length 0 fields c.skip
          .ok (.ofFields given, c)
      | .char '\x7b' :: _ =>
        if depth ≤ 1 then c.stopNext .tooDeep
        else enclose Cursor.afterMapEnd do
          let (given, c) ← byName fuel (depth - 1) fields c.skip true []
          match Shape.complete fields given with
          | .ok d => .ok (d, c)
          | .error mismatch => .error (.open mismatch c)
      | _ => unexpected shape.expectation c

def elements : (fuel depth : Nat) → Shape → Cursor → Bool → Except Stop (List Document × Cursor)
  | 0, _, _, c, _ => c.stopNext .endInList
  | fuel + 1, depth, item, c, first => do
    let (more, c) ← c.nextElement first
    if more then
      let (d, c) ← value fuel depth item c
      let (rest, c) ← elements fuel depth item c false
      .ok (d :: rest, c)
    else .ok ([], c)

/-- The names and values of a mapping, up to its closing brace. -/
def entries :
    (fuel depth : Nat) → Shape → Cursor → Bool → Except Stop (List (String × Document) × Cursor)
  | 0, _, _, c, _ => c.stopNext .endInObject
  | fuel + 1, depth, inner, c, first => do
    let (more, c) ← c.nextName first
    if more then
      let (name, c) ← c.skip.text
      let c ← c.colon
      let (d, c) ← value fuel depth inner c
      let (rest, c) ← entries fuel depth inner c false
      .ok ((name, d) :: rest, c)
    else .ok ([], c)

def inOrder : (fuel depth : Nat) → String → (size index : Nat) → List (Slot × Shape) → Cursor →
    Except Stop (List (String × Document) × Cursor)
  | 0, _, _, _, _, _, c => c.stopNext .endInList
  | _ + 1, _, _, _, _, [], c => .ok ([], c)
  | fuel + 1, depth, name, size, index, (slot, shape) :: fields, c => do
    let (more, c) ← c.nextElement (index == 0)
    if more then
      let (d, c) ← value fuel depth shape c
      let (rest, c) ← inOrder fuel depth name size (index + 1) fields c
      .ok ((slot.name, d) :: rest, c)
    else if slot.required then
      .error (.open (.wrongLength index (Shape.recordOf name size)) c)
    else
      let (rest, c) ← inOrder fuel depth name size (index + 1) fields c
      .ok ((slot.name, shape.blank) :: rest, c)

def byName : (fuel depth : Nat) → List (Slot × Shape) → Cursor → Bool →
    List (String × Document) → Except Stop (List (String × Document) × Cursor)
  | 0, _, _, c, _, _ => c.stopNext .endInObject
  | fuel + 1, depth, fields, c, first, given => do
    let (more, c) ← c.nextName first
    if more then
      let (name, c) ← c.skip.text
      match fields.find? fun (slot, _) => slot.answersTo name with
      | none =>
        let c ← c.colon
        let c ← pass (2 * c.rest.length + 2) c
        byName fuel depth fields c false given
      | some (slot, shape) =>
        if (given.lookup slot.name).isSome then
          .error (.open (.duplicateField slot.name) c)
        else
          let c ← c.colon
          let (d, c) ← value fuel depth shape c
          byName fuel depth fields c false ((slot.name, d) :: given)
    else .ok (given, c)
end

def Stop.toFault (text : List Letter) : Stop → Fault
  | .at cause offset =>
    match cause with
    | .mismatch m => ⟨cause, some (m.ownPosition?.getD (position text offset))⟩
    | .flaw _ => ⟨cause, some (position text offset)⟩
  | .open mismatch _ => .ofMismatch mismatch

def readLetters (shape : Shape) (text : List Letter) : Except Fault Document :=
  let outcome : Except Stop Document := do
    let (d, c) ← value (2 * text.length + 4) depthLimit shape (Cursor.start text)
    let c := c.skipSpace
    if c.rest.isEmpty then .ok d else c.stopNext .trailingCharacters
  match outcome with
  | .ok d => .ok d.canonical
  | .error stop => .error (stop.toFault text)

def read (shape : Shape) (s : String) : Except Fault Document :=
  readLetters shape (s.toList.map .char)

/-- Reads bytes, which need not be a text. -/
def readBytes (shape : Shape) (bs : List UInt8) : Except Fault Document :=
  readLetters shape (Letter.ofBytes bs)

theorem readBytes_bytes (shape : Shape) (s : String) :
    readBytes shape (Text.bytes s.toList) = read shape s := by
  rw [readBytes, Letter.ofBytes_bytes, read]

def readDocument (s : String) : Except Fault Document := read .any s

end DeployDrift.Json
