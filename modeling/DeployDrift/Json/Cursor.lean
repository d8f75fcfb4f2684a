import DeployDrift.Json.Fault

/-!
# Reading characters of a JSON text

A cursor is the unread rest of a text and the number of bytes before it.  A step either gives a
value and the cursor behind it, or stops.  It stops at a byte offset, or, where a complete value
has the wrong shape, with the place still open: the reader of the enclosing value settles it.

A byte that is part of no character is not expected outside texts.  A text that is kept must not
have one, which is found out where it ends; in a text that is passed over it may stand.
-/
namespace DeployDrift.Json

open Text (Letter)

structure Cursor where
  rest : List Letter
  offset : Nat
  deriving Repr

inductive Stop where
  | at (cause : Cause) (offset : Nat)
  | open (mismatch : Mismatch) (cursor : Cursor)
  deriving Repr

namespace Cursor

def start (text : List Letter) : Cursor := ⟨text, 0⟩

def skip (c : Cursor) : Cursor :=
  match c.rest with
  | [] => c
  | x :: rest => ⟨rest, c.offset + x.utf8Size⟩

/-- The next character is one of the four that may stand between JSON tokens. -/
def isSpace (x : Letter) : Bool :=
  x == .char ' ' || x == .char '\n' || x == .char '\t' || x == .char '\r'

def skipSpace (c : Cursor) : Cursor :=
  let space := c.rest.takeWhile isSpace
  ⟨c.rest.drop space.length, c.offset + space.length⟩

def stop {α : Type} (c : Cursor) (flaw : Flaw) : Except Stop α :=
  .error (.at (.flaw flaw) c.offset)

/-- Stops with one byte more than was read so far, if there is one. -/
def stopNext {α : Type} (c : Cursor) (flaw : Flaw) : Except Stop α :=
  .error (.at (.flaw flaw) (if c.rest.isEmpty then c.offset else c.offset + 1))

def stopAfterByte {α : Type} (c : Cursor) (flaw : Flaw) : Except Stop α :=
  c.stopNext flaw

def literal : List Char → Cursor → Except Stop Cursor
  | [], c => .ok c
  | expected :: more, c =>
    match c.rest with
    | [] => c.stop .endInValue
    | x :: _ => if x = .char expected then literal more c.skip else c.stopAfterByte .expectedIdent

def digits (c : Cursor) : List Char × Cursor :=
  let ds := (c.rest.takeWhile Letter.isDigit).filterMap Letter.char?
  (ds, ⟨c.rest.drop ds.length, c.offset + ds.length⟩)

def bytesLeft (c : Cursor) : Nat := c.rest.foldl (fun n x => n + x.utf8Size) 0

def hexQuad (c : Cursor) : Except Stop (Nat × Cursor) :=
  if c.bytesLeft < 4 then .error (.at (.flaw .endInText) (c.offset + c.bytesLeft))
  else
    match ((c.rest.take 4).mapM Letter.char?).bind Text.hexValue? with
    | some n => .ok (n, ⟨c.rest.drop 4, c.offset + 4⟩)
    | none => .error (.at (.flaw .invalidEscape) (c.offset + 4))

def escapeLetter? : Char → Option Char
  | '"' => some '"'
  | '\\' => some '\\'
  | '/' => some '/'
  | 'b' => some '\x08'
  | 'f' => some '\x0c'
  | 'n' => some '\n'
  | 'r' => some '\r'
  | 't' => some '\t'
  | _ => none

/-- The code unit opens a surrogate pair. -/
def opensPair (n : Nat) : Bool := 0xD800 ≤ n && n ≤ 0xDBFF

/-- The code unit closes a surrogate pair. -/
def closesPair (n : Nat) : Bool := 0xDC00 ≤ n && n ≤ 0xDFFF

/-- The next character has to be `expected` for a surrogate pair to go on. -/
def pairGoesOn (expected : Char) (c : Cursor) : Except Stop Cursor :=
  match c.rest with
  | [] => c.stop .endInText
  | x :: _ => if x = .char expected then .ok c.skip else c.stopAfterByte .brokenSurrogatePair

def unicodeEscape (c : Cursor) : Except Stop (Char × Cursor) := do
  let (high, c) ← c.hexQuad
  if closesPair high then c.stop .loneSurrogate
  else if opensPair high then
    let c ← pairGoesOn '\\' c
    let c ← pairGoesOn 'u' c
    let (low, c) ← c.hexQuad
    if closesPair low then
      .ok (Char.ofNat (0x10000 + (high - 0xD800) * 0x400 + (low - 0xDC00)), c)
    else c.stop .loneSurrogate
  else .ok (Char.ofNat high, c)

def escape (c : Cursor) : Except Stop (Char × Cursor) :=
  match c.rest with
  | [] => c.stop .endInText
  | .char 'u' :: _ => c.skip.unicodeEscape
  | x :: _ =>
    match x.char?.bind escapeLetter? with
    | some y => .ok (y, c.skip)
    | none => c.stopAfterByte .invalidEscape

/-- The letter may not stand in a text. -/
def isControl (x : Letter) : Bool := x.char?.any fun c => c.toNat < 32

/-- The characters up to the closing quote, behind the opening one. -/
def textBody : (fuel : Nat) → Cursor → (read : List Letter) → Except Stop (String × Cursor)
  | 0, c, _ => c.stop .endInText
  | fuel + 1, c, read =>
    match c.rest with
    | [] => c.stop .endInText
    | .char '"' :: _ =>
      match read.reverse.mapM Letter.char? with
      | some cs => .ok (String.ofList cs, c.skip)
      | none => c.skip.stop .strayByte
    | .char '\\' :: _ => do
      let (x, c) ← c.skip.escape
      textBody fuel c (.char x :: read)
    | x :: _ =>
      if isControl x then c.skip.stop .controlCharacter
      else textBody fuel c.skip (x :: read)

def text (c : Cursor) : Except Stop (String × Cursor) := c.textBody (c.rest.length + 1) []

/-- Passes over an escape, whatever code unit it writes. -/
def passEscape (c : Cursor) : Except Stop Cursor :=
  match c.rest with
  | [] => c.stop .endInText
  | .char 'u' :: _ => (·.2) <$> c.skip.hexQuad
  | x :: _ => if (x.char?.bind escapeLetter?).isSome then .ok c.skip else c.stopAfterByte .invalidEscape

/-- Passes over the characters up to the closing quote. -/
def passTextBody : (fuel : Nat) → Cursor → Except Stop Cursor
  | 0, c => c.stop .endInText
  | fuel + 1, c =>
    match c.rest with
    | [] => c.stop .endInText
    | .char '"' :: _ => .ok c.skip
    | .char '\\' :: _ => do passTextBody fuel (← c.skip.passEscape)
    | x :: _ => if isControl x then c.stop .controlCharacter else passTextBody fuel c.skip

def passText (c : Cursor) : Except Stop Cursor := c.passTextBody (c.rest.length + 1)

end Cursor
end DeployDrift.Json
