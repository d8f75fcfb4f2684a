import DeployDrift.Shape
import DeployDrift.Text.Bytes

/-!
# What is wrong with a JSON text

The faults a reader reports, their wording, and the line and column of a byte offset.
-/
namespace DeployDrift.Json

open Text (Letter)

inductive Flaw where
  | expectedValue
  | expectedIdent
  | expectedColon
  | expectedCommaOrBrace
  | expectedCommaOrBracket
  | keyNotText
  | trailingCharacters
  | trailingComma
  | endInValue
  | endInList
  | endInObject
  | endInText
  | invalidNumber
  | numberOutOfRange
  | invalidEscape
  | controlCharacter
  | loneSurrogate
  | brokenSurrogatePair
  | strayByte
  | tooDeep
  deriving DecidableEq, Repr

def Flaw.message : Flaw → String
  | .expectedValue => "expected value"
  | .expectedIdent => "expected ident"
  | .expectedColon => "expected `:`"
  | .expectedCommaOrBrace => "expected `,` or `\x7d`"
  | .expectedCommaOrBracket => "expected `,` or `]`"
  | .keyNotText => "key must be a string"
  | .trailingCharacters => "trailing characters"
  | .trailingComma => "trailing comma"
  | .endInValue => "EOF while parsing a value"
  | .endInList => "EOF while parsing a list"
  | .endInObject => "EOF while parsing an object"
  | .endInText => "EOF while parsing a string"
  | .invalidNumber => "invalid number"
  | .numberOutOfRange => "number out of range"
  | .invalidEscape => "invalid escape"
  | .controlCharacter =>
    "control character (\\u0000-\\u001F) found while parsing a string"
  | .loneSurrogate => "lone leading surrogate in hex escape"
  | .brokenSurrogatePair => "unexpected end of hex escape"
  | .strayByte => "invalid unicode code point"
  | .tooDeep => "recursion limit exceeded"

/-- Why a text was refused: it is no JSON, or the value has not the expected shape. -/
inductive Cause where
  | flaw (flaw : Flaw)
  | mismatch (mismatch : Mismatch)
  deriving DecidableEq, Repr

def Cause.message : Cause → String
  | .flaw f => f.message
  | .mismatch m => m.message

/-- A refusal, with the line and column at which reading stopped, unless the value was read
before. -/
structure Fault where
  cause : Cause
  position : Option (Nat × Nat)
  deriving DecidableEq, Repr

def Fault.message (fault : Fault) : String :=
  match fault.position with
  | none => fault.cause.message
  | some (line, column) =>
    fault.cause.message ++ " at line " ++ toString line ++ " column " ++ toString column

/-- A value that was read before has not the expected shape. -/
def Fault.ofMismatch (mismatch : Mismatch) : Fault :=
  ⟨.mismatch mismatch, mismatch.ownPosition?⟩

/-- Line and column behind the first `offset` bytes of a text: the line counts from one, the column
is the number of bytes since the last line feed. -/
def position (text : List Letter) (offset : Nat) : Nat × Nat :=
  go text offset 1 0
where
  go : List Letter → Nat → Nat → Nat → Nat × Nat
    | [], _, line, column => (line, column)
    | c :: cs, left, line, column =>
      let size := c.utf8Size
      if left = 0 then (line, column)
      else if left < size then (line, column + left)
      else if c = .char '\n' then go cs (left - size) (line + 1) 0
      else go cs (left - size) line (column + size)

end DeployDrift.Json
