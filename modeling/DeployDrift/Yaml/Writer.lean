import DeployDrift.Document
import DeployDrift.Yaml.Scalar
import DeployDrift.Yaml.Token

/-!
# Writing YAML

Documents are written in block style, two columns for each level, a list inside a mapping at the
column of the mapping, and no line is ever folded.  A text is written plain where it reads back as
itself, in single quotes where it would not, as a literal block where it has several lines, and in
double quotes where it holds characters that cannot stand for themselves.
-/
namespace DeployDrift.Yaml

def isPlainChar (c : Char) : Bool :=
  let n := c.toNat
  n == 0x0A || (0x20 ≤ n && n ≤ 0x7E) || (0xA0 ≤ n && n ≤ 0xD7FF) ||
    (0xE000 ≤ n && n ≤ 0xFFFD && n != 0xFEFF) || 0x10000 ≤ n

inductive Style where
  | plain
  | single
  | double
  | literal
  deriving DecidableEq, Repr

/-- The characters that have a meaning of their own at the start of a scalar. -/
def startIndicators : List Char :=
  ['#', ',', '[', ']', '{', '}', '&', '*', '!', '|', '>', '\'', '"', '%', '@', '`']

/-- A character behind the first one would be taken for an indicator. -/
def hasInnerIndicator : (afterBlank : Bool) → List Char → Bool
  | _, [] => false
  | afterBlank, c :: cs =>
    (c == ':' && separates cs) || (c == '#' && afterBlank) ||
      hasInnerIndicator (isBlank c || isBreak c) cs

/-- The text would not be taken for a plain scalar. -/
def hasIndicator : List Char → Bool
  | [] => false
  | c :: cs =>
    (c :: cs).take 3 == ['-', '-', '-'] || (c :: cs).take 3 == ['.', '.', '.'] ||
      startIndicators.contains c || ((c == '?' || c == ':' || c == '-') && separates cs) ||
      hasInnerIndicator (isBlank c || isBreak c) cs

def hasSpaceBeforeBreak : List Char → Bool
  | c :: d :: cs => (c == ' ' && isBreak d) || hasSpaceBeforeBreak (d :: cs)
  | _ => false

def hasSpaceAfterBreak : List Char → Bool
  | c :: d :: cs => (isBreak c && d == ' ') || hasSpaceAfterBreak (d :: cs)
  | _ => false

/-- The text can only be written in double quotes. -/
def needsDouble (cs : List Char) : Bool := cs.any (!isPlainChar ·) || hasSpaceBeforeBreak cs

/-- The text can be written without quotes on one line. -/
def allowsPlain (cs : List Char) : Bool :=
  !(cs.any isBreak || cs.head? == some ' ' || cs.getLast? == some ' ' || hasIndicator cs ||
    needsDouble cs)

def allowsSingle (cs : List Char) : Bool := !(hasSpaceAfterBreak cs || needsDouble cs)

def allowsLiteral (cs : List Char) : Bool := !(cs.getLast? == some ' ' || needsDouble cs)

/-- Read back as a plain scalar the text would be something else, or look like a number. -/
def needsQuotes (s : String) : Bool := resolve s != .text || hasLeadingZero s.toList

def styleOf (s : String) : Style :=
  let cs := s.toList
  if cs.contains '\n' then (if allowsLiteral cs then .literal else .double)
  else if !needsQuotes s && allowsPlain cs then .plain
  else if allowsSingle cs then .single
  else .double

def spaces (n : Nat) : String := String.ofList (List.replicate n ' ')

/-- Characters of a scalar, with the column restored behind line breaks. -/
def withIndent (column : Nat) (write : Char → String) : (afterBreak : Bool) → List Char → String
  | _, [] => ""
  | afterBreak, c :: cs =>
    if isBreak c then c.toString ++ withIndent column write true cs
    else (if afterBreak then spaces column else "") ++ write c ++ withIndent column write false cs

def writeSingle (column : Nat) (cs : List Char) : String :=
  let endsInBreak := (cs.getLast?.map isBreak).getD false
  "'" ++ withIndent column (fun c => if c = '\'' then "''" else c.toString) false cs ++
    (if endsInBreak then spaces column else "") ++ "'"

def escapeLetter? (c : Char) : Option Char :=
  [(0x00, '0'), (0x07, 'a'), (0x08, 'b'), (0x09, 't'), (0x0A, 'n'), (0x0B, 'v'), (0x0C, 'f'),
    (0x0D, 'r'), (0x1B, 'e'), (0x22, '"'), (0x5C, '\\'), (0x85, 'N'), (0xA0, '_'), (0x2028, 'L'),
    (0x2029, 'P')].lookup c.toNat

def writeDoubleChar (c : Char) : String :=
  if isPlainChar c && !isBreak c && c != '"' && c != '\\' then c.toString
  else match escapeLetter? c with
    | some letter => "\\" ++ letter.toString
    | none =>
      let n := c.toNat
      let (letter, width) :=
        if n ≤ 0xFF then ("x", 2) else if n ≤ 0xFFFF then ("u", 4) else ("U", 8)
      "\\" ++ letter ++ (Text.paddedHexadecimal width n).toUpper

def writeDouble (cs : List Char) : String :=
  "\"" ++ String.join (cs.map writeDoubleChar) ++ "\""

def chomping (cs : List Char) : String :=
  match cs.reverse with
  | [] => "-"
  | c :: rest =>
    if !isBreak c then "-"
    else match rest with
      | [] => "+"
      | d :: _ => if isBreak d then "+" else ""

def step : Nat := 2

/-- A text as a literal block, without the line break behind its last line. -/
def writeLiteral (column : Nat) (cs : List Char) : String :=
  let hint := match cs with
    | c :: _ => if c == ' ' || isBreak c then toString step else ""
    | [] => ""
  "|" ++ hint ++ chomping cs ++ "\n" ++ withIndent column Char.toString true cs

/-- A text in its style; the flag says that a line break has been written last. -/
def writeText (column : Nat) (s : String) : String × Bool :=
  let cs := s.toList
  match styleOf s with
  | .plain => (s, false)
  | .single => (writeSingle column cs, false)
  | .double => (writeDouble cs, false)
  | .literal => (writeLiteral column cs, (cs.getLast?.map isBreak).getD false)

/-- The longest name, in bytes, that can stand in front of its value on one line. -/
def longestSimpleName : Nat := 128

def isSimpleName (s : String) : Bool :=
  !s.toList.any isBreak && s.utf8ByteSize ≤ longestSimpleName

/-- Where a value is written: behind the name of a field, or behind an indicator on whose line a
list or mapping can begin. -/
inductive Place where
  | afterName
  | afterIndicator
  deriving DecidableEq, Repr

/-- The text of a scalar that is no text. -/
def scalar? : Document → Option String
  | .null => some "null"
  | .bool b => some (toString b)
  | .number n => some n.text
  | .list [] => some "[]"
  | .mapping [] => some "\x7b\x7d"
  | _ => none

/-- A text behind a name or an indicator, up to the end of its line. -/
def textLine (column : Nat) (s : String) : String :=
  let (written, broken) := writeText column s
  " " ++ written ++ if broken then "" else "\n"

mutual
/-- A value up to the end of its last line.  `column` is that of the enclosing list or mapping. -/
def writeValue (place : Place) (column : Nat) : Document → String
  | .text s => textLine (column + step) s
  | .list items =>
    if items.isEmpty then " []\n"
    else
      match place with
      | .afterName => "\n" ++ writeItems column false items
      | .afterIndicator => " " ++ writeItems (column + step) true items
  | .mapping fields =>
    if fields.isEmpty then " \x7b\x7d\n"
    else
      match place with
      | .afterName => "\n" ++ writeFields (column + step) false fields
      | .afterIndicator => " " ++ writeFields (column + step) true fields
  | .null => " null\n"
  | .bool b => " " ++ toString b ++ "\n"
  | .number n => " " ++ n.text ++ "\n"

/-- The items of a list; the flag says that the line has been started. -/
def writeItems (column : Nat) (started : Bool) : List Document → String
  | [] => ""
  | item :: rest =>
    (if started then "" else spaces column) ++ "-" ++ writeValue .afterIndicator column item ++
      writeItems column false rest

/-- The fields of a mapping; the flag says that the line has been started. -/
def writeFields (column : Nat) (started : Bool) : List (String × Document) → String
  | [] => ""
  | (name, value) :: rest =>
    (if started then "" else spaces column) ++
      (if isSimpleName name then
        (writeText (column + step) name).1 ++ ":" ++ writeValue .afterName column value
      else
        "?" ++ textLine (column + step) name ++ spaces column ++ ":" ++
          writeValue .afterIndicator column value) ++
      writeFields column false rest
end

def write (d : Document) : String :=
  match d with
  | .mapping (field :: fields) => writeFields 0 false (field :: fields)
  | .list (item :: items) => writeItems 0 false (item :: items)
  | d =>
    match scalar? d with
    | some s => s ++ "\n"
    | none => String.ofList ((textLine step ((d.text?).getD "")).toList.drop 1)

end DeployDrift.Yaml
