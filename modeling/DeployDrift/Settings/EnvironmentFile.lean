import DeployDrift.Settings.Environment
import DeployDrift.Text.Alphanumeric

/-!
# Files of variables

A file is cut into lines, and every line gives a variable its value.
-/
namespace DeployDrift.EnvironmentFile

/-!
## The lines of an environment file

An entry goes on over the end of a line while a quotation is open.  So the file is cut into logical
lines: each of them ends with the first line at whose end nothing is open, and a comment, which
starts with `#` behind white space, is cut off.
-/

/-- The place in a line that cannot be read. -/
structure LineFault where
  line : String
  index : Nat
  deriving DecidableEq, Repr

def LineFault.message (f : LineFault) : String :=
  "Error parsing line: '" ++ f.line ++ "', error at line index: " ++ toString f.index

inductive Openness where
  | nothing
  /-- The last character was white space, so that a comment may follow. -/
  | blank
  | escape
  | strong
  | strongEscape
  | weak
  | weakEscape
  deriving DecidableEq, Repr

namespace Openness

/-- What a character opens where no quotation is open. -/
def opened (c : Char) : Option Openness :=
  match c with
  | '\\' => some escape
  | '"' => some weak
  | '\'' => some strong
  | _ => none

/-- What is open behind a character; none if a comment starts with it. -/
def step : Openness → Char → Option Openness
  | .nothing, c =>
    if Text.isBlank c && c ≠ '\n' && c ≠ '\r' then some .blank else some ((opened c).getD .nothing)
  | .blank, c => if c = '#' then none else some ((opened c).getD .nothing)
  | .escape, _ => some .nothing
  | .strong, c => some (if c = '\\' then .strongEscape else if c = '\'' then .nothing else .strong)
  | .strongEscape, _ => some .strong
  | .weak, c => some (if c = '\\' then .weakEscape else if c = '"' then .nothing else .weak)
  | .weakEscape, _ => some .weak

/-- The text before a comment, and what is open behind it; none if there is a comment. -/
def scan (o : Openness) : List Char → List Char × Option Openness
  | [] => ([], some o)
  | c :: cs =>
    match o.step c with
    | none => ([], none)
    | some next =>
      let (kept, final) := next.scan cs
      (c :: kept, final)

end Openness

def physicalLines : List Char → List (List Char)
  | [] => []
  | c :: cs =>
    match c, physicalLines cs with
    | '\n', lines => ['\n'] :: lines
    | c, [] => [[c]]
    | c, line :: lines => (c :: line) :: lines

def withoutEnd (line : List Char) : List Char :=
  match line.reverse with
  | '\n' :: '\r' :: rest | '\n' :: rest => rest.reverse
  | _ => line

/-- The first character that is not blank starts a comment. -/
def isComment (line : List Char) : Bool := (line.dropWhile Text.isBlank).head? == some '#'

/-- Logical lines, of which the first goes on from `before`. -/
def logicalLines (before : List Char) (o : Openness) :
    List (List Char) → List (Except LineFault String)
  | [] =>
    if o = .nothing then []
    else
      let line := String.ofList before
      [.error ⟨line, line.utf8ByteSize⟩]
  | line :: rest =>
    if isComment (before ++ line) then .ok "" :: logicalLines [] .nothing rest
    else
      match o.scan line with
      | (kept, none) => .ok (String.ofList (before ++ kept)) :: logicalLines [] .nothing rest
      | (_, some .nothing) =>
        .ok (String.ofList (withoutEnd (before ++ line))) :: logicalLines [] .nothing rest
      | (_, some o) => logicalLines (before ++ line) o rest

/-- The logical lines of a file; a byte order mark in front does not belong to it. -/
def lines (content : String) : List (Except LineFault String) :=
  let cs := match content.toList with
    | '\uFEFF' :: cs => cs
    | cs => cs
  logicalLines [] .nothing (physicalLines cs)

/-!
## The entries of an environment file

A line gives a variable its value.  In the value, quotations and escapes are resolved, and a name
behind `$`, in braces or not, stands for the value of that variable.
-/

/-! ### Values -/

/-- Where the reader of a value is. -/
inductive ValuePlace where
  | plain
  | strong
  | weak
  /-- Behind a backslash. -/
  | escaped (inQuotes : Bool)
  /-- In the name of a variable, of which the given characters were read. -/
  | variable (inQuotes braced : Bool) (name : List Char)
  /-- Behind the value: nothing but a comment may follow. -/
  | behind
  deriving DecidableEq, Repr

namespace ValuePlace

/-- Outside of escapes and names, in quotes or not. -/
def outside (inQuotes : Bool) : ValuePlace := if inQuotes then .weak else .plain

def isOpen : ValuePlace → Bool
  | .strong | .weak => true
  | .escaped inQuotes => inQuotes
  | .variable inQuotes braced _ => inQuotes || braced
  | .plain | .behind => false

end ValuePlace

def escape? (c : Char) : Option Char :=
  match c with
  | '\\' | '\'' | '"' | '$' | ' ' => some c
  | 'n' => some '\n'
  | _ => none

/-- Reads the rest of a value of which `index` characters were read. -/
def readValue (valueOf : String → String) (whole : String) :
    (index : Nat) → ValuePlace → List Char → Except LineFault (List Char)
  | _, place, [] =>
    if place.isOpen then .error ⟨whole, whole.utf8ByteSize - 1⟩
    else
      match place with
      | .variable _ _ name => .ok (valueOf (String.ofList name)).toList
      | _ => .ok []
  | index, place, c :: cs =>
    let go place := readValue valueOf whole (index + 1) place cs
    match place with
    | .behind =>
      if c = ' ' || c = '\t' then go .behind
      else if c = '#' then .ok []
      else .error ⟨whole, index⟩
    | .escaped inQuotes =>
      match escape? c with
      | some c => (c :: ·) <$> go (.outside inQuotes)
      | none => .error ⟨whole, index⟩
    | .strong => if c = '\'' then go .plain else (c :: ·) <$> go .strong
    | .variable inQuotes true name =>
      if c = '\x7d' then
        ((valueOf (String.ofList name)).toList ++ ·) <$> go (.outside inQuotes)
      else go (.variable inQuotes true (name ++ [c]))
    | .variable inQuotes false name =>
      if Text.isAlphanumeric c then go (.variable inQuotes false (name ++ [c]))
      else if c = '\x7b' && name.isEmpty then go (.variable inQuotes true [])
      else
        ((valueOf (String.ofList name)).toList ++ ·) <$>
          if c = '$' then go (.variable inQuotes false [])
          else (c :: ·) <$> go (.outside inQuotes)
    | .weak =>
      if c = '$' then go (.variable true false [])
      else if c = '"' then go .plain
      else if c = '\\' then go (.escaped true)
      else (c :: ·) <$> go .weak
    | .plain =>
      if c = '$' then go (.variable false false [])
      else if c = '\'' then go .strong
      else if c = '"' then go .weak
      else if c = '\\' then go (.escaped false)
      else if c = ' ' || c = '\t' then go .behind
      else (c :: ·) <$> go .plain

/-! ### Lines -/

/-- The rest of a line, and how many bytes of the line stand before it. -/
structure LineRest where
  rest : List Char
  position : Nat

namespace LineRest

def ofLine (line : String) : LineRest :=
  ⟨(line.toList.reverse.dropWhile Text.isBlank).reverse, 0⟩

def skipBlanks (r : LineRest) : LineRest :=
  ⟨r.rest.dropWhile Text.isBlank,
    r.position + (String.ofList (r.rest.takeWhile Text.isBlank)).utf8ByteSize⟩

def name? (r : LineRest) : Option (String × LineRest) :=
  match r.rest with
  | [] => none
  | c :: _ =>
    if c.isAlpha || c = '_' then
      let name := r.rest.takeWhile fun c => c.isAlphanum || c = '_' || c = '.'
      some (String.ofList name, ⟨r.rest.drop name.length, r.position + name.length⟩)
    else none

def equals? (r : LineRest) : Option LineRest :=
  match r.rest with
  | '=' :: rest => some ⟨rest, r.position + 1⟩
  | _ => none

/-- Nothing, or only a comment, is left. -/
def isVoid (r : LineRest) : Bool := r.rest.isEmpty || r.rest.head? == some '#'

def assignment (line : String) (r : LineRest) : Except LineFault (String × LineRest) :=
  match r.name? with
  | none => .error ⟨line, r.position⟩
  | some (name, r) =>
    let r := r.skipBlanks
    match r.equals? with
    | some r => .ok (name, r)
    | none =>
      if name = "export" then
        match r.name? with
        | none => .error ⟨line, r.position⟩
        | some (name, r) =>
          let r := r.skipBlanks
          match r.equals? with
          | some r => .ok (name, r)
          | none => .error ⟨line, r.position⟩
      else .error ⟨line, r.position⟩

end LineRest

/-- The variable that a line sets and its value; none for an empty line or a comment. -/
def readEntry (valueOf : String → String) (line : String) :
    Except LineFault (Option (String × String)) := do
  let r := (LineRest.ofLine line).skipBlanks
  if r.isVoid then return none
  let (name, r) ← r.assignment line
  let r := r.skipBlanks
  if r.isVoid then return some (name, "")
  let value ← readValue valueOf (String.ofList r.rest) 0 .plain r.rest
  return some (name, String.ofList value)

/-!
## Environment files

A file of this name, if it exists, adds variables to the environment.  A variable that is set
already keeps its value.
-/

def fileName : String := ".env"

/-- The environment after the given lines.  A name in a value stands for a variable of the
environment, or else for the last entry of that name. -/
def loadLines (env : Variables) (entries : Table String String) :
    List (Except LineFault String) → Except LineFault Variables
  | [] => .ok env
  | .error fault :: _ => .error fault
  | .ok line :: rest => do
    let valueOf name := ((Table.get? env name).orElse fun _ => Table.get? entries name).getD ""
    match ← readEntry valueOf line with
    | none => loadLines env entries rest
    | some (name, value) =>
      let env :=
        if Table.contains env name then env else Table.insert env name value
      loadLines env (Table.insert entries name value) rest

def unreadable (path message : String) : SettingFault :=
  .invalid path ("Failed to load .env file: " ++ message)

def load (env : Variables) (path content : String) : Except SettingFault Variables :=
  (loadLines env [] (lines content)).mapError fun fault => unreadable path fault.message

end DeployDrift.EnvironmentFile
