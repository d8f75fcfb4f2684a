import DeployDrift.Text
import DeployDrift.Yaml.Token

/-!
# Reading scalars

Plain scalars, scalars in quotes, and blocks.  In the first two the white space around a line break
is folded: a single break reads as a space, and of several all but the first are kept.
-/
namespace DeployDrift.Yaml

structure Gap where
  /-- White space before the first break. -/
  blanks : List Char := []
  broken : Bool := false
  /-- The first break, unless it is escaped. -/
  lead : List Char := []
  /-- The breaks behind it. -/
  more : List Char := []

def Gap.text (g : Gap) : List Char :=
  if !g.broken then g.blanks
  else if g.lead == ['\n'] then (if g.more.isEmpty then [' '] else g.more)
  else g.lead ++ g.more

/-- Reads white space and line breaks.  With a limit, no tab may stand to the left of that column
behind a break. -/
def readGap (limit : Option Nat) : (fuel : Nat) → Gap → Source → Except Flaw (Gap × Source)
  | 0, g, s => .ok (g, s)
  | fuel + 1, g, s =>
    match s.rest with
    | [] => .ok (g, s)
    | c :: _ =>
      if isBlank c then
        if g.broken && c == '\t' && limit.any (s.mark.column < ·) then .error .tabInIndent
        else if g.broken then readGap limit fuel g (s.advance 1)
        else readGap limit fuel { g with blanks := g.blanks ++ [c] } (s.advance 1)
      else if isBreak c then
        let (kept, s) := s.readBreak
        if g.broken then readGap limit fuel { g with more := g.more ++ kept } s
        else readGap limit fuel { blanks := [], broken := true, lead := kept, more := g.more } s
      else .ok (g, s)

/-- The characters of a plain scalar up to white space or an indicator that ends it. -/
def plainWord (flow : Bool) : List Char → Except Flaw (List Char)
  | [] => .ok []
  | c :: cs =>
    if isBlank c || isBreak c then .ok []
    else if flow && c == ':' && cs.head?.any [',', '?', '[', ']', '{', '}'].contains then
      .error .strayColon
    else if (c == ':' && separates cs) || (flow && [',', '[', ']', '{', '}'].contains c) then .ok []
    else (c :: ·) <$> plainWord flow cs

/-- Goes on with a plain scalar.  Outside of brackets it ends where a line starts to the left of
`column`.  The flag says whether a line break was read last. -/
def plainRest (flow : Bool) (column : Nat) :
    (fuel : Nat) → List Char → Gap → Source → Except Flaw (List Char × Bool × Source)
  | 0, text, g, s => .ok (text, g.broken, s)
  | fuel + 1, text, g, s => do
    if s.atAnyDocumentMark || s.isAt '#' then return (text, g.broken, s)
    let word ← plainWord flow s.rest
    let (text, g) := if word.isEmpty then (text, g) else (text ++ g.text ++ word, ({} : Gap))
    let s := s.advance word.length
    if !(s.next fun c => isBlank c || isBreak c) then return (text, g.broken, s)
    let (g, s) ← readGap (some column) (s.rest.length + 1) g s
    if !flow && s.mark.column < column then return (text, g.broken, s)
    plainRest flow column fuel text g s

/-- A plain scalar; the flag says whether a line break was read last. -/
def readPlain (flow : Bool) (column : Nat) (s : Source) :
    Except Flaw (String × Bool × Source) := do
  let (text, broken, s) ← plainRest flow column (s.rest.length + 1) [] {} s
  return (String.ofList text, broken, s)

def escapedLetter? : Char → Option Char
  | '0' => some '\x00'
  | 'a' => some '\x07'
  | 'b' => some '\x08'
  | 't' => some '\t'
  | '\t' => some '\t'
  | 'n' => some '\n'
  | 'v' => some '\x0b'
  | 'f' => some '\x0c'
  | 'r' => some '\r'
  | 'e' => some '\x1b'
  | ' ' => some ' '
  | '"' => some '"'
  | '/' => some '/'
  | '\\' => some '\\'
  | 'N' => some '\u0085'
  | '_' => some '\u00a0'
  | 'L' => some '\u2028'
  | 'P' => some '\u2029'
  | _ => none

def escapedDigits? : Char → Option Nat
  | 'x' => some 2
  | 'u' => some 4
  | 'U' => some 8
  | _ => none

/-- The character behind a backslash, and how many characters write it. -/
def readEscape (c : Char) (rest : List Char) : Except Flaw (Char × Nat) :=
  match escapedLetter? c with
  | some x => .ok (x, 1)
  | none =>
    match escapedDigits? c with
    | none => .error .invalidEscape
    | some n =>
      match Text.hexValue? (rest.take n) with
      | some code =>
        if (rest.take n).length = n ∧ code.isValidChar then .ok (Char.ofNat code, n + 1)
        else .error .invalidEscape
      | none => .error .invalidEscape

/-- The characters of a quoted scalar up to white space or the closing quote.  The flag says whether
an escaped line break ended it. -/
def quotedWord (single : Bool) :
    (fuel : Nat) → List Char → Source → Except Flaw (List Char × Bool × Source)
  | 0, word, s => .ok (word, false, s)
  | fuel + 1, word, s =>
    match s.rest with
    | [] => .ok (word, false, s)
    | c :: rest =>
      if isBlank c || isBreak c then .ok (word, false, s)
      else if single then
        if c == '\'' then
          if rest.head? == some '\'' then quotedWord single fuel (word ++ ['\'']) (s.advance 2)
          else .ok (word, false, s)
        else quotedWord single fuel (word ++ [c]) (s.advance 1)
      else if c == '"' then .ok (word, false, s)
      else if c == '\\' then
        match rest with
        | [] => .error .invalidEscape
        | e :: rest =>
          if isBreak e then .ok (word, true, (s.advance 1).skipBreak)
          else do
            let (x, size) ← readEscape e rest
            quotedWord single fuel (word ++ [x]) (s.advance (1 + size))
      else quotedWord single fuel (word ++ [c]) (s.advance 1)

/-- Goes on with a quoted scalar, up to and with its closing quote. -/
def quotedRest (single : Bool) :
    (fuel : Nat) → List Char → Source → Except Flaw (List Char × Source)
  | 0, _, _ => .error .unclosedText
  | fuel + 1, text, s => do
    if s.atAnyDocumentMark then throw .documentMarkInText
    if s.atEnd then throw .unclosedText
    let (word, broken, s) ← quotedWord single (s.rest.length + 1) [] s
    if s.isAt (if single then '\'' else '"') then return (text ++ word, s.advance 1)
    let (g, s) ← readGap none (s.rest.length + 1) { broken := broken } s
    quotedRest single fuel (text ++ word ++ g.text) s

/-- A scalar in quotes, from its opening quote on. -/
def readQuoted (single : Bool) (s : Source) : Except Flaw (String × Source) := do
  let (text, s) ← quotedRest single (s.rest.length + 1) [] (s.advance 1)
  return (String.ofList text, s)

inductive Chomping where
  | strip
  | clip
  | keep
  deriving DecidableEq, Repr

def chomping? : Char → Option Chomping
  | '-' => some .strip
  | '+' => some .keep
  | _ => none

def indentDigit (s : Source) : Except Flaw (Option Nat × Source) :=
  match s.rest with
  | c :: _ =>
    if c == '0' then .error .invalidBlockHead
    else if c.isDigit then .ok (some (c.toNat - '0'.toNat), s.advance 1)
    else .ok (none, s)
  | [] => .ok (none, s)

def chompingMark (s : Source) : Option Chomping × Source :=
  match s.rest.head?.bind chomping? with
  | some c => (some c, s.advance 1)
  | none => (none, s)

/-- The head of a block behind its first character: the two marks come in any order. -/
def blockHead (s : Source) : Except Flaw (Chomping × Option Nat × Source) := do
  let (chomping, s) := chompingMark s
  let (digit, s) ← indentDigit s
  let (chomping, s) :=
    if chomping.isNone && digit.isSome then chompingMark s else (chomping, s)
  return (chomping.getD .clip, digit, ← s.skipLineEnd .invalidBlockHead)

/-- Reads empty lines and the indentation of the next line.  Without a known column the widest line
is looked for. -/
def blockBreaks (column : Option Nat) :
    (fuel : Nat) → (widest : Nat) → (breaks : List Char) → Source →
      Except Flaw (Nat × List Char × Source)
  | 0, widest, breaks, s => .ok (widest, breaks, s)
  | fuel + 1, widest, breaks, s =>
    let s :=
      let spaces := (s.rest.takeWhile (· == ' ')).length
      match column with
      | none => s.advance spaces
      | some column => s.advance (min spaces (column - s.mark.column))
    let widest := max widest s.mark.column
    if s.isAt '\t' && column.all (s.mark.column < ·) then .error .tabInIndent
    else if s.next isBreak then
      let (kept, s) := s.readBreak
      blockBreaks column fuel widest (breaks ++ kept) s
    else .ok (widest, breaks, s)

/-- The lines of a block at the given column.  `lead` is the break of the line before, `more` the
breaks of empty lines behind it. -/
def blockLines (literal : Bool) (column : Nat) :
    (fuel : Nat) → (text : List Char) → (leadBlank : Bool) → (lead more : List Char) → Source →
      Except Flaw (List Char × List Char × List Char × Source)
  | 0, text, _, lead, more, s => .ok (text, lead, more, s)
  | fuel + 1, text, leadBlank, lead, more, s =>
    if s.mark.column == column && !s.atEnd then do
      let blank := s.next isBlank
      let joint :=
        if !literal && lead == ['\n'] && !leadBlank && !blank then
          (if more.isEmpty then [' '] else [])
        else lead
      let (line, s) := s.readWhile (!isBreak ·)
      let (lead, s) := s.readBreak
      let (_, breaks, s) ← blockBreaks (some column) (s.rest.length + 1) 0 [] s
      blockLines literal column fuel (text ++ joint ++ more ++ line) blank lead breaks s
    else .ok (text, lead, more, s)

/-- A block, from its first character on; `indent` is the column of the block it stands in, or
less than zero outside of any. -/
def readBlock (literal : Bool) (indent : Int) (s : Source) : Except Flaw (String × Source) := do
  let (chomping, digit, s) ← blockHead (s.advance 1)
  let asked := digit.map fun n => indent.toNat + n
  let (widest, breaks, s) ← blockBreaks asked (s.rest.length + 1) 0 [] s
  let column := asked.getD (max (max widest (indent + 1).toNat) 1)
  let (text, lead, more, s) ←
    blockLines literal column (s.rest.length + 1) [] false [] breaks s
  let text := match chomping with
    | .strip => text
    | .clip => text ++ lead
    | .keep => text ++ lead ++ more
  return (String.ofList text, s)

end DeployDrift.Yaml
