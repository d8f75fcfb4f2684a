import DeployDrift.Yaml.Token.Tag
import DeployDrift.Yaml.Token.Text

/-!
# Taking a text apart into tokens

`Located.scan` gives the tokens of a text; if the text cannot be read to its end, the last one says
why.  Blocks are marked by tokens of their own, which follow from the columns.  That a scalar or a
collection was the key of a mapping shows only at the colon behind it: until then its place in the
row of tokens is remembered, and tokens from there on are held back.
-/
namespace DeployDrift.Yaml

/-- A place where a key may have started. -/
structure PossibleKey where
  mark : Mark
  /-- The number of the token with which the key starts. -/
  token : Nat
  /-- Only a key can start here. -/
  required : Bool

structure Scanner where
  source : Source
  /-- Tokens that are held back. -/
  waiting : List Located := []
  /-- How many tokens were given out. -/
  given : Nat := 0
  /-- The column of the innermost block; less than zero outside of any. -/
  indent : Int := -1
  /-- The columns of the blocks around it, innermost first. -/
  outer : List Int := []
  /-- A key may start here. -/
  keyAllowed : Bool := true
  /-- The possible key outside of brackets. -/
  blockKey : Option PossibleKey := none
  /-- The possible keys inside of brackets, innermost first. -/
  flowKeys : List (Option PossibleKey) := []
  /-- The anchors so far with their numbers. -/
  anchors : List (String × Nat) := []

namespace Scanner

def inFlow (s : Scanner) : Bool := !s.flowKeys.isEmpty

def mark (s : Scanner) : Mark := s.source.mark

def possibleKey (s : Scanner) : Option PossibleKey :=
  match s.flowKeys with
  | [] => s.blockKey
  | key :: _ => key

def setPossibleKey (key : Option PossibleKey) (s : Scanner) : Scanner :=
  match s.flowKeys with
  | [] => { s with blockKey := key }
  | _ :: outer => { s with flowKeys := key :: outer }

def emit (token : Token) (mark : Mark) (s : Scanner) : Scanner :=
  { s with waiting := s.waiting ++ [⟨token, mark⟩] }

def emitNext (token : Token) (n : Nat) (s : Scanner) : Scanner :=
  { s.emit token s.mark with source := s.source.advance n }

def emitBefore (number : Nat) (token : Token) (mark : Mark) (s : Scanner) : Scanner :=
  let i := number - s.given
  { s with waiting := s.waiting.take i ++ ⟨token, mark⟩ :: s.waiting.drop i }

def openBlock (column : Nat) (emit : Scanner → Scanner) (s : Scanner) : Scanner :=
  if s.inFlow || (column : Int) ≤ s.indent then s
  else emit { s with indent := column, outer := s.indent :: s.outer }

def closeBlocks (column : Int) (s : Scanner) : Scanner :=
  if s.inFlow then s else go s.outer s
where
  go : List Int → Scanner → Scanner
    | [], s => s
    | outer :: rest, s =>
      if s.indent ≤ column then s
      else go rest { s.emit .blockEnd s.mark with indent := outer, outer := rest }

def dropKey (s : Scanner) : Except Flaw Scanner :=
  match s.possibleKey with
  | some key => if key.required then .error .missingColon else .ok (s.setPossibleKey none)
  | none => .ok s

def noteKey (s : Scanner) : Except Flaw Scanner :=
  if s.keyAllowed then do
    let key : PossibleKey :=
      { mark := s.mark
        token := s.given + s.waiting.length
        required := !s.inFlow && s.indent == s.mark.column }
    return (← s.dropKey).setPossibleKey (some key)
  else .ok s

def isStale (mark : Mark) (key : PossibleKey) : Bool :=
  key.mark.line < mark.line || key.mark.index + 1024 < mark.index

/-- A possible key, unless it has become impossible. -/
def freshKey (mark : Mark) : Option PossibleKey → Except Flaw (Option PossibleKey)
  | none => .ok none
  | some key =>
    if isStale mark key then (if key.required then .error .missingColon else .ok none)
    else .ok (some key)

def dropStaleKeys (s : Scanner) : Except Flaw Scanner := do
  let blockKey ← freshKey s.mark s.blockKey
  let flowKeys ← s.flowKeys.mapM (freshKey s.mark)
  return { s with blockKey := blockKey, flowKeys := flowKeys }

/-- Passes over white space, comments and line breaks in front of a token. -/
def skipSpace : (fuel : Nat) → Scanner → Scanner
  | 0, s => s
  | fuel + 1, s =>
    let source := if s.mark.column == 0 && s.source.isAt byteOrderMark then s.source.advance 1
      else s.source
    let source := source.skipWhile fun c => c == ' ' || ((s.inFlow || !s.keyAllowed) && c == '\t')
    let source := if source.isAt '#' then source.skipWhile (!isBreak ·) else source
    if source.next isBreak then
      skipSpace fuel
        { s with source := source.skipBreak, keyAllowed := s.keyAllowed || !s.inFlow }
    else { s with source := source }

def fetchEnd (s : Scanner) : Except Flaw Scanner := do
  let s ← (s.closeBlocks (-1)).dropKey
  return { s.emit .streamEnd s.mark with keyAllowed := false }

def fetchDirective (s : Scanner) : Except Flaw Scanner := do
  let s ← (s.closeBlocks (-1)).dropKey
  let (token, source) ← readDirective s.source
  return { s.emit token s.mark with source := source, keyAllowed := false }

def fetchDocumentMark (token : Token) (s : Scanner) : Except Flaw Scanner := do
  let s ← (s.closeBlocks (-1)).dropKey
  return { s.emitNext token 3 with keyAllowed := false }

def fetchOpening (token : Token) (s : Scanner) : Except Flaw Scanner := do
  let s ← s.noteKey
  return { s.emitNext token 1 with keyAllowed := true, flowKeys := none :: s.flowKeys }

def fetchClosing (token : Token) (s : Scanner) : Except Flaw Scanner := do
  let s ← s.dropKey
  return { s.emitNext token 1 with keyAllowed := false, flowKeys := s.flowKeys.tail }

def fetchFlowEntry (s : Scanner) : Except Flaw Scanner := do
  let s ← s.dropKey
  return { s.emitNext .flowEntry 1 with keyAllowed := true }

def fetchBlockEntry (s : Scanner) : Except Flaw Scanner := do
  if !s.inFlow && !s.keyAllowed then throw .misplacedEntry
  let s ← (s.openBlock s.mark.column (·.emit .blockSequenceStart s.mark)).dropKey
  return { s.emitNext .blockEntry 1 with keyAllowed := true }

def fetchKey (s : Scanner) : Except Flaw Scanner := do
  if !s.inFlow && !s.keyAllowed then throw .misplacedKey
  let s ← (s.openBlock s.mark.column (·.emit .blockMappingStart s.mark)).dropKey
  return { s.emitNext .key 1 with keyAllowed := !s.inFlow }

def fetchValue (s : Scanner) : Except Flaw Scanner := do
  match s.possibleKey with
  | some key =>
    let s := (s.emitBefore key.token .key key.mark).openBlock key.mark.column
      (·.emitBefore key.token .blockMappingStart key.mark)
    return { (s.setPossibleKey none).emitNext .value 1 with keyAllowed := false }
  | none =>
    if !s.inFlow && !s.keyAllowed then throw .misplacedValue
    let s := s.openBlock s.mark.column (·.emit .blockMappingStart s.mark)
    return { s.emitNext .value 1 with keyAllowed := !s.inFlow }

/-- The name of an anchor or alias, which an indicator may follow directly. -/
def readName (source : Source) : Except Flaw (String × Source) :=
  let (name, rest) := (source.advance 1).readWhile isNameChar
  if !name.isEmpty && (rest.separates ||
      rest.next ['?', ':', ',', ']', '}', '%', '@', '`'].contains) then
    .ok (String.ofList name, rest)
  else .error .invalidName

def fetchAnchor (s : Scanner) : Except Flaw Scanner := do
  let s ← s.noteKey
  let (name, source) ← readName s.source
  let number := s.anchors.length
  let anchors := (name, number) :: s.anchors.filter (·.1 != name)
  return { s.emit (.anchor number) s.mark with
    source := source, keyAllowed := false, anchors := anchors }

def fetchAlias (s : Scanner) : Except Flaw Scanner := do
  let s ← s.noteKey
  let (name, source) ← readName s.source
  match s.anchors.lookup name with
  | none => throw (.unknownAnchor name)
  | some number =>
    return { s.emit (.alias number) s.mark with source := source, keyAllowed := false }

def fetchTag (s : Scanner) : Except Flaw Scanner := do
  let s ← s.noteKey
  let (token, source) ← readTag s.inFlow s.source
  return { s.emit token s.mark with source := source, keyAllowed := false }

def fetchBlock (literal : Bool) (s : Scanner) : Except Flaw Scanner := do
  let s ← s.dropKey
  let (text, source) ← readBlock literal s.indent s.source
  return { s.emit (.scalar text false) s.mark with source := source, keyAllowed := true }

def fetchQuoted (single : Bool) (s : Scanner) : Except Flaw Scanner := do
  let s ← s.noteKey
  let (text, source) ← readQuoted single s.source
  return { s.emit (.scalar text false) s.mark with source := source, keyAllowed := false }

def fetchPlain (s : Scanner) : Except Flaw Scanner := do
  let s ← s.noteKey
  let (text, broken, source) ← readPlain s.inFlow (s.indent + 1).toNat s.source
  return { s.emit (.scalar text true) s.mark with source := source, keyAllowed := broken }

def startsPlain (inFlow : Bool) (c : Char) (rest : List Char) : Bool :=
  !(isBlank c || ['-', '?', ':', ',', '[', ']', '{', '}', '#', '&', '*', '!', '|', '>', '\'', '"',
      '%', '@', '`'].contains c) ||
    (c == '-' && !rest.head?.any isBlank) ||
    (!inFlow && (c == '?' || c == ':') && !separates rest)

/-- Reads the next token, and tokens that follow from it. -/
def fetch (s : Scanner) : Except Flaw Scanner := do
  let s ← (s.skipSpace (s.source.rest.length + 1)).dropStaleKeys
  let s := s.closeBlocks s.mark.column
  match s.source.rest with
  | [] => s.fetchEnd
  | c :: rest =>
    if c == '%' && s.mark.column == 0 then s.fetchDirective
    else if s.source.atDocumentMark '-' then s.fetchDocumentMark .documentStart
    else if s.source.atDocumentMark '.' then s.fetchDocumentMark .documentEnd
    else if c == '[' then s.fetchOpening .flowSequenceStart
    else if c == '{' then s.fetchOpening .flowMappingStart
    else if c == ']' then s.fetchClosing .flowSequenceEnd
    else if c == '}' then s.fetchClosing .flowMappingEnd
    else if c == ',' then s.fetchFlowEntry
    else if c == '-' && separates rest then s.fetchBlockEntry
    else if c == '?' && (s.inFlow || separates rest) then s.fetchKey
    else if c == ':' && (s.inFlow || separates rest) then s.fetchValue
    else if c == '*' then s.fetchAlias
    else if c == '&' then s.fetchAnchor
    else if c == '!' then s.fetchTag
    else if c == '|' && !s.inFlow then s.fetchBlock true
    else if c == '>' && !s.inFlow then s.fetchBlock false
    else if c == '\'' then s.fetchQuoted true
    else if c == '"' then s.fetchQuoted false
    else if startsPlain s.inFlow c rest then s.fetchPlain
    else throw .strayCharacter

/-- The token at the head of the row could still turn out to be behind the start of a key. -/
def holdsBack (s : Scanner) : Bool :=
  (s.blockKey :: s.flowKeys).any fun key => key.any (·.token == s.given)

def take : (fuel : Nat) → Scanner → Except Flaw (Located × Scanner)
  | 0, _ => .error .unclosedText
  | fuel + 1, s => do
    if s.waiting.isEmpty then take fuel (← s.fetch)
    else
      let s ← s.dropStaleKeys
      match s.waiting with
      | [] => throw .unclosedText
      | token :: waiting =>
        if s.holdsBack then take fuel (← s.fetch)
        else return (token, { s with waiting := waiting, given := s.given + 1 })

/-- All tokens, up to the end of the text or to the first flaw. -/
def all : (fuel : Nat) → Scanner → List Located
  | 0, s => [⟨.unreadable .unclosedText, s.mark⟩]
  | fuel + 1, s =>
    match s.take (s.source.rest.length + 2) with
    | .error flaw => [⟨.unreadable flaw, s.mark⟩]
    | .ok (token, s) => if token.token = .streamEnd then [token] else token :: all fuel s

end Scanner

/-- The tokens of a text.  A mark for the order of bytes in front of it does not count. -/
def Located.scan (text : List Char) : List Located :=
  if !text.all isAllowed then [⟨.unreadable .forbiddenCharacter, {}⟩]
  else
    let text := match text with
      | c :: rest => if c == byteOrderMark then rest else text
      | [] => []
    Scanner.all (4 * text.length + 4) { source := .start text }

end DeployDrift.Yaml
