/-!
# The words of YAML texts

Characters, tokens, and the places where they stand.
-/
namespace DeployDrift.Yaml

/-!
## Characters of YAML texts

Line breaks, white space, and the characters that may occur at all.
-/

def isBreak (c : Char) : Bool :=
  c == '\n' || c == '\r' || c.toNat == 0x85 || c.toNat == 0x2028 || c.toNat == 0x2029

def isBlank (c : Char) : Bool := c == ' ' || c == '\t'

/-- A text of which this is the rest goes on with white space or a line break, or ends. -/
def separates : List Char → Bool
  | [] => true
  | c :: _ => isBlank c || isBreak c

/-- The letters of names: of anchors, directives and tag handles. -/
def isNameChar (c : Char) : Bool := c.isAlphanum || c == '_' || c == '-'

def byteOrderMark : Char := '\uFEFF'

def isAllowed (c : Char) : Bool :=
  let n := c.toNat
  n == 0x09 || n == 0x0A || n == 0x0D || (0x20 ≤ n && n ≤ 0x7E) || n == 0x85 ||
    (0xA0 ≤ n && n ≤ 0xD7FF) || (0xE000 ≤ n && n ≤ 0xFFFD) || 0x10000 ≤ n

/-!
## Tokens of YAML texts

The words a YAML text is made of, the places where they stand, and what can be wrong with a text.
-/

/-- A place in a text: characters before it, and line and column, all counted from zero. -/
structure Mark where
  index : Nat := 0
  line : Nat := 0
  column : Nat := 0
  deriving DecidableEq, Repr

inductive Flaw where
  | forbiddenCharacter
  | strayCharacter
  | misplacedEntry
  | misplacedKey
  | misplacedValue
  | missingColon
  | strayColon
  | invalidDirective
  | repeatedDirective
  | unknownVersion
  | invalidName
  | unknownAnchor (name : String)
  | invalidTag
  | unknownTagHandle (handle : String)
  | invalidEscape
  | unclosedText
  | documentMarkInText
  | invalidBlockHead
  | tabInIndent
  | expectedDocumentStart
  | expectedContent
  | expectedBlockEntry
  | expectedBlockKey
  | expectedFlowEntry
  | severalDocuments
  | tooDeep
  | tooManyAliases
  deriving DecidableEq, Repr

def Flaw.message : Flaw → String
  | .forbiddenCharacter => "control characters are not allowed"
  | .strayCharacter => "found character that cannot start any token"
  | .misplacedEntry => "block sequence entries are not allowed in this context"
  | .misplacedKey => "mapping keys are not allowed in this context"
  | .misplacedValue => "mapping values are not allowed in this context"
  | .missingColon => "could not find expected ':'"
  | .strayColon => "found unexpected ':'"
  | .invalidDirective => "found invalid directive"
  | .repeatedDirective => "found duplicate directive"
  | .unknownVersion => "found incompatible YAML document"
  | .invalidName => "did not find expected alphabetic or numeric character"
  | .unknownAnchor name => "unknown anchor " ++ name
  | .invalidTag => "found invalid tag"
  | .unknownTagHandle handle => "found undefined tag handle " ++ handle
  | .invalidEscape => "found unknown escape character"
  | .unclosedText => "found unexpected end of stream"
  | .documentMarkInText => "found unexpected document indicator"
  | .invalidBlockHead => "did not find expected comment or line break"
  | .tabInIndent => "found a tab character where an indentation space is expected"
  | .expectedDocumentStart => "did not find expected <document start>"
  | .expectedContent => "did not find expected node content"
  | .expectedBlockEntry => "did not find expected '-' indicator"
  | .expectedBlockKey => "did not find expected key"
  | .expectedFlowEntry => "did not find expected ',' or closing bracket"
  | .severalDocuments => "more than one document"
  | .tooDeep => "recursion limit exceeded"
  | .tooManyAliases => "repetition limit exceeded"

/-- A word of a text.  An anchor has a number, and an alias the number of its anchor. -/
inductive Token where
  | documentStart
  | documentEnd
  | version (major minor : Nat)
  | tagHandle (handle lead : String)
  | blockSequenceStart
  | blockMappingStart
  | blockEnd
  | blockEntry
  | flowSequenceStart
  | flowSequenceEnd
  | flowMappingStart
  | flowMappingEnd
  | flowEntry
  | key
  | value
  | alias (number : Nat)
  | anchor (number : Nat)
  | tag (handle suffix : String)
  /-- A scalar; it is plain if it stands without quotes on its own line. -/
  | scalar (text : String) (plain : Bool)
  | streamEnd
  /-- Behind this place the text cannot be read. -/
  | unreadable (flaw : Flaw)
  deriving DecidableEq, Repr

structure Located where
  token : Token
  mark : Mark
  deriving DecidableEq, Repr

/-- The unread rest of a text and where it starts. -/
structure Source where
  rest : List Char
  mark : Mark

namespace Source

def start (text : List Char) : Source := ⟨text, {}⟩

def next (p : Char → Bool) (s : Source) : Bool := s.rest.head?.any p

def isAt (c : Char) (s : Source) : Bool := s.next (· == c)

def atEnd (s : Source) : Bool := s.rest.isEmpty

/-- A word ends here: white space or a line break follows, or nothing. -/
def separates (s : Source) : Bool := Yaml.separates s.rest

def endsLine (s : Source) : Bool := s.atEnd || s.next isBreak

def advance (n : Nat) (s : Source) : Source :=
  ⟨s.rest.drop n, ⟨s.mark.index + n, s.mark.line, s.mark.column + n⟩⟩

def skipWhile (p : Char → Bool) (s : Source) : Source := s.advance (s.rest.takeWhile p).length

def readWhile (p : Char → Bool) (s : Source) : List Char × Source :=
  (s.rest.takeWhile p, s.skipWhile p)

/-- The line break at which the source stands, in the form in which it is kept, and the source
behind it. -/
def readBreak (s : Source) : List Char × Source :=
  let newLine (n : Nat) : Mark := ⟨s.mark.index + n, s.mark.line + 1, 0⟩
  match s.rest with
  | '\r' :: '\n' :: rest => (['\n'], ⟨rest, newLine 2⟩)
  | c :: rest =>
    if isBreak c then
      ([if c.toNat == 0x2028 || c.toNat == 0x2029 then c else '\n'], ⟨rest, newLine 1⟩)
    else ([], s)
  | [] => ([], s)

def skipBreak (s : Source) : Source := s.readBreak.2

/-- Behind the rest of the line, a comment included, if nothing else is on it. -/
def skipLineEnd (flaw : Flaw) (s : Source) : Except Flaw Source :=
  let s := s.skipWhile isBlank
  let s := if s.isAt '#' then s.skipWhile (!isBreak ·) else s
  if s.endsLine then .ok s.skipBreak else .error flaw

/-- The source stands at the start of a line, and three times `c` stand there as a word. -/
def atDocumentMark (c : Char) (s : Source) : Bool :=
  s.mark.column == 0 && s.rest.take 3 == [c, c, c] && Yaml.separates (s.rest.drop 3)

def atAnyDocumentMark (s : Source) : Bool := s.atDocumentMark '-' || s.atDocumentMark '.'

end Source
end DeployDrift.Yaml
