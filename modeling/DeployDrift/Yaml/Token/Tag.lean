import DeployDrift.Text
import DeployDrift.Yaml.Token

/-!
# Reading tags and directives

A tag is written in full between angle brackets, or as a handle and a suffix, where a directive at
the start of the document says what the handle stands for.
-/
namespace DeployDrift.Yaml

/-- A character of the suffix of a tag; between angle brackets there are three more. -/
def isTagChar (full : Bool) (c : Char) : Bool :=
  isNameChar c ||
    [';', '/', '?', ':', '@', '&', '=', '+', '$', '.', '!', '~', '*', '\'', '(', ')', '%'].contains
      c ||
    (full && [',', '[', ']'].contains c)

/-- How a byte starts a character: the bytes that follow and its own part of the number. -/
def leadByte? (b : Nat) : Option (Nat × Nat) :=
  if b < 0x80 then some (0, b)
  else if b < 0xC0 then none
  else if b < 0xE0 then some (1, b - 0xC0)
  else if b < 0xF0 then some (2, b - 0xE0)
  else if b < 0xF8 then some (3, b - 0xF0)
  else none

/-- The text with escaped bytes put together to characters.  `missing` bytes of a character with
the number `code` so far are still to come. -/
def unescapeBytes : (missing code : Nat) → List Char → Option (List Char)
  | missing, code, '%' :: a :: b :: cs =>
    (Text.hexValue? [a, b]).bind fun byte =>
      match missing with
      | 0 => (leadByte? byte).bind fun (more, part) =>
        match more with
        | 0 => (Char.ofNat part :: ·) <$> unescapeBytes 0 0 cs
        | more + 1 => unescapeBytes (more + 1) part cs
      | missing + 1 =>
        if 0x80 ≤ byte ∧ byte < 0xC0 then
          let code := 64 * code + (byte - 0x80)
          match missing with
          | 0 => (Char.ofNat code :: ·) <$> unescapeBytes 0 0 cs
          | missing + 1 => unescapeBytes (missing + 1) code cs
        else none
  | missing, _, [] => if missing = 0 then some [] else none
  | missing, code, c :: cs =>
    if missing ≠ 0 ∨ c = '%' then none else (c :: ·) <$> unescapeBytes missing code cs

/-- The suffix of a tag, behind the characters `head` of it. -/
def readTagSuffix (full : Bool) (head : List Char) (s : Source) :
    Except Flaw (String × Source) :=
  let (cs, s) := s.readWhile (isTagChar full)
  match unescapeBytes 0 0 cs with
  | some cs => .ok (String.ofList (head ++ cs), s)
  | none => .error .invalidTag

/-- The handle of a tag: an exclamation mark, letters, and a second one if it follows. -/
def readTagHandle (s : Source) : Except Flaw (List Char × Source) :=
  if s.isAt '!' then
    let (name, s) := (s.advance 1).readWhile isNameChar
    if s.isAt '!' then .ok ('!' :: name ++ ['!'], s.advance 1) else .ok ('!' :: name, s)
  else .error .invalidTag

def isClosedHandle (handle : List Char) : Bool :=
  2 ≤ handle.length && handle.getLast? == some '!'

/-- A tag; inside brackets a comma may follow it directly. -/
def readTag (flow : Bool) (s : Source) : Except Flaw (Token × Source) := do
  let (token, s) ← (
    if (s.rest.drop 1).head? == some '<' then do
      let (suffix, s) ← readTagSuffix true [] (s.advance 2)
      if suffix.isEmpty || !s.isAt '>' then throw .invalidTag
      pure (Token.tag "" suffix, s.advance 1)
    else do
      let (handle, s) ← readTagHandle s
      if isClosedHandle handle then
        let (suffix, s) ← readTagSuffix false [] s
        if suffix.isEmpty then throw .invalidTag
        pure (Token.tag (String.ofList handle) suffix, s)
      else
        let (suffix, s) ← readTagSuffix false (handle.drop 1) s
        pure (if suffix.isEmpty then Token.tag "" "!" else Token.tag "!" suffix, s) :
    Except Flaw (Token × Source))
  if s.separates || (flow && s.isAt ',') then return (token, s) else throw .invalidTag

def readVersionNumber (s : Source) : Except Flaw (Nat × Source) :=
  let (ds, s) := s.readWhile Char.isDigit
  if ds.isEmpty || 9 < ds.length then .error .invalidDirective
  else .ok (Text.decimalValue ds, s)

def readDirective (s : Source) : Except Flaw (Token × Source) := do
  let (name, s) := (s.advance 1).readWhile isNameChar
  if name.isEmpty || !s.separates then throw .invalidDirective
  let (token, s) ← (
    if name == ['Y', 'A', 'M', 'L'] then do
      let (major, s) ← readVersionNumber (s.skipWhile isBlank)
      if !s.isAt '.' then throw .invalidDirective
      let (minor, s) ← readVersionNumber (s.advance 1)
      pure (Token.version major minor, s)
    else if name == ['T', 'A', 'G'] then do
      let (handle, s) ← readTagHandle (s.skipWhile isBlank)
      if !(isClosedHandle handle || handle == ['!']) || !s.next isBlank then
        throw .invalidDirective
      let (lead, s) ← readTagSuffix true [] (s.skipWhile isBlank)
      if lead.isEmpty || !s.separates then throw .invalidDirective
      pure (Token.tagHandle (String.ofList handle) lead, s)
    else throw .invalidDirective :
    Except Flaw (Token × Source))
  return (token, ← s.skipLineEnd .invalidDirective)

end DeployDrift.Yaml
