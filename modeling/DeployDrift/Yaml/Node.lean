import DeployDrift.Yaml.Token.Scan

/-!
# Nodes

The tree of scalars, sequences and mappings that the tokens of a text describe.  A text with a flaw
has a tree too: it reaches up to the flaw, which stands in it where the text could not be read on.
-/
namespace DeployDrift.Yaml

/-- What can stand in front of a node: an anchor, by its number, and a tag, in full. -/
structure Properties where
  anchor : Option Nat := none
  tag : Option String := none
  deriving DecidableEq, Repr

inductive Node where
  | scalar (properties : Properties) (text : String) (plain : Bool)
  | sequence (properties : Properties) (items : List Node)
  | mapping (properties : Properties) (entries : List (Node × Node))
  /-- The node with this anchor once more. -/
  | alias (number : Nat)
  /-- The root of a text without any content. -/
  | void
  | broken (flaw : Flaw)
  deriving Repr, Inhabited

/-- The tokens that are left, or why there is no going on. -/
abbrev Remainder := Except Flaw (List Located)

namespace Node

def empty : Node := .scalar {} "" true

/-- What is wrong where another token was expected. -/
def stuck (expected : Flaw) : List Located → Flaw
  | ⟨.unreadable flaw, _⟩ :: _ => flaw
  | _ => expected

def brokenAt (expected : Flaw) (tokens : List Located) : Node × Remainder :=
  (.broken (stuck expected tokens), .error (stuck expected tokens))

def fullTag (handles : List (String × String)) (handle suffix : String) : Except Flaw String :=
  if handle.isEmpty then .ok suffix
  else match handles.lookup handle with
    | some lead => .ok (lead ++ suffix)
    | none => .error (.unknownTagHandle handle)

/-- Anchor and tag in front of a node, in either order. -/
def readProperties (handles : List (String × String)) (tokens : List Located) :
    Except Flaw (Properties × List Located) := do
  match tokens with
  | ⟨.anchor n, _⟩ :: ⟨.tag h s, _⟩ :: rest | ⟨.tag h s, _⟩ :: ⟨.anchor n, _⟩ :: rest =>
    return ({ anchor := some n, tag := some (← fullTag handles h s) }, rest)
  | ⟨.anchor n, _⟩ :: rest => return ({ anchor := some n }, rest)
  | ⟨.tag h s, _⟩ :: rest => return ({ tag := some (← fullTag handles h s) }, rest)
  | _ => return ({}, tokens)

/-- A scalar whose tag is a mere exclamation mark has none. -/
def withoutMark (p : Properties) : Properties :=
  if p.tag == some "!" then { p with tag := none } else p

/-- Goes on behind a node with the rest of a list. -/
def andThen (first : Node × Remainder) (rest : List Located → List Node × Remainder) :
    List Node × Remainder :=
  match first with
  | (n, .ok tokens) =>
    let (nodes, left) := rest tokens
    (n :: nodes, left)
  | (n, .error flaw) => ([n], .error flaw)

/-- Goes on behind a key with its value, and then with the rest of a mapping. -/
def andValue (key : Node × Remainder) (value : List Located → Node × Remainder)
    (rest : List Located → List (Node × Node) × Remainder) : List (Node × Node) × Remainder :=
  match key with
  | (k, .error flaw) => ([(k, .broken flaw)], .error flaw)
  | (k, .ok tokens) =>
    match value tokens with
    | (v, .error flaw) => ([(k, v)], .error flaw)
    | (v, .ok tokens) =>
      let (entries, left) := rest tokens
      ((k, v) :: entries, left)

/-- The token ends an item or a key or value of a block, so that nothing is written there. -/
def endsBlockPart : List Located → Bool
  | ⟨.key, _⟩ :: _ | ⟨.value, _⟩ :: _ | ⟨.blockEnd, _⟩ :: _ => true
  | _ => false

def endsBlockItem : List Located → Bool
  | ⟨.blockEntry, _⟩ :: _ | ⟨.blockEnd, _⟩ :: _ => true
  | _ => false

def endsPlainItem : List Located → Bool
  | ⟨.blockEntry, _⟩ :: _ => true
  | tokens => endsBlockPart tokens

def endsFlowKey (closing : Token) : List Located → Bool
  | ⟨.value, _⟩ :: _ | ⟨.flowEntry, _⟩ :: _ => true
  | ⟨token, _⟩ :: _ => token == closing
  | [] => false

def endsFlowValue (closing : Token) : List Located → Bool
  | ⟨.flowEntry, _⟩ :: _ => true
  | ⟨token, _⟩ :: _ => token == closing
  | [] => false

mutual
/-- A node.  Blocks may start at it if `block` is set, and also a sequence at the column of the
mapping around it if `level` is set. -/
def ofTokens (handles : List (String × String)) :
    (fuel : Nat) → (block level : Bool) → List Located → Node × Remainder
  | 0, _, _, tokens => brokenAt .tooDeep tokens
  | fuel + 1, block, level, tokens =>
    match tokens with
    | ⟨.alias n, _⟩ :: rest => (.alias n, .ok rest)
    | _ =>
      match readProperties handles tokens with
      | .error flaw => (.broken flaw, .error flaw)
      | .ok (properties, tokens) =>
        let missing :=
          if properties = {} then brokenAt .expectedContent tokens
          else (.scalar properties "" true, .ok tokens)
        match tokens with
        | ⟨.blockEntry, _⟩ :: _ =>
          if level then
            let (items, left) := levelItems handles fuel tokens
            (.sequence properties items, left)
          else missing
        | ⟨.scalar text plain, _⟩ :: rest =>
          (.scalar (withoutMark properties) text plain, .ok rest)
        | ⟨.flowSequenceStart, _⟩ :: rest =>
          let (items, left) := flowItems handles fuel true rest
          (.sequence properties items, left)
        | ⟨.flowMappingStart, _⟩ :: rest =>
          let (entries, left) := flowEntries handles fuel true rest
          (.mapping properties entries, left)
        | ⟨.blockSequenceStart, _⟩ :: rest =>
          if block then
            let (items, left) := blockItems handles fuel rest
            (.sequence properties items, left)
          else missing
        | ⟨.blockMappingStart, _⟩ :: rest =>
          if block then
            let (entries, left) := blockEntries handles fuel rest
            (.mapping properties entries, left)
          else missing
        | _ => missing

def blockItems (handles : List (String × String)) :
    (fuel : Nat) → List Located → List Node × Remainder
  | 0, tokens => andThen (brokenAt .tooDeep tokens) fun _ => ([], .ok [])
  | fuel + 1, tokens =>
    match tokens with
    | ⟨.blockEntry, _⟩ :: rest =>
      let item :=
        if endsBlockItem rest then (empty, .ok rest) else ofTokens handles fuel true false rest
      andThen item (blockItems handles fuel)
    | ⟨.blockEnd, _⟩ :: rest => ([], .ok rest)
    | _ => andThen (brokenAt .expectedBlockEntry tokens) fun _ => ([], .ok [])

/-- The items of a sequence at the column of the mapping around it. -/
def levelItems (handles : List (String × String)) :
    (fuel : Nat) → List Located → List Node × Remainder
  | 0, tokens => andThen (brokenAt .tooDeep tokens) fun _ => ([], .ok [])
  | fuel + 1, tokens =>
    match tokens with
    | ⟨.blockEntry, _⟩ :: rest =>
      let item :=
        if endsPlainItem rest then (empty, .ok rest) else ofTokens handles fuel true false rest
      andThen item (levelItems handles fuel)
    | _ => ([], .ok tokens)

def blockEntries (handles : List (String × String)) :
    (fuel : Nat) → List Located → List (Node × Node) × Remainder
  | 0, tokens => andValue (brokenAt .tooDeep tokens) (brokenAt .tooDeep) fun _ => ([], .ok [])
  | fuel + 1, tokens =>
    match tokens with
    | ⟨.key, _⟩ :: rest =>
      let key :=
        if endsBlockPart rest then (empty, .ok rest) else ofTokens handles fuel true true rest
      andValue key
        (fun tokens => match tokens with
          | ⟨.value, _⟩ :: rest =>
            if endsBlockPart rest then (empty, .ok rest) else ofTokens handles fuel true true rest
          | _ => (empty, .ok tokens))
        (blockEntries handles fuel)
    | ⟨.blockEnd, _⟩ :: rest => ([], .ok rest)
    | _ =>
      andValue (brokenAt .expectedBlockKey tokens) (brokenAt .expectedBlockKey) fun _ =>
        ([], .ok [])

/-- The items of a sequence in brackets.  A key and its value without braces make a mapping. -/
def flowItems (handles : List (String × String)) :
    (fuel : Nat) → (first : Bool) → List Located → List Node × Remainder
  | 0, _, tokens => andThen (brokenAt .tooDeep tokens) fun _ => ([], .ok [])
  | fuel + 1, first, tokens =>
    match tokens, first with
    | ⟨.flowSequenceEnd, _⟩ :: rest, _ => ([], .ok rest)
    | ⟨.flowEntry, _⟩ :: ⟨.flowSequenceEnd, _⟩ :: rest, false => ([], .ok rest)
    | ⟨.flowEntry, _⟩ :: rest, false => flowItem handles fuel rest
    | tokens, true => flowItem handles fuel tokens
    | tokens, false => andThen (brokenAt .expectedFlowEntry tokens) fun _ => ([], .ok [])

def flowItem (handles : List (String × String)) :
    (fuel : Nat) → List Located → List Node × Remainder
  | 0, tokens => andThen (brokenAt .tooDeep tokens) fun _ => ([], .ok [])
  | fuel + 1, tokens =>
    match tokens with
    | ⟨.key, _⟩ :: rest =>
      let key :=
        if endsFlowKey .flowSequenceEnd rest then (empty, .ok (rest.drop 1))
        else ofTokens handles fuel false false rest
      let (entries, left) := andValue key
        (fun tokens => match tokens with
          | ⟨.value, _⟩ :: rest =>
            if endsFlowValue .flowSequenceEnd rest then (empty, .ok rest)
            else ofTokens handles fuel false false rest
          | _ => (empty, .ok tokens))
        (fun tokens => ([], .ok tokens))
      andThen (.mapping {} entries, left) (flowItems handles fuel false)
    | _ => andThen (ofTokens handles fuel false false tokens) (flowItems handles fuel false)

def flowEntries (handles : List (String × String)) :
    (fuel : Nat) → (first : Bool) → List Located → List (Node × Node) × Remainder
  | 0, _, tokens => andValue (brokenAt .tooDeep tokens) (brokenAt .tooDeep) fun _ => ([], .ok [])
  | fuel + 1, first, tokens =>
    match tokens, first with
    | ⟨.flowMappingEnd, _⟩ :: rest, _ => ([], .ok rest)
    | ⟨.flowEntry, _⟩ :: ⟨.flowMappingEnd, _⟩ :: rest, false => ([], .ok rest)
    | ⟨.flowEntry, _⟩ :: rest, false => flowField handles fuel rest
    | tokens, true => flowField handles fuel tokens
    | tokens, false =>
      andValue (brokenAt .expectedFlowEntry tokens) (brokenAt .expectedFlowEntry) fun _ =>
        ([], .ok [])

def flowField (handles : List (String × String)) :
    (fuel : Nat) → List Located → List (Node × Node) × Remainder
  | 0, tokens => andValue (brokenAt .tooDeep tokens) (brokenAt .tooDeep) fun _ => ([], .ok [])
  | fuel + 1, tokens =>
    match tokens with
    | ⟨.key, _⟩ :: rest =>
      let key :=
        if endsFlowKey .flowMappingEnd rest then (empty, .ok rest)
        else ofTokens handles fuel false false rest
      andValue key
        (fun tokens => match tokens with
          | ⟨.value, _⟩ :: rest =>
            if endsFlowValue .flowMappingEnd rest then (empty, .ok rest)
            else ofTokens handles fuel false false rest
          | _ => (empty, .ok tokens))
        (flowEntries handles fuel false)
    | _ =>
      andValue (ofTokens handles fuel false false tokens) (fun tokens => (empty, .ok tokens))
        (flowEntries handles fuel false)
end

mutual
/-- The nodes with an anchor, in the order of the text. -/
def anchored : Node → List (Nat × Node)
  | .scalar properties text plain =>
    match properties.anchor with
    | some n => [(n, .scalar properties text plain)]
    | none => []
  | .sequence properties items =>
    let inner := anchoredItems items
    match properties.anchor with
    | some n => (n, .sequence properties items) :: inner
    | none => inner
  | .mapping properties entries =>
    let inner := anchoredEntries entries
    match properties.anchor with
    | some n => (n, .mapping properties entries) :: inner
    | none => inner
  | .alias _ | .void | .broken _ => []

def anchoredItems : List Node → List (Nat × Node)
  | [] => []
  | n :: rest => anchored n ++ anchoredItems rest

def anchoredEntries : List (Node × Node) → List (Nat × Node)
  | [] => []
  | (k, v) :: rest => anchored k ++ anchored v ++ anchoredEntries rest
end

mutual
/-- How many events a text describes the node with: a collection has a start and an end. -/
def events : Node → Nat
  | .sequence _ items => 2 + eventsOfItems items
  | .mapping _ entries => 2 + eventsOfEntries entries
  | .scalar .. | .alias _ | .void => 1
  | .broken _ => 0

def eventsOfItems : List Node → Nat
  | [] => 0
  | n :: rest => events n + eventsOfItems rest

def eventsOfEntries : List (Node × Node) → Nat
  | [] => 0
  | (k, v) :: rest => events k + events v + eventsOfEntries rest
end

end Node

/-- A text as far as it could be read. -/
structure Reading where
  root : Node
  /-- Where the root starts. -/
  mark : Mark
  /-- What is wrong with the text, if anything. -/
  flaw : Option Flaw

namespace Reading

def standardHandles : List (String × String) := [("!", "!"), ("!!", "tag:yaml.org,2002:")]

/-- The directives in front of a document: the handles they define. -/
def readDirectives : (versions : Nat) → (handles : List (String × String)) → List Located →
    Except Flaw (List (String × String) × List Located)
  | versions, handles, ⟨.version major minor, _⟩ :: rest =>
    if versions ≠ 0 then .error .repeatedDirective
    else if major ≠ 1 ∨ (minor ≠ 1 ∧ minor ≠ 2) then .error .unknownVersion
    else readDirectives 1 handles rest
  | versions, handles, ⟨.tagHandle handle lead, _⟩ :: rest =>
    if (handles.lookup handle).isSome then .error .repeatedDirective
    else readDirectives versions ((handle, lead) :: handles) rest
  | _, handles, tokens => .ok (handles, tokens)

/-- What is wrong behind the first document, where only its end mark may follow. -/
def afterDocument : List Located → Option Flaw
  | ⟨.documentEnd, _⟩ :: rest => afterDocument rest
  | ⟨.streamEnd, _⟩ :: _ => none
  | tokens => some (Node.stuck .severalDocuments tokens)

def endsDocument : List Located → Bool
  | ⟨.version .., _⟩ :: _ | ⟨.tagHandle .., _⟩ :: _ | ⟨.documentStart, _⟩ :: _
  | ⟨.documentEnd, _⟩ :: _ | ⟨.streamEnd, _⟩ :: _ => true
  | _ => false

def startMark (tokens : List Located) : Mark := (tokens.head?.map (·.mark)).getD {}

def ofContent (handles : List (String × String)) (tokens : List Located) : Reading :=
  let (root, left) := Node.ofTokens handles (4 * tokens.length + 4) true false tokens
  ⟨root, startMark tokens, match left with
    | .ok rest => afterDocument rest
    | .error flaw => some flaw⟩

def ofTokens (tokens : List Located) : Reading :=
  match tokens with
  | ⟨.streamEnd, mark⟩ :: _ => ⟨.void, mark, none⟩
  | ⟨.version .., _⟩ :: _ | ⟨.tagHandle .., _⟩ :: _ | ⟨.documentStart, _⟩ :: _ =>
    match readDirectives 0 [] tokens with
    | .error flaw => ⟨.broken flaw, startMark tokens, some flaw⟩
    | .ok (handles, ⟨.documentStart, mark⟩ :: rest) =>
      if endsDocument rest then ⟨.empty, mark, afterDocument rest⟩
      else ofContent (handles ++ standardHandles) rest
    | .ok (_, rest) =>
      let flaw := Node.stuck .expectedDocumentStart rest
      ⟨.broken flaw, startMark rest, some flaw⟩
  | _ => ofContent standardHandles tokens

def ofText (text : List Char) : Reading := ofTokens (Located.scan text)

end Reading
end DeployDrift.Yaml
