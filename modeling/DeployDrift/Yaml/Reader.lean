import DeployDrift.Shape
import DeployDrift.Yaml.Node
import DeployDrift.Yaml.Scalar

/-!
# Reading YAML texts

A node is decoded into a document of a given shape.  Where a text is expected, a scalar gives its
source, whatever it would stand for elsewhere.  An alias is followed to the node it repeats; since
that node may hold the alias itself, collections nest at most 128 levels deep, and the number of
aliases that are followed is limited by the size of the text.
-/
namespace DeployDrift.Yaml

inductive Fault where
  /-- The root has not the expected shape. -/
  | root (mismatch : Mismatch) (mark : Mark)
  /-- A node further inside has not the expected shape, or the text has a flaw. -/
  | within (message : String)
  deriving Repr

namespace Fault

def message : Fault → String
  | .root mismatch _ => mismatch.message
  | .within message => message

def toMismatch : Fault → Mismatch
  | .root mismatch mark =>
    if mark.line = 0 ∧ mark.column = 0 then mismatch
    else .inEmbedded (mark.line + 1) (mark.column + 1) mismatch
  | .within message => .unreadable message

end Fault

namespace Node

def coreTag (name : String) : String := "tag:yaml.org,2002:" ++ name

def isLocalTag (tag : String) : Bool := tag.toList.head? == some '!'

def refuse {α : Type} (given expected : String) : Except Mismatch α :=
  .error (.unreadable
    ("invalid value: string " ++ Text.quote given ++ ", expected " ++ expected))

def resolveScalar (tag : Option String) (text : String) (plain : Bool) :
    Except Mismatch Resolved :=
  match tag with
  | none => .ok (if plain then resolve text else .text)
  | some tag =>
    if tag = coreTag "bool" then
      match boolWord? text with
      | some b => .ok (.bool b)
      | none => refuse text "a boolean"
    else if tag = coreTag "int" then
      match resolve text with
      | .int n => .ok (.int n)
      | _ => refuse text "an integer"
    else if tag = coreTag "float" then
      if isNonFiniteWord text then .ok (.float none)
      else match float? text.toList with
        | some x => .ok (.float (some x))
        | none => refuse text "a float"
    else if tag = coreTag "null" then
      if isNullWord text then .ok .null else refuse text "null"
    else .ok (if isLocalTag tag && plain then resolve text else .text)

/-- The words for a scalar that stands where something else is expected. -/
def found (text : String) : Resolved → Found
  | .null => .described "unit value"
  | .bool b => .bool b
  | .int n =>
    if n < Number.leastInt then .described ("integer `" ++ toString n ++ "` as i128")
    else if Number.greatestInt < n then .described ("integer `" ++ toString n ++ "` as u128")
    else .number (.int n)
  | .float (some x) => .described ("floating point `" ++ x.text .positional ++ "`")
  | .float none => .described "floating point number beyond the finite ones"
  | .text => .text text

def mismatch {α : Type} (n : Node) (expected : String) : Except Mismatch α :=
  match n with
  | .scalar properties text plain => do
    let resolved ← resolveScalar properties.tag text plain
    .error (.wrongType (found text resolved) expected)
  | .sequence .. => .error (.wrongType .sequence expected)
  | .mapping .. => .error (.wrongType .map expected)
  | .broken flaw => .error (.unreadable flaw.message)
  | .alias _ | .void => .error (.unreadable "no node to read")

def scalarDocument (properties : Properties) (text : String) (plain : Bool) :
    Except Mismatch Document := do
  if properties.tag.any isLocalTag then throw (.wrongType (.described "enum") "any value")
  match ← resolveScalar properties.tag text plain with
  | .null => return .null
  | .bool b => return .bool b
  | .int n =>
    if Number.leastInt ≤ n ∧ n ≤ Number.greatestInt then return .number (.int n)
    else throw (.wrongType (found text (.int n)) "any value")
  | .float none => return .null
  | .float (some x) => return .number (.float x)
  | .text => return .text text

/-- A collection may be left out: nothing is written in its place. -/
def isAbsent : Node → Bool
  | .void => true
  | .scalar _ text plain => plain && text.isEmpty
  | _ => false

/-- The node stands for null where a value may be missing. -/
def isNull : Node → Except Mismatch Bool
  | .void => .ok true
  | .scalar properties text plain =>
    if !plain then .ok false
    else if properties.tag = some (coreTag "null") then
      if isNullWord text then .ok true else refuse text "null"
    else .ok (properties.tag.isNone && (text.isEmpty || isNullWord text))
  | .broken flaw => .error (.unreadable flaw.message)
  | _ => .ok false

end Node

/-- What aliases lead to, and how many may be followed. -/
structure Targets where
  nodes : List (Nat × Node)
  limit : Nat

def depthLimit : Nat := 128

/-- Decoding counts the aliases that it follows. -/
abbrev Decoding := StateT Nat (Except Mismatch)

/-- The node itself, or the one that an alias repeats. -/
def Targets.follow (targets : Targets) (n : Node) : Decoding Node :=
  match n with
  | .alias number => do
    let followed ← getModify (· + 1)
    if targets.limit ≤ followed then throw (.unreadable Flaw.tooManyAliases.message)
    match targets.nodes.lookup number with
    | some n => return n
    | none => throw (.unreadable (Flaw.unknownAnchor (toString number)).message)
  | n => return n

/-- Decodes a part of a node: a fault in it is none of the root. -/
def within {α : Type} (part : Decoding α) : Decoding α := fun followed =>
  match part followed with
  | .ok result => .ok result
  | .error mismatch => .error (.unreadable mismatch.message)

def textOf (targets : Targets) (n : Node) (expected : String) : Decoding String := do
  match ← targets.follow n with
  | .scalar _ text _ => return text
  | n => n.mismatch expected

theorem sizeOf_lt_of_find? {p : Slot × Shape → Bool} {fields : List (Slot × Shape)} {slot : Slot}
    {shape : Shape} (h : fields.find? p = some (slot, shape)) : sizeOf shape < sizeOf fields := by
  have := List.sizeOf_lt_of_mem (List.mem_of_find?_eq_some h)
  simp only [Prod.mk.sizeOf_spec] at this
  omega

mutual
/-- Decodes a node; `depth` levels of collections may follow. -/
def decodeNode (targets : Targets) (depth : Nat) (shape : Shape) (n : Node) :
    Decoding Document := do
  match shape, ← targets.follow n with
  | .optional inner, n => if ← n.isNull then return .null else decodeNode targets depth inner n
  | .embedded inner, n => decodeNode targets depth inner n
  | .any, .void => return .null
  | .any, .scalar properties text plain => Node.scalarDocument properties text plain
  | .any, .sequence properties items =>
    if properties.tag.any Node.isLocalTag then
      throw (.wrongType (.described "enum") shape.expectation)
    match depth with
    | 0 => throw (.unreadable Flaw.tooDeep.message)
    | depth + 1 => return .list (← decodeItems targets depth .any items)
  | .any, .mapping properties entries =>
    if properties.tag.any Node.isLocalTag then
      throw (.wrongType (.described "enum") shape.expectation)
    match depth with
    | 0 => throw (.unreadable Flaw.tooDeep.message)
    | depth + 1 => return .ofFields (← decodeEntries targets depth .any entries)
  | .text, .scalar _ text _ => return .text text
  | .bool, .scalar properties text true =>
    match boolWord? text with
    | some b => return .bool b
    | none => (Node.scalar properties text true).mismatch shape.expectation
  | .choice words, .scalar _ text _ =>
    if words.contains text then return .text text else throw (.unknownWord text words)
  | .list item, .sequence _ items =>
    match depth with
    | 0 => throw (.unreadable Flaw.tooDeep.message)
    | depth + 1 => return .list (← decodeItems targets depth item items)
  | .map inner, .mapping _ entries =>
    match depth with
    | 0 => throw (.unreadable Flaw.tooDeep.message)
    | depth + 1 => return .ofFields (← decodeEntries targets depth inner entries)
  | .record _ fields, .mapping _ entries =>
    match depth with
    | 0 => throw (.unreadable Flaw.tooDeep.message)
    | depth + 1 => Shape.complete fields (← decodeFields targets depth fields [] entries)
  | .record name fields, .sequence _ items =>
    match depth with
    | 0 => throw (.unreadable Flaw.tooDeep.message)
    | depth + 1 =>
      return .ofFields (← decodeInOrder targets depth (Shape.recordOf name fields.length)
        items.length 0 fields items)
  | .list _, n => if n.isAbsent then return .list [] else n.mismatch shape.expectation
  | .map _, n => if n.isAbsent then return .mapping [] else n.mismatch shape.expectation
  | .record _ fields, n =>
    if n.isAbsent then Shape.complete fields [] else n.mismatch shape.expectation
  | shape, n => n.mismatch shape.expectation
termination_by (depth, sizeOf shape, 0)

def decodeItems (targets : Targets) (depth : Nat) (item : Shape) :
    List Node → Decoding (List Document)
  | [] => return []
  | n :: rest => do
    let d ← within (decodeNode targets depth item n)
    return d :: (← decodeItems targets depth item rest)
termination_by items => (depth, sizeOf item, items.length + 1)

def decodeEntries (targets : Targets) (depth : Nat) (inner : Shape) :
    List (Node × Node) → Decoding (List (String × Document))
  | [] => return []
  | (k, v) :: rest => do
    let name ← within (textOf targets k "a string")
    let d ← within (decodeNode targets depth inner v)
    return (name, d) :: (← decodeEntries targets depth inner rest)
termination_by entries => (depth, sizeOf inner, entries.length + 1)

def decodeFields (targets : Targets) (depth : Nat) (fields : List (Slot × Shape))
    (given : List (String × Document)) :
    List (Node × Node) → Decoding (List (String × Document))
  | [] => return given
  | (k, v) :: rest => do
    let name ← within (textOf targets k "field identifier")
    match _h : fields.find? fun (slot, _) => slot.answersTo name with
    | none => decodeFields targets depth fields given rest
    | some (slot, shape) =>
      if (given.lookup slot.name).isSome then throw (.duplicateField slot.name)
      let d ← within (decodeNode targets depth shape v)
      decodeFields targets depth fields ((slot.name, d) :: given) rest
termination_by entries => (depth, sizeOf fields, entries.length + 1)
decreasing_by
  · exact Prod.Lex.right _ (Prod.Lex.right _ (by simp))
  · exact Prod.Lex.right _ (Prod.Lex.left _ _ (sizeOf_lt_of_find? _h))
  · exact Prod.Lex.right _ (Prod.Lex.right _ (by simp))

/-- The fields of a record given as a list of `given` elements. -/
def decodeInOrder (targets : Targets) (depth : Nat) (record : String) (given index : Nat) :
    List (Slot × Shape) → List Node → Decoding (List (String × Document))
  | [], items =>
    if items.isEmpty then return []
    else throw (.wrongLength given ("sequence of " ++ toString index ++ " elements"))
  | (slot, shape) :: fields, [] => do
    if slot.required then throw (.wrongLength index record)
    return (slot.name, shape.blank) ::
      (← decodeInOrder targets depth record given (index + 1) fields [])
  | (slot, shape) :: fields, n :: items => do
    let d ← within (decodeNode targets depth shape n)
    return (slot.name, d) :: (← decodeInOrder targets depth record given (index + 1) fields items)
termination_by fields => (depth, sizeOf fields, 0)
end

def read (shape : Shape) (s : String) : Except Fault Document :=
  let reading := Reading.ofText s.toList
  let targets : Targets := ⟨reading.root.anchored.reverse, 100 * reading.root.events⟩
  match (decodeNode targets depthLimit shape reading.root).run 0 with
  | .error (.unreadable message) => .error (.within message)
  | .error mismatch => .error (.root mismatch reading.mark)
  | .ok (d, _) =>
    match reading.flaw with
    | some flaw => .error (.within flaw.message)
    | none => .ok d.canonical

def readDocument (s : String) : Except Fault Document := read .any s

end DeployDrift.Yaml

/-!
## Decoding documents with embedded YAML

A setting may be given as the text of a YAML document instead of the document itself.
-/
namespace DeployDrift.Shape

def readEmbedded : EmbeddedReader := fun shape text =>
  (Yaml.read shape text).mapError (·.toMismatch)

def decode (shape : Shape) (d : Document) : Except Mismatch Document :=
  shape.decodeWith readEmbedded d

end DeployDrift.Shape
