import DeployDrift.Document
import DeployDrift.Text.Quoted

/-!
# Shapes

A shape says what a decoder expects of a document: which fields a record has, which of them must be
given, and what stands in for the others.  Decoding yields a document in which every field of every
record is present, so that reading a typed value off the result cannot fail.

`Mismatch` lists the ways in which a value can fail to have a shape.
-/
namespace DeployDrift

structure Slot where
  name : String
  /-- Another name under which the field may be given. -/
  otherName : Option String := none
  /-- The record cannot do without the field. -/
  required : Bool := false
  deriving Repr

/-- The field of a record that a given name stands for. -/
def Slot.answersTo (slot : Slot) (name : String) : Bool :=
  slot.name == name || slot.otherName == some name

/-- What a decoder expects. -/
inductive Shape where
  /-- Any document. -/
  | any
  | text
  | bool
  /-- Null, or the inner shape. -/
  | optional (inner : Shape)
  | list (item : Shape)
  /-- A mapping with arbitrary names, all values of one shape. -/
  | map (value : Shape)
  /-- One of the given words. -/
  | choice (words : List String)
  /-- A mapping with known fields; a list may give them in order. -/
  | record (name : String) (fields : List (Slot × Shape))
  /-- The inner shape, null, or the text of a YAML document that has the inner shape. -/
  | embedded (inner : Shape)
  deriving Repr, Inhabited

namespace Shape

mutual
/-- The document that stands in for a value that is not given. -/
def blank : Shape → Document
  | .any => .null
  | .text => .text ""
  | .bool => .bool false
  | .optional _ => .null
  | .list _ => .list []
  | .map _ => .mapping []
  | .choice _ => .null
  | .record _ fields => .ofFields (blankFields fields)
  | .embedded inner => blank inner

def blankFields : List (Slot × Shape) → List (String × Document)
  | [] => []
  | (slot, shape) :: rest => (slot.name, blank shape) :: blankFields rest
end

end Shape

/-- What was found where something else was expected. -/
inductive Found where
  | null
  | bool (b : Bool)
  | number (n : Number)
  | text (s : String)
  | sequence
  | map
  /-- A value that is called by the given words. -/
  | described (words : String)
  deriving Repr, DecidableEq

namespace Found

def ofDocument : Document → Found
  | .null => .null
  | .bool b => .bool b
  | .number n => .number n
  | .text s => .text s
  | .list _ => .sequence
  | .mapping _ => .map

def words : Found → String
  | .null => "null"
  | .bool b => "boolean `" ++ toString b ++ "`"
  | .number (.int n) => "integer `" ++ toString n ++ "`"
  | .number (.float x) => "floating point `" ++ x.text .compact ++ "`"
  | .text s => "string " ++ Text.quote s
  | .sequence => "sequence"
  | .map => "map"
  | .described words => words

end Found

/-- The way in which a value fails to have a shape. -/
inductive Mismatch where
  | wrongType (found : Found) (expected : String)
  | wrongLength (length : Nat) (expected : String)
  | missingField (name : String)
  | duplicateField (name : String)
  | unknownWord (given : String) (known : List String)
  /-- Neither the inner shape of an embedded document nor a text. -/
  | notEmbeddable
  /-- The fault lies in an embedded YAML text, at the given line and column of it. -/
  | inEmbedded (line column : Nat) (fault : Mismatch)
  /-- An embedded YAML text cannot be read. -/
  | unreadable (message : String)
  deriving DecidableEq, Repr

namespace Mismatch

def message : Mismatch → String
  | .wrongType found expected => "invalid type: " ++ found.words ++ ", expected " ++ expected
  | .wrongLength length expected =>
    "invalid length " ++ toString length ++ ", expected " ++ expected
  | .missingField name => "missing field `" ++ name ++ "`"
  | .duplicateField name => "duplicate field `" ++ name ++ "`"
  | .unknownWord given known =>
    "unknown variant `" ++ given ++ "`, expected one of " ++
      Text.joinWith ", " (known.map fun word => "`" ++ word ++ "`")
  | .notEmbeddable => "data did not match any variant of untagged enum Raw"
  | .inEmbedded _ _ fault => fault.message
  | .unreadable message => message

/-- The line and column that a mismatch brings with it. -/
def ownPosition? : Mismatch → Option (Nat × Nat)
  | .inEmbedded line column _ => some (line, column)
  | _ => none

end Mismatch

namespace Shape

def expectation : Shape → String
  | .any => "any value"
  | .text => "a string"
  | .bool => "a boolean"
  | .optional _ => "option"
  | .list _ => "a sequence"
  | .map _ => "a map"
  | .choice _ => "variant identifier"
  | .record name _ => "struct " ++ name
  | .embedded inner => inner.expectation

/-- What a record is called when a list gives too few of its fields. -/
def recordOf (name : String) (size : Nat) : String :=
  "struct " ++ name ++ " with " ++ toString size ++ (if size = 1 then " element" else " elements")

/-- The fields of a record that are filled in, and those that nothing stands in for. -/
def complete (fields : List (Slot × Shape)) (given : List (String × Document)) :
    Except Mismatch Document :=
  match fields.find? fun (slot, _) => slot.required && (given.lookup slot.name).isNone with
  | some (slot, _) => .error (.missingField slot.name)
  | none =>
    .ok (.ofFields (fields.map fun (slot, shape) =>
      (slot.name, (given.lookup slot.name).getD shape.blank)))

end Shape
end DeployDrift

/-!
## Decoding documents that were read before

`Shape.decodeWith` checks a document against a shape and fills in what is not given.  The entries of
a record are looked at in the order in which the mapping lists them, and of two faults the first one
met is reported.  How an embedded text is read is a parameter.
-/
namespace DeployDrift.Shape

abbrev EmbeddedReader := Shape → String → Except Mismatch Document

theorem sizeOf_lt_of_mem {slot : Slot} {shape : Shape} {fields : List (Slot × Shape)}
    (h : (slot, shape) ∈ fields) : sizeOf shape < sizeOf fields := by
  have := List.sizeOf_lt_of_mem h
  simp only [Prod.mk.sizeOf_spec] at this
  omega

mutual
def decodeWith (embed : EmbeddedReader) (shape : Shape) (d : Document) :
    Except Mismatch Document :=
  match shape, d with
  | .any, d => .ok d
  | .text, .text s => .ok (.text s)
  | .bool, .bool b => .ok (.bool b)
  | .optional _, .null => .ok .null
  | .optional inner, d => decodeWith embed inner d
  | .list item, .list items => .list <$> decodeItems embed item items
  | .map inner, .mapping fields => .ofFields <$> decodeValues embed inner fields
  | .choice words, .text s =>
    if words.contains s then .ok (.text s) else .error (.unknownWord s words)
  | .record _ fields, .mapping entries => do
    complete fields (← decodeByName embed fields entries [])
  | .record name fields, .list items =>
    .ofFields <$> decodeInOrder embed (recordOf name fields.length) items.length 0 fields items
  | .embedded inner, .null => .ok inner.blank
  | .embedded inner, .text s => if Text.isBlankText s then .ok inner.blank else embed inner s
  | .embedded inner, d =>
    match decodeWith embed inner d with
    | .ok d => .ok d
    | .error _ => .error .notEmbeddable
  | shape, d => .error (.wrongType (.ofDocument d) shape.expectation)
termination_by (sizeOf shape, 0)

def decodeItems (embed : EmbeddedReader) (item : Shape) :
    List Document → Except Mismatch (List Document)
  | [] => .ok []
  | d :: rest => do
    let d ← decodeWith embed item d
    return d :: (← decodeItems embed item rest)
termination_by items => (sizeOf item, items.length + 1)

def decodeValues (embed : EmbeddedReader) (inner : Shape) :
    List (String × Document) → Except Mismatch (List (String × Document))
  | [] => .ok []
  | (k, d) :: rest => do
    let d ← decodeWith embed inner d
    return (k, d) :: (← decodeValues embed inner rest)
termination_by entries => (sizeOf inner, entries.length + 1)

def decodeByName (embed : EmbeddedReader) (fields : List (Slot × Shape)) :
    List (String × Document) → (given : List (String × Document)) →
      Except Mismatch (List (String × Document))
  | [], given => .ok given
  | (k, d) :: rest, given =>
    match _h : fields.find? fun (slot, _) => slot.answersTo k with
    | none => decodeByName embed fields rest given
    | some (slot, shape) => do
      if (given.lookup slot.name).isSome then throw (.duplicateField slot.name)
      let d ← decodeWith embed shape d
      decodeByName embed fields rest ((slot.name, d) :: given)
termination_by entries => (sizeOf fields, entries.length + 1)
decreasing_by
  · exact Prod.Lex.right _ (by simp)
  · exact Prod.Lex.left _ _ (sizeOf_lt_of_mem (List.mem_of_find?_eq_some ‹_›))
  · exact Prod.Lex.right _ (by simp)

/-- The fields of a record given as a list of `given` elements. -/
def decodeInOrder (embed : EmbeddedReader) (record : String) (given index : Nat) :
    List (Slot × Shape) → List Document → Except Mismatch (List (String × Document))
  | [], items =>
    if items.isEmpty then .ok [] else .error (.wrongLength given "fewer elements in array")
  | (slot, shape) :: fields, [] =>
    if slot.required then .error (.wrongLength index record)
    else do
      let rest ← decodeInOrder embed record given (index + 1) fields []
      return (slot.name, shape.blank) :: rest
  | (slot, shape) :: fields, d :: items => do
    let d ← decodeWith embed shape d
    let rest ← decodeInOrder embed record given (index + 1) fields items
    return (slot.name, d) :: rest
termination_by fields => (sizeOf fields, 0)
end

/-- The next entry of a record is decoded as the field that its name stands for, if there is one. -/
theorem decodeByName_cons (embed : EmbeddedReader) (fields : List (Slot × Shape)) (k : String)
    (d : Document) (rest given : List (String × Document)) :
    decodeByName embed fields ((k, d) :: rest) given =
      match fields.find? fun (slot, _) => slot.answersTo k with
      | none => decodeByName embed fields rest given
      | some (slot, shape) => (do
        if (given.lookup slot.name).isSome then throw (.duplicateField slot.name)
        let d ← decodeWith embed shape d
        decodeByName embed fields rest ((slot.name, d) :: given)) := by
  rw [decodeByName]
  split
  next hnone => rw [hnone]
  next slot shape hsome => rw [hsome]

end DeployDrift.Shape

/-!
## Reading typed values off decoded documents

After decoding every field of a record is present and has the right type, so these readings never
fall back to their defaults there.
-/
namespace DeployDrift.Document

def textAt (d : Document) (field : String) : String := ((d.get? field).bind text?).getD ""

def boolAt (d : Document) (field : String) : Bool := ((d.get? field).bind bool?).getD false

def itemsAt (d : Document) (field : String) : List Document := ((d.get? field).bind list?).getD []

def textsAt (d : Document) (field : String) : List String := (d.itemsAt field).filterMap text?

def partAt (d : Document) (field : String) : Document := (d.get? field).getD .null

def optionAt (d : Document) (field : String) : Option Document :=
  match d.get? field with
  | none | some .null => none
  | some part => some part

end DeployDrift.Document
