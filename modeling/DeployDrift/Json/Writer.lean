import DeployDrift.Document
import DeployDrift.Text

/-!
# Writing JSON

The compact form: no space between tokens, fields in the order of the mapping, only quotes,
backslashes and the 32 control characters escaped.
-/
namespace DeployDrift.Json

def writeChar (c : Char) : String :=
  if c = '"' then "\\\""
  else if c = '\\' then "\\\\"
  else if c = '\x08' then "\\b"
  else if c = '\x0c' then "\\f"
  else if c = '\n' then "\\n"
  else if c = '\r' then "\\r"
  else if c = '\t' then "\\t"
  else if c.toNat < 32 then "\\u" ++ Text.paddedHexadecimal 4 c.toNat
  else c.toString

def writeText (s : String) : String :=
  "\"" ++ String.join (s.toList.map writeChar) ++ "\""

mutual
def write : Document → String
  | .null => "null"
  | .bool b => toString b
  | .number n => n.text
  | .text s => writeText s
  | .list items => "[" ++ Text.joinWith "," (writeItems items) ++ "]"
  | .mapping fields => "\x7b" ++ Text.joinWith "," (writeFields fields) ++ "\x7d"

def writeItems : List Document → List String
  | [] => []
  | d :: rest => write d :: writeItems rest

def writeFields : List (String × Document) → List String
  | [] => []
  | (k, d) :: rest => (writeText k ++ ":" ++ write d) :: writeFields rest
end

@[simp] theorem write_text (s : String) : write (.text s) = writeText s := by rw [write]

@[simp] theorem write_mapping (fields : List (String × Document)) :
    write (.mapping fields) = "\x7b" ++ Text.joinWith "," (writeFields fields) ++ "\x7d" := by
  rw [write]

@[simp] theorem writeFields_nil : writeFields [] = [] := by rw [writeFields]

@[simp] theorem writeFields_cons (name : String) (d : Document)
    (fields : List (String × Document)) : writeFields ((name, d) :: fields) =
      (writeText name ++ ":" ++ write d) :: writeFields fields := by
  rw [writeFields]

def indent (level : Nat) : String := String.ofList (List.replicate (2 * level) ' ')

mutual
/-- The text of a document with one element on a line, two spaces for each level. -/
def writePretty (level : Nat) : Document → String
  | .list [] => "[]"
  | .list items =>
    "[\n" ++ Text.joinWith ",\n" (prettyItems (level + 1) items) ++ "\n" ++ indent level ++ "]"
  | .mapping [] => "\x7b\x7d"
  | .mapping fields =>
    "\x7b\n" ++ Text.joinWith ",\n" (prettyFields (level + 1) fields) ++ "\n" ++ indent level ++
      "\x7d"
  | d => write d

def prettyItems (level : Nat) : List Document → List String
  | [] => []
  | d :: rest => (indent level ++ writePretty level d) :: prettyItems level rest

def prettyFields (level : Nat) : List (String × Document) → List String
  | [] => []
  | (k, d) :: rest =>
    (indent level ++ writeText k ++ ": " ++ writePretty level d) :: prettyFields level rest
end

end DeployDrift.Json
