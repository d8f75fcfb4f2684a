import DeployDrift.LineDiff.Script

/-!
# Unified diffs

The usual text form of the differences between two texts: changed lines with three lines of context,
in hunks that are headed by the lines they cover in each text.
-/
namespace DeployDrift.LineDiff

/-- A run of lines that both texts have, or lines of the old text that stand where the new one has
others. -/
structure Block where
  kept : Bool
  old : Nat
  oldSize : Nat
  new : Nat
  newSize : Nat
  deriving DecidableEq, Repr

namespace Block

def oldEnd (b : Block) : Nat := b.old + b.oldSize

def newEnd (b : Block) : Nat := b.new + b.newSize

/-- The block with the lines of a step added to it.  Changed lines count from the first deletion and
the first insertion. -/
def add (b : Block) (sawDelete sawInsert : Bool) (e : Edit) : Block :=
  match e.action with
  | .keep => { b with oldSize := b.oldSize + e.size, newSize := b.newSize + e.size }
  | .delete =>
    { b with
      old := if sawDelete then b.old else e.old
      oldSize := b.oldSize + e.size }
  | .insert =>
    { b with
      new := if sawInsert then b.new else e.new
      newSize := b.newSize + e.size }

/-- A block that is still growing, and which kinds of change it holds. -/
structure Growing where
  block : Block
  sawDelete : Bool
  sawInsert : Bool

def Growing.start (e : Edit) : Growing :=
  ⟨⟨e.action = .keep, e.old, e.oldSize, e.new, e.newSize⟩, e.action = .delete,
    e.action = .insert⟩

def Growing.add (g : Growing) (e : Edit) : Growing :=
  ⟨g.block.add g.sawDelete g.sawInsert e, g.sawDelete || e.action = .delete,
    g.sawInsert || e.action = .insert⟩

/-- Unites the steps of a script to blocks. -/
def collect : Option Growing → List Edit → List Block
  | none, [] => []
  | some g, [] => [g.block]
  | none, e :: rest => collect (some (.start e)) rest
  | some g, e :: rest =>
    if g.block.kept = (e.action = .keep) then collect (some (g.add e)) rest
    else g.block :: collect (some (.start e)) rest

def ofScript (script : List Edit) : List Block := collect none script

def lastLines (n : Nat) (b : Block) : Block :=
  let surplus := b.oldSize - n
  { b with
    old := b.old + surplus
    new := b.new + surplus
    oldSize := b.oldSize - surplus
    newSize := b.newSize - surplus }

def firstLines (n : Nat) (b : Block) : Block :=
  { b with oldSize := min b.oldSize n, newSize := min b.newSize n }

end Block

/-- Lines of context around each change. -/
def context : Nat := 3

/-- The blocks with the kept lines before the first change shortened. -/
def trimFirst : List Block → List Block
  | [] => []
  | b :: rest => (if b.kept then b.lastLines context else b) :: rest

/-- The blocks with the kept lines behind the last change shortened. -/
def trimLast : List Block → List Block
  | [] => []
  | [b] => [if b.kept then b.firstLines context else b]
  | b :: rest => b :: trimLast rest

/-- The blocks in hunks: a long kept block ends one hunk and starts the next. -/
def splitHunks : (hunk : List Block) → List Block → List (List Block)
  | hunk, [] =>
    match hunk with
    | [] => []
    | [b] => if b.kept then [] else [hunk]
    | _ => [hunk]
  | hunk, b :: rest =>
    if b.kept && 2 * context < b.oldSize then
      (hunk ++ [b.firstLines context]) :: splitHunks [b.lastLines context] rest
    else splitHunks (hunk ++ [b]) rest

def hunks (script : List Edit) : List (List Block) :=
  splitHunks [] (trimLast (trimFirst (Block.ofScript script)))

/-- A range of lines, as a hunk's head gives it: one line goes without its count, and an empty range
names the line before it. -/
def rangeText (start stop : Nat) : String :=
  let size := stop - start
  if size = 1 then toString (start + 1)
  else toString (if size = 0 then start else start + 1) ++ "," ++ toString size

/-- A line behind a mark; if it ends without a line feed, a remark says so. -/
def markedLine (mark line : String) : String :=
  mark ++ line ++
    if line.toList.getLast? = some '\n' then "" else "\n\\ No newline at end of file\n"

/-- The lines of a text in a range, each behind a mark. -/
def markedLines (mark : String) (text : Array String) (start size : Nat) : List String :=
  (List.range size).filterMap fun i => (text[start + i]?).map (markedLine mark)

def Block.write (t : Texts) (b : Block) : List String :=
  if b.kept then markedLines " " t.old b.old b.oldSize
  else markedLines "-" t.old b.old b.oldSize ++ markedLines "+" t.new b.new b.newSize

def writeHunk (t : Texts) (hunk : List Block) : List String :=
  match hunk.head?, hunk.getLast? with
  | some first, some last =>
    ("@@ -" ++ rangeText first.old last.oldEnd ++ " +" ++ rangeText first.new last.newEnd ++
      " @@\n") :: hunk.flatMap (·.write t)
  | _, _ => []

/-- The unified diff of two texts under the given names; empty if they agree. -/
def unified (oldName newName old new : String) : String :=
  let t := Texts.ofStrings old new
  match hunks (tidy t t.script) with
  | [] => ""
  | found =>
    "--- " ++ oldName ++ "\n+++ " ++ newName ++ "\n" ++ String.join (found.flatMap (writeHunk t))

end DeployDrift.LineDiff
