/-!
# Edit scripts

What a script is, how one is tidied, and how a shortest one is found.
-/
namespace DeployDrift.LineDiff

/-!
## Edits between two texts

An edit script turns the lines of one text into those of another.  Its steps follow each other in
both texts; every step knows where it starts in each of them.
-/

inductive Action where
  | keep
  | delete
  | insert
  deriving DecidableEq, Repr

/-- One step: `size` lines from line `old` of the old text and from line `new` of the new one.  A
deletion has lines in the old text only, an insertion in the new one only. -/
structure Edit where
  action : Action
  old : Nat
  new : Nat
  size : Nat
  deriving DecidableEq, Repr

namespace Edit

def oldSize (e : Edit) : Nat := if e.action = .insert then 0 else e.size

def newSize (e : Edit) : Nat := if e.action = .delete then 0 else e.size

def oldEnd (e : Edit) : Nat := e.old + e.oldSize

def newEnd (e : Edit) : Nat := e.new + e.newSize

def growAfter (e : Edit) (n : Nat) : Edit := { e with size := e.size + n }

def growBefore (e : Edit) (n : Nat) : Edit :=
  { e with old := e.old - n, new := e.new - n, size := e.size + n }

def shrinkAfter (e : Edit) (n : Nat) : Edit := { e with size := e.size - n }

def shrinkBefore (e : Edit) (n : Nat) : Edit :=
  { e with old := e.old + n, new := e.new + n, size := e.size - n }

def moveUp (e : Edit) (n : Nat) : Edit := { e with old := e.old - n, new := e.new - n }

def moveDown (e : Edit) (n : Nat) : Edit := { e with old := e.old + n, new := e.new + n }

end Edit

/-- The lines of a text; each keeps its line feed. -/
def lines : List Char → List (List Char)
  | [] => []
  | '\n' :: cs => ['\n'] :: lines cs
  | c :: cs =>
    match lines cs with
    | [] => [[c]]
    | line :: rest => if c = '\n' then ['\n'] :: line :: rest else (c :: line) :: rest

/-- The two texts of a comparison, line by line. -/
structure Texts where
  old : Array String
  new : Array String

namespace Texts

def ofStrings (old new : String) : Texts :=
  ⟨((lines old.toList).map String.ofList).toArray, ((lines new.toList).map String.ofList).toArray⟩

/-- How many lines agree from line `i` of the old text and `j` of the new one, at most `limit`. -/
def agreeAfter (t : Texts) (i j : Nat) : (limit : Nat) → Nat
  | 0 => 0
  | limit + 1 =>
    match t.old[i]?, t.new[j]? with
    | some a, some b => if a = b then t.agreeAfter (i + 1) (j + 1) limit + 1 else 0
    | _, _ => 0

/-- How many lines agree before line `i` of the old text and `j` of the new one, at most
`limit`. -/
def agreeBefore (t : Texts) (i j : Nat) : (limit : Nat) → Nat
  | 0 => 0
  | limit + 1 =>
    match i, j with
    | i + 1, j + 1 =>
      match t.old[i]?, t.new[j]? with
      | some a, some b => if a = b then t.agreeBefore i j limit + 1 else 0
      | _, _ => 0
    | _, _ => 0

end Texts

/-!
## Tidying edit scripts

An insertion between kept lines can often be moved: if the lines before it agree with its last ones,
it may start that much earlier, and likewise at its other end.  Every step is moved up as far as
possible and then down as far as possible, so that it meets steps of its own kind and is united with
them.  Deletions stay between the kept lines around them.
-/

/-- A step of a script with the steps before it, the nearest first, and those behind it. -/
structure Focus where
  before : List Edit
  this : Edit
  after : List Edit

/-- The lines and steps on one side of a step. -/
def extent (steps : List Edit) : Nat := steps.foldl (fun total e => total + e.size) steps.length

namespace Focus

/-- How far the step can move up into the kept step before it. -/
def roomAbove (t : Texts) (this kept : Edit) : Nat :=
  t.agreeBefore kept.oldEnd this.newEnd (min kept.size this.newSize)

/-- How far the step can move down into the kept step behind it. -/
def roomBelow (t : Texts) (this kept : Edit) : Nat :=
  t.agreeAfter kept.old this.new (min kept.size this.newSize)

/-- The steps behind with `n` kept lines in front of them. -/
def keepAbove (old new n : Nat) : List Edit → List Edit
  | [] => [⟨.keep, old, new, n⟩]
  | e :: rest =>
    if e.action = .keep then e.growBefore n :: rest else ⟨.keep, old, new, n⟩ :: e :: rest

/-- The steps before, the nearest first, with `n` kept lines behind them. -/
def keepBelow (old new n : Nat) : List Edit → List Edit
  | [] => [⟨.keep, old, new, n⟩]
  | e :: rest =>
    if e.action = .keep then e.growAfter n :: rest else ⟨.keep, old, new, n⟩ :: e :: rest

/-- The steps without the nearest one if it has no lines left. -/
def dropEmpty (e : Edit) (rest : List Edit) : List Edit := if e.size = 0 then rest else e :: rest

def rise (t : Texts) : (fuel : Nat) → Focus → Focus
  | 0, f => f
  | fuel + 1, f =>
    match f.before with
    | [] => f
    | prev :: earlier =>
      if prev.action = .keep then
        let room := roomAbove t f.this prev
        if 0 < room then
          rise t fuel ⟨dropEmpty (prev.shrinkAfter room) earlier, f.this.moveUp room,
            keepAbove (prev.oldEnd - room) (f.this.newEnd - room) room f.after⟩
        else if prev.size = 0 then rise t fuel ⟨earlier, f.this, f.after⟩
        else f
      else if prev.action = f.this.action then
        rise t fuel ⟨earlier, prev.growAfter f.this.size, f.after⟩
      else rise t fuel ⟨earlier, f.this, prev :: f.after⟩

def sink (t : Texts) : (fuel : Nat) → Focus → Focus
  | 0, f => f
  | fuel + 1, f =>
    match f.after with
    | [] => f
    | next :: later =>
      if next.action = .keep then
        let room := roomBelow t f.this next
        if 0 < room then
          sink t fuel ⟨keepBelow next.old f.this.new room f.before, f.this.moveDown room,
            dropEmpty (next.shrinkBefore room) later⟩
        else if next.size = 0 then sink t fuel ⟨f.before, f.this, later⟩
        else f
      else if next.action = f.this.action then
        sink t fuel ⟨f.before, f.this.growAfter next.size, later⟩
      else sink t fuel ⟨next :: f.before, f.this, later⟩

def settle (t : Texts) (f : Focus) : Focus :=
  let risen := rise t (extent f.before) f
  sink t (extent risen.after) risen

end Focus

/-- Settles all steps of one kind, from the first to the last. -/
def tidyKind (t : Texts) (action : Action) :
    (fuel : Nat) → (before after : List Edit) → List Edit
  | 0, before, after => before.reverse ++ after
  | _ + 1, before, [] => before.reverse
  | fuel + 1, before, e :: after =>
    if e.action = action then
      let f := Focus.settle t ⟨before, e, after⟩
      tidyKind t action fuel (f.this :: f.before) f.after
    else tidyKind t action fuel (e :: before) after

/-- Settles the deletions of a script and then its insertions. -/
def tidy (t : Texts) (script : List Edit) : List Edit :=
  let script := tidyKind t .delete (extent script) [] script
  tidyKind t .insert (extent script) [] script

/-!
## Shortest edit scripts

A script is found by divide and conquer.  Lines that agree at the start and at the end are kept.
What is left is a grid with the old lines along one axis and the new ones along the other, and a
script is a path through it.  Two searches, from the start forwards and from the end backwards,
spread over the diagonals of the grid with one more edit at a time; where they meet, the grid is
cut in two.
-/

/-- How far a search has come on every diagonal. -/
structure Reach where
  origin : Nat
  distance : Array Nat

namespace Reach

def start (limit : Nat) : Reach := ⟨limit + 1, Array.replicate (2 * limit + 3) 0⟩

def get (r : Reach) (diagonal : Int) : Nat :=
  (r.distance[(diagonal + r.origin).toNat]?).getD 0

def set (r : Reach) (diagonal : Int) (distance : Nat) : Reach :=
  ⟨r.origin, r.distance.setIfInBounds (diagonal + r.origin).toNat distance⟩

/-- Where a search with `d` edits enters a diagonal: from the neighbour that came further. -/
def enter (r : Reach) (d : Nat) (diagonal : Int) : Nat :=
  if diagonal = -d ∨ (diagonal ≠ d ∧ r.get (diagonal - 1) < r.get (diagonal + 1)) then
    r.get (diagonal + 1)
  else r.get (diagonal - 1) + 1

end Reach

/-- The diagonals that a search reaches with exactly `d` edits, from the top. -/
def diagonals (d : Nat) : List Int :=
  (List.range (d + 1)).map fun (i : Nat) => (d : Int) - 2 * (i : Int)

/-- Spreads a search over diagonals.  From the distance `x` along the old axis and `y` along the new
one it runs on over `slide x y` lines that agree.  It stops where it meets the other search, with
the place where it entered the diagonal and the place where it left it. -/
def spread (d : Nat) (slide : Nat → Nat → Nat) (meets : Int → Nat → Bool) :
    List Int → Reach → Reach × Option ((Nat × Nat) × (Nat × Nat))
  | [], r => (r, none)
  | k :: ks, r =>
    let x := r.enter d k
    let y := ((x : Int) - k).toNat
    let run := slide x y
    let r := r.set k (x + run)
    if meets k (x + run) then (r, some ((x, y), (x + run, y + run)))
    else spread d slide meets ks r

/-- A part of the grid: `n` old lines from line `i`, `m` new lines from line `j`. -/
structure Grid where
  i : Nat
  n : Nat
  j : Nat
  m : Nat

namespace Grid

/-- The searches meet only on diagonals that the other one has visited: `delta` apart. -/
def delta (g : Grid) : Int := (g.n : Int) - g.m

def slideForwards (t : Texts) (g : Grid) (x y : Nat) : Nat :=
  t.agreeAfter (g.i + x) (g.j + y) (min (g.n - x) (g.m - y))

/-- The lines that agree from a place on, both axes counted from their ends. -/
def slideBackwards (t : Texts) (g : Grid) (x y : Nat) : Nat :=
  t.agreeBefore (g.i + g.n - x) (g.j + g.m - y) (min (g.n - x) (g.m - y))

/-- A search has reached diagonal `k` at `x`; the other one has done its steps with at most `done`
edits, and the two overlap. -/
def overlaps (g : Grid) (other : Reach) (done : Int) (k : Int) (x : Nat) : Bool :=
  (k - g.delta).natAbs ≤ done && g.n ≤ x + other.get (g.delta - k)

/-- The place where the two searches meet, `steps` numbers of edits being left to try from `d`
on. -/
def meeting (t : Texts) (g : Grid) : (steps d : Nat) → (forth back : Reach) → Option (Nat × Nat)
  | 0, _, _, _ => none
  | steps + 1, d, forth, back =>
    let odd := g.delta % 2 != 0
    match spread d (g.slideForwards t) (fun k x => odd && g.overlaps back (d - 1) k x)
        (diagonals d) forth with
    | (_, some (entered, _)) => some entered
    | (forth, none) =>
      match spread d (g.slideBackwards t) (fun k x => !odd && g.overlaps forth d k x)
          (diagonals d) back with
      | (_, some (_, (x, y))) => some (g.n - x, g.m - y)
      | (back, none) => g.meeting t steps (d + 1) forth back

/-- The place in the middle of a shortest path. -/
def middle (t : Texts) (g : Grid) : Option (Nat × Nat) :=
  let limit := (g.n + g.m + 1) / 2 + 1
  g.meeting t limit 0 (.start limit) (.start limit)

/-- The grid without the lines that agree at its start and at its end, and how many these are. -/
def trim (t : Texts) (g : Grid) : Nat × Grid × Nat :=
  let head := t.agreeAfter g.i g.j (min g.n g.m)
  let inner : Grid := ⟨g.i + head, g.n - head, g.j + head, g.m - head⟩
  let tail := t.agreeBefore (inner.i + inner.n) (inner.j + inner.m) (min inner.n inner.m)
  (head, ⟨inner.i, inner.n - tail, inner.j, inner.m - tail⟩, tail)

def keep (i j size : Nat) : List Edit := if size = 0 then [] else [⟨.keep, i, j, size⟩]

/-- The script that deletes every old line and inserts every new one. -/
def replaceAll (g : Grid) : List Edit :=
  (if g.n = 0 then [] else [⟨.delete, g.i, g.j, g.n⟩]) ++
    (if g.m = 0 then [] else [⟨.insert, g.i, g.j, g.m⟩])

/-- The grid without the lines that agree at its start and at its end. -/
def inner (t : Texts) (g : Grid) : Grid := (g.trim t).2.1

theorem inner_le (t : Texts) (g : Grid) : (g.inner t).n + (g.inner t).m ≤ g.n + g.m := by
  simp only [inner, trim]
  omega

def script (t : Texts) (g : Grid) : List Edit :=
  let within :=
    if (g.inner t).n = 0 ∨ (g.inner t).m = 0 then (g.inner t).replaceAll
    else
      match (g.inner t).middle t with
      | none => (g.inner t).replaceAll
      | some (x, y) =>
        if _h : x ≤ (g.inner t).n ∧ y ≤ (g.inner t).m ∧ 0 < x + y ∧
            x + y < (g.inner t).n + (g.inner t).m then
          script t ⟨(g.inner t).i, x, (g.inner t).j, y⟩ ++
            script t ⟨(g.inner t).i + x, (g.inner t).n - x, (g.inner t).j + y, (g.inner t).m - y⟩
        else (g.inner t).replaceAll
  keep g.i g.j (g.trim t).1 ++ within ++
    keep ((g.inner t).i + (g.inner t).n) ((g.inner t).j + (g.inner t).m) (g.trim t).2.2
termination_by g.n + g.m
decreasing_by
  all_goals
    have := inner_le t g
    omega

end Grid

/-- A shortest script from the old text to the new one. -/
def Texts.script (t : Texts) : List Edit := (Grid.mk 0 t.old.size 0 t.new.size).script t

end DeployDrift.LineDiff
