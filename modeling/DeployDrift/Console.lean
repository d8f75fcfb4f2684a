import DeployDrift.Drift.Report
import DeployDrift.Json.Writer
import DeployDrift.Text.Width

/-!
# Output on a console

Styles and tables, and what is shown with them.
-/
namespace DeployDrift

/-!
## Styles on a terminal

A styled text stands between two control sequences: one that starts the style and one that ends all
styles.  A style goes on behind an end that the text itself contains.
-/

inductive Style where
  | bold
  | dimmed
  | red
  | green
  | yellow
  | cyan
  deriving DecidableEq, Repr

namespace Style

def code : Style → Nat
  | .bold => 1
  | .dimmed => 2
  | .red => 31
  | .green => 32
  | .yellow => 33
  | .cyan => 36

def sequence (code : Nat) : String := "\x1b[" ++ toString code ++ "m"

def apply (style : Style) (s : String) : String :=
  let start := sequence style.code
  let stop := sequence 0
  start ++ Text.replace stop (stop ++ start) s ++ stop

end Style

/-!
## Tables of text

A table is drawn with lines around every cell.  A column is as wide as its widest line; cells of
several lines start at the top of their row.
-/

structure Grid where
  header : List String
  rows : List (List String)
  deriving DecidableEq, Repr

namespace Grid

abbrev Cell := List (List Char)

def cellOf (s : String) : Cell := Text.splitOnChar '\n' s.toList

def cellWidth (c : Cell) : Nat := (c.map Text.width).foldl max 0

def cells (g : Grid) : List (List Cell) := (g.header :: g.rows).map (·.map cellOf)

def widths (rows : List (List Cell)) (columns : Nat) : List Nat :=
  rows.foldl (fun widths row => List.zipWith (fun w c => max w (cellWidth c)) widths row)
    (List.replicate columns 0)

def fill (n : Nat) (c : Char) : String := String.ofList (List.replicate n c)

def ruler (widths : List Nat) : String :=
  "+" ++ String.join (widths.map fun w => fill (w + 2) '-' ++ "+")

/-- One line of one cell, filled up to the width of its column. -/
def cellLine (width : Nat) (line : List Char) : String :=
  " " ++ String.ofList line ++ fill (width - Text.width line) ' ' ++ " |"

def rowLines (widths : List Nat) (row : List Cell) : List String :=
  let height := (row.map List.length).foldl max 0
  (List.range height).map fun i =>
    "|" ++ String.join (List.zipWith (fun w cell => cellLine w ((cell[i]?).getD [])) widths row)

def text (g : Grid) : String :=
  let rows := g.cells
  let widths := widths rows g.header.length
  Text.joinWith "\n"
    (ruler widths :: rows.flatMap fun row => rowLines widths row ++ [ruler widths])

end Grid

/-!
## What is shown to a user

Reports, finished syncs and errors are shown as text, coloured or not, or as JSON.
-/

inductive OutputFormat where
  | text
  | json
  deriving DecidableEq, Repr

namespace OutputFormat

def word : OutputFormat → String
  | .text => "text"
  | .json => "json"

def all : List OutputFormat := [.text, .json]

def ofWord? (word : String) : Option OutputFormat := all.find? (·.word == word)

end OutputFormat

/-- How something is shown. -/
structure Presentation where
  format : OutputFormat
  coloured : Bool
  deriving DecidableEq, Repr

namespace Presentation

def paint (p : Presentation) (style : Style) (s : String) : String :=
  if p.coloured then style.apply s else s

def styleOf : DriftStatus → Style
  | .added => .green
  | .deleted => .red
  | .modified => .yellow

def mark : DriftStatus → String
  | .added => "+added"
  | .deleted => "-deleted"
  | .modified => "~modified"

def kindText (k : ResourceKey) : String := if k.group = "" then k.kind else k.group ++ "/" ++ k.kind

def grid (p : Presentation) (resources : List ResourceDrift) : Grid where
  header := ["Status", "Kind", "Namespace", "Name"]
  rows := resources.map fun r =>
    [p.paint (styleOf r.status) (mark r.status), kindText r.key, r.key.namespace, r.key.name]

/-- The lines of a text, without their ends; a carriage return belongs to the end of a line. -/
def lines (s : String) : List (List Char) :=
  let pieces := Text.splitOnChar '\n' s.toList
  let ended := pieces.dropLast.map fun line =>
    if line.getLast? = some '\r' then line.dropLast else line
  match pieces.getLast? with
  | none | some [] => ended
  | some last => ended ++ [last]

def lineStyle? (line : List Char) : Option Style :=
  let starts := fun (lead : String) => (Text.dropLead? lead.toList line).isSome
  if starts "=====" then some .bold
  else if starts "+++" || starts "---" then some .dimmed
  else if starts "@@" then some .cyan
  else if starts "+" then some .green
  else if starts "-" then some .red
  else none

def diffLine (p : Presentation) (line : List Char) : String :=
  let s := String.ofList line
  match lineStyle? line with
  | some style => p.paint style s
  | none => s

def reportText (p : Presentation) (r : DriftReport) : String :=
  if r.isEmpty then
    p.paint .green "✓" ++ " Application " ++ r.app ++ " is in sync with its target.\n"
  else
    p.paint .yellow "⚠" ++ " Application " ++ r.app ++ " has " ++ toString r.resources.length ++
      " drifted resources\n\n" ++ (p.grid r.resources).text ++ "\n\n" ++
      String.join (r.resources.flatMap fun resource =>
        (lines resource.diff).map fun line => p.diffLine line ++ "\n")

def report (p : Presentation) (r : DriftReport) : String :=
  match p.format with
  | .json => Json.writePretty 0 r.document
  | .text => p.reportText r

def synced (p : Presentation) (apps : List String) : String :=
  match p.format with
  | .json => Json.writePretty 0
    (.ofFields [("status", .text "success"), ("synced", .list (apps.map .text))])
  | .text => p.paint .green "✓" ++ " Synced " ++ Text.joinWith ", " apps ++ "\n"

def error (p : Presentation) (message : String) : String :=
  match p.format with
  | .json => Json.writePretty 0
    (.ofFields [("status", .text "error"), ("message", .text message)])
  | .text => p.paint .red "✗" ++ " " ++ message ++ "\n"

end Presentation
end DeployDrift
