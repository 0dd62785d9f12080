import Runbook.Text.Lines
import Runbook.Workflow.Line

/-!
# `Workflow/Outline` — how a document falls into sections

Reading a document gives every line exactly one `Role`. The roles are decided by one pass that goes
from line to line and remembers only where it stands (`Place`): before the first heading or inside
a step, and at which fence depth; or, behind a loop marker, before or inside the block that holds
the loop's command.

A loop marker owns the fenced block that follows it if only blank lines lie between. Whether one
follows is decided at the marker (`hasBlock`), so that a marker without a block owns nothing, and
the lines after it are ordinary text. A command block ends at the next fence of any kind.

A `Section` is a heading with the lines up to the next one. Its body and its marks are read off the
roles of its lines, so each line has its effect in one section only, and none before the first
heading has any.
-/

set_option autoImplicit false

namespace Runbook.Workflow

open Runbook.Text

/-- What a line is in its document. -/
inductive Role where
  /-- A line before the first heading. -/
  | preamble
  | heading (title : String)
  | workflow (target : String)
  /-- A loop marker; `owns` says whether a command block belongs to it. -/
  | loop (var : String) (owns : Bool)
  /-- A blank line between a loop marker and its command block. -/
  | gap
  /-- The fence that opens a command block. -/
  | opening
  /-- A line of a command. -/
  | command
  /-- The fence that closes a command block. -/
  | closing
  /-- A line of the step's text. -/
  | body
  deriving DecidableEq, Repr

/-- Where the reader stands between two lines. -/
inductive Place where
  /-- Before the first heading, at a fence depth. -/
  | preamble (depth : Nat)
  /-- In the text of a step, at a fence depth. -/
  | text (depth : Nat)
  /-- Between a loop marker and the command block that belongs to it. -/
  | gap
  /-- Inside a command block. -/
  | command
  deriving DecidableEq, Repr

/-- The fence depth at a place; command blocks are no part of it. -/
def Place.depth : Place → Nat
  | .preamble depth | .text depth => depth
  | .gap | .command => 0

/-- The lines after a loop marker begin with a command block, blank lines aside. -/
def hasBlock (rest : List String) : Bool :=
  (rest.dropWhile isBlankLine).head?.any isFence

/-- The role of a line in the text of a step outside every fence, and where it leads. -/
def roleOutside (line : String) (rest : List String) : Role × Place :=
  match headingTitle? line, marker? line with
  | some title, _ => (.heading title, .text 0)
  | none, some (.workflow target) => (.workflow target, .text 0)
  | none, some (.loop var) =>
    if hasBlock rest then (.loop var true, .gap) else (.loop var false, .text 0)
  | none, none => (.body, .text (depthAfter 0 line))

/-- The role of a line that the reader meets at a place, and where it leads. -/
def roleAt (place : Place) (line : String) (rest : List String) : Role × Place :=
  match place with
  | .preamble 0 =>
    match headingTitle? line with
    | some title => (.heading title, .text 0)
    | none => (.preamble, .preamble (depthAfter 0 line))
  | .preamble depth => (.preamble, .preamble (depthAfter depth line))
  | .text 0 => roleOutside line rest
  | .text depth => (.body, .text (depthAfter depth line))
  | .gap => if isFence line then (.opening, .command) else (.gap, .gap)
  | .command => if isFence line then (.closing, .text 0) else (.command, .command)

/-- A line with its role. -/
abbrev Classified := String × Role

/-- The roles of some lines met from a place on, and the place after them. -/
def scan (place : Place) : List String → List Classified × Place
  | [] => ([], place)
  | line :: rest =>
    let (role, next) := roleAt place line rest
    let (later, final) := scan next rest
    ((line, role) :: later, final)

/-! ## Sections -/

/-- A marker of a section with what it says about the step. -/
inductive Mark where
  | workflow (target : String)
  | loop (var : String) (command : Option String)
  deriving DecidableEq, Repr

/-- The lines that belong to a loop marker's block, up to its closing fence. -/
def Role.inBlock : Role → Bool
  | .gap | .opening | .command => true
  | _ => false

/-- The lines of the command block at the front of some lines, fences and gaps left out. -/
def blockLines (ls : List Classified) : List String :=
  ((ls.takeWhile (·.2.inBlock)).filter (·.2 == .command)).map (·.1)

/-- The marks among some lines, each loop with the command of the block it owns. -/
def marks : List Classified → List Mark
  | [] => []
  | (_, .workflow target) :: rest => .workflow target :: marks rest
  | (_, .loop var owns) :: rest =>
    .loop var (if owns then some (trimmed (unlines (blockLines rest))) else none) :: marks rest
  | _ :: rest => marks rest

/-- A heading and the lines up to the next one. -/
structure Section where
  title : String
  /-- The line of the heading, counted from one. -/
  line : Nat
  lines : List Classified
  deriving DecidableEq, Repr

/-- The marks of a section, in order. -/
def Section.marks (s : Section) : List Mark := Workflow.marks s.lines

/-- The text of a section. -/
def Section.body (s : Section) : String :=
  trimmed (unlines ((s.lines.filter (·.2 == .body)).map (·.1)))

/-- The lines before the first heading, and the sections; `line` is the number of the first line. -/
def divide (line : Nat) : List Classified → List Classified × List Section
  | [] => ([], [])
  | (text, role) :: rest =>
    let (front, sections) := divide (line + 1) rest
    match role with
    | .heading title => ([], { title, line, lines := front } :: sections)
    | _ => ((text, role) :: front, sections)

/-- How a document falls into sections, and where its reading ends. -/
structure Outline where
  preamble : List Classified
  sections : List Section
  ending : Place
  deriving DecidableEq, Repr

/-- The outline of some lines. -/
def Outline.ofLines (ls : List String) : Outline :=
  let (classified, ending) := scan (.preamble 0) ls
  let (preamble, sections) := divide 1 classified
  { preamble, sections, ending }

/-- The outline of a document. -/
def Outline.ofText (text : String) : Outline := Outline.ofLines (lines text)

/-! ## Every line keeps its place -/

/-- Reading drops and adds no line. -/
theorem map_fst_scan (place : Place) (ls : List String) :
    (scan place ls).1.map (·.1) = ls := by
  induction ls generalizing place with
  | nil => rfl
  | cons line rest ih => simp [scan, ih]

/-- There are as many roles as lines. -/
theorem length_scan (place : Place) (ls : List String) : (scan place ls).1.length = ls.length := by
  rw [← List.length_map (f := (·.1)), map_fst_scan]

end Runbook.Workflow
