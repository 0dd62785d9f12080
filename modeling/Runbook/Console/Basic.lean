import Runbook.Console.Width
import Runbook.Datum.Json
import Runbook.Text.Cut
import Runbook.Text.Lines

/-!
# `Console` — panels and tables for the eye

What is shown to people goes to a terminal 200 columns wide: lines, panels that hold the description
of a task, and the table of all tasks. The frames are made of box-drawing characters, and what is in
them is padded to a common width in cells.

Whatever the program has to say it says in two ways: to people in blocks on a console, to programs
as a JSON object. A `Notice` holds both, and the audience is chosen when it is printed. So what is
done cannot depend on who is listening, and neither can anything else that is not said in print.
-/

set_option autoImplicit false

namespace Runbook.Console

open Runbook.Text

/-- The columns of the terminal. -/
def width : Nat := 200

/-- What follows an opening bracket makes it the beginning of a tag: a small letter, a number sign,
a slash or an at sign, and a closing bracket before the next opening one. -/
def opensTag : List Char → Bool
  | [] => false
  | c :: rest =>
    (('a' ≤ c && c ≤ 'z') || c == '#' || c == '/' || c == '@') &&
      (rest.dropWhile fun d => d != '[' && d != ']').head? == some ']'

/-- A text without the backslashes that stand before brackets which open no tag. -/
def dropBracketEscapes : List Char → List Char
  | [] => []
  | '\\' :: '[' :: rest =>
    if opensTag rest then '\\' :: '[' :: dropBracketEscapes rest else '[' :: dropBracketEscapes rest
  | c :: rest => c :: dropBracketEscapes rest

/-- A text with a single backslash at its end doubled, so that it does not hide what follows. -/
def guardEnd (cs : List Char) : List Char :=
  match cs.reverse with
  | ['\\'] => cs ++ ['\\']
  | '\\' :: c :: _ => if c = '\\' then cs else cs ++ ['\\']
  | _ => cs

/-- A text of a user's at the end of a marked part of a line: tags in it are not obeyed. -/
def literalInside (s : String) : String := String.ofList (dropBracketEscapes s.toList)

/-- A text of a user's behind a marked part of a line: tags in it are not obeyed. -/
def literal (s : String) : String := String.ofList (guardEnd (dropBracketEscapes s.toList))

/-- The lines of a text as they are sent. -/
def sentLines (s : String) : List (List Char) := pieces (· == '\n') (sent s)

/-- A text in lines that fit into a width, whose last words may be folded. -/
def wrapped (width : Nat) (overflow : Overflow) (s : String) : List (List Char) :=
  (sentLines s).flatMap (wrap width overflow)

/-- A message and the end of its line. -/
def line (message : String) : String :=
  String.ofList ((wrapped width .fold message).flatMap (· ++ ['\n']))

/-! ## Panels -/

/-- A horizontal stroke. -/
def stroke (n : Nat) : List Char := List.replicate n '─'

/-- The upper edge of a panel, with its title. -/
def panelTop (title : String) : List Char :=
  let text :=
    expandTabsFrom 0 ((dropControls title.toList).map fun c => if c = '\n' then ' ' else c)
  if text.isEmpty then '╭' :: stroke (width - 2) ++ ['╮']
  else
    let shown := cutOff (width - 4) .fold (' ' :: text ++ [' '])
    let behind := width - 4 - cells shown
    let shown := if behind = 0 then dropExcess (width - 4) shown else shown
    '╭' :: '─' :: shown ++ stroke behind ++ ['─', '╮']

/-- A text in a frame with a title. -/
def panel (title body : String) : String :=
  let inner := (wrapped (width - 4) .fold body).map fun l =>
    '│' :: ' ' :: padTo (width - 4) l ++ [' ', '│']
  let bottom := '╰' :: stroke (width - 2) ++ ['╯']
  String.ofList (((panelTop title :: inner) ++ [bottom]).flatMap (· ++ ['\n']))

/-! ## Tables -/

/-- The cells of a table, by rows. -/
abbrev Rows := List (List String)

/-- A horizontal rule: its left end, the stroke, the joints, its right end. -/
structure Rule where
  left : Char
  stroke : Char
  joint : Char
  right : Char

/-- The edges of a table: a heavy one around the heads, a light one around the rest. -/
def topRule : Rule := ⟨'┏', '━', '┳', '┓'⟩

@[inherit_doc topRule]
def headRule : Rule := ⟨'┡', '━', '╇', '┩'⟩

@[inherit_doc topRule]
def bottomRule : Rule := ⟨'└', '─', '┴', '┘'⟩

/-- A rule over columns of some widths; each has a blank on either side. -/
def Rule.draw (r : Rule) (widths : List Nat) : List Char :=
  r.left :: [r.joint].intercalate (widths.map fun w => List.replicate (w + 2) r.stroke) ++ [r.right]

/-- The cells of a line of a table between uprights. -/
def drawLine (upright : Char) (widths : List Nat) (cs : List (List Char)) : List Char :=
  upright :: [upright].intercalate ((widths.zip cs).map fun (w, c) => ' ' :: padTo w c ++ [' ']) ++
    [upright]

/-- A row of a table: as many lines as its highest cell has. -/
def drawRow (upright : Char) (widths : List Nat) (row : List String) : List (List Char) :=
  let parts := (widths.zip row).map fun (w, c) => wrapped w .ellipsis c
  let height := (parts.map List.length).foldl max 1
  (List.range height).map fun n => drawLine upright widths (parts.map fun p => (p[n]?).getD [])

/-- The width of a cell that stands on lines of its own, as far as it fits into a line. -/
def cellWidth (s : String) : Nat :=
  let lines := (pieces isLineBreak (dropControls s.toList)).map cells
  min (width - 7) (lines.foldl max 0)

/-- A column: its head, and its width if that does not follow from its cells. -/
structure Column where
  head : String
  fixed : Option Nat := none
  deriving DecidableEq, Repr

/-- The quotient of two numbers, to the nearest one, and to the even one of two. -/
def evenQuotient (m n : Nat) : Nat :=
  let q := m / n
  let twice := 2 * (m % n)
  if n < twice ∨ (twice = n ∧ q % 2 = 1) then q + 1 else q

/-- Shares an excess out: every width gives up as much as its limit says, by equal shares. -/
def giveUp : (excess : Nat) → (limits : List Nat) → (widths : List Nat) → List Nat
  | excess, l :: ls, w :: ws =>
    if l = 0 then w :: giveUp excess ls ws
    else
      let share := min l (evenQuotient excess ((l :: ls).countP (0 < ·)))
      (w - share) :: giveUp (excess - share) ls ws
  | _, _, ws => ws

/-- Makes the widest columns that may be made narrower as wide as the next one, until all fit. -/
def narrowed (room : Nat) (free : List Bool) : (fuel : Nat) → List Nat → List Nat
  | 0, ws => ws
  | fuel + 1, ws =>
    let excess := ws.foldl (· + ·) 0 - room
    let open_ := (ws.zip free).filterMap fun (w, f) => if f then some w else none
    let widest := open_.foldl max 0
    let second := (open_.filter (· != widest)).foldl max 0
    if excess = 0 ∨ widest = second then ws
    else
      let limit := min excess (widest - second)
      narrowed room free fuel (giveUp excess
        ((ws.zip free).map fun (w, f) => if f && w == widest then limit else 0) ws)

/-- The widths of columns: that of the widest cell, if all of them fit into a line. -/
def columnWidths (columns : List Column) (rows : Rows) : List Nat :=
  let rows := columns.map (·.head) :: rows
  let natural := (List.range columns.length).map fun n =>
    let widths := rows.map fun row => ((row[n]?).map cellWidth).getD 0
    (((columns[n]?).bind (·.fixed)).getD (widths.foldl max 0)) + 2
  let room := width - columns.length - 1
  let fitting :=
    if natural.foldl (· + ·) 0 ≤ room then natural
    else
      let ws := narrowed room (columns.map fun c => c.fixed.isNone) (columns.length + 1) natural
      giveUp (ws.foldl (· + ·) 0 - room) ws ws
  fitting.map (· - 2)

/-- A table with heads. -/
def table (columns : List Column) (rows : Rows) : String :=
  let widths := columnWidths columns rows
  let ls :=
    topRule.draw widths :: drawRow '┃' widths (columns.map (·.head)) ++ headRule.draw widths ::
      rows.flatMap (drawRow '│' widths) ++ [bottomRule.draw widths]
  String.ofList (ls.flatMap (· ++ ['\n']))

/-! ## One message for two kinds of reader -/

/-- For whom something is printed. -/
inductive Audience where
  | people
  | programs
  deriving DecidableEq, Repr

/-- People, unless something else is asked for. -/
instance : Inhabited Audience := ⟨.people⟩

/-- Something on the console. -/
inductive Block where
  | line (message : String)
  | panel (title body : String)
  | table (columns : List Column) (rows : Rows)
  deriving DecidableEq, Repr

/-- A block as it is printed. -/
def Block.text : Block → String
  | .line message => Console.line message
  | .panel title body => Console.panel title body
  | .table columns rows => Console.table columns rows

/-- Blocks as they are printed, one below the other. -/
def textOf (blocks : List Block) : String := String.join (blocks.map Block.text)

/-- An object as it is printed. -/
def printObject (fields : Fields) : String := Json.write .printed (.record fields) ++ "\n"

/-- What people and what programs are told, if they are told anything. -/
structure Notice where
  blocks : List Block := []
  object : Option Fields := none

namespace Notice

/-- A line for people. -/
def note (message : String) : Notice := { blocks := [.line message] }

/-- A panel for people. -/
def panel (title body : String) : Notice := { blocks := [.panel title body] }

/-- An object for programs. -/
def data (fields : Fields) : Notice := { object := some fields }

/-- A result for programs, and a line about it for people. -/
def result (fields : Fields) (message : String) : Notice :=
  { blocks := if message.isEmpty then [] else [.line message], object := some fields }

/-- What went wrong. The details go before the message where they have a field of its name. -/
def error (message : String) (details : Fields) : Notice :=
  { blocks := [.line ("Error: " ++ literal message)]
    object := some (Fields.setAll [("error", .text message)] details) }

/-- What went well. The details go before the message where they have a field of its name. -/
def success (message : String) (details : Fields) : Notice :=
  { blocks := [.line message]
    object := some (Fields.setAll [("success", .text message)] details) }

/-- What is on the console. -/
def shown (n : Notice) : Audience → String
  | .people => textOf n.blocks
  | .programs => ""

/-- What goes to the reader of objects. -/
def sent (n : Notice) : Audience → String
  | .people => ""
  | .programs => (n.object.map printObject).getD ""

/-- All that is printed. -/
def text (n : Notice) (audience : Audience) : String := n.shown audience ++ n.sent audience

/-- People are told the blocks. -/
theorem text_people (n : Notice) : n.text .people = textOf n.blocks := by
  simp [text, shown, sent]

end Notice

end Runbook.Console
