import Runbook.Text.Cut
import Runbook.Text.Numeral

/-!
# `Workflow/Line` — what a line of a document is

A workflow document is read line by line. A line may be a fence, the heading of a step, or a marker;
what it is can be told from the line alone, and whether that counts depends on the fences before it.

## Fences

A workflow document may quote other documents in fenced blocks, and those may hold headings, markers
and fences of their own. Structure is recognised only outside every fence, so the reader keeps a
depth. A fence with a label opens a block wherever it stands; a bare fence closes the innermost
block if one is open and opens one otherwise. The depth never falls below zero.

## Headings

A step begins at a line of the form `### Step 3: Title`. The parts are separated by blanks of any
kind, and the number is a run of digits of any script. What follows the colon is at least one blank
and at least one further character.

The title is what remains when the blanks around it are dropped. An author may add notes in square
brackets behind the title (`Title [optional]`); when the line ends in a closing bracket, the title
stops at the first blank that stands before an opening bracket. A line with nothing but blanks
behind the colon, two of them at least, is a heading with an empty title.

## Markers

A comment on a line of its own turns a step into more than a plain task: `<!-- workflow:name -->`
puts another workflow in its place, and `<!-- loop:VAR -->` repeats it for each item that a command
prints. The word may be preceded by `runner:`.

What a marker holds is the text between the colon and the closing arrow without the blanks around
it. The text may not be empty; when it is blank throughout, its last blank is what the marker holds.
-/

set_option autoImplicit false

namespace Runbook.Workflow

open Runbook.Text

/-! ## Fences -/

/-- The character that fences are made of. -/
def fenceChar : Char := '\x60'

/-- A line that opens or closes a fenced block: three fence characters after its leading blanks. -/
def isFence (line : String) : Bool :=
  (List.replicate 3 fenceChar).isPrefixOf (trim line.toList)

/-- A fence that has a label: some character that is neither a fence character nor a blank at the
line's ends. -/
def isLabelled (line : String) : Bool := (trim line.toList).any (· != fenceChar)

/-- How a line changes the fence depth. -/
def fenceDelta (line : String) (depth : Int) : Int :=
  if !isFence line then 0
  else if isLabelled line then 1
  else if 0 < depth then -1
  else 1

/-- The fence depth after a line. -/
def depthAfter (depth : Int) (line : String) : Nat := (depth + fenceDelta line depth).toNat

/-- The fence depth after some lines, counted over all of them. -/
def depthOver (lines : List String) : Nat :=
  lines.foldl (fun (depth : Nat) line => depthAfter depth line) 0

/-- A line that is no fence leaves the depth alone. -/
theorem depthAfter_of_not_isFence {line : String} (h : isFence line = false) (depth : Nat) :
    depthAfter depth line = depth := by
  simp [depthAfter, fenceDelta, h]

/-! ## Headings -/

/-- The part of a title before the first run of blanks that an opening bracket follows. -/
def beforeNote : List Char → List Char
  | [] => []
  | c :: rest =>
    if isBlank c && (trimStart rest).head? == some '[' then [] else c :: beforeNote rest

/-- The title that the text after the colon and its blanks holds. -/
def titleOf (cs : List Char) : List Char :=
  let text := trimEnd cs
  if text.getLast? == some ']' then beforeNote text else text

/-- What follows the colon of a step heading. -/
def afterColon? (line : List Char) : Option (List Char) := do
  let cs ← after? "###".toList line
  let cs ← afterRun? isBlank cs
  let cs ← after? "Step".toList cs
  let cs ← afterRun? isBlank cs
  let cs ← afterRun? isDigit cs
  after? [':'] cs

/-- The title of the step that a line begins, if it begins one. -/
def headingTitle? (line : String) : Option String :=
  match afterColon? line.toList with
  | some (c :: rest) =>
    if isBlank c && !rest.isEmpty then some (String.ofList (titleOf (trimStart rest))) else none
  | _ => none

/-! ## Markers -/

/-- A marker and what it holds. -/
inductive Marker where
  /-- The step stands for the steps of another workflow. -/
  | workflow (target : String)
  /-- The step is repeated, with each item in the place of the variable. -/
  | loop (var : String)
  deriving DecidableEq, Repr

/-- What a marker holds, of the text between its colon and its arrow. -/
def held? (cs : List Char) : Option String :=
  if allBlank cs then cs.getLast?.map fun c => String.ofList [c]
  else some (String.ofList (trim cs))

/-- What a marker of the kind named by `word` holds, if the trimmed line is one. -/
def markerText? (word : String) (line : List Char) : Option String := do
  let cs ← after? "<!--".toList line
  let cs := trimStart cs
  let cs := (after? "runner:".toList cs).getD cs
  let cs ← after? (word.toList ++ [':']) cs
  let cs ← before? "-->".toList cs
  held? cs

/-- The marker on a line, if there is one. -/
def marker? (line : String) : Option Marker :=
  let cs := trim line.toList
  match markerText? "workflow" cs with
  | some target => some (.workflow target)
  | none => (markerText? "loop" cs).map .loop

end Runbook.Workflow
