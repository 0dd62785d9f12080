import Runbook.Plan.Basic
import Runbook.Text.Cut
import Runbook.Text.Lines
import Runbook.Traced
import Runbook.Workflow.Step

/-!
# `Loop` — one task for each item

A loop step becomes one task for each item that its command prints, with the item in the place of
the loop's variable. A loop that cannot do so (`Obstacle`) becomes a single task that tells the
reader why and leaves the loop to them. So a loop always comes to at least one task, and no loop
keeps the rest of a plan from being made.

A command prints its items one a line, whatever it takes for the end of a line. Blanks around an
item do not belong to it, and a line of blanks is no item.

The text of a loop names its item by a token: the variable behind a dollar sign, in braces or not.
Without braces the variable has to end there, so `$FILES` is no token of `FILE`. The tokens of a
text are found from left to right without overlapping, and every one is replaced by the item as it
stands: what the item holds is not looked at again.
-/

set_option autoImplicit false

namespace Runbook

/-- What a command prints, or why it failed. -/
abbrev Runner (m : Type → Type) := String → m (Except String String)

namespace Loop

open Runbook.Text Runbook.Workflow

/-! ## The place of an item in a text -/

/-- A character that a variable's name may go on with. -/
def isNameChar (c : Char) : Bool := c.isAlphanum || c == '_'

/-- What follows the token that a text begins with, if it begins with one. -/
def afterToken? (var : List Char) : List Char → Option (List Char)
  | '$' :: rest =>
    match after? ('\x7b' :: var ++ ['\x7d']) rest with
    | some later => some later
    | none =>
      match after? var rest with
      | some later => if later.head?.any isNameChar then none else some later
      | none => none
  | _ => none

/-- What follows a token is shorter than the text. -/
theorem length_afterToken? {var cs rest : List Char} (h : afterToken? var cs = some rest) :
    rest.length < cs.length := by
  unfold afterToken? at h
  split at h
  · split at h
    · next later hl =>
      injection h with h
      rw [after?_eq_some_iff.1 hl, ← h]
      simp only [List.length_cons, List.length_append]
      omega
    · split at h
      · next later hl =>
        split at h
        · simp at h
        · injection h with h
          rw [after?_eq_some_iff.1 hl, ← h]
          simp only [List.length_cons, List.length_append]
          omega
      · simp at h
  · simp at h

/-- A text with the item in the place of every token. -/
def replaceTokens (var item cs : List Char) : List Char :=
  match h : afterToken? var cs with
  | some rest =>
    have := length_afterToken? h
    item ++ replaceTokens var item rest
  | none =>
    match cs with
    | [] => []
    | c :: rest => c :: replaceTokens var item rest
  termination_by cs.length

/-- A text with the item in the place of every token of the variable. -/
def substitute (body var item : String) : String :=
  String.ofList (replaceTokens var.toList item.toList body.toList)

/-! ## The items of a command -/

/-- The items of an output. -/
def items (output : List Char) : List (List Char) :=
  ((pieces isLineBreak output).map trim).filter (!·.isEmpty)

/-- The items of an output, as strings. -/
def splitItems (output : String) : List String := (items output.toList).map String.ofList

variable {m : Type → Type} [Monad m] [Telling m]

/-- Why a loop has no items. -/
inductive Obstacle where
  /-- No command block follows the marker. -/
  | noBlock
  | emptyBlock
  | failed (reason : String)
  | noItems
  deriving DecidableEq, Repr

/-- The words for an obstacle. -/
def Obstacle.message : Obstacle → String
  | .noBlock => "no fenced command block follows the marker"
  | .emptyBlock => "empty command block"
  | .failed reason => reason
  | .noItems => "command returned no items"

/-- What is told of an obstacle. A missing command can be seen in the document and is not told. -/
def Obstacle.events (step : String) : Obstacle → List Event
  | .noBlock | .emptyBlock => []
  | .failed reason => [.loopFailed step reason]
  | .noItems => [.loopEmpty step]

/-- The variable of a loop that names none. -/
def defaultVariable : String := "FILE"

/-- The variable of a loop. -/
def variableOf (var : Option String) : String :=
  match var with
  | some name => if name = "" then defaultVariable else name
  | none => defaultVariable

/-- A text, or another one in the place of the empty text. -/
def orElse (s other : String) : String := if s = "" then other else s

/-- The items that the output of a loop's command has, or why there are none. -/
def itemsOf : Except String String → Except Obstacle (List String)
  | .error reason => .error (.failed reason)
  | .ok output => if splitItems output = [] then .error .noItems else .ok (splitItems output)

/-- The items of a loop, or why it has none. -/
def find (run : Runner m) (command : Option String) : m (Except Obstacle (List String)) :=
  match command with
  | none => pure (.error .noBlock)
  | some command =>
    if command = "" then pure (.error .emptyBlock)
    else do
      let ran ← run command
      pure (itemsOf ran)

/-- The task for an item. -/
def taskFor (step : Step) (source item : String) : Task :=
  { name := step.name ++ ": " ++ item
    description :=
      orElse (substitute step.body (variableOf step.var) item) ("Process: " ++ item)
    source, step := step.id }

/-- The command of a step as the fallback task quotes it. -/
def quoted (command : Option String) : String := orElse (command.getD "") "(missing)"

/-- The task that stands in for a loop without items. -/
def fallback (step : Step) (source : String) (obstacle : Obstacle) : Task :=
  { name := step.name
    description :=
      trimmedEnd
        ("**Loop task (could not expand)**: " ++ step.name ++ "\n\n" ++
          "Loop command: \x60" ++ quoted step.command ++ "\x60\n" ++
          "Error: " ++ obstacle.message ++ "\n\n" ++ step.body)
    source, step := step.id }

/-- What is told of a loop that has items or has none. -/
def eventsOf (step : Step) : Except Obstacle (List String) → List Event
  | .error obstacle => obstacle.events step.name
  | .ok items => [.loopExpanded step.name items.length]

/-- The tasks of a loop that has items or has none. -/
def tasksOf (step : Step) (source : String) : Except Obstacle (List String) → List Task
  | .error obstacle => [fallback step source obstacle]
  | .ok items => items.map (taskFor step source)

/-- The tasks of a loop step. -/
def tasks (run : Runner m) (step : Step) (source : String) : m (List Task) := do
  let found ← find run step.command
  tellAll (eventsOf step found)
  pure (tasksOf step source found)

/-- What a command printed, or how it failed, comes to an item or an obstacle. -/
theorem ne_nil_of_itemsOf {ran : Except String String} {items : List String}
    (h : itemsOf ran = .ok items) : items ≠ [] := by
  unfold itemsOf at h
  split at h
  · simp at h
  · split at h
    · simp at h
    · next hne =>
      injection h with h
      exact h ▸ hne

/-- A loop comes to a task at least. -/
theorem tasksOf_ne_nil (step : Step) (source : String) {found : Except Obstacle (List String)}
    (h : ∀ items, found = .ok items → items ≠ []) : tasksOf step source found ≠ [] := by
  cases found with
  | error obstacle => simp [tasksOf]
  | ok items => simpa [tasksOf] using h items rfl

end Loop

end Runbook
