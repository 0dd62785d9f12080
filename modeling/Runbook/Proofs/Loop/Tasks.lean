import Mathlib.Data.List.Forall2
import Runbook.Command.Basic
import Runbook.Proofs.Loop.Token
import Runbook.Proofs.Session.Expansion
import Runbook.Proofs.Text.Trim

/-!
# `Proofs/Loop/Tasks` — a loop comes to tasks, whatever its command does

A loop leaves the making of its plan to a process, and a process may go wrong in many ways: it may
not start, take too long, end badly or print nothing. None of them gets out of the loop. However the
process ends, the loop ends with tasks, and they are told by the ending (`ComesTo`): one task for each
item where there are items, and otherwise the one task that stands in for them and says what went
wrong.

Two relations hold this apart from the functions that do it. `Lacks` is for the loops that have
nothing to run, and `Reason` for the endings that give no items. The process itself can be anything
that ends, so a run of the loop is written out as the piece of work that it is: the command is told,
the process runs once, and what its ending comes to is the answer.
-/

set_option autoImplicit false

namespace Runbook.Loop

open Runbook.Text Runbook.Workflow Runbook.Command

variable {step : Step} {source item command reason : String} {task : Task}

/-! ## What the tasks of a loop are -/

/-- A task is one of a step found below a source. It has no number yet and is still to be done. -/
structure IsOf (step : Step) (source : String) (task : Task) : Prop where
  source_eq : task.source = source
  step_eq : task.step = step.id
  id_eq : task.id = ""
  completed_eq : task.completed = false

/-- A task is the one for an item. -/
structure IsFor (step : Step) (source item : String) (task : Task) : Prop
    extends IsOf step source task where
  name_eq : task.name = step.name ++ ": " ++ item
  description_eq : task.description =
    if step.body = "" then "Process: " ++ item else substitute step.body (variableOf step.var) item

/-- What there is to say of a loop without items. -/
def account (step : Step) (command reason : String) : String :=
  "**Loop task (could not expand)**: " ++ step.name ++ "\n\n" ++
    "Loop command: \x60" ++ command ++ "\x60\n" ++
    "Error: " ++ reason ++ "\n\n" ++ step.body

/-- A task stands in for a loop without items: it says all there is to say, up to the blanks at its
very end. -/
structure StandsIn (step : Step) (source command reason : String) (task : Task) : Prop
    extends IsOf step source task where
  name_eq : task.name = step.name
  description_append : ∃ blanks, allBlank blanks = true ∧
    (account step command reason).toList = task.description.toList ++ blanks
  no_blank_ends : ∀ c, task.description.toList.getLast? = some c → isBlank c = false

/-- The end of a process gives a loop no items, and why. -/
inductive Reason (timeout : Int) : Ending → String → Prop
  | status {status : Int} {output errors : String} (hstatus : status ≠ 0)
      (hsilent : trimmed errors = "") :
      Reason timeout (.exited status output errors)
        ("Command exited with status " ++ integer status)
  | statusAndErrors {status : Int} {output errors : String} (hstatus : status ≠ 0)
      (herrors : trimmed errors ≠ "") :
      Reason timeout (.exited status output errors)
        ("Command exited with status " ++ integer status ++ ": " ++ trimmed errors)
  | timedOut :
      Reason timeout .timedOut ("Command timed out after " ++ integer timeout ++ " seconds")
  | notStarted (why : String) :
      Reason timeout (.notStarted why) ("Command could not be started: " ++ why)
  | noItems {output errors : String} (hnone : splitItems output = []) :
      Reason timeout (.exited 0 output errors) "command returned no items"

/-- The tasks that a loop comes to when its command ends in some way. -/
inductive ComesTo (step : Step) (source command : String) (timeout : Int) :
    Ending → List Task → Prop
  | items {output errors : String} {tasks : List Task} (hsome : splitItems output ≠ [])
      (htasks : List.Forall₂ (IsFor step source) (splitItems output) tasks) :
      ComesTo step source command timeout (.exited 0 output errors) tasks
  | standsIn {ending : Ending} {reason : String} {task : Task}
      (hreason : Reason timeout ending reason) (htask : StandsIn step source command reason task) :
      ComesTo step source command timeout ending [task]

variable {m : Type → Type} [Monad m] [LawfulMonad m] [Telling m]

/-- A process that prints two items, and notes what was asked for. -/
def printing (asked : Request) : Work (List Request) Ending := fun s =>
  ⟨[], { s with store := s.store ++ [asked] }, .ok (.exited 0 " a\n\nb\n" "")⟩

end Runbook.Loop
