import Runbook.Text.Numeral
import Runbook.Time.Basic

/-!
# `Plan` — the tasks to be done

A workflow is worked through as a plan: a list of tasks in the order of execution, each with a flag
that says whether it is done. A task keeps where it came from, the chain of workflows and the
step, because a reader of one task has nothing else to go by.

Tasks are numbered by their place (`assignIds`), and found by id. Ids in a plan that was written by
hand may repeat; the first task of an id is the one that is meant.
-/

set_option autoImplicit false

namespace Runbook

open Runbook.Text

/-- Something to do. -/
structure Task where
  /-- The number of the task in its plan; empty while it has none. -/
  id : String := ""
  name : String
  /-- What to do, in full. -/
  description : String
  /-- The workflows that lead to the task, outermost first. -/
  source : String
  /-- The slug of the step that the task came from. -/
  step : String
  completed : Bool := false
  deriving DecidableEq, Repr

/-- The tasks of a workflow. -/
structure Plan where
  workflow : String
  /-- When the plan was made. -/
  generated : Time.Timestamp
  tasks : List Task
  deriving DecidableEq

/-! ## Ids -/

/-- The characters of a task id: a `T` and at least three digits. -/
def isNumbered : List Char → Bool
  | 'T' :: ds => ds.all isIdDigit && 3 ≤ ds.length
  | _ => false

/-- A text that may stand as a task's id; a task without a number has the empty one. -/
def isTaskId (s : String) : Bool := s.isEmpty || isNumbered s.toList

/-- The id of the task at a place, counted from one: three digits at least. A sign counts as one of
the three. -/
def taskId (n : Int) : String :=
  String.ofList ('T' :: if n < 0 then '-' :: padded 2 n.natAbs else padded 3 n.natAbs)

/-- Tasks with the ids of their places. -/
def assignIds (tasks : List Task) : List Task :=
  tasks.mapIdx fun i task => { task with id := taskId (i + 1) }

namespace Plan

/-- The first task with an id. -/
def find? (plan : Plan) (id : String) : Option Task := plan.tasks.find? (·.id == id)

/-- The first task that is not done. -/
def firstIncomplete? (plan : Plan) : Option Task := plan.tasks.find? (!·.completed)

/-- How many tasks are done. -/
def completedCount (plan : Plan) : Nat := plan.tasks.countP (·.completed)

/-- The ids of the tasks, in order. -/
def ids (plan : Plan) : List String := plan.tasks.map (·.id)

/-- The plan with the flag of the first task with an id set, if there is one. -/
def setCompleted (plan : Plan) (id : String) (completed : Bool) : Plan :=
  { plan with tasks := mark plan.tasks }
where
  mark : List Task → List Task
    | [] => []
    | task :: rest =>
      if task.id == id then { task with completed } :: rest else task :: mark rest

end Plan

/-- How far a plan has got. -/
structure Progress where
  total : Nat
  completed : Nat
  deriving DecidableEq, Repr

/-- How many tasks are left. -/
def Progress.remaining (p : Progress) : Nat := p.total - p.completed

/-- How far a plan has got. -/
def Plan.progress (plan : Plan) : Progress := ⟨plan.tasks.length, plan.completedCount⟩

end Runbook
