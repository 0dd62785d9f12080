import Runbook.Session.Basic

/-!
# `Session/Operation` — what can be asked of a session

The life of a plan: `generate` makes it, `next` shows the first task that is not done, `complete`
marks a task and shows the one after it, and with the last task the plan is done and its store is
emptied in the same step. `start` makes a plan only where there is none; `reset` gives one up.
`Operation` gathers these and the direct operations on the store, so that a history is a list.
-/

set_option autoImplicit false

namespace Runbook

/-- What there is to do. -/
inductive Next where
  /-- There is no plan. -/
  | noTasks
  | inProgress (workflow : String) (task : Task) (progress : Progress)
  /-- All is done; the progress is that of the plan, if this is when it was finished. -/
  | allCompleted (workflow : String) (progress : Option Progress)
  deriving DecidableEq, Repr

/-- What starting a workflow did. -/
inductive Start where
  | generated (plan : Plan)
  /-- There is a plan for the workflow already. -/
  | resumable (active : String) (progress : Progress)
  /-- There is a plan for another workflow. -/
  | conflict (active : String) (progress : Progress)
  deriving DecidableEq

/-- A workflow as it is listed: the number of its steps, or what is wrong with its document. -/
structure Listed where
  name : String
  steps : Except String Nat

namespace Session

variable {σ : Type} [Store σ]

/-- A new plan for a workflow, in the place of what was there. -/
def generate (ctx : Context σ) (workflow : String) : Work σ Plan := do
  Work.tell (.generating workflow)
  let tasks ← ctx.tasks workflow
  if tasks = [] then Work.fail (.emptyWorkflow workflow)
  else
    let plan : Plan := { workflow, generated := ctx.now, tasks }
    Work.save plan
    Work.modify fun s => { s with finished := none }
    pure plan

/-- The end of a plan that has no task left. -/
def finish (plan : Plan) : Work σ Next := do
  let _ ← Work.delete
  Work.modify fun s => { s with finished := some plan.workflow }
  Work.tell (.finished plan.workflow)
  pure (.allCompleted plan.workflow (some plan.progress))

/-- The first task that is not done. -/
def next (now : Time.Timestamp) : Work σ Next := do
  match ← Work.load now with
  | none =>
    match (← Work.get).finished with
    | some workflow => pure (.allCompleted workflow none)
    | none => pure .noTasks
  | some plan =>
    match plan.firstIncomplete? with
    | none => finish plan
    | some task => pure (.inProgress plan.workflow task plan.progress)

/-- The tasks of a plan from the one behind the first with an id on, around to the one before it. -/
def around (plan : Plan) (id : String) : List Task :=
  let place := plan.ids.idxOf id
  plan.tasks.drop (place + 1) ++ plan.tasks.take place

/-- A task marked as done, and the one to do after it. -/
def complete (now : Time.Timestamp) (id : String) : Work σ Next := do
  let plan ← Work.require now
  match plan.find? id with
  | none => Work.fail (.store (.unknownTask id plan.ids))
  | some task =>
    if task.completed then Work.fail (.store (.alreadyCompleted id))
    else
      let marked ← Work.setCompleted now id true
      Work.tell (.completed id)
      match (around marked id).find? (!·.completed) with
      | none => finish marked
      | some task => pure (.inProgress marked.workflow task marked.progress)

/-- The plan given up; whether there was anything to give up. -/
def reset : Work σ Bool := do
  Work.modify fun s => { s with finished := none }
  Work.delete

/-- A new plan for a workflow if there is none, or else what there is. -/
def start (ctx : Context σ) (workflow : String) : Work σ Start := do
  match ← Work.load ctx.now with
  | none =>
    let plan ← generate ctx workflow
    pure (.generated plan)
  | some plan =>
    if plan.workflow = workflow then pure (.resumable plan.workflow plan.progress)
    else pure (.conflict plan.workflow plan.progress)

/-- A workflow as it is listed. -/
def listed (read : String → Traced DocumentError (List Workflow.Step)) (name : String) :
    List Event × Listed :=
  ((read name).events, ⟨name, ((read name).outcome.map List.length).mapError DocumentError.message⟩)

/-- All workflows as they are listed. -/
def list (ctx : Context σ) : Work σ (List Listed) := fun s =>
  let entries := ctx.names.map (listed ctx.read)
  ⟨entries.flatMap (·.1), s, .ok (entries.map (·.2))⟩

end Session

/-- What can be asked of a session. -/
inductive Operation where
  | generate (workflow : String)
  | start (workflow : String)
  | next
  | complete (id : String)
  | status
  | reset
  | list
  -- Directly on the store:
  | present
  | load
  | save (plan : Plan)
  | delete
  | setCompleted (id : String) (completed : Bool)

/-- What an operation answers. -/
inductive Answer where
  | plan (plan : Plan)
  | plan? (plan : Option Plan)
  | next (next : Next)
  | start (start : Start)
  | flag (b : Bool)
  | listed (entries : List Listed)
  | done

/-- The work of an operation. -/
def Operation.work {σ : Type} [Store σ] (ctx : Context σ) : Operation → Work σ Answer
  | .generate workflow => .plan <$> Session.generate ctx workflow
  | .start workflow => .start <$> Session.start ctx workflow
  | .next => .next <$> Session.next ctx.now
  | .complete id => .next <$> Session.complete ctx.now id
  | .status => .plan? <$> Work.load ctx.now
  | .reset => .flag <$> Session.reset
  | .list => .listed <$> Session.list ctx
  | .present => fun s => ⟨[], s, .ok (.flag (Store.present s.store))⟩
  | .load => .plan? <$> Work.load ctx.now
  | .save plan => (fun _ => .done) <$> Work.save plan
  | .delete => .flag <$> Work.delete
  | .setCompleted id completed => .plan <$> Work.setCompleted ctx.now id completed

end Runbook
