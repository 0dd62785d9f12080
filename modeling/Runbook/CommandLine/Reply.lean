import Runbook.Console.Basic
import Runbook.Session.Operation
import Runbook.Settings.Basic

/-!
# `CommandLine/Reply` — what a command leads to

The reply to a command is a value: what was made, found, or refused. Its exit status (`Reply.exit`)
and what is told of it (`Reply.notice`) are functions of that value and nothing else, so that people
and programs learn of the same things, and the status is the same for both.
-/

set_option autoImplicit false

namespace Runbook.CommandLine

open Runbook.Console Runbook.Text

/-- What a command leads to. -/
inductive Reply where
  | generated (plan : Plan)
  | start (workflow : String) (start : Start)
  | next (next : Next)
  | completed (id : String) (next : Next)
  | status (plan : Option Plan)
  | reset (removed : Bool)
  | listed (folder : String) (workflows : List Listed)
  /-- The project is set up; there is nothing more to say. -/
  | ready
  /-- It could not be done; the details are for programs. -/
  | failed (details : Fields) (failure : Failure)
  /-- The settings file at a path is of no use. -/
  | badSettings (path : String) (error : SettingsError)

/-- The exit status after bad settings. A file that can not be gone through ends the program. -/
def settingsExit : SettingsError → Nat
  | .undecodable _ => 1
  | .malformed | .invalid _ => 2

/-- The exit status of a command. -/
def Reply.exit : Reply → Nat
  | .start _ (.conflict ..) | .failed .. => 1
  | .badSettings _ e => settingsExit e
  | .generated _ | .start _ (.generated _) | .start _ (.resumable ..) | .next _ | .completed ..
  | .status _ | .reset _ | .listed .. | .ready => 0

/-! ## Plans -/

/-- The sources of some tasks with the number of tasks from each, in the order they first occur. -/
def sourceCounts (tasks : List Task) : List (String × Nat) :=
  tasks.foldl (fun counts t =>
    if counts.any (·.1 == t.source) then
      counts.map fun (s, n) => if s = t.source then (s, n + 1) else (s, n)
    else counts ++ [(t.source, 1)]) []

/-- A new plan, for people. -/
def planBlocks (plan : Plan) : List Block :=
  .line ("\nGenerated " ++ number plan.tasks.length ++ " tasks") ::
    .line "\nTasks by source:" ::
    (sourceCounts plan.tasks).map (fun (s, n) => .line ("  " ++ s ++ ": " ++ number n)) ++
    [.line "\nNext step: Start execution:", .line "  plait next"]

/-- A new plan. -/
def planNotice (plan : Plan) : Notice := { blocks := planBlocks plan, object := some plan.toFields }

/-! ## Progress -/

/-- How many tasks of how many are done. -/
def fraction (p : Progress) : String := number p.completed ++ "/" ++ number p.total

/-- The progress of a plan that was there already. -/
def knownProgress (p : Progress) : Datum :=
  .record [("total", .nat p.total), ("completed", .nat p.completed)]

/-- The progress of a plan that is worked on. -/
def fullProgress (p : Progress) : Fields :=
  [("total", .nat p.total), ("completed", .nat p.completed), ("remaining", .nat p.remaining)]

/-- What starting a workflow did. -/
def startNotice (workflow : String) : Start → Notice
  | .generated plan =>
    { planNotice plan with
      blocks := .line ("\nStarting new workflow: " ++ workflow) :: planBlocks plan }
  | .resumable active progress =>
    { blocks :=
        [.line ("\nFound existing tasks for workflow: " ++ workflow),
          .line ("  Progress: " ++ fraction progress ++ " tasks completed"),
          .line "\n  To continue where you left off:", .line "    plait next",
          .line "  To start over with a fresh task list:",
          .line ("    plait generate " ++ workflow)]
      object := some
        [("action", .text "resumable"), ("workflow", .text workflow),
          ("active_workflow", .text active), ("progress", knownProgress progress)] }
  | .conflict active progress =>
    { blocks :=
        [.line ("Error: " ++ literal ("A different workflow is in progress: " ++ active)),
          .line ("  To switch to " ++ workflow ++ ", first run: plait reset")]
      object := some
        [("action", .text "conflict"), ("workflow", .text workflow),
          ("active_workflow", .text active), ("progress", knownProgress progress)] }

/-! ## Tasks -/

/-- The task to do, for people. -/
def taskBlocks (task : Task) (progress : Progress) : List Block :=
  [.line ("\nProgress: " ++ fraction progress ++ " tasks completed"),
    .line ("Task: " ++ task.id ++ " - " ++ literal task.name),
    .line ("Source: " ++ literal task.source),
    .panel (task.id ++ " " ++ task.name) task.description,
    .line "\nAfter completing this task, run:", .line ("  plait complete " ++ task.id)]

/-- What there is to do. -/
def nextNotice : Next → Notice
  | .noTasks =>
    { blocks :=
        [.line "No pending tasks: all tasks are completed or none were generated.",
          .line "  Start with: plait generate <workflow>"]
      object := some [("state", .text "no_tasks"), ("workflow", .null)] }
  | .inProgress workflow task progress =>
    { blocks := taskBlocks task progress
      object := some
        [("state", .text "in_progress"), ("workflow", .text workflow), ("task", task.toDatum),
          ("progress", .record (fullProgress progress))] }
  | .allCompleted workflow progress =>
    { blocks :=
        [.line ("\nAll tasks completed for workflow: " ++ literalInside workflow),
          .line "Tasks file cleaned up."]
      object := some
        ([("state", .text "all_completed"), ("workflow", .text workflow)] ++
          (progress.map fun p => ("progress", .record (fullProgress p))).toList) }

/-- A task done, and what there is to do after it. -/
def completedNotice (id : String) (next : Next) : Notice :=
  let after := nextNotice next
  { after with blocks := .line ("Task " ++ id ++ " marked as completed.") :: after.blocks }

/-! ## Reports -/

/-- A task as a row of the table: its mark, its id, its name and where it comes from. -/
def taskRow (t : Task) : List String := [if t.completed then "✓" else "·", t.id, t.name, t.source]

/-- The state of a plan. The column of the marks is one cell wide even if there are none. -/
def statusNotice : Option Plan → Notice
  | none =>
    { blocks := [.line "No tasks file found. Run: plait generate <workflow>"]
      object := some [("state", .text "no_tasks")] }
  | some plan =>
    { blocks :=
        [.line ("\nWorkflow: " ++ plan.workflow), .line ("Generated: " ++ plan.generated.brief),
          .line ("Tasks: " ++ fraction plan.progress ++ " completed, " ++
            number plan.progress.remaining ++ " remaining"),
          .table [⟨"", some 1⟩, ⟨"ID", none⟩, ⟨"Task", none⟩, ⟨"Source", none⟩]
            (plan.tasks.map taskRow)]
      object := some
        ([("workflow", .text plan.workflow), ("generated_at", .text plan.generated.reported)] ++
          fullProgress plan.progress ++ [("tasks", .list (plan.tasks.map Task.toDatum))]) }

/-- A workflow in a list, for people. -/
def listedBlock (l : Listed) : Block :=
  match l.steps with
  | .ok n => .line ("  " ++ l.name ++ " (" ++ number n ++ " steps)")
  | .error e => .line ("  " ++ l.name ++ " (parse error: " ++ literal e ++ ")")

/-- A workflow in a list, for programs. -/
def listedDatum (l : Listed) : Datum :=
  match l.steps with
  | .ok n => .record [("name", .text l.name), ("steps", .nat n), ("error", .null)]
  | .error e => .record [("name", .text l.name), ("steps", .null), ("error", .text e)]

/-- The workflows of a folder. -/
def listedNotice (folder : String) (workflows : List Listed) : Notice where
  blocks :=
    if workflows.isEmpty then [.line ("No workflows found in " ++ folder)]
    else .line ("\nAvailable workflows in " ++ folder ++ ":\n") :: workflows.map listedBlock
  object := some
    [("workflows_dir", .text folder), ("workflows", .list (workflows.map listedDatum))]

/-- What is told of a reply. -/
def Reply.notice : Reply → Notice
  | .generated plan => planNotice plan
  | .start workflow s => startNotice workflow s
  | .next n => nextNotice n
  | .completed id n => completedNotice id n
  | .status plan => statusNotice plan
  | .reset removed =>
    { blocks := [.line (if removed then "Tasks file reset" else "No tasks file to reset.")]
      object := some [("reset", .bool removed)] }
  | .listed folder workflows => listedNotice folder workflows
  | .ready => {}
  | .failed details failure => .error failure.message details
  | .badSettings path e => ((e.message? path).map fun message => .error message []).getD {}

end Runbook.CommandLine
