import Runbook.Datum.Check
import Runbook.Datum.Json
import Runbook.Plan.Basic

/-!
# `Plan/Record` — plans as files

A plan is stored as a JSON object. Its keys are written in camel case; a plan that was written by
hand may spell them with underscores. The id and the flag of a task may be left out, and so may the
tasks of a plan and the time it was made, for which the time of reading stands in.
-/

set_option autoImplicit false

namespace Runbook

/-! ## Writing -/

/-- A task as data. -/
def Task.toDatum (task : Task) : Datum :=
  .record
    [("id", .text task.id), ("name", .text task.name), ("description", .text task.description),
      ("sourceWorkflow", .text task.source), ("sourceStep", .text task.step),
      ("completed", .bool task.completed)]

/-- The fields of a plan's object. -/
def Plan.toFields (plan : Plan) : Fields :=
  [("workflowName", .text plan.workflow), ("generatedAt", .text plan.generated.stored),
    ("tasks", .list (plan.tasks.map Task.toDatum))]

/-- A plan as data. -/
def Plan.toDatum (plan : Plan) : Datum := .record plan.toFields

/-- A plan as the text of a tasks file. -/
def Plan.store (plan : Plan) : String := Json.write .stored plan.toDatum

/-! ## Reading -/

/-- A text that may stand as a task's id. -/
def Datum.asTaskId (d : Datum) : Checked String :=
  d.asText.bind fun s => if isTaskId s then .valid s else .fault .notTaskId

/-- The task that data denotes. -/
def Task.ofDatum : Datum → Checked Task :=
  Datum.asRecordOf fun fields =>
    Task.mk <$> fields.default (.plain "id") "" Datum.asTaskId
      <*> fields.require (.plain "name") Datum.asText
      <*> fields.require (.plain "description") Datum.asText
      <*> fields.require ⟨"sourceWorkflow", "source_workflow"⟩ Datum.asText
      <*> fields.require ⟨"sourceStep", "source_step"⟩ Datum.asText
      <*> fields.default (.plain "completed") false (Datum.asBool .json)

/-- The plan that data denotes, read at the time `now`. -/
def Plan.ofDatum (now : Time.Timestamp) : Datum → Checked Plan :=
  Datum.asRecordOf fun fields =>
    Plan.mk <$> fields.require ⟨"workflowName", "workflow_name"⟩ Datum.asText
      <*> fields.default ⟨"generatedAt", "generated_at"⟩ now Datum.asTimestamp
      <*> fields.default (.plain "tasks") [] (Datum.asListOf Task.ofDatum)

/-- A value read from JSON and checked. -/
def Checked.ofJson {α : Type} (check : Datum → Checked α) (bytes : Text.Utf8.Bytes) : Checked α :=
  (Checked.ofOption .unreadable (Json.readBytes? bytes)).bind check

end Runbook
