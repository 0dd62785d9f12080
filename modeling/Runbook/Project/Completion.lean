import Runbook.Project.Basic
import Runbook.Text.Case
import Runbook.Text.Cut

/-!
# `Project/Completion` — finishing what the user began to type

While the user types, the shell asks for the words that the beginning may become: the names of
workflows, or the ids of tasks that are still to be done. Settings that make no sense are not the
matter then, and nothing is offered.
-/

set_option autoImplicit false

namespace Runbook.Project

open Runbook.Text

/-- Suggestions under the settings of a project. Only a settings file that can not be gone through is
an error. -/
def suggest (p : Project) (overrides : Overrides)
    (offer : Settings → Traced Unreadable (List String)) : Traced Unreadable (List String) :=
  match p.settings overrides with
  | .ok s => offer s
  | .error (.undecodable reason) => .fail reason
  | .error _ => pure []

/-- The workflows whose names begin as typed. -/
def completeWorkflow (p : Project) (overrides : Overrides) (typed : String) :
    Traced Unreadable (List String) :=
  p.suggest overrides fun s => pure ((p.documents s).names.filter (startsWith typed))

/-- The ids in a plan that begin as typed, in capitals, and are still to be done. -/
def openIds (plan : Plan) (typed : String) : List String :=
  (plan.tasks.filter fun t => !t.completed && startsWith (upper typed) t.id).map (·.id)

/-- The tasks still to be done whose ids begin as typed. -/
def completeTask (p : Project) (host : Host) (overrides : Overrides) (typed : String) :
    Traced Unreadable (List String) :=
  p.suggest overrides fun s =>
    let (events, plan) := Store.load host.now (p.workspace s)
    ⟨events, .ok ((plan.map fun plan => openIds plan typed).getD [])⟩

end Runbook.Project
