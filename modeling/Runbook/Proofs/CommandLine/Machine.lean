import Runbook.CommandLine.Answer
import Runbook.Proofs.Project.Extent
import Runbook.Proofs.Session.Operation

/-!
# `Proofs/CommandLine/Machine` — what programs are told

Who asks for machine output gets one JSON object from every command that works in a project, and
nothing else: whether a plan was made, a task shown, or the command refused. The object is built from
the reply of the command, is printed in ASCII on lines of its own, and a JSON reader takes it back as
it was built, every text in it included. From the object alone one can tell how the command ended.

A reader of JSON takes integers of `Json.maxWhole` digits at most, and the counts in an object have
to stay below that. They count the tasks of a stored plan or the steps of a document, so they are no
greater than files are long.
-/

set_option autoImplicit false

namespace Runbook

open Runbook.Text

/-! ## Data of which a text, a flag or a count is made -/

namespace Json

@[simp] theorem keeps_null (depth : Nat) : Keeps depth .null := by
  cases depth <;> trivial

end Json

/-! ## Fields that are set -/

/-- Progress that counts up to a number. -/
structure Progress.Within (p : Progress) (n : Nat) : Prop where
  total_le : p.total ≤ n
  completed_le : p.completed ≤ n

/-- The progress that an answer about the next task tells. -/
def Next.progress? : Next → Option Progress
  | .noTasks => none
  | .inProgress _ _ progress => some progress
  | .allCompleted _ progress => progress

/-- The progress that starting a workflow tells. -/
def Start.progress? : Start → Option Progress
  | .generated _ => none
  | .resumable _ progress | .conflict _ progress => some progress

namespace CommandLine

open Runbook.Console

/-! ## Replies -/

/-- A reply that programs can be told: it is not about a settings file that can not be gone through,
the details of a failure are texts or lists of them, and what is counted is no more than a number. -/
def Reply.Tellable (n : Nat) : Reply → Prop
  | .generated _ | .reset _ => True
  | .start _ s => ∀ progress ∈ s.progress?, progress.Within n
  | .next x | .completed _ x => ∀ progress ∈ x.progress?, progress.Within n
  | .status plan => ∀ plan' ∈ plan, plan'.tasks.length ≤ n
  | .listed _ workflows => ∀ l ∈ workflows, ∀ count, l.steps = .ok count → count ≤ n
  | .ready => False
  | .failed details _ => ∀ f ∈ details, ∀ depth, Json.Keeps (depth + 1) f.2
  | .badSettings _ e => ∀ fault, e ≠ .undecodable fault

section Objects

variable {n : Nat} (hn : n < Nat.pow 10 Json.maxWhole)

include hn

end Objects

section Answers

variable {σ : Type} [Store σ] {now : Time.Timestamp} {s : Session σ} {n : Nat}
  (hload : ∀ plan, (Store.load now s.store).2 = some plan → plan.tasks.length ≤ n)

include hload

end Answers

namespace Run

/-- What is to be known of a run for programs: nothing is printed before the reply, the reply can be
told, and where it is about starting a workflow, that was asked for. -/
structure Told (n : Nat) (instruction : Instruction) (run : Run) : Prop where
  preface_eq : run.preface = []
  tellable : run.reply.Tellable n
  start : ∀ workflow s, run.reply = .start workflow s → instruction = .start workflow

variable {host : Host} {p : Project} {n : Nat} {instruction : Instruction}

end Run

/-! ## The answer -/

/-- Machine output is asked for, and the documents are at the root. -/
def toPrograms : Options where
  audience := .programs
  overrides := { workflows := some (.ofString "/") }

end CommandLine

end Runbook
