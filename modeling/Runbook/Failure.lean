import Runbook.Text.Cut
import Runbook.Text.Numeral
import Runbook.Text.Utf8

/-!
# `Failure` — what can go wrong

An operation on plans fails for one of three reasons: a document that it needs is missing or
malformed, the workflow comes to nothing, or the tasks do not allow what was asked. What is
recovered from on the way (a circular reference, a loop command that fails) is no failure but an
event.
-/

set_option autoImplicit false

namespace Runbook

open Runbook.Text

/-- A workflow document that cannot be used. -/
inductive DocumentError where
  /-- No document stands behind the workflow's name. -/
  | notFound (workflow path : String)
  /-- The document is not text. -/
  | undecodable (workflow path : String) (fault : Utf8.Fault)
  /-- A step has more than one marker; `line` is the line of its heading. -/
  | conflictingMarkers (workflow step : String) (line : Nat)
  deriving DecidableEq, Repr

/-- Something that the stored tasks do not allow. -/
inductive StoreError where
  | missing
  /-- No task has the id; the ids that there are, in order. -/
  | unknownTask (id : String) (known : List String)
  | alreadyCompleted (id : String)
  deriving DecidableEq, Repr

/-- Why an operation on plans failed. -/
inductive Failure where
  | document (e : DocumentError)
  | emptyWorkflow (workflow : String)
  | store (e : StoreError)
  deriving DecidableEq, Repr

/-- The text of a document error. -/
def DocumentError.message : DocumentError → String
  | .notFound workflow path =>
    "Workflow '" ++ workflow ++ "' not found: expected document at " ++ path
  | .undecodable workflow path fault =>
    "Workflow '" ++ workflow ++ "' at " ++ path ++ " is not valid UTF-8: " ++ fault.message
  | .conflictingMarkers workflow step line =>
    "Step '" ++ step ++ "' (" ++ workflow ++ ".md, line " ++ number line ++ ") declares more " ++
      "than one runner marker; expected at most one of workflow:<name> or loop:<VAR>"

/-- The text of a store error. -/
def StoreError.message : StoreError → String
  | .missing => "No tasks file found. Run 'plait generate <workflow>' first."
  | .unknownTask id known =>
    "Task " ++ id ++ " not found. Available tasks: " ++
      (if known.isEmpty then "none" else joinWith ", " known)
  | .alreadyCompleted id => "Task " ++ id ++ " is already completed"

/-- The text of a failure. -/
def Failure.message : Failure → String
  | .document e => e.message
  | .emptyWorkflow workflow =>
    "No executable tasks found in '" ++ workflow ++ "': it has no " ++
      "'### Step N: Title' headers, or every step was skipped as a circular reference"
  | .store e => e.message

end Runbook
