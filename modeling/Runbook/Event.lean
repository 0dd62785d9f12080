import Runbook.Text.Numeral
import Runbook.Workflow.Step

/-!
# `Event` — what is told on the way

Operations tell what they do, and what they had to work around, as a list of events beside their
result. An event is a fact of the domain, so that statements about, say, circular references can
speak of `Event.circular`; its level and its wording are decided here, once, for all operations.

Warnings are exactly the problems that are recovered from where they occur.
-/

set_option autoImplicit false

namespace Runbook

open Runbook.Text Runbook.Workflow

/-- Something that happened during an operation. -/
inductive Event where
  /-- A step has a further marker, of the given kind; it replaces the earlier one. -/
  | extraMarker (step workflow : String) (line : Nat) (kind : Kind)
  /-- A document ends inside a fenced block. -/
  | openFence (workflow : String) (depth : Nat)
  /-- A document was read. -/
  | parsed (steps : Nat) (path : String)
  /-- A reference back to a workflow that is open already; `path` is the chain of open workflows. -/
  | circular (path workflow : String)
  | running (command : String)
  | loopFailed (step reason : String)
  | loopEmpty (step : String)
  | loopExpanded (step : String) (items : Nat)
  | flattened (workflow : String) (tasks : Nat)
  | generating (workflow : String)
  | completed (id : String)
  | finished (workflow : String)
  /-- A tasks file is there but holds no plan. -/
  | unreadable (path : String)
  deriving DecidableEq, Repr

/-- How much an event matters. -/
inductive Level where
  | debug
  | info
  | warning
  deriving DecidableEq, Repr

/-- The name of a level in a log. -/
def Level.text : Level → String
  | .debug => "DEBUG"
  | .info => "INFO"
  | .warning => "WARNING"

/-- Levels in the usual numbering of logs. -/
def Level.rank : Level → Nat
  | .debug => 10
  | .info => 20
  | .warning => 30

namespace Event

/-- How much an event matters. -/
def level : Event → Level
  | .extraMarker .. | .circular .. | .loopFailed .. | .loopEmpty .. | .unreadable .. => .warning
  | .loopExpanded .. | .generating .. => .info
  | .openFence .. | .parsed .. | .running .. | .flattened .. | .completed .. | .finished .. =>
    .debug

/-- The words for an event. -/
def message : Event → String
  | .extraMarker step workflow line kind =>
    "Step '" ++ step ++ "' (" ++ workflow ++ ".md, line " ++ number line ++
      ") has more than one marker; using the last (" ++ kind.text ++ ")"
  | .openFence workflow depth =>
    workflow ++ ".md ends inside a fenced block (depth " ++ number depth ++ ")"
  | .parsed steps path => "Parsed " ++ number steps ++ " steps from " ++ path
  | .circular path workflow =>
    "Circular workflow reference: " ++ path ++ " (skipping '" ++ workflow ++
      "' to prevent infinite expansion)"
  | .running command => "Running loop command: " ++ command
  | .loopFailed step reason => "Loop command for '" ++ step ++ "' failed: " ++ reason
  | .loopEmpty step => "Loop '" ++ step ++ "' returned no items"
  | .loopExpanded step items => "Loop '" ++ step ++ "' expanded to " ++ number items ++ " items"
  | .flattened workflow tasks => "Flattened " ++ workflow ++ " into " ++ number tasks ++ " tasks"
  | .generating workflow => "Generating tasks for workflow: " ++ workflow
  | .completed id => "Marked " ++ id ++ " completed"
  | .finished workflow => "All tasks completed for " ++ workflow ++ "; tasks file removed"
  | .unreadable path => "Ignoring unreadable tasks file " ++ path

/-- An event as a line of a log. -/
def render (e : Event) : String := e.level.text ++ " " ++ e.message

end Event

/-- The least level that is shown, from the flags of the command line: quiet wins over debugging,
and debugging over the count of verbosity flags. -/
def shownLevel (verbosity : Int) (quiet debug : Bool) : Level :=
  if quiet then .warning else if debug || 1 ≤ verbosity then .debug else .info

end Runbook
