/-!
# `Workflow/Step` — steps

A step is one structural unit of a workflow document. Its kind says how it contributes to a plan,
and the optional fields belong to the kinds: a target to a nested workflow, a command and a variable
to a loop. Steps also come from outside, where any combination may occur, so what a step *does* is
not read off the kind alone: `Step.action` is the reading, and a step that is marked as a nested
workflow but names no target does what a plain one does.
-/

set_option autoImplicit false

namespace Runbook.Workflow

/-- How a step contributes to a plan. -/
inductive Kind where
  | task
  | nested
  | loop
  deriving DecidableEq, Repr

/-- The name of a kind in records and messages. -/
def Kind.text : Kind → String
  | .task => "task"
  | .nested => "nested-workflow"
  | .loop => "loop"

/-- The kind with a given name. -/
def Kind.ofText? (s : String) : Option Kind :=
  [Kind.task, .nested, .loop].find? (·.text == s)

/-- A step of a workflow document. -/
structure Step where
  /-- The slug of the title. -/
  id : String
  name : String
  kind : Kind := .task
  /-- The step's text without its marker lines and its command. -/
  body : String := ""
  /-- The workflow that stands in the place of a nested step. -/
  target : Option String := none
  /-- The command that prints a loop's items. -/
  command : Option String := none
  /-- The name that stands for an item in a loop's text. -/
  var : Option String := none
  /-- The workflow that the step was read from. -/
  workflow : String
  /-- The line of the step's heading, counted from one. -/
  line : Int
  deriving DecidableEq, Repr

/-- What a step does in a plan. -/
inductive Action where
  | plain
  | nested (target : String)
  | loop (command var : Option String)
  deriving DecidableEq, Repr

/-- What a step does in a plan. -/
def Step.action (s : Step) : Action :=
  match s.kind, s.target with
  | .loop, _ => .loop s.command s.var
  | .nested, some target => if target = "" then .plain else .nested target
  | _, _ => .plain

/-- The workflow that a step refers to. -/
def Step.reference? (s : Step) : Option String :=
  match s.action with
  | .nested target => some target
  | _ => none

theorem Step.reference?_eq_some_iff (s : Step) (t : String) :
    s.reference? = some t ↔ s.action = .nested t := by
  unfold Step.reference?
  split <;> simp_all

/-- What is referred to has a name. -/
theorem Step.ne_empty_of_reference? {s : Step} {t : String} (h : s.reference? = some t) :
    t ≠ "" := by
  rw [Step.reference?_eq_some_iff] at h
  unfold Step.action at h
  split at h
  · simp at h
  · split at h
    · simp at h
    · next hne =>
      injection h with h
      exact h ▸ hne
  · simp at h

end Runbook.Workflow
