import Runbook.Failure
import Runbook.Text.Case
import Runbook.Traced
import Runbook.Workflow.Outline
import Runbook.Workflow.Step

/-!
# `Workflow/Reading` — from a document to its steps

Each section of a document becomes a step. A section should have one mark at most. With more, a
strict reader refuses the document and names the first such section; a lenient one lets the last
mark decide and tells one event for every mark after the first. Apart from this the two give the
same steps, because the steps are made from the same outline.
-/

set_option autoImplicit false

namespace Runbook.Workflow

open Runbook.Text

/-- How strictly a step's markers are taken. -/
inductive Strictness where
  /-- A step with more than one marker makes the document unusable. -/
  | strict
  /-- Of several markers the last one counts. -/
  | lenient
  deriving DecidableEq, Repr

/-- The kind that a mark gives a step. -/
def Mark.kind : Mark → Kind
  | .workflow _ => .nested
  | .loop .. => .loop

/-- The step that a section describes. The last mark alone decides what it does. -/
def Section.step (workflow : String) (s : Section) : Step :=
  let base : Step :=
    { id := slug s.title, name := s.title, body := s.body, workflow, line := s.line }
  match s.marks.getLast? with
  | none => base
  | some (.workflow target) => { base with kind := .nested, target := some target }
  | some (.loop var command) => { base with kind := .loop, var := some var, command }

theorem line_step (workflow : String) (s : Section) : (s.step workflow).line = s.line := by
  unfold Section.step
  dsimp only
  split <;> rfl

theorem body_step (workflow : String) (s : Section) : (s.step workflow).body = s.body := by
  unfold Section.step
  dsimp only
  split <;> rfl

theorem command_step (workflow : String) (s : Section) : (s.step workflow).command =
    match s.marks.getLast? with
    | some (.loop _ command) => command
    | _ => none := by
  unfold Section.step
  cases s.marks.getLast? with
  | none => rfl
  | some mark => cases mark <;> rfl

/-- A section whose marks conflict. -/
def Section.conflicted (s : Section) : Bool := 2 ≤ s.marks.length

/-- The events of a section that is read leniently: one for every mark after the first. -/
def Section.extraMarkers (workflow : String) (s : Section) : List Event :=
  s.marks.tail.map fun mark => .extraMarker s.title workflow s.line mark.kind

/-- The steps of an outline, in the order of the document. -/
def Outline.steps (workflow : String) (o : Outline) : List Step :=
  o.sections.map (Section.step workflow)

/-- What is told of a document that ends inside a fenced block. -/
def Outline.endingEvents (workflow : String) (o : Outline) : List Event :=
  if o.ending.depth = 0 then [] else [.openFence workflow o.ending.depth]

/-- The steps of a document. -/
def readSteps (strictness : Strictness) (workflow text : String) :
    Traced DocumentError (List Step) :=
  let outline := Outline.ofText text
  match strictness, outline.sections.find? Section.conflicted with
  | .strict, some s => .fail (.conflictingMarkers workflow s.title s.line)
  | _, _ =>
    { events :=
        outline.sections.flatMap (Section.extraMarkers workflow) ++ outline.endingEvents workflow
      outcome := .ok (outline.steps workflow) }

/-- A lenient reader takes every document. -/
theorem outcome_readSteps_lenient (workflow text : String) :
    (readSteps .lenient workflow text).outcome = .ok ((Outline.ofText text).steps workflow) := by
  cases (Outline.ofText text).sections.find? Section.conflicted <;> simp [readSteps]

/-- A strict reader takes the documents without a section whose marks conflict. -/
theorem outcome_readSteps_strict (workflow text : String) :
    (readSteps .strict workflow text).outcome =
      match (Outline.ofText text).sections.find? Section.conflicted with
      | some s => .error (.conflictingMarkers workflow s.title s.line)
      | none => .ok ((Outline.ofText text).steps workflow) := by
  cases hf : (Outline.ofText text).sections.find? Section.conflicted <;>
    simp [readSteps, Traced.fail, hf]

/-- Whatever the strictness, steps that are read are those of the outline. -/
theorem steps_of_readSteps {strictness : Strictness} {workflow text : String} {steps : List Step}
    (h : (readSteps strictness workflow text).outcome = .ok steps) :
    steps = (Outline.ofText text).steps workflow := by
  cases strictness <;>
    cases hf : (Outline.ofText text).sections.find? Section.conflicted <;>
    simp_all [readSteps, Traced.fail]

end Runbook.Workflow
