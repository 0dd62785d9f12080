import Runbook.Failure
import Runbook.Loop.Basic
import Runbook.Traced
import Runbook.Workflow.Step

/-!
# `Expansion` — from a workflow to its tasks

A workflow is expanded depth first, in the order of its documents: a plain step is one task, a step
that refers to another workflow is replaced by the tasks of that workflow, and a loop step becomes
the tasks of its items. A reference to a workflow that is open already contributes nothing, and is
told. A document that is missing or malformed ends the expansion.

What an expansion reads is a `Source`. It gives the steps of the workflow that is opened next, on a
branch that remembers those that are open. Reading may have effects, and what is read may depend on
what has happened before; but there is a measure of how much room is left (`Source.room`), and
whatever a workflow refers to has less room than the workflow itself. So every branch ends. Where the
workflows that can be met are known beforehand, the names that are not open yet are such a measure.
Where they are not, a bound on the number of open workflows is one (`Source.bounded`).
-/

set_option autoImplicit false

namespace Runbook

open Runbook.Workflow

/-! ## What an expansion reads -/

/-- The steps of workflows, read one at a time. -/
structure Source (m : Type → Type) where
  /-- How much room is left to a workflow that is opened while others are. -/
  room : (visited : List String) → (name : String) → Nat
  /-- The steps of a workflow that is opened while others are. -/
  read : (visited : List String) → (name : String) → name ∉ visited →
    m {steps : List Step // ∀ step ∈ steps, ∀ target, step.reference? = some target →
      room (name :: visited) target < room visited name}

namespace Source

variable {m : Type → Type} [Monad m]

/-- The steps that `read` gives for names, as long as fewer than `limit` workflows are open; beyond
that a workflow has no steps. -/
def bounded (limit : Nat) (read : String → m (List Step)) : Source m where
  room visited _ := limit - visited.length
  read visited name _ :=
    if h : visited.length < limit then
      (fun steps => ⟨steps, fun _ _ _ _ => by rw [List.length_cons]; omega⟩) <$> read name
    else pure ⟨[], by simp⟩

end Source

/-! ## Tasks -/

/-- What stands between the names of nested workflows in a task's source. -/
def sourceSeparator : String := " > "

/-- The source of a workflow's tasks, seen from the workflows it is nested in. -/
def sourceOf (lead name : String) : String :=
  if lead = "" then name else lead ++ sourceSeparator ++ name

/-- The task of a plain step. -/
def plainTask (step : Step) (source : String) : Task :=
  { name := step.name, description := Loop.orElse step.body step.name, source, step := step.id }

variable {m : Type → Type} [Monad m] [Telling m]

/-- The tasks of a workflow, not yet numbered. `lead` is the source of the workflow that refers to
it, and `visited` the workflows that are open. -/
def expand (src : Source m) (run : Runner m) (lead : String) (visited : List String)
    (name : String) : m (List Task) :=
  if hname : name ∈ visited then do
    Telling.tell (.circular (sourceOf lead name) name)
    pure []
  else do
    let ⟨steps, hsteps⟩ ← src.read visited name hname
    collect
      (fun (step : { step // step ∈ steps }) =>
        match haction : step.1.action with
        | .plain => pure [plainTask step.1 (sourceOf lead name)]
        | .loop .. => Loop.tasks run step.1 (sourceOf lead name)
        | .nested target =>
          have : src.room (name :: visited) target < src.room visited name :=
            hsteps step.1 step.2 target ((Step.reference?_eq_some_iff step.1 target).2 haction)
          expand src run (sourceOf lead name) (name :: visited) target)
      steps.attach
  termination_by src.room visited name

/-- The numbered tasks of a workflow. -/
def flatten (src : Source m) (run : Runner m) (name : String) : m (List Task) := do
  let tasks ← expand src run "" [] name
  Telling.tell (.flattened name tasks.length)
  pure (assignIds tasks)

end Runbook

/-!
## Where workflows come from

Expanding a workflow needs the steps behind every name it meets. A `Library` gives them, or the
reason why there are none. It also bounds what can be met: all names that its documents refer to are
in one list. The list is never shown; it is there because a chain of references that visits no name
twice is no longer than it.
-/

namespace Runbook

open Runbook.Workflow

/-- The workflows that names stand for. -/
structure Library where
  /-- The steps of a workflow, or what is wrong with its document. -/
  read : String → Traced DocumentError (List Step)
  /-- All names that some document refers to. -/
  references : List String
  mem_references : ∀ {name : String} {steps : List Step} {step : Step} {target : String},
    (read name).outcome = .ok steps → step ∈ steps → step.reference? = some target →
      target ∈ references

namespace Library

/-- What is told of a name that stands for no document. -/
def absent (name : String) : Traced DocumentError (List Step) :=
  .fail (.notFound name (name ++ ".md"))

/-- The library of workflows given with their steps. -/
def ofList (workflows : List (String × List Step)) : Library where
  read name :=
    match workflows.find? (·.1 == name) with
    | some (_, steps) => pure steps
    | none => absent name
  references := (workflows.flatMap (·.2)).filterMap Step.reference?
  mem_references {name steps step target} h hstep htarget := by
    refine List.mem_filterMap.2 ⟨step, List.mem_flatMap.2 ?_, htarget⟩
    cases hf : workflows.find? (·.1 == name) with
    | none => simp [hf, absent, Traced.fail] at h
    | some entry =>
      simp only [hf, Traced.pure_def, Except.ok.injEq] at h
      exact ⟨entry, List.mem_of_find?_eq_some hf, h ▸ hstep⟩

/-- The names referred to that are not among those visited. -/
def unvisited (lib : Library) (visited : List String) : List String :=
  lib.references.filter (· ∉ visited)

/-- How much is left to visit before `name`: a name that nothing refers to counts for one more. -/
def room (lib : Library) (visited : List String) (name : String) : Nat :=
  (lib.unvisited visited).length + if name ∈ lib.references then 0 else 1

theorem unvisited_cons (lib : Library) (visited : List String) (name : String) :
    lib.unvisited (name :: visited) = (lib.unvisited visited).filter (· ≠ name) := by
  simp only [unvisited, List.filter_filter, List.mem_cons, not_or, Bool.decide_and,
    decide_not]

/-- Visiting a name leaves less room to whatever its document refers to. -/
theorem room_lt (lib : Library) {visited : List String} {name target : String}
    (hname : name ∉ visited) (htarget : target ∈ lib.references) :
    lib.room (name :: visited) target < lib.room visited name := by
  have hle : (lib.unvisited (name :: visited)).length ≤ (lib.unvisited visited).length := by
    rw [unvisited_cons]
    exact List.length_filter_le ..
  unfold room
  rw [if_pos htarget]
  by_cases h : name ∈ lib.references
  · have hlt : (lib.unvisited (name :: visited)).length < (lib.unvisited visited).length := by
      rw [unvisited_cons]
      refine List.length_filter_lt_length_iff_exists.2 ⟨name, ?_, by simp⟩
      exact List.mem_filter.2 ⟨h, by simpa using hname⟩
    omega
  · rw [if_neg h]
    omega

/-- Steps that were read, known to refer to what has less room. -/
def opened (lib : Library) (visited : List String) (name : String) (h : name ∉ visited) :
    Traced DocumentError {steps : List Step // ∀ step ∈ steps, ∀ target,
      step.reference? = some target → lib.room (name :: visited) target < lib.room visited name} :=
  match hread : (lib.read name).outcome with
  | .error e => ⟨(lib.read name).events, .error e⟩
  | .ok steps =>
    { events := (lib.read name).events
      outcome := .ok ⟨steps, fun _ hstep _ htarget =>
        lib.room_lt h (lib.mem_references hread hstep htarget)⟩ }

/-- The library as what an expansion reads. -/
def source (lib : Library) : Source (Traced DocumentError) where
  room := lib.room
  read := lib.opened

end Library

end Runbook
