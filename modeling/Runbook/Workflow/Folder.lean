import Runbook.Expansion.Basic
import Runbook.File.Tree
import Runbook.Text.Lines
import Runbook.Workflow.Reading

/-!
# `Workflow/Folder` — workflows in a folder

Each workflow has a document of its own, the file with the workflow's name and the ending `.md`. A
name may lead through other folders, because it is read as part of a path. The folder is a
`Library`: whatever name is read, the steps come from one of the files that there are.
-/

set_option autoImplicit false

namespace Runbook.Workflow

open Runbook.Text

/-- A folder of workflow documents, and how they are read. -/
structure Folder where
  tree : File.Tree
  path : File.Path
  strictness : Strictness

/-- The text of a document. -/
def documentText (cs : List Char) : String := String.ofList (unifyNewlines cs)

namespace Folder

/-- Where the document of a workflow is expected. -/
def documentPath (f : Folder) (workflow : String) : File.Path := f.path.child (workflow ++ ".md")

/-- The steps of a workflow. -/
def read (f : Folder) (workflow : String) : Traced DocumentError (List Step) :=
  match f.tree.read? (f.documentPath workflow) with
  | none => .fail (.notFound workflow (f.documentPath workflow).text)
  | some bytes =>
    match Utf8.decode bytes with
    | .error fault => .fail (.undecodable workflow (f.documentPath workflow).text fault)
    | .ok cs => do
      let steps ← readSteps f.strictness workflow (documentText cs)
      Traced.tell (.parsed steps.length (f.documentPath workflow).text)
      pure steps

/-- The name of the workflow whose document has a name, if it is a document's name. A name that is
nothing but the ending is kept whole. -/
def workflowOf? (file : String) : Option String :=
  (before? ".md".toList file.toList).map fun stem =>
    if stem.isEmpty then file else String.ofList stem

/-- The names of all workflows, in order. -/
def names (f : Folder) : List String :=
  let found := (f.tree.entriesOf f.path).filterMap fun
    | (file, .file _) => workflowOf? file
    | (_, .folder) => none
  found.mergeSort fun a b => decide (a ≤ b)

/-- How many entries have the name of a document, folders included. -/
def documentCount (f : Folder) : Nat :=
  (f.tree.entriesOf f.path).countP fun (file, _) => (workflowOf? file).isSome

/-- The workflows that a document refers to. -/
def referencesIn (bytes : Utf8.Bytes) : List String :=
  match Utf8.decode bytes with
  | .error _ => []
  | .ok cs => ((Outline.ofText (documentText cs)).steps "").filterMap Step.reference?

/-- What a section refers to does not depend on the name of its workflow. -/
theorem reference?_step (s : Section) (w w' : String) :
    (s.step w).reference? = (s.step w').reference? := by
  unfold Section.step Step.reference? Step.action
  rcases s.marks.getLast? with _ | (_ | _) <;> rfl

/-- Steps that are read come from a file of the tree. -/
theorem exists_of_read {f : Folder} {workflow : String} {steps : List Step}
    (h : (f.read workflow).outcome = .ok steps) :
    ∃ bytes ∈ f.tree.files, ∃ cs, Utf8.decode bytes = .ok cs ∧
      steps = (Outline.ofText (documentText cs)).steps workflow := by
  unfold read at h
  split at h
  · simp [Traced.fail] at h
  · next bytes hb =>
    split at h
    · simp [Traced.fail] at h
    · next cs hcs =>
      refine ⟨bytes, File.Tree.mem_files_of_read? hb, cs, hcs, ?_⟩
      rw [Traced.outcome_bind] at h
      cases hr : (readSteps f.strictness workflow (documentText cs)).outcome with
      | error e => simp [hr, Except.bind] at h
      | ok steps' =>
        have := steps_of_readSteps hr
        simp only [hr, Except.bind, Traced.outcome_bind, Traced.tell, Traced.pure_def,
          Except.ok.injEq] at h
        exact h ▸ this

/-- The workflows of a folder as a library. -/
def library (f : Folder) : Library where
  read := f.read
  references := f.tree.files.flatMap referencesIn
  mem_references {name steps step target} h hstep htarget := by
    obtain ⟨bytes, hb, cs, hcs, rfl⟩ := exists_of_read h
    refine List.mem_flatMap.2 ⟨bytes, hb, ?_⟩
    obtain ⟨s, hs, rfl⟩ := List.mem_map.1 hstep
    simp only [referencesIn, hcs]
    refine List.mem_filterMap.2 ⟨s.step "", List.mem_map.2 ⟨s, hs, rfl⟩, ?_⟩
    rw [← htarget]
    exact reference?_step s "" name

end Folder

end Runbook.Workflow
