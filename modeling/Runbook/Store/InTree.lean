import Runbook.File.Tree
import Runbook.Store.Basic

/-!
# `Store/InTree` — the tasks file among the other files

A tasks file may be taken out of the files of a project before some work on it and put back
afterwards. A folder in its place counts as a file that holds no plan. Putting back what was taken
out unchanged changes nothing.

Where other work goes on among the files at the same time, the tasks file stays in its place: a
`Workspace` is a store that looks there whenever it is asked. It saves a plan under another name
first, and then moves it to its place, so that no half a file is ever there; a file of that other
name does not survive this.
-/

set_option autoImplicit false

namespace Runbook

/-- The tasks file that a path leads to. -/
def TasksFile.ofTree (t : File.Tree) (p : File.Path) : TasksFile where
  path := p.text
  bytes :=
    match t.node? p with
    | some (.file bytes) => some bytes
    | some .folder => some []
    | none => none

/-- The files with a tasks file as it now is. -/
def TasksFile.putInto (f : TasksFile) (t : File.Tree) (p : File.Path) : File.Tree :=
  if f = TasksFile.ofTree t p then t
  else
    match f.bytes with
    | some bytes => t.write p bytes
    | none => t.remove p

/-- What was taken out can be put back. -/
theorem TasksFile.putInto_ofTree (t : File.Tree) (p : File.Path) :
    (TasksFile.ofTree t p).putInto t p = t := by
  rw [TasksFile.putInto, if_pos rfl]

/-- Files among which there is a tasks file, and its place. -/
structure Workspace where
  files : File.Tree
  path : File.Path

namespace Workspace

/-- Where a plan is written before it is moved to its place. -/
def draftPath (w : Workspace) : File.Path := w.path.parent.child ("." ++ w.path.name ++ ".tmp")

/-- The tasks file. -/
def tasksFile (w : Workspace) : TasksFile := .ofTree w.files w.path

/-- The files with something done to the tasks file. -/
def update (w : Workspace) (f : TasksFile → TasksFile) : Workspace :=
  { w with files := (f w.tasksFile).putInto w.files w.path }

/-- The files without a draft. -/
def withoutDraft (w : Workspace) : Workspace :=
  if (w.files.read? w.draftPath).isSome then { w with files := w.files.remove w.draftPath } else w

end Workspace

instance : Store Workspace where
  present w := Store.present w.tasksFile
  load now w := Store.load now w.tasksFile
  save plan w := w.withoutDraft.update (Store.save plan)
  delete w := w.update Store.delete

end Runbook
