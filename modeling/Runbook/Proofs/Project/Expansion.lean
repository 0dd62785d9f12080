import Runbook.Project.Basic
import Runbook.Proofs.Session.Depth
import Runbook.Proofs.Session.Failure

/-!
# `Proofs/Project/Expansion` — projects whose documents stay as they are

The commands of a project run among its documents and may change them, so a project reads each
document when it comes to it, and stops at a number of open workflows (`Project.maxNesting`). Where
commands leave the documents alone, none of this makes a difference: the tasks of a workflow are
those that the documents have as a library (`tasks_context_eq_flatten`), and the limit is never met.

So what is known of libraries holds of such projects: what becomes of making a plan
(`decided_generate_context`), and what is told of references that lead back (`warns_tasks_context`).
And what fails in such a project leaves all its files as they were (`perform_of_error`).
-/

set_option autoImplicit false

namespace Runbook.Project

open Runbook.Workflow

/-- Processes that change no files of a project. -/
def LeavesFiles (p : Project) (host : Host) : Prop := ∀ asked, (host.execute p asked).2 = p.files

/-- The files of a session are those of a project. -/
def HasFilesOf (p : Project) (s : Session Workspace) : Prop := s.store.files = p.files

/-- The commands that loops of a project run. -/
def commands (p : Project) (host : Host) (settings : Settings) : Runner (Work Workspace) :=
  Command.runner (p.execute host) (some settings.shell) (some settings.timeout)

variable {p : Project} {host : Host}

theorem agreeOn_read (settings : Settings) (name : String) :
    Work.AgreeOn p.HasFilesOf (p.read settings name)
      ((p.documents settings).library.readIn Workspace name) := by
  intro s hs
  refine ⟨?_, hs⟩
  unfold read
  rw [show s.store.files = p.files from hs]
  rfl

theorem agreeOn_commands (h : p.LeavesFiles host) (settings : Settings) (command : String) :
    Work.AgreeOn p.HasFilesOf (p.commands host settings command)
      (p.commands host settings command) := by
  refine .bind (.of_silent fun _ => rfl) fun _ _ _ => .bind (fun s hs => ⟨rfl, ?_⟩) fun _ _ _ =>
    .of_silent fun _ => rfl
  show (host.execute { p with files := s.store.files } _).2 = p.files
  rw [show s.store.files = p.files from hs]
  exact h _

theorem agreeOn_tasks_context (h : p.LeavesFiles host) (settings : Settings) (workflow : String) :
    Work.AgreeOn p.HasFilesOf ((p.context host settings).tasks workflow)
      (flatten ((p.documents settings).library.sourceIn Workspace) (p.commands host settings)
        workflow) := by
  have hlimit : ([] : List String).length + (p.documents settings).library.depth [] workflow ≤
      p.maxNesting settings := by
    have hdepth := (p.documents settings).library.depth_le [] workflow
    have htargets := (p.documents settings).library.ncard_targets_le
    unfold maxNesting
    rw [List.length_nil]
    omega
  exact agreeOn_flatten (agreeOn_expand_bounded (agreeOn_read settings)
    (agreeOn_commands h settings) "" [] workflow hlimit)

/-- **The limit is never met where commands leave the documents alone.** The tasks of a workflow are
those that its documents have as a library. -/
theorem tasks_context_eq_flatten (h : p.LeavesFiles host) (settings : Settings) (workflow : String)
    {s : Session Workspace} (hs : p.HasFilesOf s) :
    (p.context host settings).tasks workflow s =
      flatten ((p.documents settings).library.sourceIn Workspace) (p.commands host settings)
        workflow s :=
  (agreeOn_tasks_context h settings workflow s hs).1

/-- What fails in such a project leaves the project as it was. -/
theorem perform_of_error (h : p.LeavesFiles host) (settings : Settings) (op : Operation)
    {e : Failure}
    (herror : (p.perform settings (op.work (p.context host settings))).1.answer = .error e) :
    (p.perform settings (op.work (p.context host settings))).2 = p := by
  have hwithin : (op.work (p.context host settings)).FailsWithin p.HasFilesOf :=
    failsWithin_work fun _ workflow => (agreeOn_tasks_context h settings workflow).left
  have hfiles := hwithin ⟨p.workspace settings, none⟩ e rfl herror
  show { p with files := _ } = p
  rw [show (op.work (p.context host settings) ⟨p.workspace settings, none⟩).session.store.files =
    p.files from hfiles]

/-- What becomes of making a plan in such a project is decided by its documents. -/
theorem decided_generate_context (h : p.LeavesFiles host) (settings : Settings) (workflow : String)
    {s : Session Workspace} (hs : p.HasFilesOf s) :
    (p.documents settings).library.Decided workflow
      (Session.generate (p.context host settings) workflow s).answer := by
  have hrun : (p.commands host settings).Returns := fun _ _ => ⟨_, rfl⟩
  -- Before the tasks are asked for, an event is told; the session is the same then.
  have hgenerate : Session.generate (p.context host settings) workflow s =
      Session.generate (.withCommands (p.documents settings).library (p.documents settings).names
        (p.commands host settings) host.now) workflow s :=
    congrArg (fun r => Report.mk (.generating workflow :: r.events) r.session r.answer)
      (Work.bind_apply_congr (tasks_context_eq_flatten h settings workflow hs) _)
  rw [hgenerate]
  exact ensures_generate hrun _ _ workflow s

/-- What is told of references that lead back in the documents of such a project. -/
theorem warns_tasks_context (h : p.LeavesFiles host) (settings : Settings) (workflow : String)
    {s : Session Workspace} (hs : p.HasFilesOf s) :
    Warns ((p.documents settings).library.Circling "" [] workflow)
      ((p.context host settings).tasks workflow s).events
      ((p.context host settings).tasks workflow s).answer := by
  rw [tasks_context_eq_flatten h settings workflow hs]
  exact warns_flatten (p.documents settings).quiet_library
    (quiet_runner (fun _ _ => .nil) _ _) workflow s

end Runbook.Project
