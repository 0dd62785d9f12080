import Mathlib.Logic.Relation
import Runbook.Proofs.Session.Agreement
import Runbook.Proofs.Session.Operation

/-!
# `Proofs/Session/Failure` — what fails leaves no trace

An operation can fail late: a plan is made of documents that are expanded inside each other, loops
run commands on the way, and a task is completed between two loads of the same store. Whenever it
fails, nothing has been written yet, neither to the store nor to what the session remembers. So the
session is what it was, and goes on as if the operation had not been asked for
(`course_of_error`).

Only commands can leave something behind, as nobody knows what they do. They run where a plan is
made, and what a failed operation leaves is what its commands have left, one after another. Commands
that leave a session alone leave it so.
-/

set_option autoImplicit false

namespace Runbook

open Runbook.Workflow

variable {σ α β : Type}

/-! ## Work that fails before it changes anything -/

/-- Work that stays on sessions of a kind if it fails. -/
def Work.FailsWithin (I : Session σ → Prop) (x : Work σ α) : Prop :=
  ∀ s e, I s → (x s).answer = .error e → I (x s).session

/-- Work that does not fail. -/
def Work.Returns (x : Work σ α) : Prop := ∀ s, ∃ a, (x s).answer = .ok a

namespace Work

variable {I : Session σ → Prop} {x : Work σ α} {f : α → Work σ β}

theorem returns_pure (a : α) : (pure a : Work σ α).Returns := fun _ => ⟨a, rfl⟩

theorem returns_tell (e : Event) : (tell e : Work σ Unit).Returns := fun _ => ⟨(), rfl⟩

theorem returns_modify (g : Session σ → Session σ) : (modify g).Returns := fun _ => ⟨(), rfl⟩

theorem Returns.bind (hx : x.Returns) (hf : ∀ a, (f a).Returns) : (x >>= f).Returns := by
  intro s
  obtain ⟨a, ha⟩ := hx s
  obtain ⟨b, hb⟩ := hf a (x s).session
  rw [bind_apply_of_ok ha]
  exact ⟨b, hb⟩

theorem Returns.map (hx : x.Returns) (g : α → β) : (g <$> x).Returns :=
  hx.bind fun a => returns_pure (g a)

theorem Returns.failsWithin (hx : x.Returns) : x.FailsWithin I := by
  intro s e hs he
  obtain ⟨a, ha⟩ := hx s
  rw [ha] at he
  cases he

theorem failsWithin_fail (e : Failure) : (fail e : Work σ α).FailsWithin I := fun _ _ hs _ => hs

/-- What comes first may fail or not, but it has to stay on the sessions itself. -/
theorem FailsWithin.bind (hx : AgreeOn I x x) (hf : ∀ a, (f a).FailsWithin I) :
    (x >>= f).FailsWithin I := by
  intro s e hs he
  obtain ⟨-, hsession⟩ := hx s hs
  cases hanswer : (x s).answer with
  | error fault =>
    rw [bind_apply_of_error hanswer]
    exact hsession
  | ok a =>
    rw [bind_apply_of_ok hanswer] at he ⊢
    exact hf a _ e hsession he

/-- What comes first may change everything if nothing fails after it. -/
theorem FailsWithin.bind_returns (hx : x.FailsWithin I) (hf : ∀ a, (f a).Returns) :
    (x >>= f).FailsWithin I := by
  intro s e hs he
  cases hanswer : (x s).answer with
  | error fault =>
    rw [bind_apply_of_error hanswer]
    exact hx s fault hs hanswer
  | ok a =>
    obtain ⟨b, hb⟩ := hf a (x s).session
    rw [bind_apply_of_ok hanswer, hb] at he
    cases he

theorem FailsWithin.map (hx : x.FailsWithin I) (g : α → β) : (g <$> x).FailsWithin I :=
  hx.bind_returns fun a => returns_pure (g a)

variable [Store σ]

theorem agreeOn_load (now : Time.Timestamp) :
    AgreeOn I (load now : Work σ (Option Plan)) (load now) := .of_silent fun _ => rfl

theorem agreeOn_require (now : Time.Timestamp) :
    AgreeOn I (require now : Work σ Plan) (require now) := by
  unfold require
  refine (agreeOn_load now).bind fun _ found _ => ?_
  cases found with
  | none => exact .of_silent fun _ => rfl
  | some plan => exact .of_silent fun _ => rfl

theorem returns_load (now : Time.Timestamp) : (load now : Work σ (Option Plan)).Returns :=
  fun _ => ⟨_, rfl⟩

theorem returns_delete : (delete : Work σ Bool).Returns := by
  intro s
  obtain ⟨b, _, ⟨-, hanswer⟩, -⟩ := exists_leads_delete s
  exact ⟨b, hanswer⟩

theorem failsWithin_setCompleted (now : Time.Timestamp) (id : String) (completed : Bool) :
    (setCompleted now id completed : Work σ Plan).FailsWithin I := by
  unfold setCompleted
  refine FailsWithin.bind (agreeOn_require now) ?_
  intro plan
  cases plan.find? id with
  | none => exact failsWithin_fail _
  | some task =>
    have hsave : (save (plan.setCompleted id completed) : Work σ Unit).Returns := returns_modify _
    exact (hsave.bind fun _ => returns_pure _).failsWithin

end Work

/-! ## Operations -/

/-- An operation that may make a plan, and runs the commands of loops for it. -/
def Operation.runsCommands : Operation → Bool
  | .generate _ | .start _ => true
  | _ => false

namespace Session

variable [Store σ] {I : Session σ → Prop}

theorem returns_finish (plan : Plan) : (finish plan : Work σ Next).Returns :=
  Work.returns_delete.bind fun _ => (Work.returns_modify _).bind fun _ =>
    (Work.returns_tell _).bind fun _ => Work.returns_pure _

theorem returns_next (now : Time.Timestamp) : (next now : Work σ Next).Returns := by
  intro s
  rcases next_cases now s with ⟨-, -, h⟩ | ⟨plan, -, ⟨-, store, ⟨-, h⟩, -⟩ | ⟨task, -, -, h⟩⟩
  all_goals exact ⟨_, h⟩

theorem returns_reset : (reset : Work σ Bool).Returns :=
  (Work.returns_modify _).bind fun _ => Work.returns_delete

theorem failsWithin_complete (now : Time.Timestamp) (id : String) :
    (complete now id : Work σ Next).FailsWithin I := by
  unfold complete
  refine Work.FailsWithin.bind (Work.agreeOn_require now) ?_
  intro plan
  cases plan.find? id with
  | none => exact Work.failsWithin_fail _
  | some task =>
    dsimp only
    split
    · exact Work.failsWithin_fail _
    · refine (Work.failsWithin_setCompleted now id true).bind_returns ?_
      intro marked
      refine (Work.returns_tell _).bind ?_
      intro _
      cases (around marked id).find? (!·.completed) with
      | none => exact returns_finish marked
      | some following => exact Work.returns_pure _

theorem failsWithin_generate {ctx : Context σ} {workflow : String}
    (htasks : Work.AgreeOn I (ctx.tasks workflow) (ctx.tasks workflow)) :
    (generate ctx workflow).FailsWithin I := by
  unfold generate
  refine Work.FailsWithin.bind (.of_silent fun _ => rfl) ?_
  intro _
  refine Work.FailsWithin.bind htasks ?_
  intro tasks
  split
  · exact Work.failsWithin_fail _
  · have hsave : ∀ plan, (Work.save plan : Work σ Unit).Returns := fun _ => Work.returns_modify _
    exact ((hsave _).bind fun _ => (Work.returns_modify _).bind fun _ =>
      Work.returns_pure _).failsWithin

theorem failsWithin_start {ctx : Context σ} {workflow : String}
    (htasks : Work.AgreeOn I (ctx.tasks workflow) (ctx.tasks workflow)) :
    (start ctx workflow).FailsWithin I := by
  unfold start
  refine Work.FailsWithin.bind (Work.agreeOn_load ctx.now) ?_
  intro found
  cases found with
  | none => exact (failsWithin_generate htasks).bind_returns fun _ => Work.returns_pure _
  | some plan =>
    dsimp only
    split
    · exact (Work.returns_pure _).failsWithin
    · exact (Work.returns_pure _).failsWithin

end Session

section Operations

variable [Store σ] {I : Session σ → Prop}

/-- **An operation that fails has written nothing.** It stays on any sessions on which the finding of
tasks stays, if it is one that looks for tasks. -/
theorem failsWithin_work {ctx : Context σ} {op : Operation} (htasks : op.runsCommands = true →
      ∀ workflow, Work.AgreeOn I (ctx.tasks workflow) (ctx.tasks workflow)) :
    (op.work ctx).FailsWithin I := by
  cases op with
  | generate workflow => exact (Session.failsWithin_generate (htasks rfl workflow)).map Answer.plan
  | start workflow => exact (Session.failsWithin_start (htasks rfl workflow)).map Answer.start
  | next => exact ((Session.returns_next ctx.now).map Answer.next).failsWithin
  | complete id => exact (Session.failsWithin_complete ctx.now id).map Answer.next
  | status => exact ((Work.returns_load ctx.now).map Answer.plan?).failsWithin
  | reset => exact (Session.returns_reset.map Answer.flag).failsWithin
  | list =>
    have hlist : (Session.list ctx).Returns := fun _ => ⟨_, rfl⟩
    exact (hlist.map Answer.listed).failsWithin
  | present =>
    have hpresent : (Operation.present.work ctx).Returns := fun _ => ⟨_, rfl⟩
    exact hpresent.failsWithin
  | load => exact ((Work.returns_load ctx.now).map Answer.plan?).failsWithin
  | save plan => exact ((Work.returns_modify _).map fun _ => Answer.done).failsWithin
  | delete => exact (Work.returns_delete.map Answer.flag).failsWithin
  | setCompleted id completed =>
    exact (Work.failsWithin_setCompleted ctx.now id completed).map Answer.plan

end Operations

/-! ## What commands leave -/

/-- What commands make of a session, one after another. -/
def Runner.LeadsTo (run : Runner (Work σ)) : Session σ → Session σ → Prop :=
  Relation.ReflTransGen fun s s' => ∃ command, (run command s).session = s'

/-- Finding the tasks of a workflow in a library does to a session what its commands do. -/
theorem agreeOn_tasks_withCommands {I : Session σ → Prop} (lib : Library) (names : List String)
    {run : Runner (Work σ)} (now : Time.Timestamp)
    (hrun : ∀ command s, I s → I (run command s).session) (workflow : String) :
    Work.AgreeOn I ((Context.withCommands lib names run now).tasks workflow)
      ((Context.withCommands lib names run now).tasks workflow) := by
  refine agreeOn_flatten (agreeOn_expand (Q := fun _ _ => True)
    ⟨fun visited name hname _ => ?_, fun _ _ _ _ _ _ _ _ _ _ _ => trivial⟩ ?_ "" [] workflow
    trivial)
  · rw [stepsAt_sourceIn]
    exact .of_silent fun _ => rfl
  · intro command s hs
    exact ⟨rfl, hrun command s hs⟩

/-- Requests to a session, each with what it meets from outside; what they lead to. -/
def Session.course [Store σ] (s : Session σ) :
    List (Context σ × Operation) → List (Report σ Answer)
  | [] => []
  | (ctx, op) :: later =>
    op.work ctx s :: (op.work ctx s).session.course later

/-- **What fails leaves no trace.** Whatever a session has in its store and whatever it remembers,
what an operation leaves that fails is what commands have left. If none runs, or all leave the
session alone, the session is what it was, and all that is asked of it later comes to the same as if
the operation had not been asked for. -/
theorem course_of_error [Store σ] (lib : Library) (names : List String) (run : Runner (Work σ))
    (now : Time.Timestamp) (op : Operation) (s : Session σ) (e : Failure)
    (h : (op.work (.withCommands lib names run now) s).answer = .error e) :
    run.LeadsTo s (op.work (.withCommands lib names run now) s).session ∧
      ((op.runsCommands = true → ∀ command, (run command s).session = s) →
        (op.work (.withCommands lib names run now) s).session = s ∧
        ∀ later, s.course ((.withCommands lib names run now, op) :: later) =
          op.work (.withCommands lib names run now) s :: s.course later) := by
  -- The same rule twice: once for all sessions that commands lead to, once for the session alone.
  constructor
  · have hwithin : (op.work (.withCommands lib names run now)).FailsWithin (run.LeadsTo s) :=
      failsWithin_work fun _ => agreeOn_tasks_withCommands lib names now
        fun command s' hs' => hs'.tail ⟨command, rfl⟩
    exact hwithin s e .refl h
  · intro hrun
    have hwithin : (op.work (.withCommands lib names run now)).FailsWithin (· = s) := by
      refine failsWithin_work fun hop => agreeOn_tasks_withCommands lib names now ?_
      rintro command _ rfl
      exact hrun hop command
    have hsession := hwithin s e rfl h
    refine ⟨hsession, fun later => ?_⟩
    rw [Session.course, hsession]

/-- A workflow with a loop, and behind it a reference to a document that there is not. -/
def dangling : Library :=
  .ofList [("release",
    [{ id := "run", name := "Run", kind := .loop, command := some "ls", workflow := "release",
       line := 1 },
      { id := "go", name := "Go", kind := .nested, target := some "lost", workflow := "release",
        line := 2 }])]

/-- A command that prints whether there is a tasks file. -/
def looking : Runner (Work TasksFile) := fun _ s =>
  ⟨[], s, .ok (.ok (if s.store.bytes.isSome then "there" else "not there"))⟩

/-- A session whose tasks file is not text, and that has finished a workflow. -/
def garbled : Session TasksFile := ⟨⟨"tasks.json", some [0xFF]⟩, some "w"⟩

/-- What that session meets when the workflow is started. -/
def astray : Context TasksFile := .withCommands dangling [] looking motley.generated

/-- The loop has run its command when the document is missed. -/
theorem course_of_error_dangling :
    .loopExpanded "Run" 1 ∈ ((Operation.start "release").work astray garbled).events ∧
      ((Operation.start "release").work astray garbled).answer.map (fun _ => ()) =
        .error (.document (.notFound "lost" "lost.md")) ∧
      ((Operation.start "release").work astray garbled).session = garbled ∧
      ∀ later, garbled.course ((astray, .start "release") :: later) =
        (Operation.start "release").work astray garbled :: garbled.course later := by
  have hfails : ((Operation.start "release").work astray garbled).answer.map (fun _ => ()) =
      .error (.document (.notFound "lost" "lost.md")) := by
    decide +kernel
  cases h : ((Operation.start "release").work astray garbled).answer with
  | ok answer =>
    rw [h] at hfails
    cases hfails
  | error e =>
    obtain ⟨-, htrace⟩ := course_of_error dangling [] looking motley.generated (.start "release")
      garbled e h
    rw [h] at hfails
    exact ⟨by decide +kernel, hfails, htrace fun _ command => rfl⟩

end Runbook
