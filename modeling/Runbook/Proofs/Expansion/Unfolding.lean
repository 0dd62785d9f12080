import Runbook.Expansion.Basic
import Runbook.Proofs.Plan.Ids

/-!
# `Proofs/Expansion/Unfolding` — what one call of an expansion does

`expand` is written for any source, so its steps come with a proof that their references have less
room, and the recursion goes through that proof. To a reader of the result the proof is of no
interest: a workflow that is open contributes nothing (`expand_of_mem`), and any other is read and
its steps are taken one after another (`expand_of_notMem`). What a step does is
`Source.tasksOfStep`, in which the proof does not occur. Whoever argues about expansions starts from
these equations, or from what they say of a library (`outcome_expand_of_notMem`).

A loop is the one step that depends on the world. Its commands may do what they like to the log, but
where each of them always prints the same (`Runner.steady`), a loop's tasks are a matter of the
document (`stepTasks`).
-/

set_option autoImplicit false

namespace Runbook

open Runbook.Workflow

/-! ## Commands that always print the same -/

/-- Commands that always print the same, or fail for the same reason. -/
def Runner.steady {ε : Type} (told : String → List Event)
    (replies : String → Except String String) : Runner (Traced ε) :=
  fun command => ⟨told command, .ok (replies command)⟩

/-- What a loop comes to under commands that always print the same. -/
def Loop.settled (replies : String → Except String String) :
    Option String → Except Obstacle (List String)
  | none => .error .noBlock
  | some command => if command = "" then .error .emptyBlock else itemsOf (replies command)

/-- The tasks of a step that refers to no other workflow. -/
def stepTasks (replies : String → Except String String) (step : Step) (source : String) :
    List Task :=
  match step.action with
  | .loop command _ => Loop.tasksOf step source (Loop.settled replies command)
  | _ => [plainTask step source]

/-! ## The recursion, one workflow at a time -/

section AnySource

variable {m : Type → Type} [Monad m] [Telling m]

omit [Telling m] in
theorem collect_map {α β γ : Type} (f : β → m (List γ)) (g : α → β) (as : List α) :
    collect f (as.map g) = collect (fun a => f (g a)) as := by
  induction as with
  | nil => rfl
  | cons a as ih => simp only [List.map_cons, collect, ih]

omit [Telling m] in
theorem collect_congr {α β : Type} {f g : α → m (List β)} {as : List α}
    (h : ∀ a ∈ as, f a = g a) : collect f as = collect g as := by
  induction as with
  | nil => rfl
  | cons a as ih =>
    obtain ⟨ha, has⟩ := List.forall_mem_cons.1 h
    rw [collect, collect, ha, ih has]

omit [Telling m] in
/-- A loop has an obstacle of its own, or it is a matter of what its command prints. -/
theorem Loop.find_cases (run : Runner m) (command : Option String) :
    (∃ obstacle, Loop.find run command = pure (.error obstacle)) ∨
      ∃ text, Loop.find run command = (do
        let ran ← run text
        pure (Loop.itemsOf ran)) := by
  cases command with
  | none => exact .inl ⟨.noBlock, rfl⟩
  | some text =>
    unfold Loop.find
    dsimp only
    split
    · exact .inl ⟨.emptyBlock, rfl⟩
    · exact .inr ⟨text, rfl⟩

/-- The tasks that an expansion has for a step of a workflow with a source, once the workflow is
among those that are open. -/
def Source.tasksOfStep (src : Source m) (run : Runner m) (source : String) (opened : List String)
    (step : Step) : m (List Task) :=
  match step.action with
  | .plain => pure [plainTask step source]
  | .loop .. => Loop.tasks run step source
  | .nested target => expand src run source opened target

theorem Source.tasksOfStep_of_some (src : Source m) (run : Runner m) {step : Step}
    {target : String} (h : step.reference? = some target) (source : String)
    (opened : List String) :
    src.tasksOfStep run source opened step = expand src run source opened target := by
  unfold Source.tasksOfStep
  rw [(Step.reference?_eq_some_iff step target).1 h]

/-- A workflow that is open already is told, and contributes nothing. -/
theorem expand_of_mem (src : Source m) (run : Runner m) {lead : String} {visited : List String}
    {name : String} (h : name ∈ visited) :
    expand src run lead visited name =
      (do
        Telling.tell (.circular (sourceOf lead name) name)
        pure []) := by
  rw [expand, dif_pos h]

/-- A workflow that is not open is read, and its steps are taken one after another. -/
theorem expand_of_notMem (src : Source m) (run : Runner m) {lead : String} {visited : List String}
    {name : String} (h : name ∉ visited) :
    expand src run lead visited name =
      (do
        let found ← src.read visited name h
        collect (src.tasksOfStep run (sourceOf lead name) (name :: visited)) found.1) := by
  rw [expand, dif_neg h]
  congr 1
  funext ⟨steps, hsteps⟩
  dsimp only
  -- Each step comes with a proof of where it was found, which its tasks do not depend on.
  have hmap := collect_map (src.tasksOfStep run (sourceOf lead name) (name :: visited))
    Subtype.val steps.attach
  rw [List.attach_map_subtype_val] at hmap
  rw [hmap]
  congr 1
  funext step
  unfold Source.tasksOfStep
  split
  · next haction => rw [haction]
  · next haction => rw [haction]
  · next haction => rw [haction]

end AnySource

variable {lib : Library} {told : String → List Event} {replies : String → Except String String}

theorem outcome_collect_cons {ε α β : Type} (f : α → Traced ε (List β)) (a : α) (as : List α) :
    (collect f (a :: as)).outcome =
      (f a).outcome.bind fun bs => (collect f as).outcome.bind fun more => .ok (bs ++ more) := by
  rw [collect, Traced.outcome_bind]
  cases (f a).outcome with
  | error e => rfl
  | ok bs => simp only [Except.bind, Traced.outcome_bind, Traced.pure_def]

/-- A workflow that is open already contributes nothing. -/
theorem outcome_expand_of_mem {run : Runner (Traced DocumentError)} {lead : String}
    {visited : List String} {name : String} (h : name ∈ visited) :
    (expand lib.source run lead visited name).outcome = .ok [] := by
  rw [expand_of_mem _ _ h]
  rfl

theorem opened_bind {β : Type} {visited : List String} {name : String} (h : name ∉ visited)
    (f : List Step → Traced DocumentError β) :
    (lib.opened visited name h >>= fun found => f found.1) = lib.read name >>= f := by
  unfold Library.opened
  split
  · next e hread =>
    rw [Traced.bind_of_error hread]
    rfl
  · next steps hread =>
    rw [Traced.bind_of_ok hread]
    rfl

/-- A workflow that is not open is read from its library. -/
theorem expand_source_of_notMem {run : Runner (Traced DocumentError)} {lead : String}
    {visited : List String} {name : String} (h : name ∉ visited) :
    expand lib.source run lead visited name =
      lib.read name >>=
        collect (lib.source.tasksOfStep run (sourceOf lead name) (name :: visited)) := by
  rw [expand_of_notMem _ _ h]
  exact opened_bind h _

theorem outcome_expand_of_notMem {run : Runner (Traced DocumentError)} {lead : String}
    {visited : List String} {name : String} (h : name ∉ visited) :
    (expand lib.source run lead visited name).outcome =
      (lib.read name).outcome.bind fun steps =>
        (collect (lib.source.tasksOfStep run (sourceOf lead name) (name :: visited))
          steps).outcome := by
  rw [expand_source_of_notMem h, Traced.outcome_bind]

theorem outcome_find_steady (command : Option String) :
    (Loop.find (.steady told replies) command : Traced DocumentError _).outcome =
      .ok (Loop.settled replies command) := by
  cases command with
  | none => rfl
  | some command =>
    by_cases hempty : command = ""
    · simp only [Loop.find, Loop.settled, if_pos hempty]
      rfl
    · simp only [Loop.find, Loop.settled, if_neg hempty]
      rfl

theorem outcome_loopTasks_steady (step : Step) (source : String) :
    (Loop.tasks (.steady told replies) step source : Traced DocumentError _).outcome =
      .ok (Loop.tasksOf step source (Loop.settled replies step.command)) := by
  unfold Loop.tasks
  rw [Traced.outcome_bind, outcome_find_steady]
  simp only [Except.bind, Traced.outcome_bind, Traced.tellAll_eq, Traced.pure_def]

/-- A step that refers to no workflow succeeds, with the tasks of that step. -/
theorem outcome_tasksOfStep_of_none {step : Step} (h : step.reference? = none) (source : String)
    (opened : List String) :
    (lib.source.tasksOfStep (.steady told replies) source opened step).outcome =
      .ok (stepTasks replies step source) := by
  unfold Source.tasksOfStep stepTasks
  cases haction : step.action with
  | plain => rfl
  | loop command var =>
    have hcommand : command = step.command := by
      unfold Step.action at haction
      split at haction
      · simp_all
      · split at haction <;> simp at haction
      · simp at haction
    rw [hcommand]
    exact outcome_loopTasks_steady step source
  | nested target => simp [(Step.reference?_eq_some_iff step target).2 haction] at h

end Runbook

/-!
## Tasks as they come out of an expansion

Whatever the commands do, a task of an expansion is the task of some step, so what holds of the
tasks of single steps holds of all (`forall_mem_of_expand`). In particular no task is done yet, and
numbering keeps it so.
-/

namespace Runbook

open Runbook.Workflow

/-- What is collected comes from somewhere. -/
theorem exists_of_mem_collect {ε α β : Type} {f : α → Traced ε (List β)} {as : List α}
    {bs : List β} {b : β} (h : (collect f as).outcome = .ok bs) (hb : b ∈ bs) :
    ∃ a ∈ as, ∃ cs, (f a).outcome = .ok cs ∧ b ∈ cs := by
  induction as generalizing bs with
  | nil =>
    obtain rfl : [] = bs := Except.ok.inj h
    cases hb
  | cons a as ih =>
    rw [outcome_collect_cons] at h
    cases hfirst : (f a).outcome with
    | error e => simp [hfirst, Except.bind] at h
    | ok first =>
      cases hmore : (collect f as).outcome with
      | error e => simp [hfirst, hmore, Except.bind] at h
      | ok more =>
        simp only [hfirst, hmore, Except.bind, Except.ok.injEq] at h
        rw [← h] at hb
        rcases List.mem_append.1 hb with hb | hb
        · exact ⟨a, List.mem_cons_self, first, hfirst, hb⟩
        · obtain ⟨c, hc, cs, hcs, hmem⟩ := ih hmore hb
          exact ⟨c, List.mem_cons_of_mem _ hc, cs, hcs, hmem⟩

/-- A loop that succeeds has the tasks of what was found. -/
theorem exists_of_loopTasks {run : Runner (Traced DocumentError)} {step : Step} {source : String}
    {tasks : List Task} (h : (Loop.tasks run step source).outcome = .ok tasks) :
    ∃ found, tasks = Loop.tasksOf step source found := by
  unfold Loop.tasks at h
  rw [Traced.outcome_bind] at h
  cases hfind : (Loop.find run step.command).outcome with
  | error e => simp [hfind, Except.bind] at h
  | ok found =>
    simp only [hfind, Except.bind, Traced.outcome_bind, Traced.tellAll_eq, Traced.pure_def,
      Except.ok.injEq] at h
    exact ⟨found, h.symm⟩

/-- A property that the tasks of single steps have. -/
structure OfSteps (P : Task → Prop) : Prop where
  plain : ∀ step source, P (plainTask step source)
  item : ∀ step source item, P (Loop.taskFor step source item)
  fallback : ∀ step source obstacle, P (Loop.fallback step source obstacle)

theorem OfSteps.of_mem_tasksOf {P : Task → Prop} (hP : OfSteps P) {step : Step} {source : String}
    {found : Except Loop.Obstacle (List String)} {task : Task}
    (h : task ∈ Loop.tasksOf step source found) : P task := by
  cases found with
  | error obstacle =>
    rw [List.mem_singleton.1 h]
    exact hP.fallback step source obstacle
  | ok items =>
    obtain ⟨item, -, rfl⟩ := List.mem_map.1 h
    exact hP.item step source item

/-- What holds of the tasks of single steps holds of all tasks of an expansion. -/
theorem forall_mem_of_expand {P : Task → Prop} (hP : OfSteps P) {lib : Library}
    {run : Runner (Traced DocumentError)} {lead : String} {visited : List String} {name : String}
    {tasks : List Task} (h : (expand lib.source run lead visited name).outcome = .ok tasks) :
    ∀ task ∈ tasks, P task := by
  induction hroom : lib.room visited name using Nat.strongRecOn
    generalizing lead visited name tasks with
  | ind n ih =>
    intro task htask
    by_cases hname : name ∈ visited
    · rw [outcome_expand_of_mem hname] at h
      obtain rfl : [] = tasks := Except.ok.inj h
      cases htask
    · rw [outcome_expand_of_notMem hname] at h
      cases hread : (lib.read name).outcome with
      | error e => simp [hread, Except.bind] at h
      | ok steps =>
        simp only [hread, Except.bind] at h
        obtain ⟨step, hstep, own, hown, hmem⟩ := exists_of_mem_collect h htask
        unfold Source.tasksOfStep at hown
        cases haction : step.action with
        | plain =>
          simp only [haction, Traced.pure_def, Except.ok.injEq] at hown
          rw [← hown] at hmem
          rw [List.mem_singleton.1 hmem]
          exact hP.plain step _
        | loop command var =>
          simp only [haction] at hown
          obtain ⟨found, rfl⟩ := exists_of_loopTasks hown
          exact hP.of_mem_tasksOf hmem
        | nested target =>
          simp only [haction] at hown
          have htarget := (Step.reference?_eq_some_iff step target).2 haction
          exact ih _ (hroom ▸ lib.room_lt hname (lib.mem_references hread hstep htarget)) hown rfl
            task hmem

/-- The tasks of a workflow are numbered by their places, and none is done. -/
theorem numbered_of_flatten {lib : Library} {run : Runner (Traced DocumentError)} {name : String}
    {tasks : List Task} (h : (flatten lib.source run name).outcome = .ok tasks) :
    tasks.map (·.id) = idsUpTo tasks.length ∧ ∀ task ∈ tasks, task.completed = false := by
  unfold flatten at h
  rw [Traced.outcome_bind] at h
  cases hexpand : (expand lib.source run "" [] name).outcome with
  | error e => simp [hexpand, Except.bind] at h
  | ok found =>
    have hfresh : ∀ task ∈ found, task.completed = false :=
      forall_mem_of_expand ⟨fun _ _ => rfl, fun _ _ _ => rfl, fun _ _ _ => rfl⟩ hexpand
    have htasks : assignIds found = tasks := by
      rw [hexpand] at h
      exact Except.ok.inj h
    have hlength : (assignIds found).length = found.length := by simp [assignIds]
    rw [← htasks, ids_assignIds, hlength]
    exact ⟨rfl, completed_assignIds hfresh⟩

/-- The ids of the tasks of a workflow may stand as ids. -/
theorem isTaskId_of_flatten {lib : Library} {run : Runner (Traced DocumentError)} {name : String}
    {tasks : List Task} (h : (flatten lib.source run name).outcome = .ok tasks) :
    ∀ task ∈ tasks, isTaskId task.id = true := by
  intro task htask
  have hid : task.id ∈ tasks.map (·.id) := List.mem_map_of_mem htask
  rw [(numbered_of_flatten h).1] at hid
  exact isTaskId_of_mem_idsUpTo hid

end Runbook
