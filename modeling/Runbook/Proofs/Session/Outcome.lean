import Runbook.Proofs.Expansion.Enumeration
import Runbook.Proofs.Session.Expansion
import Runbook.Proofs.Store.Laws
import Runbook.Session.Operation

/-!
# `Proofs/Session/Outcome` — what becomes of making a plan

Whether a plan can be made for a workflow is a matter of the documents that can be reached from it,
whatever its loops come to and whatever the session holds (`answer_generate`): it fails over a
document exactly if one of them cannot be read, it comes to nothing exactly if all their steps refer
to other workflows, and otherwise there is a plan to which every other step has contributed.

An expansion is `Settled` in terms of what it comes to open, and of the steps that are due then. One
lemma for a step, one for the steps of a document and one for the whole (`ensures_expand`) follow
the recursion. That what is opened is all that can be reached is no matter of expansions
(`Library.opens_nil_iff_reaches`).
-/

set_option autoImplicit false

namespace Runbook

open Runbook.Workflow

variable {σ : Type}

/-! ## What steps contribute -/

/-- The step at a stop refers to no other workflow. -/
def Library.EndsAt (lib : Library) (stop : Stop) : Prop :=
  ∃ step, lib.stepAt? stop = some step ∧ step.reference? = none

/-- What a step that refers to no other workflow comes to, its tasks having a source. -/
inductive Yields (step : Step) (source : String) : List Task → Prop
  | plain : step.action = .plain → Yields step source [plainTask step source]
  | loop {command var : Option String} {found : Except Loop.Obstacle (List String)} :
      step.action = .loop command var → (∀ items, found = .ok items → items ≠ []) →
      Yields step source (Loop.tasksOf step source found)

theorem Yields.ne_nil {step : Step} {source : String} {tasks : List Task}
    (h : Yields step source tasks) : tasks ≠ [] := by
  cases h with
  | plain _ => simp
  | loop _ hfound => exact Loop.tasksOf_ne_nil step source hfound

/-- Tasks of the step at a stop. -/
def Library.YieldsAt (lib : Library) (stop : Stop) (tasks : List Task) : Prop :=
  ∃ step source, lib.stepAt? stop = some step ∧ Yields step source tasks

/-- Tasks that are put together of what steps contribute: every part comes from a step that is due,
and every step that is due has a part. -/
structure Library.Assembled (lib : Library) (due : Stop → Prop) (tasks : List Task)
    (parts : List (Stop × List Task)) : Prop where
  tasks_eq : tasks = parts.flatMap Prod.snd
  yields : ∀ part ∈ parts, due part.1 ∧ lib.YieldsAt part.1 part.2
  covers : ∀ stop, due stop → ∃ part ∈ parts, part.1 = stop

namespace Library.Assembled

variable {lib : Library} {due due' : Stop → Prop} {tasks tasks' : List Task}
  {parts parts' : List (Stop × List Task)}

theorem congr (h : lib.Assembled due tasks parts) (hdue : ∀ stop, due stop ↔ due' stop) :
    lib.Assembled due' tasks parts where
  tasks_eq := h.tasks_eq
  yields part hpart := ⟨(hdue _).1 (h.yields part hpart).1, (h.yields part hpart).2⟩
  covers stop hstop := h.covers stop ((hdue stop).2 hstop)

theorem nil (hdue : ∀ stop, ¬ due stop) : lib.Assembled due [] [] :=
  ⟨rfl, by simp, fun stop hstop => absurd hstop (hdue stop)⟩

theorem singleton {stop : Stop} (h : lib.YieldsAt stop tasks) :
    lib.Assembled (· = stop) tasks [(stop, tasks)] :=
  ⟨by simp, by simpa using h, fun _ hstop => ⟨_, List.mem_singleton_self _, hstop.symm⟩⟩

theorem append (h : lib.Assembled due tasks parts) (h' : lib.Assembled due' tasks' parts') :
    lib.Assembled (fun stop => due stop ∨ due' stop) (tasks ++ tasks') (parts ++ parts') where
  tasks_eq := by rw [h.tasks_eq, h'.tasks_eq, List.flatMap_append]
  yields part hpart := by
    rcases List.mem_append.1 hpart with hpart | hpart
    · exact ⟨.inl (h.yields part hpart).1, (h.yields part hpart).2⟩
    · exact ⟨.inr (h'.yields part hpart).1, (h'.yields part hpart).2⟩
  covers stop hstop := by
    rcases hstop with hstop | hstop
    · obtain ⟨part, hpart, rfl⟩ := h.covers stop hstop
      exact ⟨part, List.mem_append_left _ hpart, rfl⟩
    · obtain ⟨part, hpart, rfl⟩ := h'.covers stop hstop
      exact ⟨part, List.mem_append_right _ hpart, rfl⟩

/-- There are no tasks exactly if nothing was due. -/
theorem eq_nil_iff (h : lib.Assembled due tasks parts) : tasks = [] ↔ ∀ stop, ¬ due stop := by
  constructor
  · intro hnil stop hstop
    obtain ⟨part, hpart, rfl⟩ := h.covers stop hstop
    obtain ⟨-, step, source, -, hyields⟩ := h.yields part hpart
    refine hyields.ne_nil (List.eq_nil_iff_forall_not_mem.2 fun task htask => ?_)
    have hmem : task ∈ tasks := h.tasks_eq ▸ List.mem_flatMap.2 ⟨part, hpart, htask⟩
    rw [hnil] at hmem
    cases hmem
  · intro hdue
    have hparts : parts = [] :=
      List.eq_nil_iff_forall_not_mem.2 fun part hpart => hdue _ (h.yields part hpart).1
    rw [h.tasks_eq, hparts, List.flatMap_nil]

end Library.Assembled

/-! ## Commands that print or fail -/

/-- Commands that print something or fail, whatever the session is and whatever they do to it. -/
def Runner.Returns (run : Runner (Work σ)) : Prop :=
  ∀ command s, ∃ reply, (run command s).answer = .ok reply

/-- A loop comes to tasks. -/
theorem ensures_loopTasks {run : Runner (Work σ)} (hrun : run.Returns) (step : Step)
    (source : String) : (Loop.tasks run step source).Ensures fun _ answer =>
      ∃ found, (∀ items, found = .ok items → items ≠ []) ∧
        answer = .ok (Loop.tasksOf step source found) := by
  have hfind : (Loop.find run step.command).Ensures fun _ answer =>
      ∃ found, (∀ items, found = .ok items → items ≠ []) ∧ answer = .ok found := by
    rcases Loop.find_cases run step.command with ⟨obstacle, h⟩ | ⟨command, h⟩ <;> rw [h]
    · exact .pure ⟨_, by simp, rfl⟩
    · refine Work.Ensures.bind (P := fun _ answer => ∃ reply, answer = .ok reply)
        (hrun command) ?_ ?_
      · exact fun _ ran _ => .pure ⟨_, fun items hitems => Loop.ne_nil_of_itemsOf hitems, rfl⟩
      · rintro _ e ⟨reply, ⟨⟩⟩
  refine hfind.bind ?_ ?_
  · rintro _ found ⟨_, hfound, ⟨⟩⟩
    refine (ensures_tellAll _).bind ?_ ?_
    · exact fun _ _ _ => .pure ⟨found, hfound, rfl⟩
    · rintro _ e ⟨-, ⟨⟩⟩
  · rintro _ e ⟨found, -, ⟨⟩⟩

/-! ## Expansions -/

namespace Library

/-- How an expansion may end that comes to open some workflows, with some steps due. -/
def Settled (lib : Library) (opened : String → Prop) (due : Stop → Prop) :
    Except Failure (List Task) → Prop
  | .error e => ∃ name fault, opened name ∧ (lib.read name).outcome = .error fault ∧
      e = .document fault
  | .ok tasks => (∀ name, opened name → lib.Readable name) ∧
      ∃ parts, lib.Assembled due tasks parts

/-- A step is due if the expansion of a workflow comes to open its document. -/
def DueIn (lib : Library) (visited : List String) (name : String) (stop : Stop) : Prop :=
  lib.Opens visited name stop.workflow ∧ lib.EndsAt stop

variable {lib : Library}

theorem Settled.congr {opened opened' : String → Prop} {due due' : Stop → Prop}
    {answer : Except Failure (List Task)} (h : lib.Settled opened due answer)
    (hopened : ∀ name, opened name ↔ opened' name) (hdue : ∀ stop, due stop ↔ due' stop) :
    lib.Settled opened' due' answer := by
  cases answer with
  | error e =>
    obtain ⟨name, fault, hname, hread, rfl⟩ := h
    exact ⟨name, fault, (hopened name).1 hname, hread, rfl⟩
  | ok tasks =>
    obtain ⟨hread, parts, hparts⟩ := h
    exact ⟨fun name hname => hread name ((hopened name).2 hname), parts, hparts.congr hdue⟩

/-- What its steps open and what is due there, and the workflow itself. -/
theorem Settled.of_steps {visited : List String} {name : String} {steps : List Step}
    {answer : Except Failure (List Task)} (hname : name ∉ visited)
    (hread : (lib.read name).outcome = .ok steps)
    (h : lib.Settled
      (fun last => ∃ step ∈ steps, ∃ target, step.reference? = some target ∧
        lib.Opens (name :: visited) target last)
      (fun stop => (stop.workflow = name ∧ 0 ≤ stop.place ∧ lib.EndsAt stop) ∨
        ∃ step ∈ steps, ∃ target, step.reference? = some target ∧
          lib.DueIn (name :: visited) target stop) answer) :
    lib.Settled (lib.Opens visited name) (lib.DueIn visited name) answer := by
  have hopens : ∀ last, lib.Opens visited name last ↔ last = name ∨
      ∃ step ∈ steps, ∃ target, step.reference? = some target ∧
        lib.Opens (name :: visited) target last := by
    intro last
    rw [opens_iff]
    unfold Refers
    rw [stepsOf_of_ok hread]
    constructor
    · rintro ⟨-, heq | ⟨target, ⟨step, hstep, htarget⟩, hlast⟩⟩
      · exact .inl heq
      · exact .inr ⟨step, hstep, target, htarget, hlast⟩
    · rintro (heq | ⟨step, hstep, target, htarget, hlast⟩)
      · exact ⟨hname, .inl heq⟩
      · exact ⟨hname, .inr ⟨target, ⟨step, hstep, htarget⟩, hlast⟩⟩
  cases answer with
  | error e =>
    obtain ⟨last, fault, hlast, hfault⟩ := h
    exact ⟨last, fault, (hopens last).2 (.inr hlast), hfault⟩
  | ok tasks =>
    obtain ⟨hreadable, parts, hparts⟩ := h
    refine ⟨fun last hlast => ?_, parts, hparts.congr fun stop => ?_⟩
    · rcases (hopens last).1 hlast with rfl | hlast
      · exact ⟨steps, hread⟩
      · exact hreadable last hlast
    · unfold DueIn
      rw [hopens]
      constructor
      · rintro (⟨hhere, -, hends⟩ | ⟨step, hstep, target, htarget, hlast, hends⟩)
        · exact ⟨.inl hhere, hends⟩
        · exact ⟨.inr ⟨step, hstep, target, htarget, hlast⟩, hends⟩
      · rintro ⟨hhere | ⟨step, hstep, target, htarget, hlast⟩, hends⟩
        · exact .inl ⟨hhere, Nat.zero_le _, hends⟩
        · exact .inr ⟨step, hstep, target, htarget, hlast, hends⟩

/-- The tasks of the first of some steps and those of the others. -/
theorem ensures_collect_cons {α : Type} {f : α → Work σ (List Task)} {a : α} {as : List α}
    {opened opened' : String → Prop} {due due' : Stop → Prop}
    (hfirst : (f a).Ensures fun _ => lib.Settled opened due)
    (hothers : (collect f as).Ensures fun _ => lib.Settled opened' due') :
    (collect f (a :: as)).Ensures fun _ => lib.Settled (fun name => opened name ∨ opened' name)
      (fun stop => due stop ∨ due' stop) := by
  refine hfirst.bind ?_ ?_
  · rintro _ bs ⟨hread, parts, hparts⟩
    refine hothers.bind ?_ ?_
    · rintro _ more ⟨hread', parts', hparts'⟩
      refine .pure ⟨fun name hname => ?_, parts ++ parts', hparts.append hparts'⟩
      exact hname.elim (hread name) (hread' name)
    · rintro _ e ⟨name, fault, hname, hrest⟩
      exact ⟨name, fault, .inr hname, hrest⟩
  · rintro _ e ⟨name, fault, hname, hrest⟩
    exact ⟨name, fault, .inl hname, hrest⟩

end Library

section Recursion

variable {lib : Library} {run : Runner (Work σ)} {visited : List String} {name : String}

/-- An expansion is settled by what it opens. -/
def SettledByDocuments (lib : Library) (run : Runner (Work σ)) (visited : List String)
    (name : String) : Prop :=
  ∀ lead, (expand (lib.sourceIn σ) run lead visited name).Ensures fun _ =>
    lib.Settled (lib.Opens visited name) (lib.DueIn visited name)

/-- A step is due itself, or else the steps are that are due in the workflow it refers to. -/
theorem ensures_tasksOfStep (hrun : run.Returns) {place : Nat} {step : Step}
    (hstep : lib.stepAt? ⟨name, place⟩ = some step) (source : String)
    (hnested : ∀ target, step.reference? = some target →
      SettledByDocuments lib run (name :: visited) target) :
    ((lib.sourceIn σ).tasksOfStep run source (name :: visited) step).Ensures fun _ => lib.Settled
      (fun last => ∃ target, step.reference? = some target ∧
        lib.Opens (name :: visited) target last)
      (fun stop => stop = ⟨name, place⟩ ∧ step.reference? = none ∨
        ∃ target, step.reference? = some target ∧ lib.DueIn (name :: visited) target stop) := by
  have hown : step.reference? = none → ∀ tasks, Yields step source tasks →
      lib.Settled (fun last => ∃ target, step.reference? = some target ∧
          lib.Opens (name :: visited) target last)
        (fun stop => stop = ⟨name, place⟩ ∧ step.reference? = none ∨
          ∃ target, step.reference? = some target ∧ lib.DueIn (name :: visited) target stop)
        (.ok tasks) := by
    intro hnone tasks hyields
    refine ⟨by simp [hnone], [(⟨name, place⟩, tasks)], ?_⟩
    refine (Library.Assembled.singleton ⟨step, source, hstep, hyields⟩).congr fun stop => ?_
    simp [hnone]
  unfold Source.tasksOfStep
  cases haction : step.action with
  | plain =>
    have hnone : step.reference? = none := by simp [Step.reference?, haction]
    exact .pure (hown hnone _ (.plain haction))
  | loop command var =>
    have hnone : step.reference? = none := by simp [Step.reference?, haction]
    refine (ensures_loopTasks hrun step source).imp ?_
    rintro _ _ ⟨found, hfound, rfl⟩
    exact hown hnone _ (.loop haction hfound)
  | nested target =>
    have htarget := (step.reference?_eq_some_iff target).2 haction
    refine (hnested target htarget source).imp fun _ answer h => ?_
    exact h.congr (fun last => by simp [htarget]) (fun stop => by simp [htarget])

/-- The steps of a document from some place on are due, and what is due in the workflows they refer
to. -/
theorem ensures_collect_steps (hrun : run.Returns) (source : String)
    (hnested : ∀ target, lib.Refers name target →
      SettledByDocuments lib run (name :: visited) target)
    (steps : List Step) (place : Nat) (hsteps : (lib.stepsOf name).drop place = steps) :
    (collect ((lib.sourceIn σ).tasksOfStep run source (name :: visited)) steps).Ensures fun _ =>
      lib.Settled
        (fun last => ∃ step ∈ steps, ∃ target, step.reference? = some target ∧
          lib.Opens (name :: visited) target last)
        (fun stop => (stop.workflow = name ∧ place ≤ stop.place ∧ lib.EndsAt stop) ∨
          ∃ step ∈ steps, ∃ target, step.reference? = some target ∧
            lib.DueIn (name :: visited) target stop) := by
  induction steps generalizing place with
  | nil =>
    refine .pure ⟨by simp, [], .nil fun stop hstop => ?_⟩
    rcases hstop with ⟨rfl, hplace, step, hstep, -⟩ | ⟨step, hstep, -⟩
    · -- No step stands at such a place.
      have hlength : (lib.stepsOf stop.workflow).length ≤ place := List.drop_eq_nil_iff.1 hsteps
      have hnone : lib.stepAt? stop = none :=
        List.getElem?_eq_none (Nat.le_trans hlength hplace)
      simp [hnone] at hstep
    · cases hstep
  | cons step later ih =>
    have hstep : lib.stepAt? ⟨name, place⟩ = some step := by
      have := congrArg List.head? hsteps
      simpa [Library.stepAt?] using this
    have hlater : (lib.stepsOf name).drop (place + 1) = later := by
      rw [← List.tail_drop, hsteps, List.tail_cons]
    have hfirst := ensures_tasksOfStep hrun hstep source
      fun target htarget => hnested target ⟨step, List.mem_of_getElem? hstep, htarget⟩
    refine (Library.ensures_collect_cons hfirst (ih (place + 1) hlater)).imp fun _ answer h => ?_
    refine h.congr (fun last => by simp) fun stop => ?_
    have hplace : stop = ⟨name, place⟩ ∧ step.reference? = none ↔
        stop.workflow = name ∧ stop.place = place ∧ lib.EndsAt stop := by
      constructor
      · rintro ⟨rfl, hnone⟩
        exact ⟨rfl, rfl, step, hstep, hnone⟩
      · rintro ⟨rfl, rfl, step', hstep', hnone⟩
        obtain rfl : step = step' := Option.some.inj (hstep.symm.trans hstep')
        exact ⟨rfl, hnone⟩
    have hle : place ≤ stop.place ↔ stop.place = place ∨ place + 1 ≤ stop.place := by omega
    simp only [hplace, hle, List.mem_cons, exists_eq_or_imp]
    constructor
    · rintro ((⟨hname, hhere, hends⟩ | hnested) | ⟨hname, hlater, hends⟩ | hnested)
      · exact .inl ⟨hname, .inl hhere, hends⟩
      · exact .inr (.inl hnested)
      · exact .inl ⟨hname, .inr hlater, hends⟩
      · exact .inr (.inr hnested)
    · rintro (⟨hname, hhere | hlater, hends⟩ | hnested | hnested)
      · exact .inl (.inl ⟨hname, hhere, hends⟩)
      · exact .inr (.inl ⟨hname, hlater, hends⟩)
      · exact .inl (.inr hnested)
      · exact .inr (.inr hnested)

/-- **An expansion is settled by what it opens**, whatever its commands print. -/
theorem ensures_expand (lib : Library) (hrun : run.Returns) (visited : List String)
    (name : String) : SettledByDocuments lib run visited name := by
  induction visited, name using lib.branch_induction with
  | pruned visited name hname =>
    intro lead
    have hnot : ∀ last, ¬ lib.Opens visited name last := fun last h => h.notMem hname
    rw [expand_of_mem _ _ hname]
    exact fun s => ⟨fun last h => absurd h (hnot last), [], .nil fun stop h => hnot _ h.1⟩
  | opened visited name hname ih =>
    intro lead
    refine ensures_expand_of_notMem hname (fun fault hread => ?_) fun steps hread => ?_
    · exact ⟨name, fault, .here hname, hread, rfl⟩
    · have hsteps := Library.stepsOf_of_ok hread
      exact (ensures_collect_steps hrun _ ih steps 0 hsteps).imp fun _ _ h =>
        h.of_steps hname hread

end Recursion

/-! ## Making a plan -/

/-- A step is due for a plan if its document can be reached. -/
def Library.Due (lib : Library) (root : String) (stop : Stop) : Prop :=
  lib.Reaches root stop.workflow ∧ lib.EndsAt stop

/-- What making a plan for a workflow may come to: a document that can be reached cannot be read, or
all can but no step is due, or the plan is assembled from the steps that are. -/
inductive Library.Decided (lib : Library) (root : String) : Except Failure Plan → Prop
  | broken {name : String} {fault : DocumentError} : lib.Reaches root name →
      (lib.read name).outcome = .error fault → Decided lib root (.error (.document fault))
  | empty : (∀ name, lib.Reaches root name → lib.Readable name) →
      (∀ stop, ¬ lib.Due root stop) → Decided lib root (.error (.emptyWorkflow root))
  | made {plan : Plan} {found : List Task} {parts : List (Stop × List Task)} :
      (∀ name, lib.Reaches root name → lib.Readable name) → (∃ stop, lib.Due root stop) →
      plan.tasks = assignIds found → lib.Assembled (lib.Due root) found parts →
      Decided lib root (.ok plan)

namespace Library.Decided

variable {lib : Library} {root : String} {answer : Except Failure Plan}

theorem document_iff (h : lib.Decided root answer) :
    (∃ fault, answer = .error (.document fault)) ↔
      ∃ name fault, lib.Reaches root name ∧ (lib.read name).outcome = .error fault := by
  have hnone : (∀ name, lib.Reaches root name → lib.Readable name) →
      ¬ ∃ name fault, lib.Reaches root name ∧ (lib.read name).outcome = .error fault := by
    rintro hreadable ⟨name, fault, hname, hfault⟩
    obtain ⟨steps, hsteps⟩ := hreadable name hname
    rw [hfault] at hsteps
    cases hsteps
  cases h with
  | broken hname hfault => exact ⟨fun _ => ⟨_, _, hname, hfault⟩, fun _ => ⟨_, rfl⟩⟩
  | empty hreadable _ => exact ⟨nofun, fun hbroken => absurd hbroken (hnone hreadable)⟩
  | made hreadable _ _ _ => exact ⟨nofun, fun hbroken => absurd hbroken (hnone hreadable)⟩

/-- No step is due exactly if every step refers to another workflow. -/
theorem forall_not_due_iff : (∀ stop, ¬ lib.Due root stop) ↔
    ∀ name, lib.Reaches root name → ∀ step ∈ lib.stepsOf name, step.reference?.isSome := by
  constructor
  · intro h name hname step hstep
    obtain ⟨place, hplace⟩ := List.mem_iff_getElem?.1 hstep
    refine Option.isSome_iff_ne_none.2 fun hnone => ?_
    exact h ⟨name, place⟩ ⟨hname, step, hplace, hnone⟩
  · rintro h stop ⟨hname, step, hplace, hnone⟩
    have hsome := h stop.workflow hname step (List.mem_of_getElem? hplace)
    rw [hnone] at hsome
    cases hsome

theorem empty_iff (h : lib.Decided root answer)
    (hreadable : ∀ name, lib.Reaches root name → lib.Readable name) :
    answer = .error (.emptyWorkflow root) ↔ ∀ stop, ¬ lib.Due root stop := by
  cases h with
  | broken hname hfault =>
    obtain ⟨steps, hsteps⟩ := hreadable _ hname
    rw [hfault] at hsteps
    cases hsteps
  | empty _ hnone => exact ⟨fun _ => hnone, fun _ => rfl⟩
  | made _ hdue _ _ =>
    obtain ⟨stop, hstop⟩ := hdue
    exact ⟨nofun, fun hnone => absurd hstop (hnone stop)⟩

theorem exists_plan (h : lib.Decided root answer)
    (hreadable : ∀ name, lib.Reaches root name → lib.Readable name)
    (hdue : ∃ stop, lib.Due root stop) :
    ∃ plan found parts, answer = .ok plan ∧ plan.tasks = assignIds found ∧
      lib.Assembled (lib.Due root) found parts := by
  cases h with
  | broken hname hfault =>
    obtain ⟨steps, hsteps⟩ := hreadable _ hname
    rw [hfault] at hsteps
    cases hsteps
  | empty _ hnone =>
    obtain ⟨stop, hstop⟩ := hdue
    exact absurd hstop (hnone stop)
  | made _ _ htasks hparts => exact ⟨_, _, _, rfl, htasks, hparts⟩

end Library.Decided

section Making

variable {lib : Library} {run : Runner (Work σ)}

theorem settled_expand_root (hrun : run.Returns) (root : String) :
    (expand (lib.sourceIn σ) run "" [] root).Ensures fun _ =>
      lib.Settled (lib.Reaches root) (lib.Due root) := by
  refine (ensures_expand lib hrun [] root "").imp fun _ answer h => ?_
  refine h.congr (fun name => Library.opens_nil_iff_reaches) fun stop => ?_
  exact and_congr_left fun _ => Library.opens_nil_iff_reaches

theorem ensures_generate [Store σ] (hrun : run.Returns) (names : List String)
    (now : Time.Timestamp) (root : String) :
    (Session.generate (.withCommands lib names run now) root).Ensures fun _ =>
      lib.Decided root := by
  have htell : (Work.tell (.generating root) : Work σ Unit).Ensures fun _ answer =>
      answer = .ok () := fun _ => rfl
  have htasks : ((Context.withCommands lib names run now).tasks root).Ensures fun _ answer =>
      ∃ settled, lib.Settled (lib.Reaches root) (lib.Due root) settled ∧
        answer = settled.map assignIds := by
    refine (settled_expand_root hrun root).bind ?_ ?_
    · exact fun _ tasks h => fun _ => ⟨.ok tasks, h, rfl⟩
    · exact fun _ e h => ⟨.error e, h, rfl⟩
  unfold Session.generate
  refine htell.bind (fun _ _ _ => htasks.bind ?_ ?_) ?_
  · rintro _ tasks ⟨_ | found, hsettled, ⟨⟩⟩
    obtain ⟨hreadable, parts, hparts⟩ := hsettled
    have hnil := hparts.eq_nil_iff
    by_cases hfound : found = []
    · subst hfound
      exact fun _ => .empty hreadable (hnil.1 rfl)
    · have htasks : assignIds found ≠ [] := by simpa [assignIds] using hfound
      rw [if_neg htasks]
      refine fun _ => .made hreadable ?_ rfl hparts
      by_contra hnone
      exact hfound (hnil.2 fun stop hstop => hnone ⟨stop, hstop⟩)
  · rintro _ e ⟨_ | found, hsettled, ⟨⟩⟩
    obtain ⟨name, fault, hname, hread, rfl⟩ := hsettled
    exact .broken hname hread
  · rintro _ _ ⟨⟩

/-- **What becomes of making a plan is decided by what can be reached**, whatever the commands print
or do and whatever is in the store. It fails over a document exactly if some document that can be
reached cannot be read. If all can, it comes to nothing exactly if all their steps refer to other
workflows; otherwise it succeeds, and every other step of theirs has a part of the tasks. -/
theorem answer_generate [Store σ] (lib : Library) (names : List String) {run : Runner (Work σ)}
    (hrun : run.Returns) (now : Time.Timestamp) (root : String) (s : Session σ) :
    ((∃ fault, (Session.generate (.withCommands lib names run now) root s).answer =
        .error (.document fault)) ↔
      ∃ name fault, lib.Reaches root name ∧ (lib.read name).outcome = .error fault) ∧
    ((∀ name, lib.Reaches root name → lib.Readable name) →
      ((Session.generate (.withCommands lib names run now) root s).answer =
          .error (.emptyWorkflow root) ↔
        ∀ name, lib.Reaches root name → ∀ step ∈ lib.stepsOf name, step.reference?.isSome) ∧
      ((∃ name, lib.Reaches root name ∧ ∃ step ∈ lib.stepsOf name, step.reference? = none) →
        ∃ (plan : Plan) (parts : List (Stop × List Task)),
          (Session.generate (.withCommands lib names run now) root s).answer = .ok plan ∧
          plan.tasks = assignIds (parts.flatMap Prod.snd) ∧
          (∀ part ∈ parts, lib.Reaches root part.1.workflow ∧ lib.YieldsAt part.1 part.2) ∧
          ∀ stop step, lib.Reaches root stop.workflow → lib.stepAt? stop = some step →
            step.reference? = none → ∃ part ∈ parts, part.1 = stop ∧ part.2 ≠ [])) := by
  have hdecided : lib.Decided root _ := ensures_generate hrun names now root s
  refine ⟨hdecided.document_iff, fun hreadable => ⟨?_, ?_⟩⟩
  · rw [hdecided.empty_iff hreadable, Library.Decided.forall_not_due_iff]
  · rintro ⟨name, hname, step, hstep, hnone⟩
    obtain ⟨place, hplace⟩ := List.mem_iff_getElem?.1 hstep
    obtain ⟨plan, found, parts, hanswer, htasks, hparts⟩ :=
      hdecided.exists_plan hreadable ⟨⟨name, place⟩, hname, step, hplace, hnone⟩
    refine ⟨plan, parts, hanswer, hparts.tasks_eq ▸ htasks, fun part hpart => ?_, ?_⟩
    · exact ⟨(hparts.yields part hpart).1.1, (hparts.yields part hpart).2⟩
    · intro stop step hstop hplace hnone
      obtain ⟨part, hpart, rfl⟩ := hparts.covers stop ⟨hstop, step, hplace, hnone⟩
      obtain ⟨-, _, _, -, hyields⟩ := hparts.yields part hpart
      exact ⟨part, hpart, rfl, hyields.ne_nil⟩

/-- A command that empties the store, and prints whether there was something in it. -/
def clearing : Runner (Work Memory) := fun _ s =>
  ⟨[], { s with store := ⟨none⟩ }, .ok (.ok (if s.store.plan.isSome then "a\nb" else "c"))⟩

/-- The same loop is expanded twice and prints something else the second time. Both workflows refer
to each other, and all their other steps contribute. -/
theorem answer_generate_crossReferring :
    clearing.Returns ∧
      (∀ name, crossReferring.Reaches "release" name → crossReferring.Readable name) ∧
      ∃ (plan : Plan) (parts : List (Stop × List Task)),
        (Session.generate (.withCommands crossReferring [] clearing motley.generated) "release"
          ⟨⟨some motley⟩, none⟩).answer = .ok plan ∧
        plan.tasks.map (·.name) = ["Run: a", "Run: b", "Ship", "Run: c"] ∧
        plan.tasks = assignIds (parts.flatMap Prod.snd) ∧
        ∃ part ∈ parts, part.1 = ⟨"testing", 0⟩ ∧ part.2 ≠ [] := by
  have hrun : clearing.Returns := fun _ _ => ⟨_, rfl⟩
  have hnames : (Session.generate (.withCommands crossReferring [] clearing motley.generated)
      "release" ⟨⟨some motley⟩, none⟩).answer.map (fun plan => plan.tasks.map (·.name)) =
        .ok ["Run: a", "Run: b", "Ship", "Run: c"] := by
    decide +kernel
  obtain ⟨hfails, hrest⟩ := answer_generate crossReferring [] hrun motley.generated "release"
    ⟨⟨some motley⟩, none⟩
  have hreadable : ∀ name, crossReferring.Reaches "release" name →
      crossReferring.Readable name := by
    intro name hname
    cases hread : (crossReferring.read name).outcome with
    | ok steps => exact ⟨steps, hread⟩
    | error fault =>
      obtain ⟨fault, hfault⟩ := hfails.2 ⟨name, fault, hname, hread⟩
      rw [hfault] at hnames
      cases hnames
  have htesting : crossReferring.Reaches "release" "testing" :=
    .single ⟨_, List.mem_cons_self, rfl⟩
  obtain ⟨plan, parts, hanswer, htasks, -, hcovers⟩ :=
    (hrest hreadable).2 ⟨"testing", htesting, _, List.mem_cons_self, rfl⟩
  rw [hanswer] at hnames
  exact ⟨hrun, hreadable, plan, parts, hanswer, Except.ok.inj hnames, htasks,
    hcovers ⟨"testing", 0⟩ _ htesting rfl rfl⟩

end Making

end Runbook
