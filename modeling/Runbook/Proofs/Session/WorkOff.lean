import Mathlib.Data.List.Induction
import Runbook.Proofs.Session.Advance

/-!
# `Proofs/Session/WorkOff` — whether a plan can be worked off

To work a plan off is to ask for the next task and complete it by its id, round after round
(`Session.workOff`). What is shown is the first open task of the plan; what is completed is the first
task of its id. The two are the same task unless one before it has the id, and that one is done then,
so completing fails and nothing changes.

So a plan whose open tasks are told apart from all tasks before them (`ToldApart`) is worked off in as
many rounds as it has open tasks, each of which is shown once and in order. Any other plan comes to a
halt at the first open task that is not, and stays there. Both follow from one step lemma for a round
(`Session.Faces.exists_complete`) and one run lemma for some rounds (`Session.Faces.exists_workOff`).

A tasks file without a time gives a plan with the time of reading, so what a store gives is said up to
that time (`Offers`).
-/

set_option autoImplicit false

namespace Runbook

/-! ## Open tasks -/

/-- The tasks that are not done, in order. -/
def openTasks (tasks : List Task) : List Task := tasks.filter (!·.completed)

/-- No open task has the id of a task before it. -/
def ToldApart (tasks : List Task) : Prop :=
  tasks.Pairwise fun earlier later => later.completed = false → earlier.id ≠ later.id

instance (tasks : List Task) : Decidable (ToldApart tasks) :=
  inferInstanceAs (Decidable (tasks.Pairwise _))

theorem openTasks_append (front back : List Task) :
    openTasks (front ++ back) = openTasks front ++ openTasks back := List.filter_append ..

theorem openTasks_cons_of_open {task : Task} (h : task.completed = false) (tasks : List Task) :
    openTasks (task :: tasks) = task :: openTasks tasks := List.filter_cons_of_pos (by simp [h])

theorem openTasks_cons_of_done {task : Task} (h : task.completed = true) (tasks : List Task) :
    openTasks (task :: tasks) = openTasks tasks := List.filter_cons_of_neg (by simp [h])

theorem completed_of_openTasks_eq_nil {tasks : List Task} (h : openTasks tasks = []) {task : Task}
    (htask : task ∈ tasks) : task.completed = true := by
  simpa using List.filter_eq_nil_iff.1 h task htask

/-- The first open task has nothing but tasks that are done before it. -/
theorem exists_of_openTasks_eq_cons {tasks : List Task} {task : Task} {rest : List Task}
    (h : openTasks tasks = task :: rest) : ∃ front back, tasks = front ++ task :: back ∧
      openTasks front = [] ∧ task.completed = false ∧ openTasks back = rest := by
  obtain ⟨front, back, htasks, hfront, htask, hback⟩ := List.filter_eq_cons_iff.1 h
  refine ⟨front, back, htasks, ?_, by simpa using htask, hback⟩
  exact List.filter_eq_nil_iff.2 hfront

/-- There are as many open tasks as are left of a plan. -/
theorem length_openTasks (plan : Plan) : (openTasks plan.tasks).length = plan.progress.remaining := by
  have hsum := List.length_eq_countP_add_countP (fun task : Task => task.completed) (l := plan.tasks)
  have hleft : (openTasks plan.tasks).length = plan.tasks.countP fun task => !task.completed := by
    unfold openTasks
    rw [List.countP_eq_length_filter]
  unfold Progress.remaining Plan.progress Plan.completedCount
  dsimp only
  have hnot : (plan.tasks.countP fun task => decide ¬task.completed = true) =
      plan.tasks.countP fun task => !task.completed := by
    congr 1
    funext task
    simp
  omega

/-- The first open task is the one that is shown. -/
theorem Plan.firstIncomplete?_eq (plan : Plan) :
    plan.firstIncomplete? = (openTasks plan.tasks).head? := (List.head?_filter ..).symm

/-- Open tasks that are told apart have different ids. -/
theorem ToldApart.nodup {tasks : List Task} (h : ToldApart tasks) :
    ((openTasks tasks).map (·.id)).Nodup := by
  unfold List.Nodup
  rw [List.pairwise_map]
  refine (List.Pairwise.and_mem.1 (h.filter _)).imp ?_
  rintro earlier later ⟨-, hlater, hne⟩
  have hopen := (List.mem_filter.1 hlater).2
  exact hne (by simpa using hopen)

theorem toldApart_append_cons {front back : List Task} {task : Task} :
    ToldApart (front ++ task :: back) ↔
      (ToldApart front ∧ ToldApart back ∧
        ∀ earlier ∈ front, ∀ later ∈ back, later.completed = false → earlier.id ≠ later.id) ∧
      (task.completed = false → ∀ earlier ∈ front, earlier.id ≠ task.id) ∧
      ∀ later ∈ back, later.completed = false → task.id ≠ later.id := by
  unfold ToldApart
  rw [List.pairwise_append, List.pairwise_cons]
  constructor
  · rintro ⟨hfront, ⟨htask, hback⟩, hacross⟩
    refine ⟨⟨hfront, hback, fun earlier hearlier later hlater => ?_⟩, ?_, htask⟩
    · exact hacross earlier hearlier later (List.mem_cons_of_mem _ hlater)
    · exact fun hopen earlier hearlier => hacross earlier hearlier task List.mem_cons_self hopen
  · rintro ⟨⟨hfront, hback, hacross⟩, hbefore, htask⟩
    refine ⟨hfront, ⟨htask, hback⟩, fun earlier hearlier later hlater hopen => ?_⟩
    rcases List.mem_cons.1 hlater with rfl | hlater
    · exact hbefore hopen earlier hearlier
    · exact hacross earlier hearlier later hlater hopen

/-- Tasks that are not told apart have a first open one of which that is true. -/
theorem exists_of_not_toldApart {tasks : List Task} (h : ¬ ToldApart tasks) :
    ∃ front task back, tasks = front ++ task :: back ∧ ToldApart front ∧
      task.completed = false ∧ ∃ earlier ∈ front, earlier.id = task.id := by
  induction tasks using List.reverseRecOn with
  | nil => exact absurd List.Pairwise.nil h
  | append_singleton front task ih =>
    by_cases hfront : ToldApart front
    · -- Then it is the last task.
      have hlast : ¬ (task.completed = false → ∀ earlier ∈ front, earlier.id ≠ task.id) := by
        intro htask
        refine h (toldApart_append_cons.2 ⟨⟨hfront, .nil, ?_⟩, htask, ?_⟩)
        · exact fun _ _ later hlater => absurd hlater List.not_mem_nil
        · exact fun later hlater => absurd hlater List.not_mem_nil
      obtain ⟨hopen, hsame⟩ := Classical.not_imp.1 hlast
      push Not at hsame
      exact ⟨front, task, [], rfl, hfront, hopen, hsame⟩
    · obtain ⟨init, first, more, rfl, hinit, hopen, hsame⟩ := ih hfront
      refine ⟨init, first, more ++ [task], ?_, hinit, hopen, hsame⟩
      rw [List.append_assoc]
      rfl

/-! ## What a session faces -/

variable {σ : Type} [Store σ]

/-- A store gives a plan whenever it is asked, the time apart at which the plan was made. -/
def Offers (store : σ) (plan : Plan) : Prop :=
  ∀ now, ∃ generated, (Store.load now store).2 = some { plan with generated }

theorem TasksFile.offers_of_load {file : TasksFile} {now : Time.Timestamp} {plan : Plan}
    (h : (Store.load now file).2 = some plan) : Offers file plan := by
  intro now'
  obtain ⟨path, bytes⟩ := file
  cases bytes with
  | none => cases h
  | some bytes =>
    have hload : ∀ at', (Store.load at' (TasksFile.mk path (some bytes))).2 =
        TasksFile.plan? at' bytes := by
      intro at'
      unfold Store.load instStoreTasksFile
      dsimp only
      cases TasksFile.plan? at' bytes <;> rfl
    rw [hload] at h ⊢
    exact TasksFile.exists_plan? h now'

/-- A session with a plan to work on: the store gives it, or it is over and is remembered. -/
inductive Session.Faces (s : Session σ) (plan : Plan) : Prop
  | amid (offers : Offers s.store plan)
  | ended (left_eq : openTasks plan.tasks = []) (absent : Store.present s.store = false)
    (finished_eq : s.finished = some plan.workflow)

/-- The open tasks of the plan that a store gives at a time. -/
def leftIn (now : Time.Timestamp) (store : σ) : List Task :=
  (Store.load now store).2.elim [] fun plan => openTasks plan.tasks

/-- Round after round, each at two times: at the one a task is asked for, at the other it is completed.
The tasks that were shown; where none is, the rounds are over. -/
def Session.workOff : List (Time.Timestamp × Time.Timestamp) → Work σ (List Task)
  | [] => pure []
  | (asked, done) :: more => do
    match ← Session.next asked with
    | .inProgress _ task _ => do
      let _ ← Session.complete done task.id
      let later ← workOff more
      pure (task :: later)
    | _ => pure []

theorem Offers.leftIn_eq {store : σ} {plan : Plan} (h : Offers store plan) (now : Time.Timestamp) :
    leftIn now store = openTasks plan.tasks := by
  obtain ⟨generated, hload⟩ := h now
  unfold leftIn
  rw [hload]
  rfl

/-- The tasks that a session faces are left in its store. -/
theorem Session.Faces.leftIn_eq [LawfulStore σ] {s : Session σ} {plan : Plan} (h : s.Faces plan)
    (now : Time.Timestamp) : leftIn now s.store = openTasks plan.tasks := by
  cases h with
  | amid hoffers => exact hoffers.leftIn_eq now
  | ended hleft habsent _ =>
    unfold leftIn
    rw [LawfulStore.load_of_absent s.store now habsent, hleft]
    rfl

/-! ## One round -/

section Round

variable {s : Session σ} {plan : Plan} {front back : List Task} {task : Task}

/-- Where a task is open, the plan is not over. -/
theorem Session.Faces.offers (h : s.Faces plan) (htasks : plan.tasks = front ++ task :: back)
    (hopen : task.completed = false) : Offers s.store plan := by
  cases h with
  | amid hoffers => exact hoffers
  | ended hleft _ _ =>
    rw [htasks, openTasks_append, openTasks_cons_of_open hopen] at hleft
    exact absurd hleft (List.append_ne_nil_of_right_ne_nil _ (List.cons_ne_nil _ _))

/-- The first open task is shown, and nothing changes. -/
theorem Session.Faces.leads_next (h : s.Faces plan) (htasks : plan.tasks = front ++ task :: back)
    (hfront : openTasks front = []) (hopen : task.completed = false) (now : Time.Timestamp) :
    (Session.next now).Leads s s (.ok (.inProgress plan.workflow task plan.progress)) := by
  obtain ⟨generated, hload⟩ := h.offers htasks hopen now
  have hfirst : Plan.firstIncomplete? { plan with generated } = some task := by
    rw [Plan.firstIncomplete?_eq]
    dsimp only
    rw [htasks, openTasks_append, hfront, openTasks_cons_of_open hopen]
    rfl
  rcases next_cases now s with ⟨hnone, -⟩ | ⟨plan', hplan, ⟨hno, -⟩ | ⟨task', hsome, hleads⟩⟩
  · rw [hload] at hnone
    cases hnone
  · obtain rfl := Option.some.inj (hload.symm.trans hplan)
    rw [hfirst] at hno
    cases hno
  · obtain rfl := Option.some.inj (hload.symm.trans hplan)
    obtain rfl := Option.some.inj (hfirst.symm.trans hsome)
    exact hleads

/-- With no open task left, asking ends the plan. -/
theorem Session.Faces.exists_next_of_nil [LawfulStore σ] (h : s.Faces plan)
    (hleft : openTasks plan.tasks = []) (now : Time.Timestamp) :
    ∃ s' progress, (Session.next now).Leads s s' (.ok (.allCompleted plan.workflow progress)) ∧
      Store.present s'.store = false ∧ s'.finished = some plan.workflow := by
  cases h with
  | ended _ habsent hfinished =>
    have hnone : (Store.load now s.store).2 = none :=
      congrArg Prod.snd (LawfulStore.load_of_absent s.store now habsent)
    have hleads := leads_next_of_none hnone
    rw [hfinished] at hleads
    exact ⟨s, none, hleads, habsent, hfinished⟩
  | amid hoffers =>
    obtain ⟨generated, hload⟩ := hoffers now
    have hfirst : Plan.firstIncomplete? { plan with generated } = none := by
      rw [Plan.firstIncomplete?_eq]
      dsimp only
      rw [hleft]
      rfl
    rcases next_cases now s with ⟨hnone, -⟩ | ⟨plan', hplan, hends⟩
    · rw [hload] at hnone
      cases hnone
    · obtain rfl := Option.some.inj (hload.symm.trans hplan)
      rcases hends with ⟨-, store, hleads, hstore⟩ | ⟨task', hsome, -⟩
      · exact ⟨_, _, hleads, hstore.holds, rfl⟩
      · rw [hfirst] at hsome
        cases hsome

theorem find?_of_forall_ne (hfront : ∀ earlier ∈ front, earlier.id ≠ task.id) :
    (front ++ task :: back).find? (·.id == task.id) = some task := by
  have hnone : front.find? (·.id == task.id) = none :=
    List.find?_eq_none.2 fun earlier hearlier => by simpa using hfront earlier hearlier
  rw [List.find?_append, hnone, List.find?_cons_of_pos (by simp)]
  rfl

/-- An open task that no task before it has the id of can be completed. Then it is done and nothing
else has changed, or the plan is over with it. -/
theorem Session.Faces.exists_complete [WorkableStore σ] (h : s.Faces plan)
    (htasks : plan.tasks = front ++ task :: back) (hopen : task.completed = false)
    (hfront : ∀ earlier ∈ front, earlier.id ≠ task.id) (now : Time.Timestamp) :
    ∃ s' next marked, (Session.complete now task.id).Leads s s' (.ok next) ∧ s'.Faces marked ∧
      marked.workflow = plan.workflow ∧
      marked.tasks = front ++ { task with completed := true } :: back := by
  obtain ⟨generated, hload⟩ := h.offers htasks hopen now
  have hfirst : Plan.FirstAt { plan with generated } task.id front.length task := by
    refine ⟨?_, rfl, ?_⟩
    · dsimp only
      rw [htasks, List.getElem?_append_right (Nat.le_refl _), Nat.sub_self]
      rfl
    · intro earlier hlt other hother
      dsimp only at hother
      rw [htasks, List.getElem?_append_left hlt] at hother
      exact hfront other (List.mem_of_getElem? hother)
  have hmarked : (Plan.markedAt { plan with generated } front.length task).tasks =
      front ++ { task with completed := true } :: back := by
    unfold Plan.markedAt
    dsimp only
    rw [htasks, List.set_append_right _ _ (Nat.le_refl _), Nat.sub_self, List.set_cons_zero]
  rcases complete_cases_of_load now s task.id with
    ⟨e, -, hdone⟩ | ⟨plan', task', hload', -, -, hends⟩
  · have hfind : Plan.find? { plan with generated } task.id = some task := by
      unfold Plan.find?
      dsimp only
      rw [htasks]
      exact find?_of_forall_ne hfront
    rw [hdone _ _ hload hfind] at hopen
    cases hopen
  obtain rfl := Option.some.inj (hload.symm.trans hload')
  have hids := Plan.ids_setCompleted { plan with generated } task.id true
  rw [hfirst.setCompleted_eq] at hends hids
  rcases hends with ⟨hnone, store, hleads, hstore⟩ | ⟨following, -, hleads⟩
  · have hall := hfirst.markedAt.completed_of_find? rfl hnone
    refine ⟨_, _, Plan.markedAt { plan with generated } front.length task, hleads,
      .ended ?_ hstore.holds rfl, rfl, hmarked⟩
    exact List.filter_eq_nil_iff.2 fun other hother => by simp [hall other hother]
  · refine ⟨_, _, Plan.markedAt { plan with generated } front.length task, hleads,
      .amid fun now' => ⟨generated, ?_⟩, rfl, hmarked⟩
    exact congrArg Prod.snd (WorkableStore.load_save_of_load hload hids now')

/-- An open task whose id a task has that is done cannot be completed, and nothing changes. -/
theorem Session.Faces.leads_complete_of_same (h : s.Faces plan)
    (htasks : plan.tasks = front ++ task :: back) (hfront : openTasks front = [])
    (hopen : task.completed = false) (hsame : ∃ earlier ∈ front, earlier.id = task.id)
    (now : Time.Timestamp) :
    (Session.complete now task.id).Leads s s (.error (.store (.alreadyCompleted task.id))) := by
  obtain ⟨generated, hload⟩ := h.offers htasks hopen now
  obtain ⟨earlier, hearlier, hid⟩ := hsame
  have hsome : (front.find? (·.id == task.id)).isSome = true :=
    List.find?_isSome.2 ⟨earlier, hearlier, by simp [hid]⟩
  obtain ⟨found, hfound⟩ := Option.isSome_iff_exists.1 hsome
  have hfind : Plan.find? { plan with generated } task.id = some found := by
    unfold Plan.find?
    dsimp only
    rw [htasks, List.find?_append, hfound]
    rfl
  have hdone := completed_of_openTasks_eq_nil hfront (List.mem_of_find?_eq_some hfound)
  exact leads_complete_of_done hload hfind hdone

end Round

/-! ## Rounds -/

/-- The run lemma. Where the tasks at the front are told apart, the open ones among them are shown in
order, one in a round, and are done then. Whatever is behind them stays as it is. -/
theorem Session.Faces.exists_workOff [WorkableStore σ]
    {times : List (Time.Timestamp × Time.Timestamp)} {s : Session σ} {plan : Plan}
    {front back : List Task} (h : s.Faces plan) (htasks : plan.tasks = front ++ back)
    (hfront : ToldApart front) (hlength : times.length ≤ (openTasks front).length) :
    ∃ s' plan' front',
      (Session.workOff times).Leads s s' (.ok ((openTasks front).take times.length)) ∧
      s'.Faces plan' ∧ plan'.workflow = plan.workflow ∧ plan'.tasks = front' ++ back ∧
      openTasks front' = (openTasks front).drop times.length ∧
      front'.map (·.id) = front.map (·.id) := by
  induction times generalizing s plan front with
  | nil => exact ⟨s, plan, front, Work.leads_pure _ s, h, rfl, htasks, rfl, rfl⟩
  | cons time more ih =>
    obtain ⟨asked, done⟩ := time
    obtain ⟨task, rest, hleft⟩ :=
      List.exists_cons_of_length_pos (Nat.lt_of_lt_of_le (Nat.succ_pos _) hlength)
    obtain ⟨before, after, rfl, hbefore, hopen, hafter⟩ := exists_of_openTasks_eq_cons hleft
    have hsplit : plan.tasks = before ++ task :: (after ++ back) := by
      rw [htasks, List.append_assoc]
      rfl
    obtain ⟨hothers, htask, hlater⟩ := toldApart_append_cons.1 hfront
    have hnext := h.leads_next hsplit hbefore hopen asked
    obtain ⟨s', next, marked, hcomplete, hfaces, hworkflow, hmarked⟩ :=
      h.exists_complete hsplit hopen (htask hopen) done
    -- The round leaves the front with one open task less, and told apart as before.
    have hdone : openTasks (before ++ { task with completed := true } :: after) = rest := by
      rw [openTasks_append, hbefore, openTasks_cons_of_done rfl, hafter]
      rfl
    have hapart : ToldApart (before ++ { task with completed := true } :: after) :=
      toldApart_append_cons.2 ⟨hothers, nofun, hlater⟩
    have hmore : more.length ≤
        (openTasks (before ++ { task with completed := true } :: after)).length := by
      rw [hdone]
      rw [hleft] at hlength
      exact Nat.le_of_succ_le_succ hlength
    obtain ⟨s'', plan', front', hleads, hfaces', hworkflow', htasks', hfront', hids⟩ :=
      ih hfaces (by rw [hmarked, List.append_assoc]; rfl) hapart hmore
    rw [hdone] at hleads hfront'
    refine ⟨s'', plan', front', ?_, hfaces', hworkflow'.trans hworkflow, htasks', ?_, ?_⟩
    · rw [hleft]
      unfold Session.workOff
      exact hnext.bind (hcomplete.bind (hleads.bind (Work.leads_pure _ _)))
    · rw [hfront', hleft]
      rfl
    · rw [hids, List.map_append, List.map_append]
      rfl

/-- Working a plan off goes through all its open tasks. Each round shows the next of them; a task is
shown as long as one is left; and after the last round the answer is that all are done, and nothing is
stored. -/
def Session.RunsOut (s : Session σ) (plan : Plan) : Prop :=
  ∀ times : List (Time.Timestamp × Time.Timestamp), times.length ≤ plan.progress.remaining →
    ∃ s', (Session.workOff times).Leads s s' (.ok ((openTasks plan.tasks).take times.length)) ∧
      (times.length < plan.progress.remaining → ∀ asked, ∃ task progress,
        (Session.next asked).Leads s' s' (.ok (.inProgress plan.workflow task progress))) ∧
      (times.length = plan.progress.remaining → ∀ asked, ∃ s'' progress,
        (Session.next asked).Leads s' s'' (.ok (.allCompleted plan.workflow progress)) ∧
          Store.present s''.store = false)

/-- Working a plan off goes through some tasks and then halts at another: it is shown however often
one asks, and it cannot be completed. -/
def Session.HaltsAt (s : Session σ) (plan : Plan) (front : List Task) (task : Task) : Prop :=
  ∀ times : List (Time.Timestamp × Time.Timestamp), times.length = front.length →
    ∃ s', (Session.workOff times).Leads s s' (.ok front) ∧ ∀ now,
      (∃ progress, (Session.next now).Leads s' s' (.ok (.inProgress plan.workflow task progress))) ∧
        (Session.complete now task.id).Leads s' s' (.error (.store (.alreadyCompleted task.id)))

theorem Session.Faces.runsOut [WorkableStore σ] {s : Session σ} {plan : Plan} (h : s.Faces plan)
    (hapart : ToldApart plan.tasks) : s.RunsOut plan := by
  intro times hlength
  rw [← length_openTasks] at hlength ⊢
  obtain ⟨s', plan', front, hleads, hfaces, hworkflow, htasks, hleft, -⟩ :=
    h.exists_workOff (List.append_nil _).symm hapart hlength
  rw [List.append_nil] at htasks
  rw [← hworkflow]
  refine ⟨s', hleads, fun hmore asked => ?_, fun hall asked => ?_⟩
  · obtain ⟨task, rest, hcons⟩ : ∃ task rest, openTasks front = task :: rest := by
      refine List.exists_cons_of_length_pos ?_
      rw [hleft, List.length_drop]
      exact Nat.sub_pos_of_lt hmore
    obtain ⟨before, after, rfl, hbefore, hopen, -⟩ := exists_of_openTasks_eq_cons hcons
    exact ⟨task, _, hfaces.leads_next htasks hbefore hopen asked⟩
  · have hnil : openTasks plan'.tasks = [] := by
      rw [htasks, hleft, hall, List.drop_length]
    obtain ⟨s'', progress, hended, habsent, -⟩ := hfaces.exists_next_of_nil hnil asked
    exact ⟨s'', progress, hended, habsent⟩

theorem Session.Faces.exists_haltsAt [WorkableStore σ] {s : Session σ} {plan : Plan}
    (h : s.Faces plan) (hnot : ¬ ToldApart plan.tasks) :
    ∃ front task back, openTasks plan.tasks = front ++ task :: back ∧ s.HaltsAt plan front task := by
  obtain ⟨front, task, back, htasks, hfront, hopen, hsame⟩ := exists_of_not_toldApart hnot
  refine ⟨openTasks front, task, openTasks back, ?_, fun times hlength => ?_⟩
  · rw [htasks, openTasks_append, openTasks_cons_of_open hopen]
  · obtain ⟨s', plan', front', hleads, hfaces, hworkflow, htasks', hleft, hids⟩ :=
      h.exists_workOff htasks hfront (Nat.le_of_eq hlength)
    rw [hlength, List.drop_length] at hleft
    rw [hlength, List.take_length] at hleads
    have hsame' : ∃ earlier ∈ front', earlier.id = task.id := by
      obtain ⟨earlier, hearlier, hid⟩ := hsame
      have hmem : earlier.id ∈ front'.map (·.id) := hids ▸ List.mem_map_of_mem hearlier
      obtain ⟨other, hother, hotherId⟩ := List.mem_map.1 hmem
      exact ⟨other, hother, hotherId.trans hid⟩
    rw [← hworkflow]
    exact ⟨s', hleads, fun now => ⟨⟨_, hfaces.leads_next htasks' hleft hopen now⟩,
      hfaces.leads_complete_of_same htasks' hleft hopen hsame' now⟩⟩

/-- What completing the task that is shown comes to. If no task before it has its id, it is no longer
open and the other open tasks are. If one has, completing fails and nothing changes. -/
inductive Session.Completes (s : Session σ) (task : Task) (front back : List Task)
    (done : Time.Timestamp) : Prop
  | marked (ne : ∀ earlier ∈ front, earlier.id ≠ task.id) {s' : Session σ} {next : Next}
      (leads : (Session.complete done task.id).Leads s s' (.ok next))
      (left_eq : ∀ later, leftIn later s'.store = openTasks back)
  | refused (same : ∃ earlier ∈ front, earlier.id = task.id)
      (leads : (Session.complete done task.id).Leads s s
        (.error (.store (.alreadyCompleted task.id))))

theorem Session.Faces.completes [WorkableStore σ] {s s' : Session σ} {plan : Plan}
    (h : s.Faces plan) {asked : Time.Timestamp} {workflow : String} {task : Task}
    {progress : Progress}
    (hnext : (Session.next asked).Leads s s' (.ok (.inProgress workflow task progress))) :
    s' = s ∧ progress = plan.progress ∧ ∃ front back, plan.tasks = front ++ task :: back ∧
      openTasks plan.tasks = task :: openTasks back ∧ ∀ done, s.Completes task front back done := by
  cases hleft : openTasks plan.tasks with
  | nil =>
    obtain ⟨ended, progress', hended, -, -⟩ := h.exists_next_of_nil hleft asked
    cases hended.2.symm.trans hnext.2
  | cons first rest =>
    obtain ⟨front, back, htasks, hfront, hopen, rfl⟩ := exists_of_openTasks_eq_cons hleft
    have hshown := h.leads_next htasks hfront hopen asked
    cases hshown.2.symm.trans hnext.2
    refine ⟨hnext.1.symm.trans hshown.1, rfl, front, back, htasks, rfl, fun done => ?_⟩
    by_cases hsame : ∃ earlier ∈ front, earlier.id = task.id
    · exact .refused hsame (h.leads_complete_of_same htasks hfront hopen hsame done)
    · push Not at hsame
      obtain ⟨after, next, marked, hcomplete, hfaces, -, hmarked⟩ :=
        h.exists_complete htasks hopen hsame done
      refine .marked hsame hcomplete fun later => ?_
      rw [hfaces.leftIn_eq later, hmarked, openTasks_append, hfront, openTasks_cons_of_done rfl]
      rfl

/-! ## Tasks files -/

theorem TasksFile.faces_of_load {file : TasksFile} {now : Time.Timestamp} {plan : Plan}
    (h : (Store.load now file).2 = some plan) (finished : Option String) :
    (Session.mk file finished).Faces plan := .amid (TasksFile.offers_of_load h)

/-- **Working a plan off.** Let a tasks file give a plan. A task that is shown can be completed by its
id if and only if no task before it has the id, and then the tasks that are left are the same without
it. If that is so of all its open tasks, these have different ids, and the plan is worked off in as
many rounds as there are open tasks, each of which is shown once and in order. Otherwise the rounds
come to a halt at an open task. -/
theorem workOff_of_load {file : TasksFile} {now : Time.Timestamp} {plan : Plan}
    (hload : (Store.load now file).2 = some plan) (finished : Option String) :
    (∀ asked s workflow task progress,
      (Session.next asked).Leads ⟨file, finished⟩ s (.ok (.inProgress workflow task progress)) →
        s = ⟨file, finished⟩ ∧ progress = plan.progress ∧
        ∃ front back, plan.tasks = front ++ task :: back ∧
          (∀ later, leftIn later file = task :: openTasks back) ∧
          ∀ done, (Session.mk file finished).Completes task front back done) ∧
    (ToldApart plan.tasks → ((openTasks plan.tasks).map (·.id)).Nodup ∧
      (Session.mk file finished).RunsOut plan) ∧
    (¬ ToldApart plan.tasks → ∃ front task back, openTasks plan.tasks = front ++ task :: back ∧
      (Session.mk file finished).HaltsAt plan front task) := by
  have hfaces := TasksFile.faces_of_load hload finished
  refine ⟨?_, fun hapart => ⟨hapart.nodup, hfaces.runsOut hapart⟩, hfaces.exists_haltsAt⟩
  intro asked s workflow task progress hnext
  obtain ⟨hs, hprogress, front, back, htasks, hleft, hcompletes⟩ := hfaces.completes hnext
  refine ⟨hs, hprogress, front, back, htasks, fun later => ?_, hcompletes⟩
  rw [← hleft]
  exact hfaces.leftIn_eq later

/-- A tasks file with ids that are there more than once, but with open tasks that are told apart. -/
theorem workOff_of_load_stuttering :
    ∃ s s' progress,
      (Session.workOff [(motley.generated, motley.generated),
          (motley.generated, motley.generated)]).Leads
        ⟨Store.save stuttering (TasksFile.mk "tasks.json" none), none⟩ s
        (.ok (stuttering.tasks.take 2)) ∧
      (Session.next motley.generated).Leads s s' (.ok (.allCompleted "w" progress)) ∧
      Store.present s'.store = false := by
  have hvalid : ∀ task ∈ stuttering.tasks, isTaskId task.id = true := by
    simp only [stuttering, List.forall_mem_cons]
    decide
  have hload := LawfulStore.load_save stuttering (TasksFile.mk "tasks.json" none)
    motley.generated hvalid
  have hruns := (workOff_of_load (congrArg Prod.snd hload) none).2.1 (by decide +kernel)
  obtain ⟨s, hleads, -, hended⟩ := hruns.2 [(motley.generated, motley.generated),
    (motley.generated, motley.generated)] (by decide)
  obtain ⟨s', progress, hnext, habsent⟩ := hended (by decide) motley.generated
  exact ⟨s, s', progress, hleads, hnext, habsent⟩

/-- A plan with two tasks of one id, of which the first is done. -/
def doubled : Plan where
  workflow := "w"
  generated := motley.generated
  tasks :=
    [{ id := "T001", name := "a", description := "", source := "w", step := "a",
       completed := true },
      { id := "T001", name := "b", description := "", source := "w", step := "b" }]

/-- The second task is shown and cannot be completed. -/
theorem complete_of_doubled :
    ∃ task progress, task.id = "T001" ∧
      (Session.next motley.generated).Leads
        ⟨Store.save doubled (TasksFile.mk "tasks.json" none), none⟩
        ⟨Store.save doubled (TasksFile.mk "tasks.json" none), none⟩
        (.ok (.inProgress "w" task progress)) ∧
      (Session.complete motley.generated "T001").Leads
        ⟨Store.save doubled (TasksFile.mk "tasks.json" none), none⟩
        ⟨Store.save doubled (TasksFile.mk "tasks.json" none), none⟩
        (.error (.store (.alreadyCompleted "T001"))) := by
  have hvalid : ∀ task ∈ doubled.tasks, isTaskId task.id = true := by
    simp only [doubled, List.forall_mem_cons]
    decide
  have hload := LawfulStore.load_save doubled (TasksFile.mk "tasks.json" none)
    motley.generated hvalid
  have hfaces := TasksFile.faces_of_load (congrArg Prod.snd hload) none
  have htasks : doubled.tasks = doubled.tasks.take 1 ++ doubled.tasks[1] :: [] := rfl
  have hnext := hfaces.leads_next htasks rfl rfl motley.generated
  have hcomplete := hfaces.leads_complete_of_same htasks rfl rfl ⟨_, List.mem_singleton_self _, rfl⟩
    motley.generated
  exact ⟨_, _, rfl, hnext, hcomplete⟩

end Runbook
