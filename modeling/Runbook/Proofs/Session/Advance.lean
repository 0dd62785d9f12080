import Runbook.Proofs.Session.Operation

/-!
# `Proofs/Session/Advance` — what becomes of a plan when a task is completed

A task is told by its id, and ids in a plan may repeat, so it is the first task of an id that is
meant (`Plan.FirstAt`). Completing it sets its flag and no other (`Plan.markedAt`), and what comes
next is the nearest open task behind it, counted around the end of the plan (`NextOpen`). With no
open task left the plan is over and its store is emptied. `Plan.Advances` says both.

The operation loads the plan twice, the second time to mark the task, and looks for the next task in
two pieces of the list, so there are three things to see: that marking by id is marking at a place
(`Plan.FirstAt.setCompleted_eq`), that the two pieces are the plan seen from that place
(`Plan.FirstAt.getElem?_around`), and that a store keeps what it gave when a flag is changed
(`WorkableStore`).
-/

set_option autoImplicit false

namespace Runbook

/-! ## Stores to work with -/

/-- A store that keeps each plan it gives when the flags of its tasks are changed. -/
class WorkableStore (σ : Type) [Store σ] : Prop extends LawfulStore σ where
  load_save_of_load : ∀ {s : σ} {now : Time.Timestamp} {plan marked : Plan},
    (Store.load now s).2 = some plan → marked.ids = plan.ids →
      ∀ now', Store.load now' (Store.save marked s) = ([], some marked)

instance : WorkableStore Memory where
  load_save_of_load _ _ _ := rfl

instance : WorkableStore TasksFile where
  load_save_of_load {file now plan marked} hload hids now' := by
    refine LawfulStore.load_save marked file now' fun task htask => ?_
    have hmem : task.id ∈ plan.ids := hids ▸ List.mem_map_of_mem htask
    obtain ⟨other, hother, hid⟩ := List.mem_map.1 hmem
    exact hid ▸ (TasksFile.load_of_plan hload).2 other hother

/-! ## The task that is meant -/

/-- The first task with an id, and its place in a plan. -/
structure Plan.FirstAt (plan : Plan) (id : String) (place : Nat) (task : Task) : Prop where
  getElem?_eq : plan.tasks[place]? = some task
  id_eq : task.id = id
  ne_of_lt : ∀ earlier < place, ∀ other, plan.tasks[earlier]? = some other → other.id ≠ id

/-- The plan with the flag of the task at a place set. -/
def Plan.markedAt (plan : Plan) (place : Nat) (task : Task) : Plan :=
  { plan with tasks := plan.tasks.set place { task with completed := true } }

section FirstAt

variable {plan : Plan} {id : String} {place : Nat} {task : Task}

/-- What is found under an id is the first task of it. -/
theorem Plan.exists_firstAt (h : plan.find? id = some task) :
    ∃ place, plan.FirstAt id place task := by
  obtain ⟨hid, place, hplace, htask, hearlier⟩ := List.find?_eq_some_iff_getElem.1 h
  refine ⟨place, List.getElem?_eq_some_iff.2 ⟨hplace, htask⟩, by simpa using hid, ?_⟩
  intro earlier hlt other hother
  obtain ⟨_, rfl⟩ := List.getElem?_eq_some_iff.1 hother
  simpa using hearlier earlier hlt

theorem Plan.notMem_ids_of_find? (h : plan.find? id = none) : id ∉ plan.ids := by
  intro hmem
  obtain ⟨task, htask, hid⟩ := List.mem_map.1 hmem
  exact absurd (List.find?_eq_none.1 h task htask) (by simp [hid])

theorem Plan.FirstAt.lt (h : plan.FirstAt id place task) : place < plan.tasks.length :=
  (List.getElem?_eq_some_iff.1 h.getElem?_eq).1

/-- The place of a task is that of its id. -/
theorem Plan.FirstAt.idxOf_eq (h : plan.FirstAt id place task) : plan.ids.idxOf id = place := by
  have hlt : place < plan.ids.length := by
    unfold Plan.ids
    rw [List.length_map]
    exact h.lt
  have hget : ∀ (i : Nat) (hi : i < plan.ids.length),
      ∃ other, plan.tasks[i]? = some other ∧ plan.ids[i] = other.id := by
    intro i hi
    have hi' : i < plan.tasks.length := by simpa [Plan.ids] using hi
    exact ⟨plan.tasks[i], List.getElem?_eq_getElem hi', by simp [Plan.ids]⟩
  unfold List.idxOf
  refine (List.findIdx_eq hlt).2 ⟨?_, fun earlier hearlier => ?_⟩
  · obtain ⟨other, hother, hid⟩ := hget place hlt
    obtain rfl := Option.some.inj (h.getElem?_eq.symm.trans hother)
    rw [hid, h.id_eq]
    exact beq_self_eq_true id
  · obtain ⟨other, hother, hid⟩ := hget earlier (Nat.lt_trans hearlier hlt)
    rw [hid]
    exact beq_false_of_ne (h.ne_of_lt earlier hearlier other hother)

/-- Setting the flag of an id sets the flag at one place, and nothing else of the plan changes. -/
theorem Plan.FirstAt.setCompleted_eq_set (h : plan.FirstAt id place task) (flag : Bool) :
    plan.setCompleted id flag =
      { plan with tasks := plan.tasks.set place { task with completed := flag } } := by
  obtain ⟨workflow, generated, tasks⟩ := plan
  have hmark : Plan.setCompleted.mark id flag tasks =
      tasks.set place { task with completed := flag } := by
    obtain ⟨hget, hid, hearlier⟩ := h
    dsimp only at hget hearlier
    induction tasks generalizing place with
    | nil => cases hget
    | cons first rest ih =>
      rw [Plan.setCompleted.mark]
      cases place with
      | zero =>
        obtain rfl : first = task := by simpa using hget
        rw [if_pos (beq_iff_eq.2 hid), List.set_cons_zero]
      | succ place =>
        have hfirst : first.id ≠ id := hearlier 0 (Nat.succ_pos place) first rfl
        have hlater : rest[place]? = some task := hget
        rw [if_neg (by simpa using hfirst), List.set_cons_succ]
        exact congrArg (first :: ·) (ih hlater fun earlier hlt other hother =>
          hearlier (earlier + 1) (Nat.succ_lt_succ hlt) other hother)
  exact congrArg (Plan.mk workflow generated) hmark

theorem Plan.FirstAt.setCompleted_eq (h : plan.FirstAt id place task) :
    plan.setCompleted id true = plan.markedAt place task := h.setCompleted_eq_set true

/-- The task is still the first of its id, and is done now. -/
theorem Plan.FirstAt.markedAt (h : plan.FirstAt id place task) :
    (plan.markedAt place task).FirstAt id place { task with completed := true } where
  getElem?_eq := List.getElem?_set_self h.lt
  id_eq := h.id_eq
  ne_of_lt earlier hearlier other hother := by
    have hne : place ≠ earlier := Nat.ne_of_gt hearlier
    rw [Plan.markedAt, List.getElem?_set_ne hne] at hother
    exact h.ne_of_lt earlier hearlier other hother

/-- One more task is done, if it was open. -/
theorem Plan.FirstAt.progress_markedAt (h : plan.FirstAt id place task)
    (hopen : task.completed = false) :
    (plan.markedAt place task).progress = ⟨plan.tasks.length, plan.completedCount + 1⟩ := by
  obtain ⟨hlt, hget⟩ := List.getElem?_eq_some_iff.1 h.getElem?_eq
  unfold Plan.progress Plan.completedCount Plan.markedAt
  dsimp only
  rw [List.length_set, List.countP_set hlt, hget, hopen]
  rfl

end FirstAt

/-! ## The task that comes next -/

/-- The nearest open task behind a place, counted around the end of some tasks. -/
def NextOpen (tasks : List Task) (place : Nat) (task : Task) : Prop :=
  ∃ distance, distance + 1 < tasks.length ∧
    tasks[(place + 1 + distance) % tasks.length]? = some task ∧ task.completed = false ∧
    ∀ nearer < distance, ∀ other,
      tasks[(place + 1 + nearer) % tasks.length]? = some other → other.completed = true

section Around

variable {plan : Plan} {id : String} {place : Nat} {task : Task}

/-- Seen from a task, the tasks of a plan are those behind it, around to the one before it. -/
theorem Plan.FirstAt.getElem?_around (h : plan.FirstAt id place task) {distance : Nat}
    (hdistance : distance + 1 < plan.tasks.length) :
    (Session.around plan id)[distance]? =
      plan.tasks[(place + 1 + distance) % plan.tasks.length]? := by
  have hplace := h.lt
  unfold Session.around
  dsimp only
  rw [h.idxOf_eq, List.getElem?_append, List.length_drop]
  split
  · next hbehind =>
    rw [List.getElem?_drop, Nat.mod_eq_of_lt (by omega)]
  · next hbefore =>
    rw [List.getElem?_take_of_lt (by omega), Nat.mod_eq_sub_mod (by omega),
      Nat.mod_eq_of_lt (by omega)]
    congr 1
    omega

theorem Plan.FirstAt.length_around (h : plan.FirstAt id place task) :
    (Session.around plan id).length + 1 = plan.tasks.length := by
  have hplace := h.lt
  unfold Session.around
  dsimp only
  rw [h.idxOf_eq, List.length_append, List.length_drop, List.length_take]
  omega

/-- The first open task around a task is the nearest one behind it. -/
theorem Plan.FirstAt.nextOpen_of_find? (h : plan.FirstAt id place task) {following : Task}
    (hfind : (Session.around plan id).find? (!·.completed) = some following) :
    NextOpen plan.tasks place following := by
  have hlength := h.length_around
  obtain ⟨hopen, distance, hdistance, hget, hnearer⟩ := List.find?_eq_some_iff_getElem.1 hfind
  refine ⟨distance, by omega, ?_, by simpa using hopen, ?_⟩
  · rw [← h.getElem?_around (by omega), List.getElem?_eq_getElem hdistance, hget]
  · intro nearer hlt other hother
    rw [← h.getElem?_around (by omega)] at hother
    obtain ⟨_, rfl⟩ := List.getElem?_eq_some_iff.1 hother
    simpa using hnearer nearer hlt

/-- With no open task around a task that is done, all are done. -/
theorem Plan.FirstAt.completed_of_find? (h : plan.FirstAt id place task)
    (hdone : task.completed = true)
    (hfind : (Session.around plan id).find? (!·.completed) = none) :
    ∀ other ∈ plan.tasks, other.completed = true := by
  have hplace : plan.ids.idxOf id < plan.tasks.length := h.idxOf_eq.symm ▸ h.lt
  have hget : plan.tasks[plan.ids.idxOf id]? = some task := h.idxOf_eq.symm ▸ h.getElem?_eq
  have hself : (plan.tasks[plan.ids.idxOf id]).completed = true := by
    rw [(List.getElem?_eq_some_iff.1 hget).2, hdone]
  exact List.all_eq_true.1 ((find?_around_eq_none_iff_of_getElem plan hplace hself).1 hfind)

end Around

/-! ## Completing a task -/

/-- What a plan leads to in which a task has just been marked: the answer, and what the store holds
then. -/
inductive Plan.Advances (plan : Plan) (place : Nat) : Next → Option Plan → Prop
  | onward {task : Task} : NextOpen plan.tasks place task →
      Advances plan place (.inProgress plan.workflow task plan.progress) (some plan)
  | ended : (∀ task ∈ plan.tasks, task.completed = true) →
      Advances plan place (.allCompleted plan.workflow (some plan.progress)) none

/-- There is something left to do. -/
def Next.isInProgress : Next → Bool
  | .inProgress _ _ _ => true
  | _ => false

theorem Plan.remaining_pos_iff (plan : Plan) :
    0 < plan.progress.remaining ↔ ∃ task ∈ plan.tasks, task.completed = false := by
  unfold Progress.remaining Plan.progress Plan.completedCount
  dsimp only
  have hle := List.countP_le_length (p := (·.completed)) (l := plan.tasks)
  have hall : plan.tasks.countP (·.completed) = plan.tasks.length ↔
      ∀ task ∈ plan.tasks, task.completed = true := List.countP_eq_length
  constructor
  · intro hpos
    by_contra hnone
    refine absurd (hall.2 fun task htask => ?_) (by omega)
    by_contra hopen
    exact hnone ⟨task, htask, by simpa using hopen⟩
  · rintro ⟨task, htask, hopen⟩
    have hne := mt hall.1 fun hdone => by simp [hdone task htask] at hopen
    omega

theorem Plan.completed_add_remaining (plan : Plan) :
    plan.progress.completed + plan.progress.remaining = plan.progress.total := by
  have hle : plan.completedCount ≤ plan.tasks.length := List.countP_le_length
  exact Nat.add_sub_of_le hle

/-- Something is left exactly if the answer says so. -/
theorem Plan.Advances.isInProgress_iff {plan : Plan} {place : Nat} {next : Next}
    {held : Option Plan} (h : plan.Advances place next held) :
    next.isInProgress = true ↔ 0 < plan.progress.remaining := by
  rw [plan.remaining_pos_iff]
  cases h with
  | onward hnext =>
    obtain ⟨distance, -, htask, hopen, -⟩ := hnext
    exact ⟨fun _ => ⟨_, List.mem_of_getElem? htask, hopen⟩, fun _ => rfl⟩
  | ended hdone =>
    refine ⟨nofun, ?_⟩
    rintro ⟨task, htask, hopen⟩
    rw [hdone task htask] at hopen
    cases hopen

/-- A store holds something exactly if something is left. -/
theorem Plan.Advances.present_iff {σ : Type} [Store σ] {plan : Plan} {place : Nat} {next : Next}
    {held : Option Plan} (h : plan.Advances place next held) {store : σ}
    (hstore : Holds store held) :
    Store.present store = true ↔ next.isInProgress = true := by
  cases h with
  | onward _ => exact ⟨fun _ => rfl, fun _ => hstore.1⟩
  | ended _ =>
    have habsent : Store.present store = false := hstore
    rw [habsent]
    exact ⟨nofun, nofun⟩

section Complete

variable {σ : Type} [Store σ] {now : Time.Timestamp} {s : Session σ} {plan : Plan} {id : String}

theorem leads_complete_of_unknown (hload : (Store.load now s.store).2 = some plan)
    (hfind : plan.find? id = none) :
    (Session.complete now id).Leads s s (.error (.store (.unknownTask id plan.ids))) := by
  unfold Session.complete
  refine (leads_require_of_eq hload).bind ?_
  rw [hfind]
  exact Work.leads_fail _ s

theorem leads_complete_of_done {task : Task} (hload : (Store.load now s.store).2 = some plan)
    (hfind : plan.find? id = some task) (hdone : task.completed = true) :
    (Session.complete now id).Leads s s (.error (.store (.alreadyCompleted id))) := by
  unfold Session.complete
  refine (leads_require_of_eq hload).bind ?_
  rw [hfind]
  dsimp only
  rw [if_pos hdone]
  exact Work.leads_fail _ s

/-- The first open task of an id is marked, and the plan advances. -/
theorem exists_leads_complete [WorkableStore σ] {place : Nat} {task : Task}
    (hload : (Store.load now s.store).2 = some plan) (hfirst : plan.FirstAt id place task)
    (hfind : plan.find? id = some task) (hopen : task.completed = false) :
    ∃ s' next held, (Session.complete now id).Leads s s' (.ok next) ∧ Holds s'.store held ∧
      (plan.markedAt place task).Advances place next held := by
  rcases complete_cases_of_load now s id with
    ⟨e, -, hdone⟩ | ⟨plan', task', hload', hfind', -, hends⟩
  · rw [hdone plan task hload hfind] at hopen
    cases hopen
  obtain rfl := Option.some.inj (hload.symm.trans hload')
  obtain rfl := Option.some.inj (hfind.symm.trans hfind')
  have hids : (plan.setCompleted id true).ids = plan.ids := plan.ids_setCompleted id true
  rw [hfirst.setCompleted_eq] at hends hids
  rcases hends with ⟨hnone, store, hleads, hstore⟩ | ⟨following, hsome, hleads⟩
  · have hall := hfirst.markedAt.completed_of_find? rfl hnone
    exact ⟨_, _, none, hleads, hstore.holds, .ended hall⟩
  · have hheld : Holds (Store.save (plan.markedAt place task) s.store)
        (some (plan.markedAt place task)) :=
      ⟨LawfulStore.present_save _ _, WorkableStore.load_save_of_load hload hids⟩
    have hnext := hfirst.markedAt.nextOpen_of_find? hsome
    exact ⟨_, _, some (plan.markedAt place task), hleads, hheld, .onward hnext⟩

/-- **What completing a task does.** It fails where no plan is loaded, where no task has the id, and
where the first task of the id is done, and then nothing changes. Otherwise the flag of that task is
set and nothing else of the plan: with an open task left, the store holds the plan and the answer is
the nearest open task behind, counted around the end; with none left, the store is emptied. One more
task is done than before, and what is left is told by the answer and by the store alike. -/
theorem complete_of_load [WorkableStore σ] (now : Time.Timestamp) (id : String) (s : Session σ) :
    match (Store.load now s.store).2 with
    | none => (Session.complete now id).Leads s s (.error (.store .missing))
    | some plan =>
      (id ∉ plan.ids ∧
        (Session.complete now id).Leads s s (.error (.store (.unknownTask id plan.ids)))) ∨
      ∃ place task, plan.FirstAt id place task ∧
        (task.completed = true ∧
            (Session.complete now id).Leads s s (.error (.store (.alreadyCompleted id))) ∨
          task.completed = false ∧ ∃ s' next held,
            (Session.complete now id).Leads s s' (.ok next) ∧ Holds s'.store held ∧
            (plan.markedAt place task).Advances place next held ∧
            (plan.markedAt place task).progress = ⟨plan.tasks.length, plan.completedCount + 1⟩ ∧
            (plan.markedAt place task).progress.completed +
              (plan.markedAt place task).progress.remaining = plan.tasks.length ∧
            (next.isInProgress = true ↔ 0 < (plan.markedAt place task).progress.remaining) ∧
            (Store.present s'.store = true ↔
              0 < (plan.markedAt place task).progress.remaining)) := by
  cases hload : (Store.load now s.store).2 with
  | none => exact leads_complete_of_none hload id
  | some plan =>
    dsimp only
    cases hfind : plan.find? id with
    | none => exact .inl ⟨Plan.notMem_ids_of_find? hfind, leads_complete_of_unknown hload hfind⟩
    | some task =>
      obtain ⟨place, hfirst⟩ := Plan.exists_firstAt hfind
      refine .inr ⟨place, task, hfirst, ?_⟩
      cases hflag : task.completed with
      | true => exact .inl ⟨rfl, leads_complete_of_done hload hfind hflag⟩
      | false =>
        obtain ⟨s', next, held, hleads, hheld, hadvances⟩ :=
          exists_leads_complete hload hfirst hfind hflag
        have hprogress := hfirst.progress_markedAt hflag
        have hsum := (plan.markedAt place task).completed_add_remaining
        rw [show (plan.markedAt place task).progress.total = plan.tasks.length by rw [hprogress]]
          at hsum
        exact .inr ⟨rfl, s', next, held, hleads, hheld, hadvances, hprogress, hsum,
          hadvances.isInProgress_iff,
          (hadvances.present_iff hheld).trans hadvances.isInProgress_iff⟩

end Complete

/-- A plan in which ids are there more than once. Behind the second task all are done. -/
def stuttering : Plan where
  workflow := "w"
  generated := motley.generated
  tasks :=
    [{ id := "T001", name := "a", description := "", source := "w", step := "a" },
      { id := "T002", name := "b", description := "", source := "w", step := "b" },
      { id := "T001", name := "c", description := "", source := "w", step := "c",
        completed := true },
      { id := "T002", name := "d", description := "", source := "w", step := "d",
        completed := true }]

/-- Completing the second task goes on around the end, at the first one. -/
theorem complete_of_load_stuttering :
    ∃ place task s' next held, place = 1 ∧ stuttering.FirstAt "T002" place task ∧
      (Session.complete motley.generated "T002").Leads
        ⟨Store.save stuttering (TasksFile.mk "tasks.json" none), none⟩ s' (.ok next) ∧
      Holds s'.store held ∧ (stuttering.markedAt place task).Advances place next held ∧
      next.isInProgress = true ∧ Store.present s'.store = true := by
  have hvalid : ∀ task ∈ stuttering.tasks, isTaskId task.id = true := by
    simp only [stuttering, List.forall_mem_cons]
    decide
  -- Said of any store, so that none is evaluated.
  have hload : ∀ file : TasksFile, Store.load motley.generated file = ([], some stuttering) →
      (Store.load motley.generated (Session.mk file none).store).2 = some stuttering :=
    fun _ h => congrArg Prod.snd h
  have hplace : stuttering.ids.idxOf "T002" = 1 := by
    simp [stuttering, Plan.ids, List.idxOf, List.findIdx_cons]
  have hcomplete := complete_of_load motley.generated "T002"
    ⟨Store.save stuttering (TasksFile.mk "tasks.json" none), none⟩
  rw [hload _ (LawfulStore.load_save stuttering _ motley.generated hvalid)] at hcomplete
  rcases hcomplete with ⟨hnot, -⟩ | ⟨place, task, hfirst, ⟨hdone, -⟩ |
    ⟨-, s', next, held, hleads, hheld, hadvances, hprogress, -, hnext, hpresent⟩⟩
  · exact absurd (by simp [stuttering, Plan.ids]) hnot
  · obtain rfl : 1 = place := hplace.symm.trans hfirst.idxOf_eq
    obtain rfl := Option.some.inj hfirst.getElem?_eq
    cases hdone
  · have hleft : 0 < (stuttering.markedAt place task).progress.remaining := by
      rw [hprogress]
      decide
    exact ⟨place, task, s', next, held, hfirst.idxOf_eq.symm.trans hplace, hfirst, hleads, hheld,
      hadvances, hnext.2 hleft, hpresent.2 hleft⟩

end Runbook
