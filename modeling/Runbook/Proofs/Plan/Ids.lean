import Mathlib.Data.List.Nodup
import Runbook.Plan.Basic
import Runbook.Proofs.Text.Numeral

/-!
# `Proofs/Plan/Ids` — numbered tasks

The ids of numbered tasks may stand as ids, no two are alike, and numbering touches nothing else. In
a plan with such ids a task can be told by its id, so the flags of a plan are a set of ids:
`Plan.markedBy` is the plan with the flags of some ids set, and setting one more flag is one more id
in the set.
-/

set_option autoImplicit false

namespace Runbook

open Runbook.Text

/-! ## Ids -/

theorem toList_taskId (n : Nat) : (taskId n).toList = 'T' :: padded 3 n := by
  rw [taskId, String.toList_ofList, if_neg (by omega), Int.natAbs_natCast]

theorem taskId_inj {m n : Nat} (h : taskId m = taskId n) : m = n := by
  have hlist := congrArg String.toList h
  rw [toList_taskId, toList_taskId] at hlist
  exact padded_inj (List.cons.inj hlist).2

/-- The id of a place may stand as an id. -/
theorem isTaskId_taskId (n : Nat) : isTaskId (taskId n) = true := by
  have hdigits : (padded 3 n).all isIdDigit = true := by
    refine List.all_eq_true.2 fun c hc => ?_
    exact isIdDigit_of_isDigit c (isDigit_of_ascii c (isDigit_of_mem_padded hc))
  have hlen : 3 ≤ (padded 3 n).length := by
    rw [padded, List.length_append, List.length_replicate]
    omega
  rw [isTaskId, toList_taskId, isNumbered, hdigits, decide_eq_true hlen]
  exact Bool.or_true _

/-- The ids of so many tasks. -/
def idsUpTo (n : Nat) : List String := (List.range n).map fun (i : Nat) => taskId (i + 1 : Nat)

theorem nodup_idsUpTo (n : Nat) : (idsUpTo n).Nodup := by
  refine List.Nodup.map (fun i j h => ?_) List.nodup_range
  have hij := taskId_inj h
  omega

theorem isTaskId_of_mem_idsUpTo {n : Nat} {id : String} (h : id ∈ idsUpTo n) :
    isTaskId id = true := by
  obtain ⟨i, -, rfl⟩ := List.mem_map.1 h
  exact isTaskId_taskId (i + 1)

theorem ids_assignIds (tasks : List Task) :
    (assignIds tasks).map (·.id) = idsUpTo tasks.length := by
  apply List.ext_getElem
  · simp [assignIds, idsUpTo]
  · intro i hi hi'
    simp [assignIds, idsUpTo]

/-- Numbering leaves the flags alone. -/
theorem completed_assignIds {tasks : List Task} (h : ∀ task ∈ tasks, task.completed = false) :
    ∀ task ∈ assignIds tasks, task.completed = false := by
  intro task htask
  obtain ⟨i, hi, rfl⟩ := List.mem_mapIdx.1 htask
  exact h tasks[i] (List.getElem_mem hi)

/-! ## Flags -/

/-- A task without its flag. -/
def Task.unmarked (task : Task) : Task := { task with completed := false }

/-- The plan with the flags of some ids set, and no others. -/
def Plan.markedBy (plan : Plan) (done : List String) : Plan :=
  { plan with tasks := plan.tasks.map fun task => { task with completed := done.contains task.id } }

theorem Plan.ids_markedBy (plan : Plan) (done : List String) :
    (plan.markedBy done).ids = plan.ids := by
  unfold Plan.ids Plan.markedBy
  rw [List.map_map]
  rfl

theorem Plan.markedBy_nil {plan : Plan} (h : ∀ task ∈ plan.tasks, task.completed = false) :
    plan.markedBy [] = plan := by
  obtain ⟨workflow, generated, tasks⟩ := plan
  have hmap : (tasks.map fun task => { task with completed := [].contains task.id }) = tasks := by
    refine (List.map_congr_left fun task htask => ?_).trans (List.map_id tasks)
    exact congrArg (fun b => { task with completed := b }) (h task htask).symm
  exact congrArg (Plan.mk workflow generated) hmap

theorem Plan.mark_map {tasks : List Task} (h : (tasks.map (·.id)).Nodup) (done : List String)
    (id : String) :
    Plan.setCompleted.mark id true
        (tasks.map fun task => { task with completed := done.contains task.id }) =
      tasks.map fun task => { task with completed := (id :: done).contains task.id } := by
  induction tasks with
  | nil => rfl
  | cons task rest ih =>
    obtain ⟨hnot, hrest⟩ := List.nodup_cons.1 h
    rw [List.map_cons, List.map_cons, Plan.setCompleted.mark]
    by_cases hid : task.id = id
    · subst hid
      rw [if_pos (by simp)]
      congr 1
      · simp
      · refine List.map_congr_left fun other hother => ?_
        have hne : other.id ≠ task.id := fun heq =>
          hnot (List.mem_map.2 ⟨other, hother, heq⟩)
        simp [hne]
    · rw [if_neg (by simpa using hid), ih hrest]
      congr 1
      simp [hid]

/-- One more flag is one more id. -/
theorem Plan.setCompleted_markedBy {plan : Plan} (h : plan.ids.Nodup) (done : List String)
    (id : String) : (plan.markedBy done).setCompleted id true = plan.markedBy (id :: done) :=
  congrArg (Plan.mk plan.workflow plan.generated) (Plan.mark_map h done id)

theorem Plan.ids_setCompleted (plan : Plan) (id : String) (completed : Bool) :
    (plan.setCompleted id completed).ids = plan.ids := by
  have hmark : ∀ tasks : List Task,
      (Plan.setCompleted.mark id completed tasks).map (·.id) = tasks.map (·.id) := by
    intro tasks
    induction tasks with
    | nil => rfl
    | cons task rest ih =>
      rw [Plan.setCompleted.mark]
      split
      · rfl
      · rw [List.map_cons, ih, List.map_cons]
  exact hmark plan.tasks

/-- Where no id is there twice, setting a flag leaves no open task of that id. -/
theorem Plan.completed_of_mem_setCompleted {plan : Plan} (h : plan.ids.Nodup) {id : String}
    {task : Task} (htask : task ∈ (plan.setCompleted id true).tasks) (hid : task.id = id) :
    task.completed = true := by
  have hmark : ∀ tasks : List Task, (tasks.map (·.id)).Nodup →
      task ∈ Plan.setCompleted.mark id true tasks → task.completed = true := by
    intro tasks hnodup hmem
    induction tasks with
    | nil => cases hmem
    | cons first rest ih =>
      obtain ⟨hnot, hrest⟩ := List.nodup_cons.1 hnodup
      rw [Plan.setCompleted.mark] at hmem
      split at hmem
      · next hfirst =>
        rcases List.mem_cons.1 hmem with rfl | hmem
        · rfl
        · have hsame : first.id = id := by simpa using hfirst
          exact absurd (List.mem_map.2 ⟨task, hmem, hid.trans hsame.symm⟩) hnot
      · next hfirst =>
        rcases List.mem_cons.1 hmem with rfl | hmem
        · exact absurd (by simpa using hid) hfirst
        · exact ih hrest hmem
  exact hmark plan.tasks h htask

end Runbook
