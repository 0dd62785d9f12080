import Runbook.Proofs.Plan.Ids
import Runbook.Proofs.Store.Laws
import Runbook.Text.Case

/-!
# `Proofs/Plan/Numbering` — what numbered tasks can be told by

The tasks of a plan are numbered once, when the plan is made, and from then on everybody who means a
task gives its id: the tasks file, the command line, where the id may be typed in any case, and the
operations that look it up. So the ids have to stand up to all of these. Here this is said of any
number of tasks, also of more than 999, where the ids grow longer.

That an id tells one task only is injectivity of the numeral with its zeros. With it the task that
is found under an id is the one whose place the id spells (`find?_assignIds`), and nothing is found
under any other text.
-/

set_option autoImplicit false

namespace Runbook

open Runbook.Text

/-! ## The text of an id -/

/-- An id is its place in decimal digits, at least three of them. -/
theorem toList_taskId_eq_leftpad (n : Nat) :
    (taskId n).toList = 'T' :: (Nat.toDigits 10 n).leftpad 3 '0' := by
  rw [toList_taskId, padded, decimal_eq_toDigits]
  rfl

theorem upperChar_of_isDigit {c : Char} (h : c.isDigit = true) : upperChar c = [c] := by
  have hbounds : 48 ≤ c.toNat ∧ c.toNat ≤ 57 := by
    simp only [Char.isDigit, Bool.and_eq_true, decide_eq_true_eq] at h
    exact ⟨h.1, h.2⟩
  have hlower : ¬ ('a'.val ≤ c.val ∧ c.val ≤ 'z'.val) := by
    rintro ⟨hle, -⟩
    have hle' : 97 ≤ c.toNat := hle
    omega
  have hupper : c.toUpper = c := dif_neg hlower
  unfold upperChar
  dsimp only
  rw [if_pos (by omega), hupper]

theorem upper_eq_self {s : String} (h : ∀ c ∈ s.toList, upperChar c = [c]) : upper s = s := by
  rw [upper, flatMap_eq_self h, String.ofList_toList]

/-- An id is in upper case already. -/
theorem upper_taskId (n : Nat) : upper (taskId n) = taskId n := by
  refine upper_eq_self fun c hc => ?_
  rw [toList_taskId] at hc
  rcases List.mem_cons.1 hc with rfl | hc
  · decide
  · exact upperChar_of_isDigit (isDigit_of_mem_padded hc)

/-! ## Looking up an id -/

theorem getElem?_assignIds (tasks : List Task) (i : Nat) : (assignIds tasks)[i]? =
    tasks[i]?.map fun task => { task with id := taskId (i + 1 : Nat) } :=
  List.getElem?_mapIdx

/-- A task is found under its id, if no other task has it. -/
theorem Plan.find?_of_nodup {plan : Plan} (h : plan.ids.Nodup) {task : Task}
    (htask : task ∈ plan.tasks) : plan.find? task.id = some task := by
  cases hfind : plan.find? task.id with
  | none => exact absurd (List.find?_eq_none.1 hfind task htask) (by simp)
  | some found =>
    have hid : found.id = task.id := by simpa using List.find?_some hfind
    have hsame : found = task :=
      List.inj_on_of_nodup_map h (List.mem_of_find?_eq_some hfind) htask hid
    rw [hsame]

/-- Nothing is found under a text that is no id of the plan. -/
theorem Plan.find?_eq_none_of_notMem {plan : Plan} {id : String} (h : id ∉ plan.ids) :
    plan.find? id = none := by
  refine List.find?_eq_none.2 fun task htask hid => h ?_
  have hsame : task.id = id := by simpa using hid
  exact hsame ▸ List.mem_map_of_mem htask

section Numbered

variable (workflow : String) (generated : Time.Timestamp) (tasks : List Task)

theorem ids_numbered :
    (Plan.mk workflow generated (assignIds tasks)).ids = idsUpTo tasks.length :=
  ids_assignIds tasks

theorem mem_idsUpTo_iff {n : Nat} {id : String} :
    id ∈ idsUpTo n ↔ ∃ i < n, id = taskId (i + 1 : Nat) := by
  unfold idsUpTo
  rw [List.mem_map]
  constructor
  · rintro ⟨i, hi, rfl⟩
    exact ⟨i, List.mem_range.1 hi, rfl⟩
  · rintro ⟨i, hi, rfl⟩
    exact ⟨i, List.mem_range.2 hi, rfl⟩

/-- Under the id of a place the task at this place is found, if there is one. -/
theorem find?_assignIds (i : Nat) :
    (Plan.mk workflow generated (assignIds tasks)).find? (taskId (i + 1 : Nat)) =
      (assignIds tasks)[i]? := by
  have hids := ids_numbered workflow generated tasks
  cases hget : (assignIds tasks)[i]? with
  | some task =>
    have hid : task.id = taskId (i + 1 : Nat) := by
      rw [getElem?_assignIds, Option.map_eq_some_iff] at hget
      obtain ⟨old, -, rfl⟩ := hget
      rfl
    rw [← hid]
    refine Plan.find?_of_nodup ?_ (List.mem_of_getElem? hget)
    rw [hids]
    exact nodup_idsUpTo tasks.length
  | none =>
    refine Plan.find?_eq_none_of_notMem ?_
    rw [hids, mem_idsUpTo_iff]
    rintro ⟨j, hj, heq⟩
    -- The place would be one of a task.
    have hij : i + 1 = j + 1 := taskId_inj heq
    have hlength : (assignIds tasks).length = tasks.length := List.length_mapIdx
    have hle := List.getElem?_eq_none_iff.1 hget
    omega

end Numbered

/-- **What numbering gives.** There are as many tasks as before, each as it was at its place but with
an id of its own: a `T` and the number of the place, counted from one, in decimal digits with zeros
in front up to three. No two ids are alike; each passes the check that a tasks file is read with, and
is the same in upper case. In any plan of these tasks, the task at a place is found under the id of
the place, and nothing is found under the id of a place that no task has, or under any other text. -/
theorem assignIds_identifies (tasks : List Task) :
    (assignIds tasks).length = tasks.length ∧
    (∀ i (hi : i < tasks.length),
      (assignIds tasks)[i]? = some { tasks[i] with id := taskId (i + 1 : Nat) } ∧
        (taskId (i + 1 : Nat)).toList = 'T' :: (Nat.toDigits 10 (i + 1)).leftpad 3 '0') ∧
    ((assignIds tasks).map (·.id)).Nodup ∧
    (∀ task ∈ assignIds tasks,
      Datum.asTaskId (.text task.id) = .valid task.id ∧ upper task.id = task.id) ∧
    ∀ workflow generated,
      (∀ i : Nat, (Plan.mk workflow generated (assignIds tasks)).find? (taskId (i + 1 : Nat)) =
        (assignIds tasks)[i]?) ∧
      ∀ id, (∀ i < tasks.length, id ≠ taskId (i + 1 : Nat)) →
        (Plan.mk workflow generated (assignIds tasks)).find? id = none := by
  refine ⟨List.length_mapIdx, fun i hi => ?_, ?_, fun task htask => ?_, fun workflow generated =>
    ⟨find?_assignIds workflow generated tasks, fun id hid => ?_⟩⟩
  · refine ⟨?_, toList_taskId_eq_leftpad (i + 1)⟩
    rw [getElem?_assignIds, List.getElem?_eq_getElem hi, Option.map_some]
  · rw [ids_assignIds]
    exact nodup_idsUpTo tasks.length
  · have hmem : task.id ∈ idsUpTo tasks.length :=
      ids_assignIds tasks ▸ List.mem_map_of_mem htask
    obtain ⟨i, -, hid⟩ := mem_idsUpTo_iff.1 hmem
    rw [hid]
    exact ⟨Datum.asTaskId_text (isTaskId_taskId (i + 1)), upper_taskId (i + 1)⟩
  · refine Plan.find?_eq_none_of_notMem ?_
    rw [ids_numbered, mem_idsUpTo_iff]
    rintro ⟨i, hi, heq⟩
    exact hid i hi heq

/-- Of a thousand tasks the last has a longer id, and is found under no other spelling of it. -/
theorem assignIds_identifies_thousand :
    ∃ tasks : List Task, tasks = List.replicate 1000 motley.tasks[0] ∧
      ∃ plan : Plan, plan.tasks = assignIds tasks ∧
        plan.find? "T1000" = some { motley.tasks[0] with id := "T1000" } ∧
        plan.find? "T01000" = none ∧ upper "T1000" = "T1000" := by
  -- Said of any tasks, so that none is evaluated.
  obtain ⟨tasks, htasks⟩ : ∃ tasks, tasks = List.replicate 1000 motley.tasks[0] := ⟨_, rfl⟩
  have hlength : tasks.length = 1000 := htasks ▸ List.length_replicate
  have hlt : 999 < tasks.length := hlength ▸ Nat.lt_succ_self 999
  have hall : ∀ task ∈ tasks, task = motley.tasks[0] := by
    rw [htasks]
    exact fun task htask => List.eq_of_mem_replicate htask
  have hsame : tasks[999] = motley.tasks[0] := hall _ (List.getElem_mem hlt)
  have hid : taskId (999 + 1 : Nat) = "T1000" := by decide +kernel
  obtain ⟨-, hget, -, hpass, hfind⟩ := assignIds_identifies tasks
  obtain ⟨hplace, hnone⟩ := hfind motley.workflow motley.generated
  have hlast : (assignIds tasks)[999]? = some { motley.tasks[0] with id := "T1000" } := by
    rw [(hget 999 hlt).1, hsame, hid]
  refine ⟨tasks, htasks, ⟨motley.workflow, motley.generated, assignIds tasks⟩, rfl, ?_,
    hnone "T01000" fun i hi heq => ?_, (hpass _ (List.mem_of_getElem? hlast)).2⟩
  · rw [← hlast, ← hplace 999, hid]
  · -- It would be the place that the digits spell, and that one has another id.
    have hdigits := congrArg String.toList heq
    rw [toList_taskId] at hdigits
    have hvalue := congrArg ofDecimal (List.cons.inj hdigits).2
    rw [ofDecimal_padded] at hvalue
    obtain rfl : i = 999 := Nat.succ.inj hvalue.symm
    rw [hid] at heq
    exact absurd heq (by decide)

end Runbook
