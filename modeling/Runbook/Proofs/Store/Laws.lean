import Runbook.Proofs.Plan.Record
import Runbook.Proofs.Text.Utf8
import Runbook.Store.Basic

/-!
# `Proofs/Store/Laws` — what a store owes to its users

A store gives back the plan that was saved last, whatever it held before, and nothing after it was
emptied. For the memory of a process this is by definition. For the tasks file it is the sum of the
layers below: bytes, line endings, JSON, and the checks of the fields. Only a plan whose ids could
not be read again is excepted, and no operation makes such a plan.
-/

set_option autoImplicit false

namespace Runbook

open Runbook.Text

/-- A store that keeps what it is given. -/
class LawfulStore (σ : Type) [Store σ] : Prop where
  present_save : ∀ (plan : Plan) (s : σ), Store.present (Store.save plan s) = true
  load_save : ∀ (plan : Plan) (s : σ) (now : Time.Timestamp),
    (∀ task ∈ plan.tasks, isTaskId task.id = true) →
      Store.load now (Store.save plan s) = ([], some plan)
  present_delete : ∀ s : σ, Store.present (Store.delete s) = false
  load_of_absent : ∀ (s : σ) (now : Time.Timestamp),
    Store.present s = false → Store.load now s = ([], none)

instance : LawfulStore Memory where
  present_save _ _ := rfl
  load_save _ _ _ _ := rfl
  present_delete _ := rfl
  load_of_absent s _ h := by
    obtain ⟨plan⟩ := s
    cases plan with
    | none => rfl
    | some plan => cases h

namespace TasksFile

/-- The contents of a tasks file denote the plan that they were made from, at any time. -/
theorem plan?_contents {plan : Plan} (h : ∀ task ∈ plan.tasks, isTaskId task.id = true)
    (now : Time.Timestamp) : plan? now (contents plan) = some plan := by
  have hread : Json.read? (unifyNewlines plan.store.toList) = some plan.toDatum :=
    Json.read?_unifyNewlines_write (plan.keeps_toDatum 197) .stored
  unfold plan? contents Utf8.ofString
  rw [Utf8.decode_encode]
  dsimp only
  rw [hread, Option.bind_some, Plan.ofDatum_toDatum h]
  rfl

/-- The ids of a plan that a tasks file holds may stand as ids. -/
theorem isTaskId_of_plan? {now : Time.Timestamp} {bytes : Utf8.Bytes} {plan : Plan}
    (h : plan? now bytes = some plan) : ∀ task ∈ plan.tasks, isTaskId task.id = true := by
  unfold plan? at h
  split at h
  · cases h
  · obtain ⟨d, -, hd⟩ := Option.bind_eq_some_iff.1 h
    cases hcheck : Plan.ofDatum now d with
    | invalid faults =>
      rw [hcheck] at hd
      cases hd
    | valid checked =>
      rw [hcheck] at hd
      obtain rfl := Option.some.inj hd
      exact Plan.isTaskId_of_ofDatum hcheck

/-- Contents that denote no plan at one time denote none at any time. -/
theorem plan?_eq_none {now : Time.Timestamp} {bytes : Utf8.Bytes} (h : plan? now bytes = none)
    (now' : Time.Timestamp) : plan? now' bytes = none := by
  unfold plan? at h ⊢
  cases hdecode : Utf8.decode bytes with
  | error fault => rfl
  | ok cs =>
    rw [hdecode] at h
    refine Option.bind_eq_none_iff.2 fun d hd => ?_
    have hinvalid := Option.bind_eq_none_iff.1 h d hd
    cases hcheck : Plan.ofDatum now' d with
    | invalid faults => rfl
    | valid plan =>
      -- Then the data would denote a plan at the other time as well.
      obtain ⟨generated, hvalid⟩ := Plan.exists_ofDatum hcheck now
      rw [hvalid] at hinvalid
      cases hinvalid

/-- Contents that denote a plan at one time denote it at any time, the time apart that stands in for a
missing one. -/
theorem exists_plan? {now : Time.Timestamp} {bytes : Utf8.Bytes} {plan : Plan}
    (h : plan? now bytes = some plan) (now' : Time.Timestamp) :
    ∃ generated, plan? now' bytes = some { plan with generated } := by
  unfold plan? at h ⊢
  cases hdecode : Utf8.decode bytes with
  | error fault =>
    rw [hdecode] at h
    cases h
  | ok cs =>
    rw [hdecode] at h
    obtain ⟨d, hd, hplan⟩ := Option.bind_eq_some_iff.1 h
    cases hcheck : Plan.ofDatum now d with
    | invalid faults =>
      rw [hcheck] at hplan
      cases hplan
    | valid checked =>
      rw [hcheck] at hplan
      obtain rfl := Option.some.inj hplan
      obtain ⟨generated, hvalid⟩ := Plan.exists_ofDatum hcheck now'
      refine ⟨generated, Option.bind_eq_some_iff.2 ⟨d, hd, ?_⟩⟩
      rw [hvalid]
      rfl

/-- A tasks file that gives a plan tells nothing. -/
theorem load_of_plan {file : TasksFile} {now : Time.Timestamp} {plan : Plan}
    (h : (Store.load now file).2 = some plan) : Store.load now file = ([], some plan) ∧
      ∀ task ∈ plan.tasks, isTaskId task.id = true := by
  obtain ⟨path, bytes⟩ := file
  cases bytes with
  | none => cases h
  | some bytes =>
    cases hplan : plan? now bytes with
    | none =>
      simp only [Store.load, hplan] at h
      cases h
    | some found =>
      simp only [Store.load, hplan] at h ⊢
      obtain rfl := Option.some.inj h
      exact ⟨rfl, isTaskId_of_plan? hplan⟩

end TasksFile

instance : LawfulStore TasksFile where
  present_save _ _ := rfl
  load_save plan file now h := by
    show (match TasksFile.plan? now (TasksFile.contents plan) with
      | some plan => ([], some plan)
      | none => ([Event.unreadable file.path], none)) = ([], some plan)
    rw [TasksFile.plan?_contents h]
  present_delete _ := rfl
  load_of_absent s _ h := by
    obtain ⟨path, bytes⟩ := s
    cases bytes with
    | none => rfl
    | some bytes => cases h

/-! ## The tasks file loses nothing -/

/-- A plan that is saved to a tasks file and loaded again is the same plan, in every field and
whatever the file held before, as long as its ids may stand as ids. -/
theorem load_save_tasksFile (plan : Plan) (h : ∀ task ∈ plan.tasks, isTaskId task.id = true)
    (file : TasksFile) (now : Time.Timestamp) :
    Store.load now (Store.save plan file) = ([], some plan) :=
  LawfulStore.load_save plan file now h

/-- A plan with a bit of everything that a text may hold. -/
def motley : Plan where
  workflow := "a \"b\" \\ c"
  generated :=
    { date := ⟨1, 2, 28, by decide, by decide⟩
      clock := ⟨23, 5, 9, 70, by decide, by decide, by decide, by decide⟩
      offset := some ⟨-1439, by decide⟩ }
  tasks :=
    [{ id := "T001", name := "line\r\nends\r", description := "\u0000\u001f\u007f\u2028",
       source := "", step := String.ofList [Char.ofNat 0x1F600], completed := true },
      { id := "", name := "", description := "\t", source := "a > b", step := "\uFEFF" }]

theorem load_save_motley :
    (∀ task ∈ motley.tasks, isTaskId task.id = true) ∧
      Store.load motley.generated (Store.save motley (TasksFile.mk "tasks.json" (some [0xFF]))) =
        ([], some motley) :=
  ⟨by decide +kernel, load_save_tasksFile motley (by decide +kernel) _ _⟩

end Runbook
