import Mathlib.Data.List.Forall2
import Runbook.Plan.Record
import Runbook.Proofs.Json.LineEndings
import Runbook.Proofs.Time.Text

/-!
# `Proofs/Plan/Record` — plans that were written are read back

A plan is written under one spelling of its keys, and every check takes what the writer puts there:
texts as they are, the flag as a truth value, the time as its text. The one check that could fail is
that of the ids, so a plan is read back if each of its ids may stand as one. The time of reading
plays no part, since a written plan has its own.
-/

set_option autoImplicit false

namespace Runbook

open Runbook.Text

/-! ## Fields that are there -/

theorem Fields.check_of_lookup {α : Type} {fields : Fields} {name : FieldName} {spelling : String}
    {d : Datum} {absent : Checked α} {check : Datum → Checked α} {a : α}
    (h : fields.lookup name = some (spelling, d)) (hd : check d = .valid a) :
    fields.check name absent check = .valid a := by
  rw [Fields.check, h]
  dsimp only
  rw [hd]
  rfl

theorem Fields.require_of_lookup {α : Type} {fields : Fields} {name : FieldName}
    {spelling : String} {d : Datum} {check : Datum → Checked α} {a : α}
    (h : fields.lookup name = some (spelling, d)) (hd : check d = .valid a) :
    fields.require name check = .valid a :=
  Fields.check_of_lookup h hd

theorem Fields.default_of_lookup {α : Type} {fields : Fields} {name : FieldName}
    {spelling : String} {d : Datum} {value : α} {check : Datum → Checked α} {a : α}
    (h : fields.lookup name = some (spelling, d)) (hd : check d = .valid a) :
    fields.default name value check = .valid a :=
  Fields.check_of_lookup h hd

/-- Items that pass a check, one by one. -/
theorem Datum.checkItems_of_forall₂ {α : Type} {check : Datum → Checked α} {as : List α}
    {ds : List Datum} (h : List.Forall₂ (fun a d => check d = .valid a) as ds) (index : Nat) :
    Datum.checkItems check index ds = .valid as := by
  induction h generalizing index with
  | nil => rfl
  | cons hd _ ih =>
    rw [Datum.checkItems, hd, ih]
    rfl

theorem Datum.checkItems_map {α : Type} {check : Datum → Checked α} {toDatum : α → Datum}
    {as : List α} (h : ∀ a ∈ as, check (toDatum a) = .valid a) (index : Nat) :
    Datum.checkItems check index (as.map toDatum) = .valid as := by
  refine Datum.checkItems_of_forall₂ ?_ index
  rw [List.forall₂_map_right_iff]
  exact List.forall₂_same.2 h

/-! ## Tasks and plans -/

theorem Datum.asTaskId_text {s : String} (h : isTaskId s = true) :
    Datum.asTaskId (.text s) = .valid s := by
  unfold Datum.asTaskId Datum.asText Checked.bind
  dsimp only
  rw [if_pos h]

theorem Datum.asTimestamp_stored (t : Time.Timestamp) :
    Datum.asTimestamp (.text t.stored) = .valid t := by
  unfold Datum.asTimestamp
  dsimp only
  rw [Time.read_stored]
  rfl

/-- A task is read back from its data if its id may stand as one. -/
theorem Task.ofDatum_toDatum {task : Task} (h : isTaskId task.id = true) :
    Task.ofDatum task.toDatum = .valid task := by
  unfold Task.ofDatum Task.toDatum Datum.asRecordOf
  dsimp only
  rw [Fields.default_of_lookup (by rfl) (Datum.asTaskId_text h),
    Fields.require_of_lookup (a := task.name) (by rfl) rfl,
    Fields.require_of_lookup (a := task.description) (by rfl) rfl,
    Fields.require_of_lookup (a := task.source) (by rfl) rfl,
    Fields.require_of_lookup (a := task.step) (by rfl) rfl,
    Fields.default_of_lookup (a := task.completed) (by rfl) rfl]
  rfl

/-- A plan is read back from its data, at any time. -/
theorem Plan.ofDatum_toDatum {plan : Plan} (h : ∀ task ∈ plan.tasks, isTaskId task.id = true)
    (now : Time.Timestamp) : Plan.ofDatum now plan.toDatum = .valid plan := by
  have htasks : Datum.asListOf Task.ofDatum (.list (plan.tasks.map Task.toDatum)) =
      .valid plan.tasks :=
    Datum.checkItems_map (fun task htask => Task.ofDatum_toDatum (h task htask)) 0
  unfold Plan.ofDatum Plan.toDatum Plan.toFields Datum.asRecordOf
  dsimp only
  rw [Fields.require_of_lookup (a := plan.workflow) (by rfl) rfl,
    Fields.default_of_lookup (by rfl) (Datum.asTimestamp_stored plan.generated),
    Fields.default_of_lookup (by rfl) htasks]
  rfl

/-! ## What passes a check -/

theorem Checked.seq_eq_valid {α β : Type} {f : Checked (α → β)} {x : Checked α} {b : β}
    (h : f <*> x = .valid b) : ∃ g a, f = .valid g ∧ x = .valid a ∧ g a = b := by
  cases f with
  | invalid faults => cases x <;> cases h
  | valid g =>
    cases x with
    | invalid faults => cases h
    | valid a =>
      injection h with h
      exact ⟨g, a, rfl, rfl, h⟩

theorem Checked.map_eq_valid {α β : Type} {g : α → β} {x : Checked α} {b : β}
    (h : g <$> x = .valid b) : ∃ a, x = .valid a ∧ g a = b := by
  obtain ⟨g', a, hg, hx, hb⟩ := Checked.seq_eq_valid (f := .valid g) h
  injection hg with hg
  exact ⟨a, hx, hg ▸ hb⟩

theorem Checked.under_eq_valid {α : Type} {x : Checked α} {key : Key} {a : α}
    (h : x.under key = .valid a) : x = .valid a := by
  cases x with
  | valid b => exact h
  | invalid faults => cases h

/-- What stands for a field is its default, or what the check gives for some data. -/
theorem Fields.default_eq_valid {α : Type} {fields : Fields} {name : FieldName} {value a : α}
    {check : Datum → Checked α} (h : fields.default name value check = .valid a) :
    a = value ∨ ∃ d, check d = .valid a := by
  unfold Fields.default Fields.check at h
  split at h
  · next spelling d _ => exact .inr ⟨d, Checked.under_eq_valid h⟩
  · injection h with h
    exact .inl h.symm

/-- Whether a field passes its check does not depend on the default. -/
theorem Fields.exists_default_eq_valid {α : Type} {fields : Fields} {name : FieldName}
    {value a : α} {check : Datum → Checked α} (h : fields.default name value check = .valid a)
    (value' : α) : ∃ a', fields.default name value' check = .valid a' := by
  unfold Fields.default Fields.check at h ⊢
  cases hfound : fields.lookup name with
  | none => exact ⟨value', rfl⟩
  | some found =>
    rw [hfound] at h
    exact ⟨a, h⟩

theorem Datum.checkItems_eq_valid {α : Type} {check : Datum → Checked α} {index : Nat}
    {ds : List Datum} {as : List α} (h : Datum.checkItems check index ds = .valid as) :
    ∀ a ∈ as, ∃ d, check d = .valid a := by
  induction ds generalizing index as with
  | nil =>
    injection h with h
    simp [← h]
  | cons d ds ih =>
    obtain ⟨push, more, hpush, hmore, rfl⟩ := Checked.seq_eq_valid h
    obtain ⟨a, ha, rfl⟩ := Checked.map_eq_valid hpush
    exact List.forall_mem_cons.2 ⟨⟨d, Checked.under_eq_valid ha⟩, ih hmore⟩

theorem Datum.isTaskId_of_asTaskId {d : Datum} {s : String} (h : d.asTaskId = .valid s) :
    isTaskId s = true := by
  cases d with
  | text t =>
    unfold Datum.asTaskId Datum.asText Checked.bind at h
    dsimp only at h
    split at h
    · next ht =>
      injection h with h
      exact h ▸ ht
    · cases h
  | _ => cases h

/-- The id of a task that passes the check may stand as an id. -/
theorem Task.isTaskId_of_ofDatum {d : Datum} {task : Task} (h : Task.ofDatum d = .valid task) :
    isTaskId task.id = true := by
  cases d with
  | record fields =>
    obtain ⟨_, completed, hstep, -, rfl⟩ := Checked.seq_eq_valid h
    obtain ⟨_, step, hsource, -, rfl⟩ := Checked.seq_eq_valid hstep
    obtain ⟨_, source, hdescription, -, rfl⟩ := Checked.seq_eq_valid hsource
    obtain ⟨_, description, hname, -, rfl⟩ := Checked.seq_eq_valid hdescription
    obtain ⟨_, name, hid, -, rfl⟩ := Checked.seq_eq_valid hname
    obtain ⟨id, hdefault, rfl⟩ := Checked.map_eq_valid hid
    rcases Fields.default_eq_valid hdefault with rfl | ⟨d, hd⟩
    · rfl
    · exact Datum.isTaskId_of_asTaskId hd
  | _ => cases h

/-- So do those of a plan. -/
theorem Plan.isTaskId_of_ofDatum {now : Time.Timestamp} {d : Datum} {plan : Plan}
    (h : Plan.ofDatum now d = .valid plan) : ∀ task ∈ plan.tasks, isTaskId task.id = true := by
  cases d with
  | record fields =>
    obtain ⟨_, tasks, hgenerated, htasks, rfl⟩ := Checked.seq_eq_valid h
    obtain ⟨_, generated, hworkflow, -, rfl⟩ := Checked.seq_eq_valid hgenerated
    obtain ⟨workflow, -, rfl⟩ := Checked.map_eq_valid hworkflow
    intro task htask
    have hchecked : ∃ d, Task.ofDatum d = .valid task := by
      rcases Fields.default_eq_valid htasks with rfl | ⟨d, hd⟩
      · cases htask
      · cases d with
        | list ds => exact Datum.checkItems_eq_valid hd task htask
        | _ => cases hd
    obtain ⟨d, hd⟩ := hchecked
    exact Task.isTaskId_of_ofDatum hd
  | _ => cases h

/-- Data that denotes a plan at one time denotes one at any time; only the time that stands in for a
missing one differs. -/
theorem Plan.exists_ofDatum {now : Time.Timestamp} {d : Datum} {plan : Plan}
    (h : Plan.ofDatum now d = .valid plan) (now' : Time.Timestamp) :
    ∃ generated, Plan.ofDatum now' d = .valid { plan with generated } := by
  cases d with
  | record fields =>
    obtain ⟨_, tasks, hdated, htasks, rfl⟩ := Checked.seq_eq_valid h
    obtain ⟨_, generated, hnamed, hgenerated, rfl⟩ := Checked.seq_eq_valid hdated
    obtain ⟨workflow, hworkflow, rfl⟩ := Checked.map_eq_valid hnamed
    obtain ⟨generated', hgenerated'⟩ := Fields.exists_default_eq_valid hgenerated now'
    refine ⟨generated', ?_⟩
    unfold Plan.ofDatum Datum.asRecordOf
    dsimp only
    rw [hworkflow, hgenerated', htasks]
    rfl
  | _ => cases h

/-! ## The tasks file -/

theorem Task.keeps_toDatum (task : Task) (depth : Nat) :
    Json.Keeps (depth + 1) task.toDatum := by
  cases depth <;> simp [Json.Keeps, Json.keepsOver, Task.toDatum]

theorem Plan.keeps_toDatum (plan : Plan) (depth : Nat) :
    Json.Keeps (depth + 3) plan.toDatum := by
  have htasks : Json.Keeps (depth + 2) (.list (plan.tasks.map Task.toDatum)) := by
    intro d hd
    obtain ⟨task, -, rfl⟩ := List.mem_map.1 hd
    exact task.keeps_toDatum depth
  intro f hf
  simp only [Plan.toFields, List.mem_cons, List.not_mem_nil, or_false] at hf
  rcases hf with rfl | rfl | rfl
  · trivial
  · trivial
  · exact htasks

end Runbook
