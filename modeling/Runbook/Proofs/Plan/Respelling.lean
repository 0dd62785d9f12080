import Mathlib.Data.List.Nodup
import Mathlib.Logic.Relation
import Runbook.Proofs.Store.Laws

/-!
# `Proofs/Plan/Respelling` — the same plan in other words

Who writes a tasks file by hand need not write it as the program does. The fields of an object may
stand in any order; a field of two spellings may have either, or both, and then it is the usual one
that counts; a field that nobody asks for does no harm; and the id of a task may be left out while
it is empty, as may its flag while the task is open. `Shape.Rewrites` is one such change to an object
of a shape, and a plan in other words (`Plan.IsRespelled`) is one whose object and whose tasks'
objects have each been through any number of them.

A reader asks an object what it says under the names of its shape (`Fields.find?`). No change touches
that, one kind apart: what is left out says nothing, where before it said what nothing is taken for
(`Shape.Rewrites.find?_cases`). So the plan that is read is the same.
-/

set_option autoImplicit false

namespace Runbook

open Runbook.Text

/-! ## What fields say -/

/-- The keys that a name is spelled with. -/
def FieldName.spellings (name : FieldName) : List String := [name.usual, name.other]

theorem FieldName.usual_mem_spellings (name : FieldName) : name.usual ∈ name.spellings := by
  simp [spellings]

theorem FieldName.other_mem_spellings (name : FieldName) : name.other ∈ name.spellings := by
  simp [spellings]

namespace Fields

variable {fields fields' front back : Fields} {key : String} {d : Datum}

/-- The keys of fields, in order. -/
def keys (fields : Fields) : List String := fields.map (·.1)

/-- What fields say under a name: the usual spelling goes before the other. -/
def find? (fields : Fields) (name : FieldName) : Option Datum :=
  (fields.get? name.usual).or (fields.get? name.other)

theorem keys_append (front back : Fields) : (front ++ back).keys = front.keys ++ back.keys :=
  List.map_append

/-- A field put among others is one more, with a key of its own or not. -/
theorem nodup_keys_insert_iff : (Fields.keys (front ++ (key, d) :: back)).Nodup ↔
    key ∉ (front ++ back).keys ∧ (front ++ back).keys.Nodup := by
  rw [keys_append, keys_append, ← List.nodup_cons]
  exact List.nodup_middle

theorem get?_eq_none_iff : fields.get? key = none ↔ key ∉ fields.keys := by
  unfold Fields.get? keys
  rw [Option.map_eq_none_iff, List.find?_eq_none]
  constructor
  · intro h hmem
    obtain ⟨f, hf, hkey⟩ := List.mem_map.1 hmem
    exact h f (List.mem_reverse.2 hf) (by simpa using hkey)
  · intro h f hf hkey
    have hsame : f.1 = key := by simpa using hkey
    exact h (hsame ▸ List.mem_map_of_mem (List.mem_reverse.1 hf))

/-- Where no two fields have the same key, what is found is what is there. -/
theorem get?_eq_some_iff (hnodup : fields.keys.Nodup) :
    fields.get? key = some d ↔ (key, d) ∈ fields := by
  have hfound : ∀ e, fields.get? key = some e → (key, e) ∈ fields := by
    intro e he
    obtain ⟨⟨k, _⟩, hf, rfl⟩ := Option.map_eq_some_iff.1 he
    have hkey : k = key := by simpa using List.find?_some hf
    exact hkey ▸ List.mem_reverse.1 (List.mem_of_find?_eq_some hf)
  refine ⟨hfound d, fun hmem => ?_⟩
  cases hget : fields.get? key with
  | none => exact absurd (List.mem_map_of_mem hmem) (get?_eq_none_iff.1 hget)
  | some e =>
    have hsame : (key, e) = (key, d) := List.inj_on_of_nodup_map hnodup (hfound e hget) hmem rfl
    exact congrArg (fun f => some f.2) hsame

/-- Then their order does not matter. -/
theorem get?_eq_of_perm (h : fields.Perm fields') (hnodup : fields.keys.Nodup) (key : String) :
    fields'.get? key = fields.get? key := by
  have hnodup' : fields'.keys.Nodup := (h.map _).nodup_iff.1 hnodup
  apply Option.ext
  intro d
  rw [get?_eq_some_iff hnodup', get?_eq_some_iff hnodup]
  exact h.symm.mem_iff

theorem get?_insert_of_ne (front back : Fields) {other : String} (h : key ≠ other) :
    get? (front ++ (key, d) :: back) other = get? (front ++ back) other := by
  have hother : (key == other) = false := beq_false_of_ne h
  unfold get?
  simp [List.find?_append, hother]

/-- A field says nothing under a name that is not spelled so. -/
theorem find?_insert_of_notMem (front back : Fields) {name : FieldName}
    (h : key ∉ name.spellings) :
    find? (front ++ (key, d) :: back) name = find? (front ++ back) name := by
  have husual : key ≠ name.usual := fun heq => h (heq ▸ name.usual_mem_spellings)
  have hother : key ≠ name.other := fun heq => h (heq ▸ name.other_mem_spellings)
  unfold find?
  rw [get?_insert_of_ne front back husual, get?_insert_of_ne front back hother]

/-- A field under the usual spelling is what is said. -/
theorem find?_of_get? {name : FieldName} (h : fields.get? name.usual = some d) :
    fields.find? name = some d := by
  unfold find?
  rw [h, Option.some_or]

/-! ## What a check makes of it -/

variable {α : Type} {name : FieldName} {absent : Checked α} {check : Datum → Checked α} {a : α}

theorem lookup_of_find? (h : fields.find? name = some d) :
    ∃ spelling, fields.lookup name = some (spelling, d) := by
  unfold find? at h
  unfold lookup
  cases husual : fields.get? name.usual with
  | some e =>
    rw [husual, Option.some_or] at h
    exact ⟨name.usual, by rw [Option.some.inj h]⟩
  | none =>
    rw [husual, Option.none_or] at h
    exact ⟨name.other, by rw [h, Option.map_some]⟩

theorem check_of_find? (h : fields.find? name = some d) (hd : check d = .valid a) :
    fields.check name absent check = .valid a := by
  obtain ⟨spelling, hlookup⟩ := lookup_of_find? h
  exact check_of_lookup hlookup hd

theorem check_of_find?_eq_none (h : fields.find? name = none) :
    fields.check name absent check = absent := by
  unfold find? at h
  obtain ⟨husual, hother⟩ := Option.or_eq_none_iff.1 h
  unfold Fields.check lookup
  rw [husual, hother]
  rfl

end Fields

/-! ## Objects in other words -/

/-- What an object is made of: the names of its fields, and the fields that may be left out. No key
spells two names. -/
structure Shape where
  names : List FieldName
  /-- A field may be left out while it says this. -/
  omissible : Fields
  apart : ∀ name ∈ names, ∀ name' ∈ names, ∀ key ∈ name.spellings, key ∈ name'.spellings →
    name = name'
  plain_mem_names : ∀ field ∈ omissible, FieldName.plain field.1 ∈ names

namespace Shape

variable {shape : Shape} {fields fields' : Fields}

/-- One change to the writing of an object. -/
inductive Rewrites (shape : Shape) : Fields → Fields → Prop
  /-- The fields are put in another order. -/
  | reordered {fields fields' : Fields} : fields.Perm fields' → Rewrites shape fields fields'
  /-- A field gets the other spelling. -/
  | renamed (name : FieldName) (front back : Fields) {d : Datum} : name ∈ shape.names →
      name.other ∉ Fields.keys (front ++ back) →
      Rewrites shape (front ++ (name.usual, d) :: back) (front ++ (name.other, d) :: back)
  /-- Beside a field, the other spelling gets any value. -/
  | doubled (name : FieldName) (d : Datum) {fields : Fields} : name ∈ shape.names →
      name.usual ∈ fields.keys → name.other ∉ fields.keys →
      Rewrites shape fields ((name.other, d) :: fields)
  /-- A field comes in that nobody asks for. -/
  | extended (key : String) (d : Datum) {fields : Fields} :
      (∀ name ∈ shape.names, key ∉ name.spellings) → key ∉ fields.keys →
      Rewrites shape fields ((key, d) :: fields)
  /-- A field is left out that says what is taken for granted. -/
  | omitted {key : String} {d : Datum} (front back : Fields) : (key, d) ∈ shape.omissible →
      Rewrites shape (front ++ (key, d) :: back) (front ++ back)

/-- No change makes two fields of one key. -/
theorem Rewrites.nodup (h : shape.Rewrites fields fields') (hnodup : fields.keys.Nodup) :
    fields'.keys.Nodup := by
  cases h with
  | reordered hperm => exact (hperm.map _).nodup_iff.1 hnodup
  | renamed _ front back _ hother =>
    obtain ⟨-, hrest⟩ := Fields.nodup_keys_insert_iff.1 hnodup
    exact Fields.nodup_keys_insert_iff.2 ⟨hother, hrest⟩
  | doubled _ d _ _ hother => exact List.nodup_cons.2 ⟨hother, hnodup⟩
  | extended _ d _ hkey => exact List.nodup_cons.2 ⟨hkey, hnodup⟩
  | omitted front back _ => exact (Fields.nodup_keys_insert_iff.1 hnodup).2

theorem notMem_spellings_of_ne {name own : FieldName} (hname : name ∈ shape.names)
    (hown : own ∈ shape.names) (hne : name ≠ own) {key : String} (hkey : key ∈ own.spellings) :
    key ∉ name.spellings :=
  fun hspelled => hne (shape.apart name hname own hown key hspelled hkey)

/-- Under the name whose spelling is changed, the same is said. -/
theorem find?_renamed {name : FieldName} {front back : Fields} {d : Datum}
    (hnodup : (Fields.keys (front ++ (name.usual, d) :: back)).Nodup)
    (hother : name.other ∉ Fields.keys (front ++ back)) :
    Fields.find? (front ++ (name.other, d) :: back) name =
      Fields.find? (front ++ (name.usual, d) :: back) name := by
  obtain ⟨husual, hrest⟩ := Fields.nodup_keys_insert_iff.1 hnodup
  have hnodup' : (Fields.keys (front ++ (name.other, d) :: back)).Nodup :=
    Fields.nodup_keys_insert_iff.2 ⟨hother, hrest⟩
  have hbefore : Fields.get? (front ++ (name.usual, d) :: back) name.usual = some d :=
    (Fields.get?_eq_some_iff hnodup).2 (by simp)
  have hafter : Fields.get? (front ++ (name.other, d) :: back) name.other = some d :=
    (Fields.get?_eq_some_iff hnodup').2 (by simp)
  rw [Fields.find?_of_get? hbefore]
  by_cases hplain : name.usual = name.other
  · exact Fields.find?_of_get? (hplain ▸ hafter)
  · have hnone : Fields.get? (front ++ (name.other, d) :: back) name.usual = none := by
      rw [Fields.get?_insert_of_ne front back fun heq => hplain heq.symm]
      exact Fields.get?_eq_none_iff.2 husual
    unfold Fields.find?
    rw [hnone, hafter, Option.none_or]

/-- What is said under a name and may be left out is said no more; nothing else changes. -/
theorem Rewrites.find?_cases (h : shape.Rewrites fields fields') (hnodup : fields.keys.Nodup)
    {name : FieldName} (hname : name ∈ shape.names) :
    fields'.find? name = fields.find? name ∨
      ∃ d, (name.usual, d) ∈ shape.omissible ∧ fields.find? name = some d ∧
        fields'.find? name = none := by
  cases h with
  | reordered hperm =>
    left
    unfold Fields.find?
    rw [Fields.get?_eq_of_perm hperm hnodup, Fields.get?_eq_of_perm hperm hnodup]
  | @renamed own front back d hown hother =>
    left
    by_cases hsame : name = own
    · subst hsame
      exact find?_renamed hnodup hother
    · have husual := notMem_spellings_of_ne hname hown hsame own.usual_mem_spellings
      have hother := notMem_spellings_of_ne hname hown hsame own.other_mem_spellings
      rw [Fields.find?_insert_of_notMem front back husual,
        Fields.find?_insert_of_notMem front back hother]
  | doubled own d hown husual hother =>
    left
    by_cases hsame : name = own
    · subst hsame
      -- The usual spelling is there, and it goes before the other one.
      obtain ⟨⟨_, e⟩, hfield, rfl⟩ := List.mem_map.1 husual
      have hbefore : fields.get? name.usual = some e := (Fields.get?_eq_some_iff hnodup).2 hfield
      have hne : name.other ≠ name.usual := fun heq => hother (heq ▸ husual)
      have hafter : Fields.get? ((name.other, d) :: fields) name.usual = some e :=
        (Fields.get?_insert_of_ne [] fields hne).trans hbefore
      rw [Fields.find?_of_get? hbefore, Fields.find?_of_get? hafter]
    · have hother := notMem_spellings_of_ne hname hown hsame own.other_mem_spellings
      exact Fields.find?_insert_of_notMem [] fields hother
  | extended key d hstrange hkey =>
    left
    exact Fields.find?_insert_of_notMem [] fields (hstrange name hname)
  | @omitted key d front back hfield =>
    have hplain := shape.plain_mem_names _ hfield
    by_cases hsame : name = FieldName.plain key
    · subst hsame
      right
      obtain ⟨hkey, -⟩ := Fields.nodup_keys_insert_iff.1 hnodup
      have hnone : Fields.get? (front ++ back) key = none := Fields.get?_eq_none_iff.2 hkey
      refine ⟨d, hfield, Fields.find?_of_get? ?_, Option.or_eq_none_iff.2 ⟨hnone, hnone⟩⟩
      exact (Fields.get?_eq_some_iff hnodup).2 (by simp [FieldName.plain])
    · left
      have hkey := notMem_spellings_of_ne hname hplain hsame
        (FieldName.plain key).usual_mem_spellings
      exact (Fields.find?_insert_of_notMem front back hkey).symm

/-- Any number of changes, one after another. -/
def Respells (shape : Shape) : Fields → Fields → Prop := Relation.ReflTransGen shape.Rewrites

/-- So it is after any number of changes. -/
theorem Respells.find?_cases (h : shape.Respells fields fields') (hnodup : fields.keys.Nodup)
    {name : FieldName} (hname : name ∈ shape.names) :
    fields'.find? name = fields.find? name ∨
      ∃ d, (name.usual, d) ∈ shape.omissible ∧ fields.find? name = some d ∧
        fields'.find? name = none := by
  have hrun : fields'.keys.Nodup ∧ (fields'.find? name = fields.find? name ∨
      ∃ d, (name.usual, d) ∈ shape.omissible ∧ fields.find? name = some d ∧
        fields'.find? name = none) := by
    induction h with
    | refl => exact ⟨hnodup, .inl rfl⟩
    | tail _ hlast ih =>
      obtain ⟨hmid, hsaid⟩ := ih
      refine ⟨hlast.nodup hmid, ?_⟩
      rcases hlast.find?_cases hmid hname with hsame | ⟨d, hd, hbefore, hafter⟩
      · rw [hsame]
        exact hsaid
      · rcases hsaid with hsaid | ⟨e, -, -, hnone⟩
        · exact .inr ⟨d, hd, hsaid ▸ hbefore, hafter⟩
        · -- What was left out cannot be left out again.
          rw [hnone] at hbefore
          cases hbefore
  exact hrun.2

section Check

variable {α : Type} {name : FieldName} {check : Datum → Checked α} {d : Datum} {a : α}

/-- A field that passed its check does so in other words. -/
theorem Respells.require_eq (h : shape.Respells fields fields') (hnodup : fields.keys.Nodup)
    (hname : name ∈ shape.names) (hsaid : fields.find? name = some d) (hd : check d = .valid a)
    (hneeded : ∀ e, (name.usual, e) ∉ shape.omissible) :
    fields'.require name check = .valid a := by
  rcases h.find?_cases hnodup hname with hsame | ⟨e, he, -⟩
  · exact Fields.check_of_find? (hsame.trans hsaid) hd
  · exact absurd he (hneeded e)

/-- So does a field with a default, if it is left out only while it says the default. -/
theorem Respells.default_eq {value : α} (h : shape.Respells fields fields')
    (hnodup : fields.keys.Nodup) (hname : name ∈ shape.names)
    (hsaid : fields.find? name = some d) (hd : check d = .valid a)
    (homissible : ∀ e, (name.usual, e) ∈ shape.omissible → check e = .valid value) :
    fields'.default name value check = .valid a := by
  rcases h.find?_cases hnodup hname with hsame | ⟨e, he, hbefore, hafter⟩
  · exact Fields.check_of_find? (hsame.trans hsaid) hd
  · obtain rfl := Option.some.inj (hbefore.symm.trans hsaid)
    have hvalue : Checked.valid value = .valid a := (homissible _ he).symm.trans hd
    exact (Fields.check_of_find?_eq_none hafter).trans hvalue

end Check

end Shape

/-! ## Tasks and plans in other words -/

/-- The object of a task. -/
def Task.shape : Shape where
  names :=
    [.plain "id", .plain "name", .plain "description", ⟨"sourceWorkflow", "source_workflow"⟩,
      ⟨"sourceStep", "source_step"⟩, .plain "completed"]
  omissible := [("id", .text ""), ("completed", .bool false)]
  apart := by decide
  plain_mem_names := by simp

/-- The object of a plan. -/
def Plan.shape : Shape where
  names :=
    [⟨"workflowName", "workflow_name"⟩, ⟨"generatedAt", "generated_at"⟩, .plain "tasks"]
  omissible := []
  apart := by decide
  plain_mem_names := by simp

/-- Data that is the object of a task in other words. -/
def Task.IsRespelled (task : Task) (d : Datum) : Prop :=
  ∃ fields fields', task.toDatum = .record fields ∧ Task.shape.Respells fields fields' ∧
    d = .record fields'

/-- Data that is the object of a plan in other words, with each task in other words too. -/
def Plan.IsRespelled (plan : Plan) (d : Datum) : Prop :=
  ∃ items fields, List.Forall₂ Task.IsRespelled plan.tasks items ∧
    Plan.shape.Respells (plan.toFields.set "tasks" (.list items)) fields ∧ d = .record fields

/-- A task is read from its object in other words. -/
theorem Task.ofDatum_of_isRespelled {task : Task} {d : Datum} (h : task.IsRespelled d)
    (hid : isTaskId task.id = true) : Task.ofDatum d = .valid task := by
  obtain ⟨fields, fields', hfields, hrespells, rfl⟩ := h
  obtain rfl := (Datum.record.inj hfields).symm
  have hnodup : List.Nodup
      ["id", "name", "description", "sourceWorkflow", "sourceStep", "completed"] := by decide
  have hneeded : ∀ key, key ≠ "id" → key ≠ "completed" → ∀ e, (key, e) ∉ Task.shape.omissible := by
    intro key hne hne' e he
    simp [Task.shape, hne, hne'] at he
  -- The two fields that may be left out are read as what they say then.
  have hempty : ∀ e, ("id", e) ∈ Task.shape.omissible → e.asTaskId = .valid "" := by
    intro e he
    obtain rfl : e = .text "" := by simpa [Task.shape] using he
    exact Datum.asTaskId_text rfl
  have hopen : ∀ e, ("completed", e) ∈ Task.shape.omissible →
      e.asBool .json = .valid false := by
    intro e he
    obtain rfl : e = .bool false := by simpa [Task.shape] using he
    rfl
  unfold Task.ofDatum Datum.asRecordOf
  dsimp only
  rw [hrespells.default_eq hnodup (by decide) rfl (Datum.asTaskId_text hid) hempty,
    hrespells.require_eq (a := task.name) hnodup (by decide) rfl rfl
      (hneeded _ (by decide) (by decide)),
    hrespells.require_eq (a := task.description) hnodup (by decide) rfl rfl
      (hneeded _ (by decide) (by decide)),
    hrespells.require_eq (a := task.source) hnodup (by decide) rfl rfl
      (hneeded _ (by decide) (by decide)),
    hrespells.require_eq (a := task.step) hnodup (by decide) rfl rfl
      (hneeded _ (by decide) (by decide)),
    hrespells.default_eq (a := task.completed) hnodup (by decide) rfl rfl hopen]
  rfl

/-- A plan is read from its object in other words. -/
theorem Plan.ofDatum_of_isRespelled {plan : Plan} {d : Datum} (h : plan.IsRespelled d)
    (hids : ∀ task ∈ plan.tasks, isTaskId task.id = true) (now : Time.Timestamp) :
    Plan.ofDatum now d = .valid plan := by
  obtain ⟨items, fields, hitems, hrespells, rfl⟩ := h
  have hnodup : List.Nodup ["workflowName", "generatedAt", "tasks"] := by decide
  have hneeded : ∀ key e, (key, e) ∉ Plan.shape.omissible := fun _ _ => List.not_mem_nil
  have htasks : Datum.asListOf Task.ofDatum (.list items) = .valid plan.tasks := by
    refine Datum.checkItems_of_forall₂ ?_ 0
    refine List.Forall₂.imp ?_ ((List.forall₂_and_left _ _).2 ⟨hids, hitems⟩)
    rintro task d ⟨hid, hd⟩
    exact Task.ofDatum_of_isRespelled hd hid
  unfold Plan.ofDatum Datum.asRecordOf
  dsimp only
  rw [hrespells.require_eq (a := plan.workflow) hnodup (by decide) rfl rfl (hneeded _),
    hrespells.default_eq hnodup (by decide) rfl (Datum.asTimestamp_stored plan.generated)
      fun e he => absurd he (hneeded _ e),
    hrespells.default_eq hnodup (by decide) rfl htasks fun e he => absurd he (hneeded _ e)]
  rfl

/-- **A plan does not depend on how it is written down.** Data that is the object of a plan in other
words denotes that plan and no other, whenever it is read; and so does a tasks file whose text is read
as such data. -/
theorem load_of_isRespelled {plan : Plan} (hids : ∀ task ∈ plan.tasks, isTaskId task.id = true)
    {d : Datum} (h : plan.IsRespelled d) (now : Time.Timestamp) :
    Plan.ofDatum now d = .valid plan ∧
      ∀ path cs, Json.read? (unifyNewlines cs) = some d →
        Store.load now (TasksFile.mk path (some (Utf8.encode cs))) = ([], some plan) := by
  have hvalid := Plan.ofDatum_of_isRespelled h hids now
  refine ⟨hvalid, fun path cs hread => ?_⟩
  have hplan : TasksFile.plan? now (Utf8.encode cs) = some plan := by
    unfold TasksFile.plan?
    rw [Utf8.decode_encode]
    dsimp only
    rw [hread, Option.bind_some, hvalid]
    rfl
  simp only [Store.load, hplan]

/-- The object of the second task of a plan, by another hand: two fields are left out, one is spelled
the other way, and one both ways. -/
def anotherTask : Fields :=
  [("source_step", .null), ("name", .text ""), ("description", .text "\t"),
    ("source_workflow", .text "a > b"), ("sourceStep", .text "\uFEFF")]

/-- The object of the plan, with fields that mean nothing and in another order. -/
def anotherHand : Fields :=
  [("tasks", .list [motley.tasks[0].toDatum, .record anotherTask]),
    ("generatedAt", .text motley.generated.stored), ("workflow_name", .text motley.workflow),
    ("generated_at", .list []), ("owner", .null)]

theorem isRespelled_anotherTask : motley.tasks[1].IsRespelled (.record anotherTask) := by
  have hempty : ("id", .text "") ∈ Task.shape.omissible := List.mem_cons_self
  have hopen : ("completed", .bool false) ∈ Task.shape.omissible :=
    List.mem_cons_of_mem _ List.mem_cons_self
  refine ⟨_, _, rfl, ?_, rfl⟩
  refine .head (.omitted [] _ hempty) ?_
  refine .head (.renamed ⟨"sourceWorkflow", "source_workflow"⟩ [_, _] _ (by decide) (by decide)) ?_
  refine .head (.doubled ⟨"sourceStep", "source_step"⟩ .null (by decide) (by decide) (by decide)) ?_
  exact .single (.omitted [_, _, _, _, _] [] hopen)

theorem isRespelled_anotherHand : motley.IsRespelled (.record anotherHand) := by
  have hfirst : motley.tasks[0].IsRespelled motley.tasks[0].toDatum := ⟨_, _, rfl, .refl, rfl⟩
  refine ⟨[motley.tasks[0].toDatum, .record anotherTask], anotherHand, ?_, ?_, rfl⟩
  · exact .cons hfirst (.cons isRespelled_anotherTask .nil)
  · refine .head (.renamed ⟨"workflowName", "workflow_name"⟩ [] _ (by decide) (by decide)) ?_
    refine .head (.doubled ⟨"generatedAt", "generated_at"⟩ (.list []) (by decide) (by decide)
      (by decide)) ?_
    refine .head (.extended "owner" .null (by decide) (by decide)) ?_
    exact .single (.reordered (List.reverse_perm _).symm)

/-- What the other hand has written is the same plan. -/
theorem load_of_isRespelled_anotherHand :
    (∀ task ∈ motley.tasks, isTaskId task.id = true) ∧ motley.IsRespelled (.record anotherHand) ∧
      Plan.ofDatum motley.generated (.record anotherHand) = .valid motley ∧
      Store.load motley.generated (TasksFile.mk "tasks.json"
        (some (Utf8.encode (Json.write .stored (.record anotherHand)).toList))) =
          ([], some motley) := by
  have hids : ∀ task ∈ motley.tasks, isTaskId task.id = true := by decide +kernel
  obtain ⟨hvalid, hload⟩ := load_of_isRespelled hids isRespelled_anotherHand motley.generated
  have hsecond : Json.Keeps 198 (.record anotherTask) := by
    intro f hf
    simp only [anotherTask, List.mem_cons, List.not_mem_nil, or_false] at hf
    rcases hf with rfl | rfl | rfl | rfl | rfl <;> trivial
  have hkeeps : Json.Keeps Json.maxDepth (.record anotherHand) := by
    intro f hf
    simp only [anotherHand, List.mem_cons, List.not_mem_nil, or_false] at hf
    rcases hf with rfl | rfl | rfl | rfl | rfl
    · exact List.forall_mem_cons.2 ⟨motley.tasks[0].keeps_toDatum 197,
        List.forall_mem_singleton.2 hsecond⟩
    · trivial
    · trivial
    · exact List.forall_mem_nil _
    · trivial
  have hread : Json.read? (unifyNewlines (Json.write .stored (.record anotherHand)).toList) =
      some (.record anotherHand) :=
    Json.read?_unifyNewlines_write hkeeps .stored
  exact ⟨hids, isRespelled_anotherHand, hvalid, hload "tasks.json" _ hread⟩

end Runbook
