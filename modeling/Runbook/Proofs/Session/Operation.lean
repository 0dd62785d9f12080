import Runbook.Proofs.Plan.Ids
import Runbook.Proofs.Store.Laws
import Runbook.Session.Operation

/-!
# `Proofs/Session/Operation` — what each operation does to the store

For each operation there is one law that says what it finds, what it leaves behind and what it
answers, failures included, with the events left out (`Work.Leads`). These laws hold of any store:
what an operation does depends on what it loads, and a plan that is finished leaves a store that was
emptied (`Emptied`). An operation that fails leaves the store as it was.

A store that keeps what it is given is looked at through what it holds: nothing, or a plan that every
load finds (`Holds`). The laws are then told in terms of what is held.
-/

set_option autoImplicit false

namespace Runbook

variable {σ α β : Type}

/-! ## Where work leads -/

/-- Work in a session leads to a session and an answer. -/
def Work.Leads (x : Work σ α) (s s' : Session σ) (answer : Except Failure α) : Prop :=
  (x s).session = s' ∧ (x s).answer = answer

theorem Work.leads_pure (a : α) (s : Session σ) : (pure a : Work σ α).Leads s s (.ok a) :=
  ⟨rfl, rfl⟩

theorem Work.leads_fail (e : Failure) (s : Session σ) :
    (Work.fail e : Work σ α).Leads s s (.error e) := ⟨rfl, rfl⟩

theorem Work.leads_tell (e : Event) (s : Session σ) : (Work.tell e).Leads s s (.ok ()) :=
  ⟨rfl, rfl⟩

theorem Work.leads_modify (f : Session σ → Session σ) (s : Session σ) :
    (Work.modify f).Leads s (f s) (.ok ()) := ⟨rfl, rfl⟩

theorem Work.leads_get (s : Session σ) : Work.get.Leads s s (.ok s) := ⟨rfl, rfl⟩

theorem Work.Leads.bind {x : Work σ α} {f : α → Work σ β} {s s' s'' : Session σ} {a : α}
    {answer : Except Failure β} (hx : x.Leads s s' (.ok a)) (hf : (f a).Leads s' s'' answer) :
    (x >>= f).Leads s s'' answer := by
  obtain ⟨rfl, ha⟩ := hx
  obtain ⟨rfl, rfl⟩ := hf
  show (Work.bind x f s).session = _ ∧ (Work.bind x f s).answer = _
  unfold Work.bind
  dsimp only
  rw [ha]
  exact ⟨rfl, rfl⟩

theorem Work.Leads.bind_error {x : Work σ α} {f : α → Work σ β} {s s' : Session σ} {e : Failure}
    (hx : x.Leads s s' (.error e)) : (x >>= f).Leads s s' (.error e) := by
  obtain ⟨rfl, ha⟩ := hx
  show (Work.bind x f s).session = _ ∧ (Work.bind x f s).answer = _
  unfold Work.bind
  dsimp only
  rw [ha]
  exact ⟨rfl, rfl⟩

theorem Work.Leads.map_ok {x : Work σ α} {s s' : Session σ} {a : α} (f : α → β)
    (hx : x.Leads s s' (.ok a)) : (f <$> x).Leads s s' (.ok (f a)) :=
  hx.bind (Work.leads_pure (f a) s')

theorem Work.Leads.map_error {x : Work σ α} {s s' : Session σ} {e : Failure} (f : α → β)
    (hx : x.Leads s s' (.error e)) : (f <$> x).Leads s s' (.error e) :=
  hx.bind_error

/-! ## What a store gives and holds -/

variable [Store σ]

/-- A store that was emptied, or has nothing in it anyway. -/
def Emptied (store : σ) : Prop :=
  Store.present store = false ∨ ∃ held : σ, store = Store.delete held

theorem leads_load_of_eq {now : Time.Timestamp} {s : Session σ} {held : Option Plan}
    (h : (Store.load now s.store).2 = held) : (Work.load now).Leads s s (.ok held) :=
  ⟨rfl, congrArg Except.ok h⟩

theorem leads_require_of_eq {now : Time.Timestamp} {s : Session σ} {plan : Plan}
    (h : (Store.load now s.store).2 = some plan) : (Work.require now).Leads s s (.ok plan) :=
  (leads_load_of_eq h).bind (Work.leads_pure plan s)

theorem leads_delete_of_present {s : Session σ} (h : Store.present s.store = true) :
    Work.delete.Leads s ⟨Store.delete s.store, s.finished⟩ (.ok true) := by
  unfold Work.Leads Work.delete
  rw [if_pos h]
  exact ⟨rfl, rfl⟩

theorem leads_delete_of_absent {s : Session σ} (h : Store.present s.store = false) :
    Work.delete.Leads s s (.ok false) := by
  unfold Work.Leads Work.delete
  rw [if_neg ((Bool.not_eq_true _).mpr h)]
  exact ⟨rfl, rfl⟩

/-- Deleting empties the store, and nothing else of the session changes. -/
theorem exists_leads_delete (s : Session σ) :
    ∃ b store, Work.delete.Leads s ⟨store, s.finished⟩ (.ok b) ∧ Emptied store := by
  by_cases h : Store.present s.store = true
  · exact ⟨true, _, leads_delete_of_present h, .inr ⟨s.store, rfl⟩⟩
  · have habsent := (Bool.not_eq_true _).mp h
    exact ⟨false, s.store, leads_delete_of_absent habsent, .inl habsent⟩

/-- What a store holds, whenever it is asked. -/
def Holds (s : σ) : Option Plan → Prop
  | none => Store.present s = false
  | some plan => Store.present s = true ∧ ∀ now, Store.load now s = ([], some plan)

section Laws

variable [LawfulStore σ]

theorem holds_save {plan : Plan} (h : ∀ task ∈ plan.tasks, isTaskId task.id = true) (s : σ) :
    Holds (Store.save plan s) (some plan) :=
  ⟨LawfulStore.present_save plan s, fun now => LawfulStore.load_save plan s now h⟩

theorem Emptied.holds {store : σ} (h : Emptied store) : Holds store none := by
  rcases h with h | ⟨held, rfl⟩
  · exact h
  · exact LawfulStore.present_delete held

theorem Holds.load_eq {s : σ} {held : Option Plan} (h : Holds s held) (now : Time.Timestamp) :
    Store.load now s = ([], held) := by
  cases held with
  | none => exact LawfulStore.load_of_absent s now h
  | some plan => exact h.2 now

/-- What a store holds is what it gives. -/
theorem Holds.eq_of_load {s : σ} {held found : Option Plan} (h : Holds s held)
    {now : Time.Timestamp} (hfound : (Store.load now s).2 = found) : held = found :=
  (congrArg Prod.snd (h.load_eq now)).symm.trans hfound

theorem leads_load {s : Session σ} {held : Option Plan} (h : Holds s.store held)
    (now : Time.Timestamp) : (Work.load now).Leads s s (.ok held) :=
  leads_load_of_eq (congrArg Prod.snd (h.load_eq now))

end Laws

/-! ## Making a plan -/

/-- What starting a workflow answers where there is a plan already. -/
def Plan.startOver (plan : Plan) (workflow : String) : Start :=
  if plan.workflow = workflow then .resumable plan.workflow plan.progress
  else .conflict plan.workflow plan.progress

/-- Where a plan is loaded, starting a workflow changes nothing. -/
theorem leads_start_of_some {ctx : Context σ} {s : Session σ} {plan : Plan}
    (h : (Store.load ctx.now s.store).2 = some plan) (workflow : String) :
    (Session.start ctx workflow).Leads s s (.ok (plan.startOver workflow)) := by
  unfold Session.start Plan.startOver
  refine (leads_load_of_eq h).bind ?_
  dsimp only
  split
  · exact Work.leads_pure _ s
  · exact Work.leads_pure _ s

/-- Where no plan is loaded, starting a workflow is making a plan. -/
theorem leads_start_of_none {ctx : Context σ} {s s' : Session σ} {workflow : String}
    {answer : Except Failure Plan} (h : (Store.load ctx.now s.store).2 = none)
    (hmade : (Session.generate ctx workflow).Leads s s' answer) :
    (Session.start ctx workflow).Leads s s' (answer.map .generated) := by
  unfold Session.start
  refine (leads_load_of_eq h).bind ?_
  cases answer with
  | error e => exact hmade.bind_error
  | ok plan => exact hmade.bind (Work.leads_pure _ s')

/-- A plan that a workflow makes at a time. -/
structure Makes (lib : Library) (run : Runner (Traced DocumentError)) (now : Time.Timestamp)
    (workflow : String) (plan : Plan) : Prop where
  workflow_eq : plan.workflow = workflow
  generated_eq : plan.generated = now
  tasks_eq : (flatten lib.source run workflow).outcome = .ok plan.tasks
  tasks_ne_nil : plan.tasks ≠ []

section Making

variable (lib : Library) (names : List String) (run : Runner (Traced DocumentError))
  (now : Time.Timestamp)

/-- Whether making a plan fails, and which plan it makes, has nothing to do with the session. If it
fails, all is left as it was; otherwise the plan is saved. -/
theorem generate_cases_forall (workflow : String) :
    (∃ e, ∀ s : Session σ, (Session.generate (.ofLibrary lib names run now) workflow).Leads s s
        (.error e)) ∨
      ∃ plan, Makes lib run now workflow plan ∧ ∀ s : Session σ,
        (Session.generate (.ofLibrary lib names run now) workflow).Leads s
          { store := Store.save plan s.store, finished := none } (.ok plan) := by
  have htell := fun s : Session σ => Work.leads_tell (.generating workflow) s
  unfold Session.generate
  cases hflat : (flatten lib.source run workflow).outcome with
  | error e =>
    have htasks : ∀ s : Session σ, ((Context.ofLibrary lib names run now).tasks workflow).Leads s s
        (.error (.document e)) :=
      fun s => ⟨rfl, congrArg (Except.mapError Failure.document) hflat⟩
    exact .inl ⟨_, fun s => (htell s).bind (htasks s).bind_error⟩
  | ok tasks =>
    have htasks : ∀ s : Session σ, ((Context.ofLibrary lib names run now).tasks workflow).Leads s s
        (.ok tasks) :=
      fun s => ⟨rfl, congrArg (Except.mapError Failure.document) hflat⟩
    by_cases hempty : tasks = []
    · refine .inl ⟨.emptyWorkflow workflow, fun s => (htell s).bind ((htasks s).bind ?_)⟩
      rw [if_pos hempty]
      exact Work.leads_fail _ s
    · refine .inr ⟨{ workflow, generated := now, tasks }, ⟨rfl, rfl, hflat, hempty⟩,
        fun s => (htell s).bind ((htasks s).bind ?_)⟩
      rw [if_neg hempty]
      exact (Work.leads_modify _ s).bind ((Work.leads_modify _ _).bind (Work.leads_pure _ _))

/-- Making a plan fails and leaves all as it was, or it saves the plan that the workflow makes. -/
theorem generate_cases (s : Session σ) (workflow : String) :
    (∃ e, (Session.generate (.ofLibrary lib names run now) workflow).Leads s s (.error e)) ∨
      ∃ plan, (Session.generate (.ofLibrary lib names run now) workflow).Leads s
          { store := Store.save plan s.store, finished := none } (.ok plan) ∧
        Makes lib run now workflow plan := by
  rcases generate_cases_forall (σ := σ) lib names run now workflow with
    ⟨e, he⟩ | ⟨plan, hmakes, hplan⟩
  · exact .inl ⟨e, he s⟩
  · exact .inr ⟨plan, hplan s, hmakes⟩

/-- Starting a workflow makes a plan where none is loaded, and changes nothing where there is one. -/
theorem start_cases (s : Session σ) (workflow : String) :
    (∃ e, (Session.start (.ofLibrary lib names run now) workflow).Leads s s (.error e)) ∨
      (∃ start, (∀ plan, start ≠ .generated plan) ∧
        (Session.start (.ofLibrary lib names run now) workflow).Leads s s (.ok start)) ∨
      ∃ plan, (Session.start (.ofLibrary lib names run now) workflow).Leads s
          { store := Store.save plan s.store, finished := none } (.ok (.generated plan)) ∧
        Makes lib run now workflow plan := by
  cases hheld : (Store.load now s.store).2 with
  | none =>
    rcases generate_cases lib names run now s workflow with
      ⟨e, he⟩ | ⟨plan, hplan, hmakes⟩
    · exact .inl ⟨e, leads_start_of_none hheld he⟩
    · exact .inr (.inr ⟨plan, leads_start_of_none hheld hplan, hmakes⟩)
  | some plan =>
    refine .inr (.inl ⟨_, fun made => ?_, leads_start_of_some hheld workflow⟩)
    unfold Plan.startOver
    split <;> nofun

end Making

/-! ## Working on a plan -/

/-- What is left of a plan in a store: a plan with no task left is not kept. -/
def Plan.kept (plan : Plan) : Option Plan :=
  if plan.tasks.all (·.completed) then none else some plan

/-- The end of a plan empties the store, and is remembered. -/
theorem exists_leads_finish (s : Session σ) (plan : Plan) :
    ∃ store, (Session.finish plan).Leads s ⟨store, some plan.workflow⟩
        (.ok (.allCompleted plan.workflow (some plan.progress))) ∧ Emptied store := by
  obtain ⟨b, store, hdelete, hstore⟩ := exists_leads_delete s
  exact ⟨store, hdelete.bind ((Work.leads_modify _ _).bind
    ((Work.leads_tell _ _).bind (Work.leads_pure _ _))), hstore⟩

/-- Where no plan is loaded, asking for the next task tells what is remembered. -/
theorem leads_next_of_none {now : Time.Timestamp} {s : Session σ}
    (h : (Store.load now s.store).2 = none) : (Session.next now).Leads s s
      (.ok (s.finished.elim .noTasks fun workflow => .allCompleted workflow none)) := by
  unfold Session.next
  refine (leads_load_of_eq h).bind ((Work.leads_get s).bind ?_)
  cases s.finished with
  | none => exact Work.leads_pure _ s
  | some workflow => exact Work.leads_pure _ s

/-- Asking for the next task shows the first one that is left, or finishes the plan; where none is
loaded, the answer is what is remembered. -/
theorem next_cases (now : Time.Timestamp) (s : Session σ) :
    ((Store.load now s.store).2 = none ∧ (Session.next now).Leads s s
      (.ok (s.finished.elim .noTasks fun workflow => .allCompleted workflow none))) ∨
    ∃ plan, (Store.load now s.store).2 = some plan ∧
      ((plan.firstIncomplete? = none ∧ ∃ store,
          (Session.next now).Leads s ⟨store, some plan.workflow⟩
            (.ok (.allCompleted plan.workflow (some plan.progress))) ∧ Emptied store) ∨
        ∃ task, plan.firstIncomplete? = some task ∧
          (Session.next now).Leads s s (.ok (.inProgress plan.workflow task plan.progress))) := by
  cases hheld : (Store.load now s.store).2 with
  | none => exact .inl ⟨rfl, leads_next_of_none hheld⟩
  | some plan =>
    have hload := leads_load_of_eq hheld
    unfold Session.next
    refine .inr ⟨plan, rfl, ?_⟩
    cases hfirst : plan.firstIncomplete? with
    | none =>
      obtain ⟨store, hfinish, hstore⟩ := exists_leads_finish s plan
      refine .inl ⟨rfl, store, hload.bind ?_, hstore⟩
      dsimp only
      rw [hfirst]
      exact hfinish
    | some task =>
      refine .inr ⟨task, rfl, hload.bind ?_⟩
      dsimp only
      rw [hfirst]
      exact Work.leads_pure _ s

/-- Asking for the next task changes nothing while a task is left. -/
theorem exists_leads_next [LawfulStore σ] {s : Session σ} {held : Option Plan}
    (h : Holds s.store held) (hleft : ∀ plan ∈ held, plan.kept = some plan)
    (now : Time.Timestamp) : ∃ next, (Session.next now).Leads s s (.ok next) := by
  rcases next_cases now s with ⟨-, hleads⟩ | ⟨plan, hplan, ⟨hfirst, -⟩ | ⟨task, -, hleads⟩⟩
  · exact ⟨_, hleads⟩
  · have hdone : plan.tasks.all (·.completed) = true := by
      rw [List.all_eq_true]
      intro task htask
      simpa using List.find?_eq_none.1 hfirst task htask
    have hkept := hleft plan (h.eq_of_load hplan)
    unfold Plan.kept at hkept
    rw [if_pos hdone] at hkept
    cases hkept
  · exact ⟨_, hleads⟩

/-- Around a place at which a task is done there is no open one exactly if all tasks are done. -/
theorem find?_around_eq_none_iff_of_getElem (plan : Plan) {id : String}
    (hplace : plan.ids.idxOf id < plan.tasks.length)
    (hself : (plan.tasks[plan.ids.idxOf id]).completed = true) :
    (Session.around plan id).find? (!·.completed) = none ↔
      plan.tasks.all (·.completed) = true := by
  have hsplit : plan.tasks = plan.tasks.take (plan.ids.idxOf id) ++
      plan.tasks[plan.ids.idxOf id] :: plan.tasks.drop (plan.ids.idxOf id + 1) := by
    rw [List.getElem_cons_drop, List.take_append_drop]
  unfold Session.around
  rw [List.find?_eq_none, List.all_eq_true]
  constructor
  · intro h task htask
    rw [hsplit] at htask
    rcases List.mem_append.1 htask with hfront | hback
    · simpa using h task (List.mem_append_right _ hfront)
    · rcases List.mem_cons.1 hback with rfl | hback
      · exact hself
      · simpa using h task (List.mem_append_left _ hback)
  · intro h task htask
    rcases List.mem_append.1 htask with hback | hfront
    · simpa using h task (List.mem_of_mem_drop hback)
    · simpa using h task (List.mem_of_mem_take hfront)

/-- So it is around a task that is done, if all of its id are. -/
theorem find?_around_eq_none_iff (plan : Plan) {id : String} (hid : id ∈ plan.ids)
    (hdone : ∀ task ∈ plan.tasks, task.id = id → task.completed = true) :
    (Session.around plan id).find? (!·.completed) = none ↔
      plan.tasks.all (·.completed) = true := by
  have hlt := List.idxOf_lt_length_of_mem hid
  have hplace : plan.ids.idxOf id < plan.tasks.length := by
    unfold Plan.ids at hlt ⊢
    rwa [List.length_map] at hlt
  refine find?_around_eq_none_iff_of_getElem plan hplace
    (hdone _ (List.getElem_mem hplace) ?_)
  have hmap := List.getElem_map (fun task : Task => task.id) (l := plan.tasks) (h := hlt)
  exact hmap.symm.trans (List.getElem_idxOf hlt)

/-- Where no plan is loaded, no task can be completed. -/
theorem leads_complete_of_none {now : Time.Timestamp} {s : Session σ}
    (h : (Store.load now s.store).2 = none) (id : String) :
    (Session.complete now id).Leads s s (.error (.store .missing)) := by
  unfold Session.complete
  exact ((leads_load_of_eq h).bind (Work.leads_fail _ s)).bind_error

/-- Where a task has the id, the plan is saved with its flag set. -/
theorem leads_setCompleted {now : Time.Timestamp} {s : Session σ} {plan : Plan} {id : String}
    {task : Task} (hload : (Store.load now s.store).2 = some plan) (hfind : plan.find? id = some task)
    (flag : Bool) : (Work.setCompleted now id flag).Leads s
      { s with store := Store.save (plan.setCompleted id flag) s.store }
      (.ok (plan.setCompleted id flag)) := by
  unfold Work.setCompleted
  refine (leads_require_of_eq hload).bind ?_
  rw [hfind]
  exact (Work.leads_modify _ s).bind (Work.leads_pure _ _)

/-- Completing a task fails where it is not loaded or not open. Otherwise the task is marked, and then
comes the task after it, or the end of the plan. -/
theorem complete_cases_of_load (now : Time.Timestamp) (s : Session σ) (id : String) :
    (∃ e, (Session.complete now id).Leads s s (.error e) ∧
      ∀ plan task, (Store.load now s.store).2 = some plan → plan.find? id = some task →
        task.completed = true) ∨
    ∃ plan task, (Store.load now s.store).2 = some plan ∧ plan.find? id = some task ∧
      task.completed = false ∧
      ((Session.around (plan.setCompleted id true) id).find? (!·.completed) = none ∧
          (∃ store, (Session.complete now id).Leads s ⟨store, some plan.workflow⟩
            (.ok (.allCompleted plan.workflow (some (plan.setCompleted id true).progress))) ∧
              Emptied store) ∨
        ∃ following, (Session.around (plan.setCompleted id true) id).find? (!·.completed) =
            some following ∧
          (Session.complete now id).Leads s
            { s with store := Store.save (plan.setCompleted id true) s.store }
            (.ok (.inProgress plan.workflow following (plan.setCompleted id true).progress))) := by
  cases hheld : (Store.load now s.store).2 with
  | none => exact .inl ⟨.store .missing, leads_complete_of_none hheld id, nofun⟩
  | some plan =>
    have hrequire := leads_require_of_eq hheld
    unfold Session.complete
    cases hfind : plan.find? id with
    | none =>
      refine .inl ⟨.store (.unknownTask id plan.ids), hrequire.bind ?_, ?_⟩
      · rw [hfind]
        exact Work.leads_fail _ s
      · rintro _ task ⟨⟩ htask
        rw [hfind] at htask
        cases htask
    | some task =>
      cases hdone : task.completed with
      | true =>
        refine .inl ⟨.store (.alreadyCompleted id), hrequire.bind ?_, ?_⟩
        · rw [hfind]
          dsimp only
          rw [if_pos hdone]
          exact Work.leads_fail _ s
        · rintro _ _ ⟨⟩ htask
          rw [hfind] at htask
          exact Option.some.inj htask ▸ hdone
      | false =>
        have hset := leads_setCompleted hheld hfind true
        refine .inr ⟨plan, task, rfl, hfind, hdone, ?_⟩
        cases hnext : (Session.around (plan.setCompleted id true) id).find? (!·.completed) with
        | none =>
          obtain ⟨store, hfinish, hstore⟩ := exists_leads_finish
            { s with store := Store.save (plan.setCompleted id true) s.store }
            (plan.setCompleted id true)
          refine .inl ⟨rfl, store, hrequire.bind ?_, hstore⟩
          rw [hfind]
          dsimp only
          rw [if_neg (by simp [hdone])]
          refine hset.bind ((Work.leads_tell _ _).bind ?_)
          rw [hnext]
          exact hfinish
        | some following =>
          refine .inr ⟨following, rfl, hrequire.bind ?_⟩
          rw [hfind]
          dsimp only
          rw [if_neg (by simp [hdone])]
          refine hset.bind ((Work.leads_tell _ _).bind ?_)
          rw [hnext]
          exact Work.leads_pure _ _

/-- Completing a task fails and leaves all as it was, or it leaves the plan with the flag of that
task set, unless this was the last. -/
theorem complete_cases [LawfulStore σ] {s : Session σ} {held : Option Plan}
    (h : Holds s.store held) (hids : ∀ plan ∈ held, plan.ids = idsUpTo plan.tasks.length)
    (now : Time.Timestamp) (id : String) :
    (∃ e, (Session.complete now id).Leads s s (.error e)) ∨
      ∃ plan next s', held = some plan ∧ id ∈ plan.ids ∧
        (Session.complete now id).Leads s s' (.ok next) ∧
        Holds s'.store (plan.setCompleted id true).kept := by
  rcases complete_cases_of_load now s id with ⟨e, he, -⟩ | ⟨plan, task, hplan, hfind, -, hends⟩
  · exact .inl ⟨e, he⟩
  obtain rfl : held = some plan := h.eq_of_load hplan
  have hplanIds := hids plan rfl
  have hid : id ∈ plan.ids := by
    have hsame : task.id = id := by simpa using List.find?_some hfind
    exact List.mem_map.2 ⟨task, List.mem_of_find?_eq_some hfind, hsame⟩
  have hmarkedIds := plan.ids_setCompleted id true
  have hvalid : ∀ other ∈ (plan.setCompleted id true).tasks, isTaskId other.id = true := by
    intro other hother
    have hmem : other.id ∈ (plan.setCompleted id true).ids := List.mem_map_of_mem hother
    rw [hmarkedIds, hplanIds] at hmem
    exact isTaskId_of_mem_idsUpTo hmem
  have hnodup : plan.ids.Nodup := hplanIds ▸ nodup_idsUpTo _
  have haround := find?_around_eq_none_iff (plan.setCompleted id true) (hmarkedIds ▸ hid)
    fun other => Plan.completed_of_mem_setCompleted hnodup
  rcases hends with ⟨hnone, store, hleads, hstore⟩ | ⟨following, hsome, hleads⟩
  · refine .inr ⟨plan, _, _, rfl, hid, hleads, ?_⟩
    unfold Plan.kept
    rw [if_pos (haround.1 hnone)]
    exact hstore.holds
  · refine .inr ⟨plan, _, _, rfl, hid, hleads, ?_⟩
    unfold Plan.kept
    rw [if_neg fun hall => by simp [haround.2 hall] at hsome]
    exact holds_save hvalid s.store

/-- Giving a plan up empties the store and the memory. -/
theorem exists_leads_reset (s : Session σ) :
    ∃ b store, Session.reset.Leads s ⟨store, none⟩ (.ok b) ∧ Emptied store := by
  obtain ⟨b, store, hdelete, hstore⟩ := exists_leads_delete { s with finished := none }
  exact ⟨b, store, (Work.leads_modify _ s).bind hdelete, hstore⟩

end Runbook
