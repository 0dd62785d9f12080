import Mathlib.Data.List.Forall2
import Runbook.Proofs.Session.History

/-!
# `Proofs/Session/Interchange` — one store is as good as another

Operations see a store through its interface only, so two stores that keep what they are given serve
equally well. Sessions agree (`Session.Agree`) when they remember the same and their stores load the
same at all times of a clock. Work on two sessions is alike (`Work.Alike`) if it takes sessions that
agree to sessions that agree, tells the same, and answers the same or fails alike. Work that is put
together of such parts is alike (`Work.Alike.bind`), which covers every operation (`alike_work`), and
by induction every run (`forall₂_reports`).

The tasks file and the memory of a process are such stores. Where they start out with the same plan,
or with none, nobody can tell them apart (`forall₂_reports_of_start`). A tasks file that leaves out
when its plan was made gives another plan at every time, so it is the same as memory for a clock
that stands still.
-/

set_option autoImplicit false

namespace Runbook

variable {σ τ α β γ δ : Type}

/-- The ids of a plan may stand as ids. -/
def Plan.Identified (plan : Plan) : Prop := ∀ task ∈ plan.tasks, isTaskId task.id = true

theorem Plan.Identified.setCompleted {plan : Plan} (h : plan.Identified) (id : String)
    (completed : Bool) : (plan.setCompleted id completed).Identified := by
  intro task htask
  have hmem : task.id ∈ (plan.setCompleted id completed).ids := List.mem_map_of_mem htask
  rw [Plan.ids_setCompleted] at hmem
  obtain ⟨other, hother, hid⟩ := List.mem_map.1 hmem
  exact hid ▸ h other hother

/-! ## Work that is alike -/

section Alike

variable [Store σ] [Store τ]

/-- Two sessions remember the same, and their stores load the same at the times of a clock. -/
structure Session.Agree (times : Time.Timestamp → Prop) (s : Session σ) (t : Session τ) : Prop where
  finished_eq : s.finished = t.finished
  present_eq : Store.present s.store = Store.present t.store
  load_eq : ∀ now, times now → Store.load now s.store = Store.load now t.store
  identified : ∀ now, times now → ∀ plan ∈ (Store.load now s.store).2, plan.Identified

/-- Stores that hold nothing agree. -/
theorem Session.agree_of_absent [LawfulStore σ] [LawfulStore τ] {times : Time.Timestamp → Prop}
    {s : Session σ} {t : Session τ} (hfinished : s.finished = t.finished)
    (hs : Store.present s.store = false) (ht : Store.present t.store = false) :
    Session.Agree times s t := by
  have hload := fun now => LawfulStore.load_of_absent s.store now hs
  refine ⟨hfinished, hs.trans ht.symm, fun now _ => ?_, fun now _ plan hplan => ?_⟩
  · exact (hload now).trans (LawfulStore.load_of_absent t.store now ht).symm
  · rw [hload now] at hplan
    cases hplan

/-- The same failure, or answers that are related. -/
inductive AnswersAlike (R : α → β → Prop) : Except Failure α → Except Failure β → Prop
  | ok {a : α} {b : β} : R a b → AnswersAlike R (.ok a) (.ok b)
  | error (e : Failure) : AnswersAlike R (.error e) (.error e)

theorem AnswersAlike.eq {x y : Except Failure α} (h : AnswersAlike Eq x y) : x = y := by
  cases h with
  | ok h => exact congrArg Except.ok h
  | error e => rfl

theorem AnswersAlike.imp {R Q : α → β → Prop} {x : Except Failure α} {y : Except Failure β}
    (hxy : AnswersAlike R x y) (h : ∀ a b, R a b → Q a b) : AnswersAlike Q x y := by
  cases hxy with
  | ok hab => exact .ok (h _ _ hab)
  | error e => exact .error e

/-- Reports that tell the same, with related answers and sessions that agree. -/
structure Report.Alike (times : Time.Timestamp → Prop) (R : α → β → Prop) (r : Report σ α)
    (r' : Report τ β) : Prop where
  events_eq : r.events = r'.events
  agree : Session.Agree times r.session r'.session
  answer : AnswersAlike R r.answer r'.answer

/-- Work that leads sessions that agree to alike reports. -/
def Work.Alike (times : Time.Timestamp → Prop) (R : α → β → Prop) (x : Work σ α) (y : Work τ β) :
    Prop :=
  ∀ s t, Session.Agree times s t → (x s).Alike times R (y t)

variable {times : Time.Timestamp → Prop} {R : α → β → Prop} {Q : γ → δ → Prop}

namespace Work

theorem alike_pure {a : α} {b : β} (h : R a b) :
    Alike (σ := σ) (τ := τ) times R (pure a) (pure b) :=
  fun _ _ hst => ⟨rfl, hst, .ok h⟩

theorem alike_fail (e : Failure) : Alike (σ := σ) (τ := τ) times R (fail e) (fail e) :=
  fun _ _ hst => ⟨rfl, hst, .error e⟩

theorem alike_tell (e : Event) : Alike (σ := σ) (τ := τ) times Eq (tell e) (tell e) :=
  fun _ _ hst => ⟨rfl, hst, .ok rfl⟩

theorem alike_get : Alike (σ := σ) (τ := τ) times (Session.Agree times) get get :=
  fun _ _ hst => ⟨rfl, hst, .ok hst⟩

theorem alike_finished (finished : Option String) : Alike (σ := σ) (τ := τ) times Eq
    (modify fun s => { s with finished }) (modify fun s => { s with finished }) :=
  fun _ _ hst => ⟨rfl, { hst with finished_eq := rfl }, .ok rfl⟩

/-- One piece of work after another. -/
theorem Alike.bind {x : Work σ α} {y : Work τ β} {f : α → Work σ γ} {g : β → Work τ δ}
    (hx : Alike times R x y) (hf : ∀ a b, R a b → Alike times Q (f a) (g b)) :
    Alike times Q (x >>= f) (y >>= g) := by
  intro s t hst
  obtain ⟨hevents, hagree, hanswer⟩ := hx s t hst
  show (Work.bind x f s).Alike times Q (Work.bind y g t)
  unfold Work.bind
  dsimp only
  generalize (x s).answer = first at hanswer
  generalize (y t).answer = other at hanswer
  cases hanswer with
  | error e => exact ⟨hevents, hagree, .error e⟩
  | ok hab =>
    obtain ⟨hevents', hagree', hanswer'⟩ := hf _ _ hab _ _ hagree
    exact ⟨congrArg₂ (· ++ ·) hevents hevents', hagree', hanswer'⟩

theorem Alike.bind_eq {x : Work σ α} {y : Work τ α} {f : α → Work σ γ} {g : α → Work τ δ}
    (hx : Alike times Eq x y) (hf : ∀ a, Alike times Q (f a) (g a)) :
    Alike times Q (x >>= f) (y >>= g) :=
  hx.bind fun a _ hab => hab ▸ hf a

theorem Alike.imp {R' : α → β → Prop} {x : Work σ α} {y : Work τ β} (hx : Alike times R x y)
    (h : ∀ a b, R a b → R' a b) : Alike times R' x y := by
  intro s t hst
  obtain ⟨hevents, hagree, hanswer⟩ := hx s t hst
  exact ⟨hevents, hagree, hanswer.imp h⟩

theorem Alike.map {x : Work σ α} {y : Work τ α} (hx : Alike times Eq x y) (f : α → β) :
    Alike times Eq (f <$> x) (f <$> y) :=
  hx.bind_eq fun _ => alike_pure rfl

/-! ## Work on the store -/

section Laws

variable {now : Time.Timestamp}

theorem alike_load (hnow : times now) : Alike (σ := σ) (τ := τ) times
    (fun held other => held = other ∧ ∀ plan ∈ held, plan.Identified) (load now) (load now) := by
  intro s t hst
  have hload := hst.load_eq now hnow
  refine ⟨congrArg Prod.fst hload, hst, .ok ⟨congrArg Prod.snd hload, ?_⟩⟩
  exact hst.identified now hnow

theorem alike_require (hnow : times now) : Alike (σ := σ) (τ := τ) times
    (fun plan other => plan = other ∧ plan.Identified) (require now) (require now) := by
  refine (alike_load hnow).bind ?_
  rintro held _ ⟨rfl, hids⟩
  cases held with
  | none => exact alike_fail _
  | some plan => exact alike_pure ⟨rfl, hids plan rfl⟩

variable [LawfulStore σ] [LawfulStore τ]

theorem alike_save {plan : Plan} (h : plan.Identified) :
    Alike (σ := σ) (τ := τ) times Eq (save plan) (save plan) := by
  intro s t hst
  have hs := fun now => LawfulStore.load_save plan s.store now h
  have ht := fun now => LawfulStore.load_save plan t.store now h
  refine ⟨rfl, ⟨hst.finished_eq, ?_, ?_, ?_⟩, .ok rfl⟩
  · exact (LawfulStore.present_save plan s.store).trans
      (LawfulStore.present_save plan t.store).symm
  · exact fun now _ => (hs now).trans (ht now).symm
  · intro now _ found hfound
    have hload : (Store.load now (Store.save plan s.store)).2 = some found := hfound
    rw [hs now] at hload
    obtain rfl := Option.some.inj hload
    exact h

theorem alike_delete : Alike (σ := σ) (τ := τ) times Eq delete delete := by
  intro s t hst
  unfold delete
  rw [← hst.present_eq]
  split
  · refine ⟨rfl, ?_, .ok rfl⟩
    exact Session.agree_of_absent hst.finished_eq (LawfulStore.present_delete s.store)
      (LawfulStore.present_delete t.store)
  · exact ⟨rfl, hst, .ok rfl⟩

theorem alike_setCompleted (hnow : times now) (id : String) (completed : Bool) :
    Alike (σ := σ) (τ := τ) times Eq (setCompleted now id completed)
      (setCompleted now id completed) := by
  refine (alike_require hnow).bind ?_
  rintro plan _ ⟨rfl, hids⟩
  cases plan.find? id with
  | none => exact alike_fail _
  | some task =>
    exact (alike_save (hids.setCompleted id completed)).bind_eq fun _ => alike_pure rfl

end Laws

end Work

/-! ## Operations -/

namespace Session

variable {now : Time.Timestamp}

open Work

section Library

variable (lib : Library) (names : List String) (run : Runner (Traced DocumentError))

theorem alike_tasks (workflow : String) : Alike (σ := σ) (τ := τ) times
    (fun tasks other => tasks = other ∧ ∀ task ∈ tasks, isTaskId task.id = true)
    ((Context.ofLibrary lib names run now).tasks workflow)
    ((Context.ofLibrary lib names run now).tasks workflow) := by
  intro s t hst
  refine ⟨rfl, hst, ?_⟩
  show AnswersAlike _ ((flatten lib.source run workflow).outcome.mapError _)
    ((flatten lib.source run workflow).outcome.mapError _)
  cases hflat : (flatten lib.source run workflow).outcome with
  | error e => exact .error _
  | ok tasks => exact .ok ⟨rfl, isTaskId_of_flatten hflat⟩

theorem alike_list : Alike (σ := σ) (τ := τ) times Eq (list (.ofLibrary lib names run now))
    (list (.ofLibrary lib names run now)) :=
  fun _ _ hst => ⟨rfl, hst, .ok rfl⟩

end Library

variable [LawfulStore σ] [LawfulStore τ]

theorem alike_finish (plan : Plan) :
    Alike (σ := σ) (τ := τ) times Eq (finish plan) (finish plan) := by
  refine alike_delete.bind_eq fun _ => ?_
  refine (alike_finished _).bind_eq fun _ => ?_
  refine (alike_tell _).bind_eq fun _ => ?_
  exact alike_pure rfl

theorem alike_next (hnow : times now) :
    Alike (σ := σ) (τ := τ) times Eq (next now) (next now) := by
  refine (alike_load hnow).bind ?_
  rintro held _ ⟨rfl, -⟩
  cases held with
  | none =>
    refine alike_get.bind fun s t hst => ?_
    rw [hst.finished_eq]
    cases t.finished with
    | none => exact alike_pure rfl
    | some workflow => exact alike_pure rfl
  | some plan =>
    cases hfirst : plan.firstIncomplete? with
    | none =>
      simp only [hfirst]
      exact alike_finish plan
    | some task =>
      simp only [hfirst]
      exact alike_pure rfl

theorem alike_complete (hnow : times now) (id : String) :
    Alike (σ := σ) (τ := τ) times Eq (complete now id) (complete now id) := by
  refine (alike_require hnow).bind ?_
  rintro plan _ ⟨rfl, -⟩
  cases plan.find? id with
  | none => exact alike_fail _
  | some task =>
    by_cases hdone : task.completed = true
    · simp only [if_pos hdone]
      exact alike_fail _
    · simp only [if_neg hdone]
      refine (alike_setCompleted hnow id true).bind_eq fun marked => ?_
      refine (alike_tell _).bind_eq fun _ => ?_
      cases (around marked id).find? (!·.completed) with
      | none => exact alike_finish marked
      | some task => exact alike_pure rfl

theorem alike_reset : Alike (σ := σ) (τ := τ) times Eq reset reset :=
  (alike_finished none).bind_eq fun _ => alike_delete

section Making

variable (lib : Library) (names : List String) (run : Runner (Traced DocumentError))

theorem alike_generate (workflow : String) :
    Alike (σ := σ) (τ := τ) times Eq (generate (.ofLibrary lib names run now) workflow)
      (generate (.ofLibrary lib names run now) workflow) := by
  refine (alike_tell _).bind_eq fun _ => ?_
  refine (alike_tasks lib names run workflow).bind ?_
  rintro tasks _ ⟨rfl, hids⟩
  by_cases hempty : tasks = []
  · simp only [if_pos hempty]
    exact alike_fail _
  · simp only [if_neg hempty]
    have hplan : Plan.Identified { workflow, generated := now, tasks } := hids
    refine (alike_save hplan).bind_eq fun _ => ?_
    refine (alike_finished none).bind_eq fun _ => ?_
    exact alike_pure rfl

theorem alike_start (hnow : times now) (workflow : String) :
    Alike (σ := σ) (τ := τ) times Eq (start (.ofLibrary lib names run now) workflow)
      (start (.ofLibrary lib names run now) workflow) := by
  refine (alike_load hnow).bind ?_
  rintro held _ ⟨rfl, -⟩
  cases held with
  | none =>
    exact (alike_generate lib names run workflow).bind_eq fun plan => alike_pure rfl
  | some plan =>
    by_cases hsame : plan.workflow = workflow
    · simp only [if_pos hsame]
      exact alike_pure rfl
    · simp only [if_neg hsame]
      exact alike_pure rfl

end Making

end Session

/-- Every operation is alike on two stores, as long as it saves no plan whose ids are no ids. -/
theorem alike_work [LawfulStore σ] [LawfulStore τ] (lib : Library) (names : List String)
    (run : Runner (Traced DocumentError)) {now : Time.Timestamp} (hnow : times now) {op : Operation}
    (hop : ∀ plan, op = .save plan → plan.Identified) :
    Work.Alike (σ := σ) (τ := τ) times Eq (op.work (.ofLibrary lib names run now))
      (op.work (.ofLibrary lib names run now)) := by
  have hload : Work.Alike (σ := σ) (τ := τ) times Eq (Work.load now) (Work.load now) :=
    (Work.alike_load hnow).imp fun _ _ h => h.1
  cases op with
  | generate workflow => exact (Session.alike_generate lib names run workflow).map Answer.plan
  | start workflow => exact (Session.alike_start lib names run hnow workflow).map Answer.start
  | next => exact (Session.alike_next hnow).map Answer.next
  | complete id => exact (Session.alike_complete hnow id).map Answer.next
  | status => exact hload.map Answer.plan?
  | reset => exact Session.alike_reset.map Answer.flag
  | list => exact (Session.alike_list lib names run).map Answer.listed
  | present => exact fun _ _ hst => ⟨rfl, hst, .ok (congrArg Answer.flag hst.present_eq)⟩
  | load => exact hload.map Answer.plan?
  | save plan => exact (Work.alike_save (hop plan rfl)).map fun _ => Answer.done
  | delete => exact Work.alike_delete.map Answer.flag
  | setCompleted id completed =>
    exact (Work.alike_setCompleted hnow id completed).map Answer.plan

end Alike

/-! ## Runs -/

/-- A call on a session: an operation, and the library, the commands and the time it meets. A plan
that it saves directly has to be a valid one. -/
structure Call where
  lib : Library
  names : List String
  run : Runner (Traced DocumentError)
  now : Time.Timestamp
  op : Operation
  identified : ∀ plan, op = .save plan → plan.Identified

/-- What a call leads to. -/
def Call.report [Store σ] (call : Call) (s : Session σ) : Report σ Answer :=
  call.op.work (.ofLibrary call.lib call.names call.run call.now) s

/-- What some calls lead to, one after another. -/
def reports [Store σ] : Session σ → List Call → List (Report σ Answer)
  | _, [] => []
  | s, call :: calls => call.report s :: reports (call.report s).session calls

/-- Reports that tell and answer the same, and leave stores that nobody can tell apart at the times
of a clock. -/
structure Report.SameFor [Store σ] [Store τ] (times : Time.Timestamp → Prop) (r : Report σ α)
    (r' : Report τ α) : Prop where
  events_eq : r.events = r'.events
  answer_eq : r.answer = r'.answer
  present_eq : Store.present r.session.store = Store.present r'.session.store
  load_eq : ∀ now, times now →
    Store.load now r.session.store = Store.load now r'.session.store

/-- Sessions that agree go through any calls alike. -/
theorem forall₂_reports [Store σ] [Store τ] [LawfulStore σ] [LawfulStore τ]
    {times : Time.Timestamp → Prop} {s : Session σ} {t : Session τ} (h : s.Agree times t)
    {calls : List Call} (hcalls : ∀ call ∈ calls, times call.now) :
    List.Forall₂ (Report.SameFor times) (reports s calls) (reports t calls) := by
  induction calls generalizing s t with
  | nil => exact .nil
  | cons call calls ih =>
    obtain ⟨hcall, hrest⟩ := List.forall_mem_cons.1 hcalls
    obtain ⟨hevents, hagree, hanswer⟩ :=
      alike_work call.lib call.names call.run hcall call.identified s t h
    exact .cons ⟨hevents, hanswer.eq, hagree.present_eq, hagree.load_eq⟩ (ih hagree hrest)

/-- A tasks file and a memory that start out alike: with nothing, or with a plan that the file gives
whenever it is read. -/
def StartAlike (times : Time.Timestamp → Prop) (file : TasksFile) (memory : Memory) : Prop :=
  (file.bytes = none ∧ memory.plan = none) ∨
    ∃ plan, memory.plan = some plan ∧ ∀ now, times now → (Store.load now file).2 = some plan

theorem StartAlike.agree {times : Time.Timestamp → Prop} {file : TasksFile} {memory : Memory}
    (h : StartAlike times file memory) (finished : Option String) {now : Time.Timestamp}
    (hnow : times now) : Session.Agree times ⟨file, finished⟩ ⟨memory, finished⟩ := by
  rcases h with ⟨hfile, hmemory⟩ | ⟨plan, hmemory, hload⟩
  · refine Session.agree_of_absent rfl ?_ ?_
    · exact congrArg Option.isSome hfile
    · exact congrArg Option.isSome hmemory
  · have hfile : ∀ now, times now → Store.load now file = ([], some plan) ∧ plan.Identified :=
      fun now hnow => TasksFile.load_of_plan (hload now hnow)
    have hheld : ∀ now, Store.load now memory = ([], some plan) :=
      fun now => congrArg (Prod.mk []) hmemory
    refine ⟨rfl, ?_, fun now hnow => ?_, fun now hnow found hfound => ?_⟩
    · have hpresent : Store.present file = true := by
        refine (Bool.not_eq_false _).mp fun habsent => ?_
        have hnone := LawfulStore.load_of_absent file now habsent
        rw [(hfile now hnow).1] at hnone
        cases hnone
      exact hpresent.trans (congrArg Option.isSome hmemory).symm
    · exact (hfile now hnow).1.trans (hheld now).symm
    · have hfound' : (Store.load now file).2 = some found := hfound
      rw [(hfile now hnow).1] at hfound'
      obtain rfl := Option.some.inj hfound'
      exact (hfile now hnow).2

/-- The tasks file and memory are interchangeable. Two sessions, one on each, that start out alike
go through any calls alike: at every step both tell and answer the same or fail alike, and their
stores are both empty or both not, and load the same at all times of the clock. -/
theorem forall₂_reports_of_start {times : Time.Timestamp → Prop} {file : TasksFile}
    {memory : Memory} (h : StartAlike times file memory) (finished : Option String)
    {calls : List Call} (hcalls : ∀ call ∈ calls, times call.now) :
    List.Forall₂ (Report.SameFor times) (reports ⟨file, finished⟩ calls)
      (reports ⟨memory, finished⟩ calls) := by
  cases calls with
  | nil => exact .nil
  | cons call calls =>
    have hnow : times call.now := hcalls call List.mem_cons_self
    exact forall₂_reports (h.agree finished hnow) hcalls

/-- A call on the workflow of two steps. -/
def errandCall (op : Operation) (h : ∀ plan, op = .save plan → plan.Identified) : Call where
  lib := errand
  names := ["w"]
  run := .steady (fun _ => []) (fun _ => .ok "")
  now := motley.generated
  op := op
  identified := h

/-- Calls that meet a plan for another workflow, finish it, and go on with a new one. -/
def errandCalls : List Call :=
  [errandCall (.start "w") nofun, errandCall (.complete "") nofun, errandCall (.start "w") nofun,
    errandCall (.setCompleted "T001" true) nofun, errandCall (.setCompleted "T001" false) nofun,
    errandCall (.complete "T002") nofun]

theorem forall₂_reports_errandCalls :
    StartAlike (fun _ => True) (Store.save motley (TasksFile.mk "tasks.json" none))
        (Memory.mk (some motley)) ∧
      List.Forall₂ (Report.SameFor fun _ => True)
        (reports ⟨Store.save motley (TasksFile.mk "tasks.json" none), none⟩ errandCalls)
        (reports ⟨Memory.mk (some motley), none⟩ errandCalls) ∧
      (reports ⟨Memory.mk (some motley), none⟩ errandCalls).map
        (fun r => Store.present r.session.store) = [true, false, true, true, true, true] := by
  have hids : motley.Identified := by
    unfold Plan.Identified
    decide +kernel
  have hstart : StartAlike (fun _ => True) (Store.save motley (TasksFile.mk "tasks.json" none))
      (Memory.mk (some motley)) :=
    .inr ⟨motley, rfl, fun now _ => congrArg Prod.snd (LawfulStore.load_save motley _ now hids)⟩
  exact ⟨hstart, forall₂_reports_of_start hstart none fun _ _ => trivial, by decide +kernel⟩

end Runbook
