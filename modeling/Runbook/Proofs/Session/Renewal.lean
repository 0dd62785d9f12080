import Mathlib.Data.List.Forall2
import Runbook.Proofs.Session.Expansion
import Runbook.Proofs.Session.History

/-!
# `Proofs/Session/Renewal` — a session may be replaced by a new one

A command line makes a new session for every command, and a program that stays up keeps one. Both
are the same to work with, because all that matters is in the store (`forall₂_rounds_renewed`): the
one thing that a session remembers is the workflow that it finished last, and it speaks of that only
when it is asked for the next task and there is no plan.

So there are two things to show. Work does not look at what is remembered (`Work.Blind`), with that
one exception; and what is remembered is what the history of the session says (`Run.Remembers`). The
second comes from one lemma that says what each request leaves in memory (`leaves_of_request`).
-/

set_option autoImplicit false

namespace Runbook

variable {σ α β : Type}

/-! ## Work that does not look at what is remembered -/

/-- Reports that tell and answer the same, and leave the same in the store. -/
structure Report.Same (r r' : Report σ α) : Prop where
  events_eq : r.events = r'.events
  answer_eq : r.answer = r'.answer
  store_eq : r.session.store = r'.session.store

/-- Work that comes to the same on every session with the same store. -/
def Work.Blind (x : Work σ α) : Prop := ∀ s t, s.store = t.store → (x s).Same (x t)

/-- After work that comes to the same on two sessions, blind work does so as well. -/
theorem Report.Same.bind {x : Work σ α} {f : α → Work σ β} {s t : Session σ}
    (hx : (x s).Same (x t)) (hf : ∀ a, (x s).answer = .ok a → (f a).Blind) :
    ((x >>= f) s).Same ((x >>= f) t) := by
  obtain ⟨hevents, hanswer, hstore⟩ := hx
  cases hs : (x s).answer with
  | error e =>
    rw [Work.bind_apply_of_error hs, Work.bind_apply_of_error (hanswer ▸ hs)]
    exact ⟨hevents, rfl, hstore⟩
  | ok a =>
    obtain ⟨hevents', hanswer', hstore'⟩ := hf a hs _ _ hstore
    rw [Work.bind_apply_of_ok hs, Work.bind_apply_of_ok (hanswer ▸ hs)]
    exact ⟨congrArg₂ (· ++ ·) hevents hevents', hanswer', hstore'⟩

namespace Work

theorem Blind.bind {x : Work σ α} {f : α → Work σ β} (hx : x.Blind) (hf : ∀ a, (f a).Blind) :
    (x >>= f).Blind := fun s t hst => (hx s t hst).bind fun a _ => hf a

theorem blind_pure (a : α) : (pure a : Work σ α).Blind := fun _ _ hst => ⟨rfl, rfl, hst⟩

theorem blind_fail (e : Failure) : (fail e : Work σ α).Blind := fun _ _ hst => ⟨rfl, rfl, hst⟩

theorem blind_tell (e : Event) : (tell e : Work σ Unit).Blind := fun _ _ hst => ⟨rfl, rfl, hst⟩

theorem blind_ofTraced (x : Traced Failure α) : (ofTraced x : Work σ α).Blind :=
  fun _ _ hst => ⟨rfl, rfl, hst⟩

theorem blind_finished (finished : Option String) :
    (modify fun s : Session σ => { s with finished }).Blind := fun _ _ hst => ⟨rfl, rfl, hst⟩

theorem Blind.map {x : Work σ α} (hx : x.Blind) (f : α → β) : (f <$> x).Blind :=
  hx.bind fun a => blind_pure (f a)

end Work

variable [Store σ]

namespace Work

theorem blind_load (now : Time.Timestamp) : (load now : Work σ (Option Plan)).Blind := by
  intro s t hst
  unfold load
  rw [hst]
  exact ⟨rfl, rfl, hst⟩

theorem blind_save (plan : Plan) : (save plan : Work σ Unit).Blind :=
  fun _ _ hst => ⟨rfl, rfl, congrArg (Store.save plan) hst⟩

theorem blind_delete : (delete : Work σ Bool).Blind := by
  intro s t hst
  unfold delete
  rw [hst]
  split
  · exact ⟨rfl, rfl, rfl⟩
  · exact ⟨rfl, rfl, hst⟩

theorem blind_require (now : Time.Timestamp) : (require now : Work σ Plan).Blind := by
  refine (blind_load now).bind fun held => ?_
  cases held with
  | none => exact blind_fail _
  | some plan => exact blind_pure plan

theorem blind_setCompleted (now : Time.Timestamp) (id : String) (completed : Bool) :
    (setCompleted now id completed : Work σ Plan).Blind := by
  refine (blind_require now).bind fun plan => ?_
  cases plan.find? id with
  | none => exact blind_fail _
  | some task => exact (blind_save _).bind fun _ => blind_pure _

end Work

namespace Session

open Work

theorem blind_finish (plan : Plan) : (finish plan : Work σ Next).Blind :=
  blind_delete.bind fun _ => (blind_finished _).bind fun _ => (blind_tell _).bind fun _ =>
    blind_pure _

theorem blind_generate (lib : Library) (names : List String) (run : Runner (Traced DocumentError))
    (now : Time.Timestamp) (workflow : String) :
    (generate (.ofLibrary lib names run now) workflow : Work σ Plan).Blind := by
  refine (blind_tell _).bind fun _ => (blind_ofTraced _).bind fun tasks => ?_
  by_cases hempty : tasks = []
  · rw [if_pos hempty]
    exact blind_fail _
  · rw [if_neg hempty]
    exact (blind_save _).bind fun _ => (blind_finished none).bind fun _ => blind_pure _

theorem blind_start (lib : Library) (names : List String) (run : Runner (Traced DocumentError))
    (now : Time.Timestamp) (workflow : String) :
    (start (.ofLibrary lib names run now) workflow : Work σ Start).Blind := by
  refine (blind_load _).bind fun held => ?_
  cases held with
  | none => exact (blind_generate lib names run now workflow).bind fun _ => blind_pure _
  | some plan =>
    dsimp only
    split
    · exact blind_pure _
    · exact blind_pure _

theorem blind_complete (now : Time.Timestamp) (id : String) :
    (complete now id : Work σ Next).Blind := by
  refine (blind_require now).bind fun plan => ?_
  cases plan.find? id with
  | none => exact blind_fail _
  | some task =>
    dsimp only
    split
    · exact blind_fail _
    · refine (blind_setCompleted now id true).bind fun marked => (blind_tell _).bind fun _ => ?_
      split
      · exact blind_finish marked
      · exact blind_pure _

theorem blind_reset : (reset : Work σ Bool).Blind :=
  (blind_finished none).bind fun _ => blind_delete

/-- Asking for the next task looks at what is remembered only if there is no plan. -/
theorem same_next {now : Time.Timestamp} {s t : Session σ} (hst : s.store = t.store)
    (h : (Store.load now s.store).2 ≠ none) : (next now s).Same (next now t) := by
  refine (blind_load now s t hst).bind fun held hheld => ?_
  cases held with
  | none => exact absurd (Except.ok.inj hheld) h
  | some plan =>
    dsimp only
    split
    · exact blind_finish plan
    · exact blind_pure _

end Session

/-- A request for the next task, where there is no plan. -/
def Request.FindsNothing (r : Request) (store : σ) : Prop :=
  r.op = .next ∧ (Store.load r.now store).2 = none

/-- A request comes to the same on every session with the same store, unless it is one for the next
task and there is no plan. -/
theorem same_of_request (r : Request) {s t : Session σ} (hst : s.store = t.store)
    (h : ¬ r.FindsNothing s.store) : (r.op.work r.context s).Same (r.op.work r.context t) := by
  obtain ⟨lib, names, run, now, op, hown⟩ := r
  cases op with
  | generate workflow =>
    exact (Session.blind_generate lib names run now workflow).map Answer.plan s t hst
  | start workflow =>
    exact (Session.blind_start lib names run now workflow).map Answer.start s t hst
  | next =>
    exact (Session.same_next hst fun hnone => h ⟨rfl, hnone⟩).bind fun _ _ => Work.blind_pure _
  | complete id => exact (Session.blind_complete now id).map Answer.next s t hst
  | status => exact (Work.blind_load now).map Answer.plan? s t hst
  | reset => exact Session.blind_reset.map Answer.flag s t hst
  | list => exact ⟨rfl, rfl, hst⟩
  | present => cases hown
  | load => cases hown
  | save plan => cases hown
  | delete => cases hown
  | setCompleted id completed => cases hown

/-! ## What is remembered -/

/-- What an entry says of the workflow that was finished last: which one it is, or that there is none
any more. Most entries say nothing of it. -/
def Entry.mark (e : Entry) : Option (Option String) :=
  match e.request.op, e.answer with
  | .generate _, .ok _ => some none
  | .start _, .ok (.start (.generated _)) => some none
  | .reset, _ => some none
  | .next, .ok (.next (.allCompleted workflow (some _))) => some (some workflow)
  | .complete _, .ok (.next (.allCompleted workflow (some _))) => some (some workflow)
  | _, _ => none

/-- The workflow that was finished last, as the latest entry has it that says something of it. -/
def lastFinished? (history : List Entry) : Option String := (history.findSome? Entry.mark).join

/-- The workflow that a request finishes: that of the plan which it finds, if nothing is left to do
there but the task that the request completes. -/
def Request.finishes? (r : Request) (store : σ) : Option String :=
  (Store.load r.now store).2.bind fun plan =>
    match r.op with
    | .next => if plan.firstIncomplete? = none then some plan.workflow else none
    | .complete id =>
      (plan.find? id).bind fun task =>
        if task.completed = false ∧
            (Session.around (plan.setCompleted id true) id).find? (!·.completed) = none then
          some plan.workflow
        else none
    | _ => none

/-- What a request leaves in memory: what was there, or nothing, or the workflow that it finished. -/
inductive Request.Leaves (r : Request) (s s' : Session σ) (answer : Except Failure Answer) : Prop
  | kept : s'.finished = s.finished → Entry.mark ⟨r, answer⟩ = none →
      r.finishes? s.store = none → Leaves r s s' answer
  | forgotten : s'.finished = none → Entry.mark ⟨r, answer⟩ = some none →
      r.finishes? s.store = none → Leaves r s s' answer
  | finished {workflow : String} : s'.finished = some workflow →
      Entry.mark ⟨r, answer⟩ = some (some workflow) → r.finishes? s.store = some workflow →
      Emptied s'.store → Leaves r s s' answer

/-- What a request leaves in memory, where it is known what the request leads to. -/
theorem Request.Leaves.of_leads {r : Request} {s s' : Session σ} {answer : Except Failure Answer}
    (h : (r.op.work r.context).Leads s s' answer) (hleaves : r.Leaves s s' answer) :
    r.Leaves s (r.op.work r.context s).session (r.op.work r.context s).answer := by
  obtain ⟨rfl, rfl⟩ := h
  exact hleaves

section Memory

variable (lib : Library) (names : List String) (run : Runner (Traced DocumentError))
  (now : Time.Timestamp)

theorem leaves_next (s : Session σ) :
    let r : Request := ⟨lib, names, run, now, .next, rfl⟩
    r.Leaves s (r.op.work r.context s).session (r.op.work r.context s).answer := by
  intro r
  rcases next_cases now s with
    ⟨hnone, hleads⟩ | ⟨plan, hplan, ⟨hfirst, store, hleads, hstore⟩ | ⟨task, hfirst, hleads⟩⟩
  · refine .of_leads (hleads.map_ok Answer.next)
      (.kept rfl ?_ (by simp [r, Request.finishes?, hnone]))
    cases s.finished with
    | none => rfl
    | some workflow => rfl
  · exact .of_leads (hleads.map_ok Answer.next)
      (.finished rfl rfl (by simp [r, Request.finishes?, hplan, hfirst]) hstore)
  · exact .of_leads (hleads.map_ok Answer.next)
      (.kept rfl rfl (by simp [r, Request.finishes?, hplan, hfirst]))

theorem leaves_complete (s : Session σ) (id : String) :
    let r : Request := ⟨lib, names, run, now, .complete id, rfl⟩
    r.Leaves s (r.op.work r.context s).session (r.op.work r.context s).answer := by
  intro r
  rcases complete_cases_of_load now s id with ⟨e, he, hdone⟩ | ⟨plan, task, hplan, hfind, hopen,
    ⟨hnone, store, hleads, hstore⟩ | ⟨following, hsome, hleads⟩⟩
  · refine .of_leads (he.map_error Answer.next) (.kept rfl rfl ?_)
    -- No open task was loaded, so nothing can be finished with it.
    unfold Request.finishes?
    refine Option.bind_eq_none_iff.2 fun plan hplan => ?_
    refine Option.bind_eq_none_iff.2 fun task hfind => ?_
    rw [if_neg (by simp [hdone plan task hplan hfind])]
  · exact .of_leads (hleads.map_ok Answer.next)
      (.finished rfl rfl (by simp only [r, Request.finishes?, hplan, hfind, hopen, hnone,
        Option.bind_some, and_self, if_true]) hstore)
  · exact .of_leads (hleads.map_ok Answer.next)
      (.kept rfl rfl (by simp only [r, Request.finishes?, hplan, hfind, hsome,
        Option.bind_some, reduceCtorEq, and_false, if_false]))

end Memory

/-- **What a request leaves in memory** is told by its answer, and by the plan that it found. -/
theorem leaves_of_request (r : Request) (s : Session σ) :
    r.Leaves s (r.op.work r.context s).session (r.op.work r.context s).answer := by
  obtain ⟨lib, names, run, now, op, hown⟩ := r
  cases op with
  | generate workflow =>
    rcases generate_cases lib names run now s workflow with ⟨e, he⟩ | ⟨plan, hplan, -⟩
    · exact .of_leads (he.map_error Answer.plan) (.kept rfl rfl (by simp [Request.finishes?]))
    · exact .of_leads (hplan.map_ok Answer.plan)
        (.forgotten rfl rfl (by simp [Request.finishes?]))
  | start workflow =>
    rcases start_cases lib names run now s workflow with
      ⟨e, he⟩ | ⟨start, hstart, hleads⟩ | ⟨plan, hleads, -⟩
    · exact .of_leads (he.map_error Answer.start) (.kept rfl rfl (by simp [Request.finishes?]))
    · refine .of_leads (hleads.map_ok Answer.start) (.kept rfl ?_ (by simp [Request.finishes?]))
      cases start with
      | generated plan => exact absurd rfl (hstart plan)
      | resumable active progress => rfl
      | conflict active progress => rfl
    · exact .of_leads (hleads.map_ok Answer.start)
        (.forgotten rfl rfl (by simp [Request.finishes?]))
  | next => exact leaves_next lib names run now s
  | complete id => exact leaves_complete lib names run now s id
  | status => exact .kept rfl rfl (by simp [Request.finishes?])
  | reset =>
    obtain ⟨b, store, hreset, -⟩ := exists_leads_reset s
    exact .of_leads (hreset.map_ok Answer.flag) (.forgotten rfl rfl (by simp [Request.finishes?]))
  | list => exact .kept rfl rfl (by simp [Request.finishes?])
  | present => cases hown
  | load => cases hown
  | save plan => cases hown
  | delete => cases hown
  | setCompleted id completed => cases hown

/-! ## Runs in which sessions are replaced -/

/-- A session remembers what its history says. -/
def Run.Remembers (run : Run σ) : Prop := run.session.finished = lastFinished? run.history

/-- A new session on the same store. It has not been asked anything yet. -/
def Run.renewed (run : Run σ) : Run σ := ⟨⟨run.session.store, none⟩, []⟩

/-- A request, the session it meets with all that was asked of it before, and what it leads to. -/
structure Round (σ : Type) where
  request : Request
  met : Run σ
  report : Report σ Answer

/-- Requests one after another, and before each of them a new session on the same store if this is
wanted. -/
def rounds : Run σ → List (Bool × Request) → List (Round σ)
  | _, [] => []
  | run, (renewed, r) :: calls =>
    let met := if renewed then run.renewed else run
    ⟨r, met, r.op.work r.context met.session⟩ :: rounds (met.step r) calls

/-- Nobody can tell two rounds apart, unless it is by asking for the next task where there is no
plan. -/
structure Round.Agrees (round other : Round σ) : Prop where
  request_eq : round.request = other.request
  before_eq : round.met.session.store = other.met.session.store
  after_eq : round.report.session.store = other.report.session.store
  events_eq : ¬ round.request.FindsNothing round.met.session.store →
    round.report.events = other.report.events
  answer_eq : ¬ round.request.FindsNothing round.met.session.store →
    round.report.answer = other.report.answer

/-- Where there is no plan, the answer is a matter of what the session itself was asked before: it
names the workflow that this session finished last. To finish a workflow is to find nothing left to
do, and to empty the store. -/
structure Round.Recalls (round : Round σ) : Prop where
  answer_eq : round.request.FindsNothing round.met.session.store → round.report.answer =
    .ok (.next ((lastFinished? round.met.history).elim .noTasks fun workflow =>
      .allCompleted workflow none))
  finishes_iff : ∀ workflow, Entry.mark ⟨round.request, round.report.answer⟩ =
    some (some workflow) ↔ round.request.finishes? round.met.session.store = some workflow
  emptied : ∀ workflow, round.request.finishes? round.met.session.store = some workflow →
    Emptied round.report.session.store

omit [Store σ] in
theorem Run.remembers_renewed (run : Run σ) : run.renewed.Remembers := rfl

theorem Run.Remembers.step {run : Run σ} (h : run.Remembers) (r : Request) :
    (run.step r).Remembers := by
  show (r.op.work r.context run.session).session.finished =
    (List.findSome? Entry.mark (⟨r, (r.op.work r.context run.session).answer⟩ :: run.history)).join
  rw [List.findSome?_cons]
  cases leaves_of_request r run.session with
  | kept hfinished hmark _ =>
    rw [hfinished, hmark]
    exact h
  | forgotten hfinished hmark _ =>
    rw [hfinished, hmark]
    rfl
  | finished hfinished hmark _ _ =>
    rw [hfinished, hmark]
    rfl

/-- What is asked where there is no plan is answered from memory, and changes nothing. -/
theorem leads_of_findsNothing {r : Request} {s : Session σ} (h : r.FindsNothing s.store) :
    (r.op.work r.context).Leads s s
      (.ok (.next (s.finished.elim .noTasks fun workflow => .allCompleted workflow none))) := by
  obtain ⟨hop, hnone⟩ := h
  rw [hop]
  exact (leads_next_of_none hnone).map_ok Answer.next

theorem agrees_of_eq (r : Request) {run other : Run σ}
    (h : run.session.store = other.session.store) :
    (Round.mk r run (r.op.work r.context run.session)).Agrees
      ⟨r, other, r.op.work r.context other.session⟩ := by
  by_cases hnothing : r.FindsNothing run.session.store
  · have hother : r.FindsNothing other.session.store := h ▸ hnothing
    have hsession := (leads_of_findsNothing hnothing).1
    have hsession' := (leads_of_findsNothing hother).1
    refine ⟨rfl, h, ?_, fun hnot => absurd hnothing hnot, fun hnot => absurd hnothing hnot⟩
    show (r.op.work r.context run.session).session.store =
      (r.op.work r.context other.session).session.store
    rw [hsession, hsession', h]
  · obtain ⟨hevents, hanswer, hstore⟩ := same_of_request r h hnothing
    exact ⟨rfl, h, hstore, fun _ => hevents, fun _ => hanswer⟩

theorem recalls_of_remembers (r : Request) {run : Run σ} (h : run.Remembers) :
    (Round.mk r run (r.op.work r.context run.session)).Recalls := by
  refine ⟨fun hnothing => ?_, fun workflow => ?_, fun workflow hsome => ?_⟩
  · rw [← h]
    exact (leads_of_findsNothing hnothing).2
  · dsimp only
    cases leaves_of_request r run.session with
    | kept _ hmark hnone => simp [hmark, hnone]
    | forgotten _ hmark hnone => simp [hmark, hnone]
    | finished _ hmark hfinishes _ => simp [hmark, hfinishes]
  · dsimp only at hsome ⊢
    cases leaves_of_request r run.session with
    | kept _ _ hnone => simp [hnone] at hsome
    | forgotten _ _ hnone => simp [hnone] at hsome
    | finished _ _ _ hemptied => exact hemptied

theorem forall₂_rounds {run other : Run σ} (h : run.session.store = other.session.store)
    (calls : List (Bool × Request)) :
    List.Forall₂ Round.Agrees (rounds run calls)
      (rounds other (calls.map fun call => (false, call.2))) := by
  induction calls generalizing run other with
  | nil => exact .nil
  | cons call calls ih =>
    obtain ⟨renewed, r⟩ := call
    have hmet : (if renewed then run.renewed else run).session.store = other.session.store := by
      cases renewed <;> exact h
    exact .cons (agrees_of_eq r hmet) (ih (agrees_of_eq r hmet).after_eq)

theorem forall_rounds_recall {run : Run σ} (h : run.Remembers) (calls : List (Bool × Request)) :
    ∀ round ∈ rounds run calls, round.Recalls := by
  induction calls generalizing run with
  | nil => exact fun _ hround => absurd hround List.not_mem_nil
  | cons call calls ih =>
    obtain ⟨renewed, r⟩ := call
    have hmet : (if renewed then run.renewed else run).Remembers := by
      cases renewed
      · exact h
      · exact run.remembers_renewed
    exact List.forall_mem_cons.2 ⟨recalls_of_remembers r hmet, ih (hmet.step r)⟩

/-- **A session may be replaced by a new one at any time.** Whatever the store holds, and whatever
libraries, commands and times the requests meet: with new sessions before some of them, the store is
the same after every request, and the same is told and answered. Only who asks for the next task
where there is no plan hears of the workflow that was finished last in the same session, unless a
plan was made or given up in it since. -/
theorem forall₂_rounds_renewed (store : σ) (calls : List (Bool × Request)) :
    List.Forall₂ Round.Agrees (rounds ⟨⟨store, none⟩, []⟩ calls)
        (rounds ⟨⟨store, none⟩, []⟩ (calls.map fun call => (false, call.2))) ∧
      ∀ round ∈ rounds ⟨⟨store, none⟩, []⟩ calls, round.Recalls :=
  ⟨forall₂_rounds rfl calls,
    forall_rounds_recall (show Run.Remembers ⟨⟨store, none⟩, []⟩ from rfl) calls⟩

/-- The same session still knows that it has just finished a plan. -/
example : ((rounds ⟨⟨Memory.mk (some motley), none⟩, []⟩
    [(false, errandRequest (.complete "") rfl), (false, errandRequest .next rfl)]).map
      fun round => round.report.answer) =
    [.ok (.next (.allCompleted motley.workflow (some ⟨2, 2⟩))),
      .ok (.next (.allCompleted motley.workflow none))] := by
  rfl

/-- A new one does not. -/
example : ((rounds ⟨⟨Memory.mk (some motley), none⟩, []⟩
    [(false, errandRequest (.complete "") rfl), (true, errandRequest .next rfl)]).map
      fun round => round.report.answer) =
    [.ok (.next (.allCompleted motley.workflow (some ⟨2, 2⟩))), .ok (.next .noTasks)] := by
  rfl

end Runbook
