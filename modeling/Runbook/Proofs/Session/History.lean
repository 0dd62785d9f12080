import Runbook.Proofs.Expansion.Unfolding
import Runbook.Proofs.Session.Operation

/-!
# `Proofs/Session/History` — what a store holds is what its history says

A history is all that was asked of a session and what was answered, the latest first. It tells which
plan was made last, which tasks have been completed since, and whether the plan was given up. The
store agrees with it after every run (`store_after_requests`): it is empty if no plan was made, or
if the last one was given up or has all its tasks completed; otherwise it holds the plan that was
made last, with the flags of the completed tasks set and no others.

Each request may meet another library, other commands and another time, and may fail. The invariant
is `Run.Sound`, one request keeps it by `turn_of_request`, and a run by induction. The operations
that write to the store directly are left out (`Operation.isOwn`), as they can put anything there.
-/

set_option autoImplicit false

namespace Runbook

/-! ## Requests and histories -/

/-- An operation of the session itself, not one directly on its store. -/
def Operation.isOwn : Operation → Bool
  | .generate _ | .start _ | .next | .complete _ | .status | .reset | .list => true
  | .present | .load | .save _ | .delete | .setCompleted .. => false

/-- A request to a session: an operation, and the library, the commands and the time it meets. -/
structure Request where
  lib : Library
  names : List String
  run : Runner (Traced DocumentError)
  now : Time.Timestamp
  op : Operation
  isOwn : op.isOwn = true

/-- What a request depends on from outside. -/
def Request.context {σ : Type} (r : Request) : Context σ := .ofLibrary r.lib r.names r.run r.now

/-- A plan that a request asks for. -/
structure Request.MakesPlan (r : Request) (plan : Plan) : Prop where
  op_eq : r.op = .generate plan.workflow ∨ r.op = .start plan.workflow
  makes : Makes r.lib r.run r.now plan.workflow plan

/-- A request and its answer. -/
structure Entry where
  request : Request
  answer : Except Failure Answer

/-- What a request did to the plan in the store. -/
inductive Effect where
  | made (plan : Plan)
  | completed (id : String)
  | gaveUp
  | nothing

/-- What a request did, as its answer tells. -/
def Entry.effect (e : Entry) : Effect :=
  match e.request.op, e.answer with
  | .generate _, .ok (.plan plan) => .made plan
  | .start _, .ok (.start (.generated plan)) => .made plan
  | .complete id, .ok _ => .completed id
  | .reset, .ok _ => .gaveUp
  | _, _ => .nothing

/-- The plan that was made last, with its entry and the entries after it. -/
def lastMade? : List Entry → Option (Entry × Plan × List Entry)
  | [] => none
  | e :: earlier =>
    match e.effect with
    | .made plan => some (e, plan, [])
    | _ => (lastMade? earlier).map fun (made, plan, later) => (made, plan, e :: later)

/-- The ids of the tasks that were completed. -/
def completedIds (entries : List Entry) : List String :=
  entries.filterMap fun e =>
    match e.effect with
    | .completed id => some id
    | _ => none

/-- The plan was given up. -/
def wasGivenUp (entries : List Entry) : Bool :=
  entries.any fun e =>
    match e.effect with
    | .gaveUp => true
    | _ => false

/-- A session and its history. -/
structure Run (σ : Type) where
  session : Session σ
  history : List Entry

/-- One more request. -/
def Run.step {σ : Type} [Store σ] (run : Run σ) (r : Request) : Run σ :=
  let report := r.op.work r.context run.session
  { session := report.session, history := ⟨r, report.answer⟩ :: run.history }

/-- A run of requests to a session. -/
def Run.after {σ : Type} [Store σ] (s : Session σ) (requests : List Request) : Run σ :=
  requests.foldl Run.step ⟨s, []⟩

/-! ## One request -/

/-- A plan under way: numbered tasks, of which one is left. -/
structure Plan.UnderWay (plan : Plan) : Prop where
  ids_eq : plan.ids = idsUpTo plan.tasks.length
  kept_eq : plan.kept = some plan

/-- How the plan in a store goes on with a request. -/
def Turn (e : Entry) (before after : Option Plan) : Prop :=
  match e.effect with
  | .made plan => e.request.MakesPlan plan ∧ after = some plan
  | .completed id =>
    ∃ plan, before = some plan ∧ id ∈ plan.ids ∧ after = (plan.setCompleted id true).kept
  | .gaveUp => after = none
  | .nothing => after = before

theorem Request.MakesPlan.ids_eq {r : Request} {plan : Plan} (h : r.MakesPlan plan) :
    plan.ids = idsUpTo plan.tasks.length :=
  (numbered_of_flatten h.makes.tasks_eq).1

theorem isTaskId_of_makes {r : Request} {plan : Plan} (h : r.MakesPlan plan) :
    ∀ task ∈ plan.tasks, isTaskId task.id = true :=
  isTaskId_of_flatten h.makes.tasks_eq

variable {σ : Type} [Store σ]

theorem exists_turn {r : Request} {s s' : Session σ} {answer : Except Failure Answer}
    {before after : Option Plan} (h : (r.op.work r.context).Leads s s' answer)
    (hheld : Holds s'.store after) (hturn : Turn ⟨r, answer⟩ before after) :
    ∃ after, Holds (r.op.work r.context s).session.store after ∧
      Turn ⟨r, (r.op.work r.context s).answer⟩ before after := by
  obtain ⟨rfl, rfl⟩ := h
  exact ⟨after, hheld, hturn⟩

variable [LawfulStore σ]

/-- The plan in a store goes on as the entry of a request says. -/
theorem turn_of_request {s : Session σ} {before : Option Plan} (hheld : Holds s.store before)
    (hplan : ∀ plan ∈ before, plan.UnderWay) (r : Request) :
    ∃ after, Holds (r.op.work r.context s).session.store after ∧
      Turn ⟨r, (r.op.work r.context s).answer⟩ before after := by
  have hnothing : before = before := rfl
  obtain ⟨lib, names, run, now, op, hown⟩ := r
  cases op with
  | generate workflow =>
    rcases generate_cases lib names run now s workflow with
      ⟨e, he⟩ | ⟨plan, hleads, hmakes⟩
    · exact exists_turn (he.map_error Answer.plan) hheld hnothing
    · obtain rfl := hmakes.workflow_eq
      have hmade : Request.MakesPlan ⟨lib, names, run, now, .generate plan.workflow, hown⟩ plan :=
        ⟨.inl rfl, hmakes⟩
      exact exists_turn (hleads.map_ok Answer.plan)
        (holds_save (isTaskId_of_makes hmade) s.store) ⟨hmade, rfl⟩
  | start workflow =>
    rcases start_cases lib names run now s workflow with
      ⟨e, he⟩ | ⟨start, hstart, hleads⟩ | ⟨plan, hleads, hmakes⟩
    · exact exists_turn (he.map_error Answer.start) hheld hnothing
    · refine exists_turn (hleads.map_ok Answer.start) hheld ?_
      cases start with
      | generated plan => exact absurd rfl (hstart plan)
      | resumable active progress => exact hnothing
      | conflict active progress => exact hnothing
    · obtain rfl := hmakes.workflow_eq
      have hmade : Request.MakesPlan ⟨lib, names, run, now, .start plan.workflow, hown⟩ plan :=
        ⟨.inr rfl, hmakes⟩
      exact exists_turn (hleads.map_ok Answer.start)
        (holds_save (isTaskId_of_makes hmade) s.store) ⟨hmade, rfl⟩
  | next =>
    obtain ⟨next, hleads⟩ := exists_leads_next hheld (fun plan hp => (hplan plan hp).kept_eq) now
    exact exists_turn (hleads.map_ok Answer.next) hheld hnothing
  | complete id =>
    rcases complete_cases hheld (fun plan hp => (hplan plan hp).ids_eq) now id with
      ⟨e, he⟩ | ⟨plan, next, s', hbefore, hid, hleads, hafter⟩
    · exact exists_turn (he.map_error Answer.next) hheld hnothing
    · exact exists_turn (hleads.map_ok Answer.next) hafter ⟨plan, hbefore, hid, rfl⟩
  | status => exact exists_turn ((leads_load hheld now).map_ok Answer.plan?) hheld hnothing
  | reset =>
    obtain ⟨b, store, hleads, hstore⟩ := exists_leads_reset s
    exact exists_turn (hleads.map_ok Answer.flag) hstore.holds rfl
  | list =>
    have hlist : (Session.list (.ofLibrary lib names run now)).Leads s s
        (.ok ((names.map (Session.listed lib.read)).map (·.2))) := ⟨rfl, rfl⟩
    exact exists_turn (hlist.map_ok Answer.listed) hheld hnothing
  | present => cases hown
  | load => cases hown
  | save plan => cases hown
  | delete => cases hown
  | setCompleted id completed => cases hown

/-! ## What a history tells -/

section Telling

omit [Store σ] [LawfulStore σ]

/-- What a history leaves of the plan that was made before it. -/
def leftOf (plan : Plan) (later : List Entry) : Option Plan :=
  if wasGivenUp later then none else (plan.markedBy (completedIds later)).kept

/-- The plan that there is according to a history. -/
def told? (history : List Entry) : Option Plan :=
  (lastMade? history).bind fun (_, plan, later) => leftOf plan later

/-- Whoever made the last plan asked for it, and what was completed since is in it. -/
def Faithful (history : List Entry) : Prop :=
  ∀ made plan later, lastMade? history = some (made, plan, later) →
    made.request.MakesPlan plan ∧ ∀ id ∈ completedIds later, id ∈ plan.ids

theorem lastMade?_cons_of_made {e : Entry} {plan : Plan} (h : e.effect = .made plan)
    (earlier : List Entry) : lastMade? (e :: earlier) = some (e, plan, []) := by
  rw [lastMade?, h]

theorem lastMade?_cons {e : Entry} (h : ∀ plan, e.effect ≠ .made plan) (earlier : List Entry) :
    lastMade? (e :: earlier) =
      (lastMade? earlier).map fun (made, plan, later) => (made, plan, e :: later) := by
  rw [lastMade?]
  split
  · next plan heffect => exact absurd heffect (h plan)
  · rfl

theorem completedIds_cons {e : Entry} (h : ∀ id, e.effect ≠ .completed id) (later : List Entry) :
    completedIds (e :: later) = completedIds later := by
  unfold completedIds
  refine List.filterMap_cons_none ?_
  split
  · next id heffect => exact absurd heffect (h id)
  · rfl

theorem completedIds_cons_of_completed {e : Entry} {id : String} (h : e.effect = .completed id)
    (later : List Entry) : completedIds (e :: later) = id :: completedIds later :=
  List.filterMap_cons_some (by rw [h])

theorem told?_cons {e : Entry} (h : ∀ plan, e.effect ≠ .made plan) (earlier : List Entry) :
    told? (e :: earlier) =
      (lastMade? earlier).bind fun (_, plan, later) => leftOf plan (e :: later) := by
  rw [told?, lastMade?_cons h, Option.bind_map]
  rfl

/-- An entry that makes no plan and completes no task says nothing new of who asked for what. -/
theorem Faithful.cons {e : Entry} {earlier : List Entry} (hfaith : Faithful earlier)
    (hmade : ∀ plan, e.effect ≠ .made plan) (hcompleted : ∀ id, e.effect ≠ .completed id) :
    Faithful (e :: earlier) := by
  intro made plan later h
  rw [lastMade?_cons hmade] at h
  obtain ⟨⟨made', plan', later'⟩, hlast, heq⟩ := Option.map_eq_some_iff.1 h
  obtain ⟨rfl, rfl, rfl⟩ : made' = made ∧ plan' = plan ∧ e :: later' = later := by
    simpa using heq
  rw [completedIds_cons hcompleted]
  exact hfaith _ _ _ hlast

theorem leftOf_eq_some {plan q : Plan} {later : List Entry} (h : leftOf plan later = some q) :
    wasGivenUp later = false ∧ q = plan.markedBy (completedIds later) ∧ q.kept = some q := by
  unfold leftOf at h
  split at h
  · cases h
  · next hgave =>
    have hkept := h
    unfold Plan.kept at h
    split at h
    · cases h
    · obtain rfl := Option.some.inj h
      exact ⟨(Bool.not_eq_true _).mp hgave, rfl, hkept⟩

theorem exists_of_told? {history : List Entry} {q : Plan} (h : told? history = some q) :
    ∃ made plan later, lastMade? history = some (made, plan, later) ∧
      leftOf plan later = some q := by
  obtain ⟨⟨made, plan, later⟩, hmade, hleft⟩ := Option.bind_eq_some_iff.1 h
  exact ⟨made, plan, later, hmade, hleft⟩

theorem underWay_of_told? {history : List Entry} (hfaith : Faithful history) {q : Plan}
    (h : told? history = some q) : q.UnderWay := by
  obtain ⟨made, plan, later, hmade, hleft⟩ := exists_of_told? h
  obtain ⟨-, rfl, hkept⟩ := leftOf_eq_some hleft
  refine ⟨?_, hkept⟩
  rw [Plan.ids_markedBy, Plan.markedBy, List.length_map]
  exact (hfaith made plan later hmade).1.ids_eq

/-- A plan that was made has a task left. -/
theorem leftOf_nil {r : Request} {plan : Plan} (h : r.MakesPlan plan) :
    leftOf plan [] = some plan := by
  obtain ⟨-, hopen⟩ := numbered_of_flatten h.makes.tasks_eq
  obtain ⟨task, htask⟩ := List.exists_mem_of_ne_nil _ h.makes.tasks_ne_nil
  have hmarked : plan.markedBy (completedIds []) = plan := Plan.markedBy_nil hopen
  unfold leftOf
  rw [if_neg (by simp [wasGivenUp]), hmarked]
  unfold Plan.kept
  rw [if_neg]
  intro hall
  have hdone := List.all_eq_true.1 hall task htask
  rw [hopen task htask] at hdone
  cases hdone

theorem told?_of_made {e : Entry} {plan : Plan} (heffect : e.effect = .made plan)
    (hmakes : e.request.MakesPlan plan) (earlier : List Entry) :
    Faithful (e :: earlier) ∧ told? (e :: earlier) = some plan := by
  have hlast := lastMade?_cons_of_made heffect earlier
  refine ⟨fun made plan' later h => ?_, ?_⟩
  · rw [hlast] at h
    obtain ⟨rfl, rfl, rfl⟩ : e = made ∧ plan = plan' ∧ [] = later := by simpa using h
    exact ⟨hmakes, fun id hid => by simp [completedIds] at hid⟩
  · rw [told?, hlast]
    exact leftOf_nil hmakes

theorem told?_of_completed {e : Entry} {earlier : List Entry} {id : String} {q : Plan}
    (hfaith : Faithful earlier) (heffect : e.effect = .completed id)
    (hq : told? earlier = some q) (hid : id ∈ q.ids) :
    Faithful (e :: earlier) ∧ told? (e :: earlier) = (q.setCompleted id true).kept := by
  have hmade : ∀ plan, e.effect ≠ .made plan := by simp [heffect]
  obtain ⟨made, plan, later, hlast, hleft⟩ := exists_of_told? hq
  obtain ⟨hgave, rfl, -⟩ := leftOf_eq_some hleft
  obtain ⟨hmakes, hids⟩ := hfaith made plan later hlast
  have hdone := completedIds_cons_of_completed heffect later
  rw [Plan.ids_markedBy] at hid
  refine ⟨fun made' plan' later' h => ?_, ?_⟩
  · rw [lastMade?_cons hmade, hlast] at h
    obtain ⟨rfl, rfl, rfl⟩ : made = made' ∧ plan = plan' ∧ e :: later = later' := by
      simpa using h
    rw [hdone]
    exact ⟨hmakes, List.forall_mem_cons.2 ⟨hid, hids⟩⟩
  · have hnodup : plan.ids.Nodup := hmakes.ids_eq ▸ nodup_idsUpTo _
    have hstill : wasGivenUp (e :: later) = false := by simpa [wasGivenUp, heffect] using hgave
    rw [told?_cons hmade, hlast, Plan.setCompleted_markedBy hnodup, ← hdone]
    show leftOf plan (e :: later) = _
    unfold leftOf
    rw [hstill]
    rfl

/-- A turn of the plan is told by one more entry. -/
theorem told?_of_turn {e : Entry} {earlier : List Entry} {after : Option Plan}
    (hfaith : Faithful earlier) (hturn : Turn e (told? earlier) after) :
    Faithful (e :: earlier) ∧ told? (e :: earlier) = after := by
  unfold Turn at hturn
  cases heffect : e.effect with
  | made plan =>
    simp only [heffect] at hturn
    obtain ⟨hmakes, rfl⟩ := hturn
    exact told?_of_made heffect hmakes earlier
  | completed id =>
    simp only [heffect] at hturn
    obtain ⟨q, hq, hid, rfl⟩ := hturn
    exact told?_of_completed hfaith heffect hq hid
  | gaveUp =>
    have hmade : ∀ plan, e.effect ≠ .made plan := by simp [heffect]
    simp only [heffect] at hturn
    refine ⟨hfaith.cons hmade (by simp [heffect]), ?_⟩
    have hgave : ∀ later, wasGivenUp (e :: later) = true := by simp [wasGivenUp, heffect]
    rw [told?_cons hmade, hturn]
    cases lastMade? earlier with
    | none => rfl
    | some x => simp [leftOf, hgave]
  | nothing =>
    have hmade : ∀ plan, e.effect ≠ .made plan := by simp [heffect]
    have hcompleted : ∀ id, e.effect ≠ .completed id := by simp [heffect]
    simp only [heffect] at hturn
    refine ⟨hfaith.cons hmade hcompleted, ?_⟩
    have hgave : ∀ later, wasGivenUp (e :: later) = wasGivenUp later := by
      simp [wasGivenUp, heffect]
    rw [told?_cons hmade, hturn, told?]
    simp only [leftOf, hgave, completedIds_cons hcompleted]

end Telling

/-! ## Every run -/

/-- The store of a run holds what the history tells. -/
structure Run.Sound (run : Run σ) : Prop where
  faithful : Faithful run.history
  holds : Holds run.session.store (told? run.history)

theorem Run.Sound.step {run : Run σ} (h : run.Sound) (r : Request) : (run.step r).Sound := by
  obtain ⟨after, hheld, hturn⟩ :=
    turn_of_request h.holds (fun plan hp => underWay_of_told? h.faithful hp) r
  obtain ⟨hfaith, htold⟩ := told?_of_turn h.faithful hturn
  refine ⟨hfaith, ?_⟩
  show Holds _ (told? (_ :: run.history))
  rw [htold]
  exact hheld

theorem sound_foldl {run : Run σ} (h : run.Sound) (requests : List Request) :
    (requests.foldl Run.step run).Sound := by
  induction requests generalizing run with
  | nil => exact h
  | cons r rs ih => exact ih (h.step r)

theorem sound_after {s : Session σ} (hs : Store.present s.store = false)
    (requests : List Request) : (Run.after s requests).Sound := by
  have hstart : (Run.mk s []).Sound :=
    ⟨fun made plan later h => by simp [lastMade?] at h, hs⟩
  exact sound_foldl hstart requests

/-- A plan in a store against the plan that was made and what was done since: the same but for the
flags, which are those of the completed tasks, with one task left at least. -/
structure InProgress (plan : Plan) (later : List Entry) (held : Plan) : Prop where
  workflow_eq : held.workflow = plan.workflow
  generated_eq : held.generated = plan.generated
  tasks_eq : held.tasks.map Task.unmarked = plan.tasks
  tasks_ne_nil : held.tasks ≠ []
  ids_eq : held.ids = idsUpTo held.tasks.length
  completed_iff : ∀ id, (∃ task ∈ held.tasks, task.id = id ∧ task.completed = true) ↔
    id ∈ completedIds later
  left : ∃ task ∈ held.tasks, task.completed = false

/-- The store of a run agrees with its history. It is empty exactly if no plan was made, or if the
last one was given up or has been completed; and where it is not, it holds the last plan, in
progress. -/
structure Run.Agrees (run : Run σ) : Prop where
  absent_iff : Store.present run.session.store = false ↔
    lastMade? run.history = none ∨
      ∃ made plan later, lastMade? run.history = some (made, plan, later) ∧
        (wasGivenUp later = true ∨ ∀ id ∈ plan.ids, id ∈ completedIds later)
  present : Store.present run.session.store = true →
    ∃ made plan later held, lastMade? run.history = some (made, plan, later) ∧
      made.request.MakesPlan plan ∧
      (∀ now, Store.load now run.session.store = ([], some held)) ∧ InProgress plan later held

omit [Store σ] [LawfulStore σ] in
theorem all_completed_markedBy {plan : Plan} {done : List String} :
    (plan.markedBy done).tasks.all (·.completed) = true ↔ ∀ id ∈ plan.ids, id ∈ done := by
  unfold Plan.markedBy Plan.ids
  rw [List.all_map, List.all_eq_true]
  simp only [List.mem_map, forall_exists_index, and_imp, forall_apply_eq_imp_iff₂, Function.comp,
    List.contains_iff_mem]

omit [Store σ] [LawfulStore σ] in
theorem told?_eq_none_iff {history : List Entry} :
    told? history = none ↔ lastMade? history = none ∨
      ∃ made plan later, lastMade? history = some (made, plan, later) ∧
        (wasGivenUp later = true ∨ ∀ id ∈ plan.ids, id ∈ completedIds later) := by
  have hleft : ∀ plan later, leftOf plan later = none ↔
      wasGivenUp later = true ∨ ∀ id ∈ plan.ids, id ∈ completedIds later := by
    intro plan later
    rw [← all_completed_markedBy]
    unfold leftOf Plan.kept
    by_cases hgave : wasGivenUp later = true <;> simp [hgave]
  unfold told?
  cases hlast : lastMade? history with
  | none => simp
  | some x =>
    obtain ⟨made, plan, later⟩ := x
    rw [Option.bind_some]
    dsimp only
    rw [hleft]
    constructor
    · exact fun h => .inr ⟨made, plan, later, rfl, h⟩
    · rintro (h | ⟨made', plan', later', h, hover⟩)
      · cases h
      · obtain ⟨rfl, rfl, rfl⟩ : made = made' ∧ plan = plan' ∧ later = later' := by simpa using h
        exact hover

omit [Store σ] [LawfulStore σ] in
/-- What is told of a plan is that it is in progress. -/
theorem inProgress_of_leftOf {r : Request} {plan held : Plan} {later : List Entry}
    (hmakes : r.MakesPlan plan) (hids : ∀ id ∈ completedIds later, id ∈ plan.ids)
    (h : leftOf plan later = some held) : InProgress plan later held := by
  obtain ⟨-, rfl, hkept⟩ := leftOf_eq_some h
  obtain ⟨-, hopen⟩ := numbered_of_flatten hmakes.makes.tasks_eq
  refine ⟨rfl, rfl, ?_, ?_, ?_, fun id => ⟨?_, fun hid => ?_⟩, ?_⟩
  · unfold Plan.markedBy
    rw [List.map_map]
    refine (List.map_congr_left fun task htask => ?_).trans (List.map_id plan.tasks)
    exact congrArg (fun b => { task with completed := b }) (hopen task htask).symm
  · unfold Plan.markedBy
    simpa using hmakes.makes.tasks_ne_nil
  · rw [Plan.ids_markedBy, hmakes.ids_eq, Plan.markedBy, List.length_map]
  · rintro ⟨task, htask, rfl, hdone⟩
    obtain ⟨plain, -, rfl⟩ := List.mem_map.1 htask
    simpa using hdone
  · obtain ⟨task, htask, rfl⟩ := List.mem_map.1 (hids id hid)
    exact ⟨_, List.mem_map.2 ⟨task, htask, rfl⟩, rfl, by simpa using hid⟩
  · unfold Plan.kept at hkept
    split at hkept
    · cases hkept
    · next hnot =>
      obtain ⟨task, htask, hdone⟩ := List.all_eq_false.1 ((Bool.not_eq_true _).mp hnot)
      exact ⟨task, htask, (Bool.not_eq_true _).mp hdone⟩

/-- After every run of requests from an empty store, with any libraries, commands and times, the
store agrees with the history of the run. -/
theorem store_after_requests {s : Session σ} (hs : Store.present s.store = false)
    (requests : List Request) : (Run.after s requests).Agrees := by
  obtain ⟨hfaith, hheld⟩ := sound_after hs requests
  cases htold : told? (Run.after s requests).history with
  | none =>
    rw [htold] at hheld
    refine ⟨⟨fun _ => told?_eq_none_iff.1 htold, fun _ => hheld⟩, fun hpresent => ?_⟩
    rw [show Store.present (Run.after s requests).session.store = false from hheld] at hpresent
    cases hpresent
  | some held =>
    rw [htold] at hheld
    obtain ⟨made, plan, later, hlast, hleft⟩ := exists_of_told? htold
    obtain ⟨hmakes, hids⟩ := hfaith made plan later hlast
    refine ⟨⟨fun habsent => ?_, fun hover => ?_⟩, fun _ => ⟨made, plan, later, held, hlast, hmakes,
      hheld.2, inProgress_of_leftOf hmakes hids hleft⟩⟩
    · rw [hheld.1] at habsent
      cases habsent
    · rw [told?_eq_none_iff.2 hover] at htold
      cases htold

/-- A workflow of two steps. -/
def errand : Library :=
  .ofList [("w", [{ id := "a", name := "A", workflow := "w", line := 1 },
    { id := "b", name := "B", workflow := "w", line := 2 }])]

/-- An operation on that workflow. -/
def errandRequest (op : Operation) (h : op.isOwn = true) : Request where
  lib := errand
  names := ["w"]
  run := .steady (fun _ => []) (fun _ => .ok "")
  now := motley.generated
  op := op
  isOwn := h

/-- A session that starts the workflow, is asked for a task it does not have, and completes one. -/
def errandRequests : List Request :=
  [errandRequest (.start "w") rfl, errandRequest (.complete "T009") rfl,
    errandRequest (.complete "T002") rfl]

theorem store_after_errandRequests :
    Store.present (Memory.mk none) = false ∧
      (Run.after ⟨Memory.mk none, none⟩ errandRequests).Agrees ∧
      (Run.after ⟨Memory.mk none, none⟩ errandRequests).session.store.plan.map
        (fun plan => plan.tasks.map fun task => (task.id, task.completed)) =
        some [("T001", false), ("T002", true)] :=
  ⟨rfl, store_after_requests rfl errandRequests, by decide +kernel⟩

end Runbook
