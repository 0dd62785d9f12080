import Runbook.Proofs.Session.History

/-!
# `Proofs/Session/Corrupt` — a tasks file that holds no plan

People edit tasks files, and what they leave there may not be text, not JSON, or no plan. Then a
session goes on as if there were no file (`matches_of_plan?`): it answers every request as it would
without the file, and leaves the file alone until a plan is made, which takes its place, or until
there is something to give up. Only who gives up learns of the file, because something is taken away.

Both runs are followed side by side. As long as nothing has been replaced they stay where they
started, and a request that replaces something leads both to the same session (`Spoiled.parts`).
After that there is one run.
-/

set_option autoImplicit false

namespace Runbook

variable {σ : Type} [Store σ]

/-! ## Something that is no plan -/

/-- A store with something in it that is no plan, beside the same store with nothing in it. -/
structure Spoiled (store bare : σ) : Prop where
  load_eq : ∀ now, (Store.load now store).2 = none
  load_bare_eq : ∀ now, (Store.load now bare).2 = none
  present : Store.present store = true
  absent : Store.present bare = false
  delete_eq : Store.delete store = bare
  save_eq : ∀ plan, Store.save plan store = Store.save plan bare

/-- Contents of a tasks file that denote no plan, whenever that is. -/
theorem spoiled_of_plan? {now : Time.Timestamp} {bytes : Text.Utf8.Bytes}
    (h : TasksFile.plan? now bytes = none) (path : String) :
    Spoiled (TasksFile.mk path (some bytes)) (TasksFile.mk path none) where
  load_eq now' := by
    simp only [Store.load, TasksFile.plan?_eq_none h now']
  load_bare_eq _ := rfl
  present := rfl
  absent := rfl
  delete_eq := rfl
  save_eq _ := rfl

/-! ## One request -/

/-- An entry that put a plan in the place of what was there, or took away what was there. -/
def Entry.replaces (e : Entry) : Bool :=
  match e.effect with
  | .made _ | .gaveUp => true
  | .completed _ | .nothing => false

/-- Where a request leads two sessions that differ by something that is no plan. -/
inductive Request.Parts (r : Request) (s t : Session σ) : Prop
  /-- Both stay where they are. -/
  | kept (answer : Except Failure Answer) (left : (r.op.work r.context).Leads s s answer)
      (right : (r.op.work r.context).Leads t t answer) (noReset : r.op ≠ .reset)
      (replaces : (Entry.mk r answer).replaces = false)
  /-- Both come together. -/
  | met (answer : Except Failure Answer) (s' : Session σ)
      (left : (r.op.work r.context).Leads s s' answer)
      (right : (r.op.work r.context).Leads t s' answer) (noReset : r.op ≠ .reset)
      (replaces : (Entry.mk r answer).replaces = true)
  /-- Both come together, and the answers tell that there was a difference. -/
  | reset (s' : Session σ) (op_eq : r.op = .reset)
      (left : (r.op.work r.context).Leads s s' (.ok (.flag true)))
      (right : (r.op.work r.context).Leads t s' (.ok (.flag false)))

/-- **What is no plan is passed over.** -/
theorem Spoiled.parts {store bare : σ} (h : Spoiled store bare) (finished : Option String)
    (r : Request) : r.Parts ⟨store, finished⟩ ⟨bare, finished⟩ := by
  obtain ⟨lib, names, run, now, op, hown⟩ := r
  have hload : (Store.load now (Session.mk store finished).store).2 = none := h.load_eq now
  have hbare : (Store.load now (Session.mk bare finished).store).2 = none := h.load_bare_eq now
  cases op with
  -- Whether a plan can be made does not depend on the session, so both sides fail or both save.
  | generate workflow =>
    rcases generate_cases_forall (σ := σ) lib names run now workflow with
      ⟨e, he⟩ | ⟨plan, -, hplan⟩
    · exact .kept (.error e) ((he _).map_error Answer.plan) ((he _).map_error Answer.plan) nofun rfl
    · have hleft := hplan ⟨store, finished⟩
      have hright := hplan ⟨bare, finished⟩
      rw [← h.save_eq plan] at hright
      exact .met (.ok (.plan plan)) _ (hleft.map_ok Answer.plan) (hright.map_ok Answer.plan) nofun
        rfl
  | start workflow =>
    rcases generate_cases_forall (σ := σ) lib names run now workflow with
      ⟨e, he⟩ | ⟨plan, -, hplan⟩
    · have hleft := leads_start_of_none hload (he ⟨store, finished⟩)
      have hright := leads_start_of_none hbare (he ⟨bare, finished⟩)
      exact .kept (.error e) (hleft.map_error Answer.start) (hright.map_error Answer.start) nofun
        rfl
    · have hleft := leads_start_of_none hload (hplan ⟨store, finished⟩)
      have hright := leads_start_of_none hbare (hplan ⟨bare, finished⟩)
      rw [← h.save_eq plan] at hright
      exact .met (.ok (.start (.generated plan))) _ (hleft.map_ok Answer.start)
        (hright.map_ok Answer.start) nofun rfl
  | next =>
    exact .kept _ ((leads_next_of_none hload).map_ok Answer.next)
      ((leads_next_of_none hbare).map_ok Answer.next) nofun rfl
  | complete id =>
    exact .kept _ ((leads_complete_of_none hload id).map_error Answer.next)
      ((leads_complete_of_none hbare id).map_error Answer.next) nofun rfl
  | status =>
    exact .kept _ ((leads_load_of_eq hload).map_ok Answer.plan?)
      ((leads_load_of_eq hbare).map_ok Answer.plan?) nofun rfl
  | reset =>
    have hleft : Session.reset.Leads ⟨store, finished⟩ ⟨bare, none⟩ (.ok true) := by
      have hdelete : Work.delete.Leads ⟨store, none⟩ ⟨Store.delete store, none⟩ (.ok true) :=
        leads_delete_of_present h.present
      rw [h.delete_eq] at hdelete
      exact (Work.leads_modify _ _).bind hdelete
    have hright : Session.reset.Leads ⟨bare, finished⟩ ⟨bare, none⟩ (.ok false) :=
      (Work.leads_modify _ _).bind (leads_delete_of_absent h.absent)
    exact .reset ⟨bare, none⟩ rfl (hleft.map_ok Answer.flag) (hright.map_ok Answer.flag)
  | list =>
    have hlist : ∀ s : Session σ, (Session.list (.ofLibrary lib names run now)).Leads s s
        (.ok ((names.map (Session.listed lib.read)).map (·.2))) := fun s => ⟨rfl, rfl⟩
    exact .kept _ ((hlist _).map_ok Answer.listed) ((hlist _).map_ok Answer.listed) nofun rfl
  | present => cases hown
  | load => cases hown
  | save plan => cases hown
  | delete => cases hown
  | setCompleted id completed => cases hown

/-! ## Runs side by side -/

/-- Some request has put a plan in the place of what was there, or has taken it away. -/
def Run.HasReplaced (run : Run σ) : Prop := ∃ e ∈ run.history, e.replaces = true

theorem Run.hasReplaced_step_iff (run : Run σ) (r : Request) :
    (run.step r).HasReplaced ↔
      (Entry.mk r (r.op.work r.context run.session).answer).replaces = true ∨ run.HasReplaced := by
  simp [Run.HasReplaced, Run.step]

/-- Two runs that started from different sessions, after the same requests: both are where they
started, or both are at the same place. -/
inductive Run.Beside (s t : Session σ) (run other : Run σ) : Prop
  | apart (left : run.session = s) (right : other.session = t) (before : ¬ run.HasReplaced)
      (before' : ¬ other.HasReplaced)
  | together (session_eq : run.session = other.session) (after : run.HasReplaced)
      (after' : other.HasReplaced)

theorem Run.Beside.step {s t : Session σ} {run other : Run σ} (h : Run.Beside s t run other)
    {r : Request} (hparts : r.Parts s t) : Run.Beside s t (run.step r) (other.step r) := by
  cases h with
  | apart left right before before' =>
    subst left right
    cases hparts with
    | kept answer left right _ replaces =>
      refine .apart left.1 right.1 ?_ ?_
      · rw [Run.hasReplaced_step_iff, left.2, replaces]
        simpa using before
      · rw [Run.hasReplaced_step_iff, right.2, replaces]
        simpa using before'
    | met answer s' left right _ replaces =>
      refine .together (left.1.trans right.1.symm) ?_ ?_
      · rw [Run.hasReplaced_step_iff, left.2]
        exact .inl replaces
      · rw [Run.hasReplaced_step_iff, right.2]
        exact .inl replaces
    | reset s' op_eq left right =>
      refine .together (left.1.trans right.1.symm) ?_ ?_
      · rw [Run.hasReplaced_step_iff, left.2]
        simp [Entry.replaces, Entry.effect, op_eq]
      · rw [Run.hasReplaced_step_iff, right.2]
        simp [Entry.replaces, Entry.effect, op_eq]
  | together session_eq after after' =>
    refine .together ?_ ((Run.hasReplaced_step_iff run r).2 (.inr after))
      ((Run.hasReplaced_step_iff other r).2 (.inr after'))
    unfold Run.step
    rw [session_eq]

theorem beside_foldl {s t : Session σ} (hparts : ∀ r : Request, r.Parts s t) {run other : Run σ}
    (h : Run.Beside s t run other) (requests : List Request) :
    Run.Beside s t (requests.foldl Run.step run) (requests.foldl Run.step other) := by
  induction requests generalizing run other with
  | nil => exact h
  | cons r requests ih => exact ih (h.step (hparts r))

/-- Two runs that started from different sessions cannot be told apart by their answers, but by one
of them: that to a request to give up, as long as nothing has been replaced. Until something is
replaced, both sessions stay what they were, and from then on they are the same. -/
structure Run.Matches (s t : Session σ) (run other : Run σ) : Prop where
  replaced_iff : run.HasReplaced ↔ other.HasReplaced
  before : ¬ run.HasReplaced → run.session = s ∧ other.session = t
  after : run.HasReplaced → run.session = other.session
  answer_eq : ∀ r : Request, r.op ≠ .reset ∨ run.HasReplaced →
    (r.op.work r.context run.session).answer = (r.op.work r.context other.session).answer
  reset_eq : ∀ r : Request, r.op = .reset → ¬ run.HasReplaced →
    (r.op.work r.context run.session).answer = .ok (.flag true) ∧
      (r.op.work r.context other.session).answer = .ok (.flag false)

theorem Run.Beside.matches {s t : Session σ} {run other : Run σ} (h : Run.Beside s t run other)
    (hparts : ∀ r : Request, r.Parts s t) : Run.Matches s t run other := by
  cases h with
  | apart left right before before' =>
    refine ⟨iff_of_false before before', fun _ => ⟨left, right⟩, fun after => absurd after before,
      fun r hr => ?_, fun r hreset _ => ?_⟩
    · rw [left, right]
      cases hparts r with
      | kept answer left right => exact left.2.trans right.2.symm
      | met answer s' left right => exact left.2.trans right.2.symm
      | reset s' op_eq => exact absurd op_eq (hr.resolve_right before)
    · rw [left, right]
      cases hparts r with
      | kept answer _ _ noReset => exact absurd hreset noReset
      | met answer s' _ _ noReset => exact absurd hreset noReset
      | reset s' _ left right => exact ⟨left.2, right.2⟩
  | together session_eq after after' =>
    refine ⟨iff_of_true after after', fun before => absurd after before, fun _ => session_eq,
      fun r _ => ?_, fun _ _ before => absurd after before⟩
    rw [session_eq]

/-- **A tasks file that holds no plan is as good as none.** Whatever is in the file and whatever is
asked, every request is answered as if there were no file, but for one that gives up while the file
is in its place. The file stays as it is until a plan is made or given up, and from then on it is the
same as if there had been none. -/
theorem matches_of_plan? {now : Time.Timestamp} {bytes : Text.Utf8.Bytes}
    (h : TasksFile.plan? now bytes = none) (path : String) (finished : Option String)
    (requests : List Request) :
    Run.Matches ⟨TasksFile.mk path (some bytes), finished⟩ ⟨TasksFile.mk path none, finished⟩
      (Run.after ⟨TasksFile.mk path (some bytes), finished⟩ requests)
      (Run.after ⟨TasksFile.mk path none, finished⟩ requests) := by
  have hparts := (spoiled_of_plan? h path).parts finished
  have hnothing : ∀ s : Session TasksFile, ¬ (Run.mk s []).HasReplaced := by
    rintro s ⟨e, he, -⟩
    cases he
  exact (beside_foldl hparts (.apart rfl rfl (hnothing _) (hnothing _)) requests).matches hparts

/-- An object without fields is no plan. It gives way when the workflow is started. -/
theorem matches_emptyObject :
    TasksFile.plan? motley.generated [0x7B, 0x7D] = none ∧
      Run.Matches ⟨TasksFile.mk "tasks.json" (some [0x7B, 0x7D]), some "x"⟩
        ⟨TasksFile.mk "tasks.json" none, some "x"⟩
        (Run.after ⟨TasksFile.mk "tasks.json" (some [0x7B, 0x7D]), some "x"⟩ errandRequests)
        (Run.after ⟨TasksFile.mk "tasks.json" none, some "x"⟩ errandRequests) := by
  have hnone : TasksFile.plan? motley.generated [0x7B, 0x7D] = none := by decide +kernel
  exact ⟨hnone, matches_of_plan? hnone "tasks.json" (some "x") errandRequests⟩

end Runbook
