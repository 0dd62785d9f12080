import Runbook.Proofs.Expansion.Reach
import Runbook.Proofs.Expansion.Unfolding
import Runbook.Session.Basic

/-!
# `Proofs/Session/Expansion` — expansions with commands that do what they like

The command of a loop is a process. It may print something else the next time, and it may change the
store of the session in which it runs. An expansion in a session (`Library.sourceIn`) reads the
documents of a library, but leaves all this to its commands. Commands that depend on nothing are a
special case (`inSession_expand`), so what is shown here of expansions in a session holds of every
expansion of a library.

What an expansion tells and answers is stated whatever the session is (`Work.Ensures`), and carried
from step to step by the rule for one piece of work after another (`Work.Ensures.bind`).
-/

set_option autoImplicit false

namespace Runbook

open Runbook.Workflow

variable {σ α β : Type}

/-! ## One piece of work after another -/

theorem Work.bind_apply_of_ok {x : Work σ α} {f : α → Work σ β} {s : Session σ} {a : α}
    (h : (x s).answer = .ok a) :
    (x >>= f) s =
      ⟨(x s).events ++ (f a (x s).session).events, (f a (x s).session).session,
        (f a (x s).session).answer⟩ := by
  show Work.bind x f s = _
  unfold Work.bind
  dsimp only
  rw [h]

theorem Work.bind_apply_of_error {x : Work σ α} {f : α → Work σ β} {s : Session σ} {e : Failure}
    (h : (x s).answer = .error e) : (x >>= f) s = ⟨(x s).events, (x s).session, .error e⟩ := by
  show Work.bind x f s = _
  unfold Work.bind
  dsimp only
  rw [h]

theorem Work.bind_apply_congr {x y : Work σ α} {s : Session σ} (h : x s = y s) (f : α → Work σ β) :
    (x >>= f) s = (y >>= f) s := by
  show Work.bind x f s = Work.bind y f s
  unfold Work.bind
  rw [h]

instance : LawfulMonad (Work σ) := by
  refine LawfulMonad.mk' (Work σ) ?_ (fun _ _ => rfl) ?_
  · intro α x
    funext s
    show Work.bind x Work.pure s = x s
    cases h : (x s).answer with
    | error e => exact (Work.bind_apply_of_error h).trans (by rw [← h])
    | ok a =>
      refine (Work.bind_apply_of_ok h).trans ?_
      show Report.mk ((x s).events ++ []) (x s).session (.ok a) = x s
      rw [List.append_nil, ← h]
  · intro α β γ x f g
    funext s
    cases hx : (x s).answer with
    | error e =>
      have hxf : ((x >>= f) s).answer = .error e := by rw [Work.bind_apply_of_error hx]
      rw [Work.bind_apply_of_error hxf, Work.bind_apply_of_error hx, Work.bind_apply_of_error hx]
    | ok a =>
      have hxf : (x >>= f) s = _ := Work.bind_apply_of_ok hx
      rw [Work.bind_apply_of_ok hx]
      cases hf : (f a (x s).session).answer with
      | error e =>
        rw [Work.bind_apply_of_error hf, Work.bind_apply_of_error (by rw [hxf, hf]), hxf]
      | ok b =>
        rw [Work.bind_apply_of_ok hf, Work.bind_apply_of_ok (by rw [hxf, hf]), hxf,
          List.append_assoc]

/-- Whatever the session is, work tells and answers what is said of it. -/
def Work.Ensures (x : Work σ α) (P : List Event → Except Failure α → Prop) : Prop :=
  ∀ s, P (x s).events (x s).answer

namespace Work.Ensures

variable {x : Work σ α} {f : α → Work σ β} {P : List Event → Except Failure α → Prop}
  {Q : List Event → Except Failure β → Prop}

theorem imp {R : List Event → Except Failure α → Prop} (hx : x.Ensures P)
    (h : ∀ es answer, P es answer → R es answer) : x.Ensures R := fun s => h _ _ (hx s)

theorem pure {a : α} (h : P [] (.ok a)) : (Pure.pure a : Work σ α).Ensures P := fun _ => h

/-- What the first part tells stands in front, and where it fails there is no second part. -/
theorem bind (hx : x.Ensures P)
    (hok : ∀ es a, P es (.ok a) → (f a).Ensures fun more answer => Q (es ++ more) answer)
    (herror : ∀ es e, P es (.error e) → Q es (.error e)) : (x >>= f).Ensures Q := by
  intro s
  have hs := hx s
  cases hanswer : (x s).answer with
  | error e =>
    rw [hanswer] at hs
    rw [Work.bind_apply_of_error hanswer]
    exact herror _ e hs
  | ok a =>
    rw [hanswer] at hs
    rw [Work.bind_apply_of_ok hanswer]
    exact hok _ a hs (x s).session

end Work.Ensures

/-- Telling events leaves the session as it is. -/
theorem Work.tellAll_apply (es : List Event) (s : Session σ) :
    (tellAll es : Work σ Unit) s = ⟨es, s, .ok ()⟩ := by
  induction es with
  | nil => rfl
  | cons e es ih =>
    rw [tellAll]
    have htell : ((Telling.tell e : Work σ Unit) s).answer = .ok () := rfl
    refine (Work.bind_apply_of_ok htell).trans ?_
    have hrest : (tellAll es : Work σ Unit) ((Telling.tell e : Work σ Unit) s).session =
        ⟨es, s, .ok ()⟩ := ih
    rw [hrest]
    rfl

theorem ensures_tellAll (es : List Event) :
    (tellAll es : Work σ Unit).Ensures fun told answer => told = es ∧ answer = .ok () := by
  intro s
  rw [Work.tellAll_apply]
  exact ⟨rfl, rfl⟩

/-! ## A library in a session -/

/-- An operation that does not look at the session, as work. -/
def Traced.inSession (x : Traced DocumentError α) : Work σ α := .ofTraced (x.mapError .document)

theorem inSession_bind (x : Traced DocumentError α) (f : α → Traced DocumentError β) :
    ((x >>= f).inSession : Work σ β) = x.inSession >>= fun a => (f a).inSession := by
  funext s
  cases h : x.outcome with
  | error e =>
    have hs : ((x.inSession : Work σ α) s).answer = .error (.document e) :=
      congrArg (Except.mapError Failure.document) h
    rw [Work.bind_apply_of_error hs, Traced.bind_of_error h]
    rfl
  | ok a =>
    have hs : ((x.inSession : Work σ α) s).answer = .ok a :=
      congrArg (Except.mapError Failure.document) h
    rw [Work.bind_apply_of_ok hs, Traced.bind_of_ok h]
    rfl

/-- What follows an operation is only met with what the operation gives. -/
theorem inSession_bind_congr {x : Traced DocumentError α} {f g : α → Work σ β}
    (h : ∀ a, x.outcome = .ok a → f a = g a) : x.inSession >>= f = x.inSession >>= g := by
  funext s
  cases hx : x.outcome with
  | error e =>
    have hs : ((x.inSession : Work σ α) s).answer = .error (.document e) :=
      congrArg (Except.mapError Failure.document) hx
    rw [Work.bind_apply_of_error hs, Work.bind_apply_of_error hs]
  | ok a =>
    have hs : ((x.inSession : Work σ α) s).answer = .ok a :=
      congrArg (Except.mapError Failure.document) hx
    rw [Work.bind_apply_of_ok hs, Work.bind_apply_of_ok hs, h a hx]

theorem ensures_inSession {x : Traced DocumentError α} {P : List Event → Except Failure α → Prop}
    (h : P x.events (x.outcome.mapError .document)) : (x.inSession : Work σ α).Ensures P :=
  fun _ => h

/-- A document of a library, read in a session. -/
def Library.readIn (σ : Type) (lib : Library) (name : String) : Work σ (List Step) :=
  (lib.read name).inSession

/-- A library as what an expansion in a session reads. -/
def Library.sourceIn (σ : Type) (lib : Library) : Source (Work σ) where
  room := lib.room
  read visited name h := (lib.opened visited name h).inSession

/-- What sessions depend on that work with a library, and with commands that may do anything to the
session. -/
def Context.withCommands (lib : Library) (names : List String) (run : Runner (Work σ))
    (now : Time.Timestamp) : Context σ where
  tasks := flatten (lib.sourceIn σ) run
  read := lib.read
  names
  now

variable {lib : Library}

/-- Steps that are read are those of the document. -/
theorem mem_stepsOf_of_readIn {name : String} {s : Session σ} {steps : List Step} {step : Step}
    (h : (lib.readIn σ name s).answer = .ok steps) (hstep : step ∈ steps) :
    step ∈ lib.stepsOf name := by
  have hread : (lib.read name).outcome.mapError Failure.document = .ok steps := h
  cases houtcome : (lib.read name).outcome with
  | error e => simp [houtcome, Except.mapError] at hread
  | ok found =>
    obtain rfl : found = steps := by simpa [houtcome, Except.mapError] using hread
    exact Library.stepsOf_of_ok houtcome ▸ hstep

/-- What is collected from the steps of a document only depends on what is collected from steps that
refer to what the document refers to. -/
theorem readIn_bind_collect_congr {name : String} {f g : Step → Work σ (List β)}
    (h : ∀ step, (∀ target, step.reference? = some target → lib.Refers name target) →
      f step = g step) :
    lib.readIn σ name >>= collect f = lib.readIn σ name >>= collect g := by
  refine inSession_bind_congr fun steps hread => collect_congr fun step hstep => ?_
  exact h step fun target htarget => ⟨step, Library.stepsOf_of_ok hread ▸ hstep, htarget⟩

theorem opened_inSession_bind {visited : List String} {name : String} (h : name ∉ visited)
    (f : List Step → Work σ β) :
    ((lib.opened visited name h).inSession >>= fun found => f found.1) =
      (lib.read name).inSession >>= f := by
  funext s
  unfold Library.opened
  split
  · next e hread =>
    have hs : (((lib.read name).inSession : Work σ _) s).answer = .error (.document e) :=
      congrArg (Except.mapError Failure.document) hread
    rw [Work.bind_apply_of_error hs]
    rfl
  · next steps hread =>
    have hs : (((lib.read name).inSession : Work σ _) s).answer = .ok steps :=
      congrArg (Except.mapError Failure.document) hread
    rw [Work.bind_apply_of_ok hs]
    rfl

/-- A workflow that is not open is read from the library, and its steps are taken one after
another. -/
theorem expand_sourceIn_of_notMem (run : Runner (Work σ)) {lead : String} {visited : List String}
    {name : String} (h : name ∉ visited) :
    expand (lib.sourceIn σ) run lead visited name =
      lib.readIn σ name >>=
        collect ((lib.sourceIn σ).tasksOfStep run (sourceOf lead name) (name :: visited)) := by
  rw [expand_of_notMem _ _ h]
  exact opened_inSession_bind h _

/-- A workflow that is not open comes to what is wrong with its document, or to what its steps come
to. What is told of the document stands in front. -/
theorem ensures_expand_of_notMem {run : Runner (Work σ)} {lead : String} {visited : List String}
    {name : String} {P : List Event → Except Failure (List Task) → Prop} (h : name ∉ visited)
    (herror : ∀ fault, (lib.read name).outcome = .error fault →
      P (lib.read name).events (.error (.document fault)))
    (hok : ∀ steps, (lib.read name).outcome = .ok steps →
      (collect ((lib.sourceIn σ).tasksOfStep run (sourceOf lead name) (name :: visited))
        steps).Ensures fun es answer => P ((lib.read name).events ++ es) answer) :
    (expand (lib.sourceIn σ) run lead visited name).Ensures P := by
  rw [expand_sourceIn_of_notMem _ h]
  have hread : (lib.readIn σ name).Ensures fun es answer =>
      es = (lib.read name).events ∧ answer = (lib.read name).outcome.mapError .document :=
    ensures_inSession ⟨rfl, rfl⟩
  refine hread.bind ?_ ?_
  · rintro _ steps ⟨rfl, hsteps⟩
    refine hok steps ?_
    cases houtcome : (lib.read name).outcome with
    | error fault => simp [houtcome, Except.mapError] at hsteps
    | ok found => simpa [houtcome, Except.mapError] using hsteps.symm
  · rintro _ e ⟨rfl, he⟩
    cases houtcome : (lib.read name).outcome with
    | error fault =>
      obtain rfl : e = .document fault := by simpa [houtcome, Except.mapError] using he
      exact herror fault houtcome
    | ok found => simp [houtcome, Except.mapError] at he

/-! ## Commands that depend on nothing -/

/-- Commands that do not look at the session. -/
def Runner.inSession (run : Runner (Traced DocumentError)) : Runner (Work σ) :=
  fun command => (run command).inSession

theorem inSession_collect (f : α → Traced DocumentError (List β)) (as : List α) :
    ((collect f as).inSession : Work σ (List β)) = collect (fun a => (f a).inSession) as := by
  induction as with
  | nil => rfl
  | cons a as ih =>
    rw [collect, collect, inSession_bind]
    congr 1
    funext bs
    rw [inSession_bind, ih]
    rfl

theorem inSession_tellAll (es : List Event) :
    ((tellAll es : Traced DocumentError Unit).inSession : Work σ Unit) = tellAll es := by
  funext s
  rw [Work.tellAll_apply, Traced.tellAll_eq]
  rfl

theorem inSession_loopTasks (run : Runner (Traced DocumentError)) (step : Step) (source : String) :
    ((Loop.tasks run step source).inSession : Work σ (List Task)) =
      Loop.tasks run.inSession step source := by
  have hfind : ((Loop.find run step.command).inSession : Work σ _) =
      Loop.find run.inSession step.command := by
    cases step.command with
    | none => rfl
    | some command =>
      unfold Loop.find
      dsimp only
      split
      · rfl
      · rw [inSession_bind]
        rfl
  unfold Loop.tasks
  rw [inSession_bind, hfind]
  congr 1
  funext found
  rw [inSession_bind, inSession_tellAll]
  rfl

/-- An expansion with commands that depend on nothing is the same in every session. -/
theorem inSession_expand (run : Runner (Traced DocumentError)) (lead : String)
    (visited : List String) (name : String) :
    ((expand lib.source run lead visited name).inSession : Work σ (List Task)) =
      expand (lib.sourceIn σ) run.inSession lead visited name := by
  induction visited, name using lib.branch_induction generalizing lead with
  | pruned visited name hname =>
    rw [expand_of_mem _ _ hname, expand_of_mem _ _ hname]
    rfl
  | opened visited name hname ih =>
    rw [expand_of_notMem _ _ hname, expand_sourceIn_of_notMem _ hname, inSession_bind]
    refine (opened_inSession_bind hname fun steps => (collect (lib.source.tasksOfStep run
      (sourceOf lead name) (name :: visited)) steps).inSession).trans ?_
    simp only [inSession_collect]
    refine readIn_bind_collect_congr fun step hrefers => ?_
    unfold Source.tasksOfStep
    cases haction : step.action with
    | plain => rfl
    | loop command var => exact inSession_loopTasks run step _
    | nested target =>
      exact ih target (hrefers target ((step.reference?_eq_some_iff target).2 haction)) _

/-- Sessions that work with a library and with commands that depend on nothing. -/
theorem ofLibrary_eq_withCommands (names : List String) (run : Runner (Traced DocumentError))
    (now : Time.Timestamp) :
    Context.ofLibrary lib names run now =
      Context.withCommands (σ := σ) lib names run.inSession now := by
  have htasks : (fun workflow => (Work.ofTraced ((flatten lib.source run workflow).mapError
      .document) : Work σ (List Task))) = flatten (lib.sourceIn σ) run.inSession := by
    funext workflow
    show (flatten lib.source run workflow).inSession = _
    unfold flatten
    rw [inSession_bind, inSession_expand]
    rfl
  unfold Context.ofLibrary Context.withCommands
  rw [htasks]

end Runbook
