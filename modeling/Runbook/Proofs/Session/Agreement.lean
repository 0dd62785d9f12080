import Runbook.Proofs.Session.Expansion

/-!
# `Proofs/Session/Agreement` — expansions that come to the same

An expansion reads one document after another, and between them its commands run. What is read may
depend on where the expansion is, on what the commands did, or on a limit, so two sources may come to
the same without being the same. It is enough that they do so on the sessions and on the branches
that an expansion gets to (`Source.AgreeOn`): then the expansions come to the same, and lead from
sessions of that kind to sessions of that kind (`agreeOn_expand`).

A source agrees with itself where reading keeps to such sessions. So the same rule says what an
expansion does to a session: whatever its commands and its reading keep, it keeps. Other properties
of work pass from the parts of an expansion to the whole in the same way (`Work.Closed.expand`).
-/

set_option autoImplicit false

namespace Runbook

open Runbook.Workflow

variable {σ α β : Type}

/-! ## Work that comes to the same on some sessions -/

/-- Work that is the same on some sessions, and leads from one of them to another one. -/
def Work.AgreeOn (I : Session σ → Prop) (x y : Work σ α) : Prop :=
  ∀ s, I s → x s = y s ∧ I (y s).session

namespace Work.AgreeOn

variable {I : Session σ → Prop} {x y : Work σ α}

theorem of_silent (h : ∀ s, (x s).session = s) : AgreeOn I x x :=
  fun s hs => ⟨rfl, (h s).symm ▸ hs⟩

theorem left (h : AgreeOn I x y) : AgreeOn I x x := by
  intro s hs
  obtain ⟨heq, hsession⟩ := h s hs
  rw [← heq] at hsession
  exact ⟨rfl, hsession⟩

theorem bind {f g : α → Work σ β} (hx : AgreeOn I x y)
    (hf : ∀ s a, (y s).answer = .ok a → AgreeOn I (f a) (g a)) :
    AgreeOn I (x >>= f) (y >>= g) := by
  intro s hs
  obtain ⟨heq, hsession⟩ := hx s hs
  cases hanswer : (y s).answer with
  | error e =>
    rw [Work.bind_apply_of_error hanswer, Work.bind_apply_of_error (heq ▸ hanswer), heq]
    exact ⟨rfl, hsession⟩
  | ok a =>
    obtain ⟨heq', hsession'⟩ := hf s a hanswer _ hsession
    rw [Work.bind_apply_of_ok hanswer, Work.bind_apply_of_ok (heq ▸ hanswer), heq, heq']
    exact ⟨rfl, hsession'⟩

theorem collect {f g : α → Work σ (List β)} {as : List α} (h : ∀ a ∈ as, AgreeOn I (f a) (g a)) :
    AgreeOn I (Runbook.collect f as) (Runbook.collect g as) := by
  induction as with
  | nil => exact of_silent fun _ => rfl
  | cons a as ih =>
    obtain ⟨ha, has⟩ := List.forall_mem_cons.1 h
    refine ha.bind fun _ _ _ => (ih has).bind fun _ _ _ => ?_
    exact of_silent fun _ => rfl

theorem loopTasks {run : Runner (Work σ)} (hrun : ∀ command, AgreeOn I (run command) (run command))
    (step : Step) (source : String) :
    AgreeOn I (Loop.tasks run step source) (Loop.tasks run step source) := by
  have hfind : AgreeOn I (Loop.find run step.command) (Loop.find run step.command) := by
    rcases Loop.find_cases run step.command with ⟨obstacle, h⟩ | ⟨command, h⟩ <;> rw [h]
    · exact of_silent fun _ => rfl
    · exact (hrun command).bind fun _ _ _ => of_silent fun _ => rfl
  have htell : ∀ es, AgreeOn I (tellAll es : Work σ Unit) (tellAll es) := by
    intro es
    induction es with
    | nil => exact of_silent fun _ => rfl
    | cons e es ih => exact bind (of_silent fun _ => rfl) fun _ _ _ => ih
  exact hfind.bind fun _ found _ => (htell _).bind fun _ _ _ => of_silent fun _ => rfl

end Work.AgreeOn

/-! ## What a source gives -/

theorem Work.answer_map (f : α → β) (x : Work σ α) (s : Session σ) :
    ((f <$> x) s).answer = (x s).answer.map f := by
  show (Work.bind x (fun a => Work.pure (f a)) s).answer = _
  unfold Work.bind
  dsimp only
  cases (x s).answer with
  | error e => rfl
  | ok a => rfl

/-- The steps that a source gives for a workflow that is opened while others are. -/
def Source.stepsAt (src : Source (Work σ)) (visited : List String) (name : String)
    (h : name ∉ visited) : Work σ (List Step) := Subtype.val <$> src.read visited name h

/-- A step that a source gives refers to what has less room. -/
theorem Source.room_lt_of_stepsAt {src : Source (Work σ)} {visited : List String} {name : String}
    {h : name ∉ visited} {s : Session σ} {steps : List Step} {step : Step} {target : String}
    (hsteps : (src.stepsAt visited name h s).answer = .ok steps) (hstep : step ∈ steps)
    (htarget : step.reference? = some target) :
    src.room (name :: visited) target < src.room visited name := by
  rw [Source.stepsAt, Work.answer_map] at hsteps
  cases hfound : (src.read visited name h s).answer with
  | error e =>
    rw [hfound] at hsteps
    cases hsteps
  | ok found =>
    rw [hfound] at hsteps
    obtain rfl := Except.ok.inj hsteps
    exact found.2 step hstep target htarget

/-- A workflow that is not open is opened, and its steps are taken one after another. -/
theorem expand_eq_stepsAt_bind (src : Source (Work σ)) (run : Runner (Work σ)) {lead : String}
    {visited : List String} {name : String} (h : name ∉ visited) :
    expand src run lead visited name =
      src.stepsAt visited name h >>=
        collect (src.tasksOfStep run (sourceOf lead name) (name :: visited)) := by
  rw [expand_of_notMem _ _ h, Source.stepsAt, bind_map_left]

theorem stepsAt_sourceIn (lib : Library) {visited : List String} {name : String}
    (h : name ∉ visited) : (lib.sourceIn σ).stepsAt visited name h = lib.readIn σ name :=
  (opened_inSession_bind h pure).trans (bind_pure (lib.readIn σ name))

theorem stepsAt_bounded {limit : Nat} (read : String → Work σ (List Step)) {visited : List String}
    {name : String} (h : name ∉ visited) (hroom : visited.length < limit) :
    (Source.bounded limit read).stepsAt visited name h = read name := by
  unfold Source.stepsAt Source.bounded
  dsimp only
  rw [dif_pos hroom]
  exact (bind_map_left (m := Work σ) _ _ _).trans (bind_pure (read name))

/-! ## Expansions -/

/-- Sources that give the same on some sessions and on some branches, and that lead from one of these
branches to another one. -/
structure Source.AgreeOn (I : Session σ → Prop) (Q : List String → String → Prop)
    (src src' : Source (Work σ)) : Prop where
  stepsAt : ∀ visited name (h : name ∉ visited), Q visited name →
    Work.AgreeOn I (src.stepsAt visited name h) (src'.stepsAt visited name h)
  next : ∀ visited name (h : name ∉ visited), Q visited name → ∀ s steps,
    (src'.stepsAt visited name h s).answer = .ok steps → ∀ step ∈ steps, ∀ target,
      step.reference? = some target → Q (name :: visited) target

variable {I : Session σ → Prop} {Q : List String → String → Prop} {src src' : Source (Work σ)}
  {run : Runner (Work σ)}

/-- **Expansions come to the same where their sources do.** Commands have to keep to the sessions on
which that is so. -/
theorem agreeOn_expand (hsrc : Source.AgreeOn I Q src src')
    (hrun : ∀ command, Work.AgreeOn I (run command) (run command)) (lead : String)
    (visited : List String) (name : String) (h : Q visited name) :
    Work.AgreeOn I (expand src run lead visited name) (expand src' run lead visited name) := by
  -- On the room of the second source: what it reads is known, so it says which references have less.
  induction hroom : src'.room visited name using Nat.strong_induction_on
    generalizing lead visited name with
  | _ room ih =>
  subst hroom
  by_cases hname : name ∈ visited
  · rw [expand_of_mem _ _ hname, expand_of_mem _ _ hname]
    exact .of_silent fun _ => rfl
  · rw [expand_eq_stepsAt_bind _ _ hname, expand_eq_stepsAt_bind _ _ hname]
    refine (hsrc.stepsAt visited name hname h).bind fun s steps hsteps => .collect
      fun step hstep => ?_
    unfold Source.tasksOfStep
    cases haction : step.action with
    | plain => exact .of_silent fun _ => rfl
    | loop command var => exact .loopTasks hrun step _
    | nested target =>
      have htarget := (step.reference?_eq_some_iff target).2 haction
      exact ih _ (Source.room_lt_of_stepsAt hsteps hstep htarget) _ _ _
        (hsrc.next visited name hname h s steps hsteps step hstep target htarget) rfl

/-- So does numbering the tasks that expansions come to. -/
theorem agreeOn_flatten {name : String}
    (h : Work.AgreeOn I (expand src run "" [] name) (expand src' run "" [] name)) :
    Work.AgreeOn I (flatten src run name) (flatten src' run name) :=
  h.bind fun _ _ _ => .bind (.of_silent fun _ => rfl) fun _ _ _ => .of_silent fun _ => rfl

/-! ## What an expansion has from its parts -/

/-- A property that work has if its parts have it. A running command is told of by itself, so what
is told here is anything else. -/
structure Work.Closed (M : ∀ {α : Type}, Work σ α → Prop) : Prop where
  pure : ∀ {α : Type} (a : α), M (Pure.pure a : Work σ α)
  tell : ∀ e, (∀ command, e ≠ .running command) → M (Telling.tell e : Work σ Unit)
  bind : ∀ {α β : Type} {x : Work σ α} {f : α → Work σ β}, M x →
    (∀ s a, (x s).answer = .ok a → M (f a)) → M (x >>= f)

namespace Work.Closed

variable {M : ∀ {α : Type}, Work σ α → Prop}

theorem collect (hM : Closed M) {f : α → Work σ (List β)} {as : List α} (h : ∀ a ∈ as, M (f a)) :
    M (Runbook.collect f as) := by
  induction as with
  | nil => exact hM.pure []
  | cons a as ih =>
    obtain ⟨ha, has⟩ := List.forall_mem_cons.1 h
    exact hM.bind ha fun _ _ _ => hM.bind (ih has) fun _ _ _ => hM.pure _

theorem tellAll (hM : Closed M) {es : List Event} (h : ∀ command, .running command ∉ es) :
    M (Runbook.tellAll es : Work σ Unit) := by
  induction es with
  | nil => exact hM.pure ()
  | cons e es ih =>
    have he : ∀ command, e ≠ .running command := by
      rintro command rfl
      exact h command List.mem_cons_self
    exact hM.bind (hM.tell e he) fun _ _ _ =>
      ih fun command hmem => h command (List.mem_cons_of_mem e hmem)

theorem loopTasks (hM : Closed M) (hrun : ∀ command, M (run command)) (step : Step)
    (source : String) : M (Loop.tasks run step source) := by
  have hfind : M (Loop.find run step.command) := by
    rcases Loop.find_cases run step.command with ⟨obstacle, h⟩ | ⟨command, h⟩ <;> rw [h]
    · exact hM.pure _
    · exact hM.bind (hrun command) fun _ _ _ => hM.pure _
  refine hM.bind hfind fun _ found _ => hM.bind (hM.tellAll ?_) fun _ _ _ => hM.pure _
  rcases found with (_ | _ | _ | _) | items <;> simp [Loop.eventsOf, Loop.Obstacle.events]

/-- An expansion has what reading its steps and running its commands have. -/
theorem expand (hM : Closed M) (hsrc : ∀ visited name (h : name ∉ visited),
      M (src.stepsAt visited name h))
    (hrun : ∀ command, M (run command)) (lead : String) (visited : List String) (name : String) :
    M (Runbook.expand src run lead visited name) := by
  induction hroom : src.room visited name using Nat.strong_induction_on
    generalizing lead visited name with
  | _ room ih =>
  subst hroom
  by_cases hname : name ∈ visited
  · rw [expand_of_mem _ _ hname]
    exact hM.bind (hM.tell _ nofun) fun _ _ _ => hM.pure []
  · rw [expand_eq_stepsAt_bind _ _ hname]
    refine hM.bind (hsrc visited name hname) fun s steps hsteps => hM.collect fun step hstep => ?_
    unfold Source.tasksOfStep
    cases haction : step.action with
    | plain => exact hM.pure _
    | loop command var => exact hM.loopTasks hrun step _
    | nested target =>
      have htarget := (step.reference?_eq_some_iff target).2 haction
      exact ih _ (Source.room_lt_of_stepsAt hsteps hstep htarget) _ _ _ rfl

theorem flatten (hM : Closed M) (hsrc : ∀ visited name (h : name ∉ visited),
      M (src.stepsAt visited name h))
    (hrun : ∀ command, M (run command)) (name : String) : M (Runbook.flatten src run name) :=
  hM.bind (hM.expand hsrc hrun "" [] name) fun _ _ _ =>
    hM.bind (hM.tell _ nofun) fun _ _ _ => hM.pure _

end Work.Closed

end Runbook
