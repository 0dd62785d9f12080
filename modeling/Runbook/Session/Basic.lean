import Runbook.Expansion.Basic
import Runbook.Store.Basic

/-!
# `Session` — work on a plan, in steps

A session has a store and remembers one thing of its own: the workflow that it finished last, so
that who asks for the next task after the last one hears that all is done, not that nothing was ever
there. A step of work (`Work`) may read and change the session, tell events, and fail; what it
changed before it failed stays changed.
-/

set_option autoImplicit false

namespace Runbook

/-- A store, and the workflow that was finished last. -/
structure Session (σ : Type) where
  store : σ
  finished : Option String := none
  deriving DecidableEq

/-- What a step of work leads to. -/
structure Report (σ α : Type) where
  events : List Event
  session : Session σ
  answer : Except Failure α

/-- A step of work. -/
def Work (σ α : Type) : Type := Session σ → Report σ α

namespace Work

variable {σ α β : Type}

/-- An answer, without work. -/
protected def pure (a : α) : Work σ α := fun s => ⟨[], s, .ok a⟩

/-- One step after another. -/
protected def bind (x : Work σ α) (f : α → Work σ β) : Work σ β := fun s =>
  let first := x s
  match first.answer with
  | .error e => ⟨first.events, first.session, .error e⟩
  | .ok a =>
    let second := f a first.session
    ⟨first.events ++ second.events, second.session, second.answer⟩

instance : Monad (Work σ) where
  pure := Work.pure
  bind := Work.bind

/-- The end of the work. -/
def fail (e : Failure) : Work σ α := fun s => ⟨[], s, .error e⟩

/-- An event. -/
def tell (e : Event) : Work σ Unit := fun s => ⟨[e], s, .ok ()⟩

/-- Something that does not touch the session. -/
def ofTraced (x : Traced Failure α) : Work σ α := fun s => ⟨x.events, s, x.outcome⟩

instance : Telling (Work σ) where
  tell := tell

/-- A change of the session. -/
def modify (f : Session σ → Session σ) : Work σ Unit := fun s => ⟨[], f s, .ok ()⟩

/-- The session as it is. -/
def get : Work σ (Session σ) := fun s => ⟨[], s, .ok s⟩

variable [Store σ]

/-- The plan in the store, if there is one. -/
def load (now : Time.Timestamp) : Work σ (Option Plan) := fun s =>
  let (events, plan) := Store.load now s.store
  ⟨events, s, .ok plan⟩

/-- A plan put into the store. -/
def save (plan : Plan) : Work σ Unit := modify fun s => { s with store := Store.save plan s.store }

/-- The store emptied; whether there was something in it. -/
def delete : Work σ Bool := fun s =>
  if Store.present s.store then ⟨[], { s with store := Store.delete s.store }, .ok true⟩
  else ⟨[], s, .ok false⟩

/-- The plan in the store, where there has to be one. -/
def require (now : Time.Timestamp) : Work σ Plan := do
  match ← load now with
  | some plan => pure plan
  | none => fail (.store .missing)

/-- The flag of the first task with an id set; the plan as it then is. -/
def setCompleted (now : Time.Timestamp) (id : String) (completed : Bool) : Work σ Plan := do
  let plan ← require now
  match plan.find? id with
  | none => fail (.store (.unknownTask id plan.ids))
  | some _ =>
    let marked := plan.setCompleted id completed
    save marked
    pure marked

end Work

/-- What the operations of a session depend on from outside. -/
structure Context (σ : Type) where
  /-- The numbered tasks of a workflow. -/
  tasks : String → Work σ (List Task)
  /-- The steps of a workflow, or what is wrong with its document. -/
  read : String → Traced DocumentError (List Workflow.Step)
  /-- The names of all workflows that are listed. -/
  names : List String
  now : Time.Timestamp

/-- What sessions depend on that work with a library. -/
def Context.ofLibrary {σ : Type} (lib : Library) (names : List String)
    (run : Runner (Traced DocumentError)) (now : Time.Timestamp) : Context σ where
  tasks workflow := .ofTraced ((flatten lib.source run workflow).mapError .document)
  read := lib.read
  names
  now

end Runbook
