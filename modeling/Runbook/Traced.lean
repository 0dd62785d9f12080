import Runbook.Event

/-!
# `Traced` — results with their events

Most operations of this library may fail and tell events on the way. `Traced ε α` is both at once:
the events in order, and either an error or a value. An error ends an operation but keeps the events
told before it.

The two halves are independent of each other, which the lemmas say: the outcome of a sequence is the
sequence of the outcomes, and its events are the events of the first part followed by those of the
second if there was one.

An operation that does not care what else is going on is written for any monad that can tell events
(`Telling`). Such an operation says in what order things happen; what may happen is up to the monad.
-/

set_option autoImplicit false

namespace Runbook

/-- Operations of a kind that can tell events. -/
class Telling (m : Type → Type) where
  tell : Event → m Unit

/-- Some events, one after another. -/
def tellAll {m : Type → Type} [Monad m] [Telling m] : List Event → m Unit
  | [] => pure ()
  | e :: es => do
    Telling.tell e
    tellAll es

/-- The lists that `f` gives for the members of a list, put together in order. -/
def collect {m : Type → Type} [Monad m] {α β : Type} (f : α → m (List β)) :
    List α → m (List β)
  | [] => pure []
  | a :: as => do
    let bs ← f a
    let more ← collect f as
    pure (bs ++ more)

/-- The events of an operation and its outcome. -/
structure Traced (ε α : Type) where
  events : List Event
  outcome : Except ε α

namespace Traced

variable {ε α β : Type}

/-- A value, told nothing about. -/
protected def pure (a : α) : Traced ε α := ⟨[], .ok a⟩

/-- One operation after another. -/
protected def bind (x : Traced ε α) (f : α → Traced ε β) : Traced ε β :=
  match x.outcome with
  | .ok a => ⟨x.events ++ (f a).events, (f a).outcome⟩
  | .error e => ⟨x.events, .error e⟩

instance : Monad (Traced ε) where
  pure := Traced.pure
  bind := Traced.bind

/-- An event. -/
def tell (e : Event) : Traced ε Unit := ⟨[e], .ok ()⟩

instance : Telling (Traced ε) where
  tell := tell

/-- An error. -/
def fail (e : ε) : Traced ε α := ⟨[], .error e⟩

/-- An outcome, told nothing about. -/
def ofExcept (x : Except ε α) : Traced ε α := ⟨[], x⟩

/-- The same with another form of error. -/
def mapError {ε' : Type} (f : ε → ε') (x : Traced ε α) : Traced ε' α :=
  ⟨x.events, x.outcome.mapError f⟩

theorem pure_def (a : α) : (pure a : Traced ε α) = ⟨[], .ok a⟩ := rfl

theorem bind_def (x : Traced ε α) (f : α → Traced ε β) : x >>= f = Traced.bind x f := rfl

theorem bind_of_ok {x : Traced ε α} {a : α} (h : x.outcome = .ok a) (f : α → Traced ε β) :
    x >>= f = ⟨x.events ++ (f a).events, (f a).outcome⟩ := by
  rw [bind_def, Traced.bind, h]

theorem bind_of_error {x : Traced ε α} {e : ε} (h : x.outcome = .error e)
    (f : α → Traced ε β) : x >>= f = ⟨x.events, .error e⟩ := by
  rw [bind_def, Traced.bind, h]

theorem tellAll_eq (es : List Event) : (tellAll es : Traced ε Unit) = ⟨es, .ok ()⟩ := by
  induction es with
  | nil => rfl
  | cons e es ih =>
    rw [tellAll, ih]
    rfl

theorem outcome_bind (x : Traced ε α) (f : α → Traced ε β) :
    (x >>= f).outcome = x.outcome.bind fun a => (f a).outcome := by
  cases h : x.outcome with
  | error e => rw [bind_of_error h]; rfl
  | ok a => rw [bind_of_ok h]; rfl

end Traced

end Runbook
