import Runbook.Event
import Runbook.Plan.Record
import Runbook.Text.Lines

/-!
# `Store` — where a plan is kept

A store keeps one plan or none. There are two: the tasks file of a project, and the memory of a
process, for callers who want to leave no trace. Operations are written once, for any `Store`.

The tasks file may hold anything, since people may edit it. A file that holds no plan reads as no
plan, and is told; it is there all the same, and it can be deleted.
-/

set_option autoImplicit false

namespace Runbook

open Runbook.Text

/-- A place that keeps a plan. -/
class Store (σ : Type) where
  /-- Something is kept, a plan or not. -/
  present : σ → Bool
  /-- The plan that is kept, read at a time, and what is told of reading it. -/
  load : Time.Timestamp → σ → List Event × Option Plan
  save : Plan → σ → σ
  delete : σ → σ

/-- A plan in memory. -/
structure Memory where
  plan : Option Plan
  deriving DecidableEq

instance : Store Memory where
  present m := m.plan.isSome
  load _ m := ([], m.plan)
  save plan _ := ⟨some plan⟩
  delete _ := ⟨none⟩

/-- The tasks file: where it is, and its contents if it is there. -/
structure TasksFile where
  path : String
  bytes : Option Utf8.Bytes
  deriving DecidableEq

namespace TasksFile

/-- The plan that the contents of a tasks file denote, read at a time. -/
def plan? (now : Time.Timestamp) (bytes : Utf8.Bytes) : Option Plan :=
  match Utf8.decode bytes with
  | .error _ => none
  | .ok cs => (Json.read? (unifyNewlines cs)).bind fun d => (Plan.ofDatum now d).toOption

/-- The contents of a tasks file that holds a plan. -/
def contents (plan : Plan) : Utf8.Bytes := Utf8.ofString plan.store

end TasksFile

instance : Store TasksFile where
  present f := f.bytes.isSome
  load now f :=
    match f.bytes with
    | none => ([], none)
    | some bytes =>
      match TasksFile.plan? now bytes with
      | some plan => ([], some plan)
      | none => ([.unreadable f.path], none)
  save plan f := { f with bytes := some (TasksFile.contents plan) }
  delete f := { f with bytes := none }

end Runbook
