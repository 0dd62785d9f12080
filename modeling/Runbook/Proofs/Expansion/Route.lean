import Mathlib.Data.List.Chain
import Runbook.Expansion.Basic

/-!
# `Proofs/Expansion/Route` — the ways through a library

An expansion follows references from document to document. Where it can come to is a matter of the
documents alone: a *route* is a sequence of stops, each a place among the steps of a workflow, in
which every step but the last refers to the workflow of the next stop, the last refers to none, and
no workflow occurs twice. `Library.IsRoute` says this of a sequence as a whole, without a recursion
over documents.

The one lemma that a recursion needs is `isRoute_cons_iff`, which takes the first stop off a route.
It is also the only one that knows why repetition is ruled out: a workflow that is open is one that
the rest of the route has to keep clear of.
-/

set_option autoImplicit false

namespace Runbook

open Runbook.Workflow

/-- A workflow on the way to a task, and the place of the step that is taken there. -/
structure Stop where
  workflow : String
  place : Nat
  deriving DecidableEq, Repr

namespace Library

variable (lib : Library)

/-- The steps of a workflow; one that cannot be read has none. -/
def stepsOf (name : String) : List Step :=
  match (lib.read name).outcome with
  | .ok steps => steps
  | .error _ => []

/-- The step taken at a stop. -/
def stepAt? (stop : Stop) : Option Step := (lib.stepsOf stop.workflow)[stop.place]?

/-- The workflow that the step taken at a stop refers to. -/
def next? (stop : Stop) : Option String := (lib.stepAt? stop).bind Step.reference?

/-- The routes from a workflow to its tasks that keep clear of the workflows that are open. -/
structure IsRoute (visited : List String) (root : String) (route : List Stop) : Prop where
  starts : route.head?.map Stop.workflow = some root
  stands : ∀ stop ∈ route, (lib.stepAt? stop).isSome
  leads : route.IsChain fun stop next => lib.next? stop = some next.workflow
  ends : ∀ stop ∈ route.getLast?, lib.next? stop = none
  simple : (route.map Stop.workflow).Nodup
  fresh : ∀ stop ∈ route, stop.workflow ∉ visited

/-- All routes, each once, in lexicographic order of their places. -/
structure ListsRoutes (visited : List String) (root : String) (routes : List (List Stop)) :
    Prop where
  mem_iff : ∀ route, route ∈ routes ↔ lib.IsRoute visited root route
  ordered : routes.Pairwise fun route later => route.map Stop.place < later.map Stop.place

variable {lib}

/-- A workflow that was read has the steps that were read. -/
theorem stepsOf_of_ok {name : String} {steps : List Step}
    (h : (lib.read name).outcome = .ok steps) : lib.stepsOf name = steps := by
  rw [stepsOf, h]

theorem next?_of_stepAt? {stop : Stop} {step : Step} (h : lib.stepAt? stop = some step) :
    lib.next? stop = step.reference? := by
  rw [next?, h, Option.bind_some]

/-- **The first stop of a route.** The workflow it stands in is open for what follows. -/
theorem isRoute_cons_iff {visited : List String} {root : String} {stop : Stop}
    {rest : List Stop} :
    lib.IsRoute visited root (stop :: rest) ↔
      stop.workflow = root ∧ root ∉ visited ∧ ∃ step, lib.stepAt? stop = some step ∧
        ((step.reference? = none ∧ rest = []) ∨
          ∃ target, step.reference? = some target ∧
            lib.IsRoute (root :: visited) target rest) := by
  constructor
  · intro h
    have hroot : stop.workflow = root := by simpa using h.starts
    obtain ⟨step, hstep⟩ := Option.isSome_iff_exists.1 (h.stands stop List.mem_cons_self)
    have hnext := next?_of_stepAt? hstep
    refine ⟨hroot, hroot ▸ h.fresh stop List.mem_cons_self, step, hstep, ?_⟩
    cases rest with
    | nil => exact Or.inl ⟨hnext ▸ h.ends stop (by simp), rfl⟩
    | cons second others =>
      obtain ⟨hlead, hleads⟩ := List.isChain_cons_cons.1 h.leads
      have hsimple := List.nodup_cons.1 h.simple
      refine Or.inr ⟨second.workflow, hnext ▸ hlead, ?_⟩
      refine ⟨rfl, fun s hs => h.stands s (List.mem_cons_of_mem _ hs), hleads, ?_, hsimple.2, ?_⟩
      · intro s hs
        exact h.ends s (by simpa using hs)
      · intro s hs hvisited
        rcases List.mem_cons.1 hvisited with heq | hvisited
        · exact hsimple.1 (hroot ▸ heq ▸ List.mem_map_of_mem hs)
        · exact h.fresh s (List.mem_cons_of_mem _ hs) hvisited
  · rintro ⟨rfl, hfresh, step, hstep, ⟨hnone, rfl⟩ | ⟨target, htarget, h⟩⟩
    · have hnext := next?_of_stepAt? hstep
      exact ⟨rfl, by simp [hstep], by simp, by simp [hnext, hnone], by simp, by simpa using hfresh⟩
    · have hnext := next?_of_stepAt? hstep
      cases rest with
      | nil => exact absurd h.starts (by simp)
      | cons second others =>
        have hsecond : second.workflow = target := by simpa using h.starts
        refine ⟨rfl, ?_, ?_, ?_, ?_, ?_⟩
        · intro s hs
          rcases List.mem_cons.1 hs with rfl | hs
          · simp [hstep]
          · exact h.stands s hs
        · exact List.isChain_cons_cons.2 ⟨by rw [hnext, htarget, hsecond], h.leads⟩
        · intro s hs
          exact h.ends s (by simpa using hs)
        · refine List.nodup_cons.2 ⟨fun hmem => ?_, h.simple⟩
          obtain ⟨s, hs, heq⟩ := List.mem_map.1 hmem
          exact h.fresh s hs (heq ▸ List.mem_cons_self)
        · intro s hs hvisited
          rcases List.mem_cons.1 hs with rfl | hs
          · exact hfresh hvisited
          · exact h.fresh s hs (List.mem_cons_of_mem _ hvisited)

/-- Routes that take an earlier place first stand before those that take a later one. -/
theorem ordered_append {front later : List (List Stop)} (place : Nat)
    (hfront : front.Pairwise fun route other => route.map Stop.place < other.map Stop.place)
    (hlater : later.Pairwise fun route other => route.map Stop.place < other.map Stop.place)
    (hplace : ∀ route ∈ front, ∃ stop rest, route = stop :: rest ∧ stop.place = place)
    (hbeyond : ∀ route ∈ later, ∃ stop rest, route = stop :: rest ∧ place < stop.place) :
    (front ++ later).Pairwise fun route other => route.map Stop.place < other.map Stop.place := by
  refine List.pairwise_append.2 ⟨hfront, hlater, fun route hroute other hother => ?_⟩
  obtain ⟨stop, rest, rfl, rfl⟩ := hplace route hroute
  obtain ⟨stop', rest', rfl, hlt⟩ := hbeyond other hother
  exact List.cons_lt_cons_iff.2 (Or.inl hlt)

/-- Behind a common first stop, routes keep their order. -/
theorem ordered_map_cons (stop : Stop) {routes : List (List Stop)}
    (h : routes.Pairwise fun route other => route.map Stop.place < other.map Stop.place) :
    (routes.map (stop :: ·)).Pairwise fun route other =>
      route.map Stop.place < other.map Stop.place := by
  refine List.pairwise_map.2 (h.imp fun hlt => ?_)
  exact List.cons_lt_cons_iff.2 (Or.inr ⟨rfl, hlt⟩)

end Library

end Runbook
