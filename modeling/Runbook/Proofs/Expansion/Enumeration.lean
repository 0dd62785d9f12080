import Runbook.Proofs.Expansion.Route
import Runbook.Proofs.Expansion.Unfolding

/-!
# `Proofs/Expansion/Enumeration` — an expansion lists the routes through a library

`expand` carries two things along: the workflows that are open, and the source of the tasks found so
far. What it computes can be said without either. **The tasks of a workflow are the tasks of its
routes, each route once, in lexicographic order of the places** (`expand_eq_flatMap_routes`), and
what a route contributes depends on the route alone (`tasksAlong`).

The proof is an induction on the room that is left, and inside it one on the steps of a document:
`exists_routes_of_step` finds the routes that take one step, `exists_routes_of_steps` those that
take it or a later one.

One word about sources. A source is the names on the route, joined, behind the source that leads to
the root. An empty text leads nowhere, so it is left out, and this holds for the name of the root as
well: a document may be called `.md`, and its workflow has the empty name. Below it, tasks are told
as if their workflow had been the first (`not_source_eq_join_of_empty_root`).
-/

set_option autoImplicit false

namespace Runbook

open Runbook.Text Runbook.Workflow

/-! ## What a route contributes -/

/-- The source of the tasks at the end of a route through some workflows: their names, behind the
source that leads to the first of them. Empty texts in front lead nowhere and are left out. -/
def sourceAlong (lead : String) (names : List String) : String :=
  joinWith sourceSeparator
    (if lead = "" then if names.head? = some "" then names.tail else names else lead :: names)

/-- The tasks at the end of a route. -/
def tasksAlong (lib : Library) (replies : String → Except String String) (lead : String)
    (route : List Stop) : List Task :=
  match route.getLast?.bind lib.stepAt? with
  | some step => stepTasks replies step (sourceAlong lead (route.map Stop.workflow))
  | none => []

theorem sourceAlong_singleton (lead name : String) :
    sourceAlong lead [name] = sourceOf lead name := by
  by_cases hlead : lead = "" <;> by_cases hname : name = "" <;>
    simp [sourceAlong, sourceOf, joinWith, hlead, hname]

/-- The source of a route may be told from its second stop on. -/
theorem sourceAlong_cons (lead name : String) {target : String} (htarget : target ≠ "")
    (names : List String) :
    sourceAlong (sourceOf lead name) (target :: names) =
      sourceAlong lead (name :: target :: names) := by
  by_cases hlead : lead = ""
  · by_cases hname : name = "" <;> simp [sourceAlong, sourceOf, hlead, hname, htarget]
  · simp [sourceAlong, sourceOf, joinWith, hlead, String.append_assoc]

/-- What stands at the end of a route does not depend on its first stop. -/
theorem tasksAlong_cons {lib : Library} {replies : String → Except String String}
    {lead name target : String} {opened : List String} {place : Nat} {rest : List Stop}
    (htarget : target ≠ "") (h : lib.IsRoute opened target rest) :
    tasksAlong lib replies (sourceOf lead name) rest =
      tasksAlong lib replies lead (⟨name, place⟩ :: rest) := by
  cases rest with
  | nil => exact absurd h.starts (by simp)
  | cons second others =>
    have hsecond : second.workflow = target := by simpa using h.starts
    unfold tasksAlong
    rw [List.getLast?_cons_cons, List.map_cons, List.map_cons, List.map_cons, hsecond,
      sourceAlong_cons lead name htarget]

/-! ## The routes, one step at a time -/

section Recursion

variable {lib : Library} {told : String → List Event} {replies : String → Except String String}

/-- An expansion of a workflow is told by the routes from it. -/
def ToldByRoutes (lib : Library) (told : String → List Event)
    (replies : String → Except String String) (lead : String) (visited : List String)
    (name : String) : Prop :=
  ∀ tasks, (expand lib.source (.steady told replies) lead visited name).outcome = .ok tasks →
    ∃ routes, lib.ListsRoutes visited name routes ∧
      tasks = routes.flatMap (tasksAlong lib replies lead)

/-- The routes that take one step of a workflow give the tasks of that step. -/
theorem exists_routes_of_step {lead : String} {visited : List String} {name : String}
    {place : Nat} {step : Step} {tasks : List Task} (hname : name ∉ visited)
    (hstep : lib.stepAt? ⟨name, place⟩ = some step)
    (hnested : ∀ target, step.reference? = some target →
      ToldByRoutes lib told replies (sourceOf lead name) (name :: visited) target)
    (h : (lib.source.tasksOfStep (.steady told replies) (sourceOf lead name) (name :: visited)
      step).outcome = .ok tasks) :
    ∃ routes : List (List Stop),
      (∀ route, route ∈ routes ↔
        lib.IsRoute visited name route ∧ ∃ rest, route = ⟨name, place⟩ :: rest) ∧
      (routes.Pairwise fun route other => route.map Stop.place < other.map Stop.place) ∧
      tasks = routes.flatMap (tasksAlong lib replies lead) := by
  cases href : step.reference? with
  | none =>
    rw [outcome_tasksOfStep_of_none href] at h
    refine ⟨[[⟨name, place⟩]], fun route => ?_, List.pairwise_singleton _ _, ?_⟩
    · rw [List.mem_singleton]
      constructor
      · rintro rfl
        exact ⟨Library.isRoute_cons_iff.2 ⟨rfl, hname, step, hstep, Or.inl ⟨href, rfl⟩⟩, [], rfl⟩
      · rintro ⟨hroute, rest, rfl⟩
        obtain ⟨-, -, step', hstep', ⟨-, rfl⟩ | ⟨target, htarget, -⟩⟩ :=
          Library.isRoute_cons_iff.1 hroute
        · rfl
        · rw [hstep] at hstep'
          simp [← Option.some.inj hstep', href] at htarget
    · simp only [Except.ok.injEq] at h
      simp [tasksAlong, hstep, sourceAlong_singleton, h]
  | some target =>
    rw [Source.tasksOfStep_of_some _ _ href] at h
    obtain ⟨routes, hroutes, rfl⟩ := hnested target href tasks h
    refine ⟨routes.map (⟨name, place⟩ :: ·), fun route => ?_,
      Library.ordered_map_cons _ hroutes.ordered, ?_⟩
    · rw [List.mem_map]
      constructor
      · rintro ⟨rest, hrest, rfl⟩
        have hrest := (hroutes.mem_iff rest).1 hrest
        exact ⟨Library.isRoute_cons_iff.2 ⟨rfl, hname, step, hstep,
          Or.inr ⟨target, href, hrest⟩⟩, rest, rfl⟩
      · rintro ⟨hroute, rest, rfl⟩
        obtain ⟨-, -, step', hstep', hrest⟩ := Library.isRoute_cons_iff.1 hroute
        obtain rfl : step = step' := Option.some.inj (hstep.symm.trans hstep')
        rcases hrest with ⟨hnone, -⟩ | ⟨target', htarget', hrest⟩
        · simp [href] at hnone
        · obtain rfl : target = target' := Option.some.inj (href.symm.trans htarget')
          exact ⟨rest, (hroutes.mem_iff rest).2 hrest, rfl⟩
    · rw [List.flatMap_map]
      refine List.flatMap_congr fun rest hrest => ?_
      exact tasksAlong_cons (Step.ne_empty_of_reference? href) ((hroutes.mem_iff rest).1 hrest)

/-- The routes that begin at one place or a later one give the tasks of the steps from there on. -/
theorem exists_routes_of_steps {lead : String} {visited : List String} {name : String}
    (hname : name ∉ visited)
    (hnested : ∀ step ∈ lib.stepsOf name, ∀ target, step.reference? = some target →
      ToldByRoutes lib told replies (sourceOf lead name) (name :: visited) target)
    (steps : List Step) (place : Nat) (hsteps : (lib.stepsOf name).drop place = steps)
    (tasks : List Task)
    (h : (collect (lib.source.tasksOfStep (.steady told replies) (sourceOf lead name)
      (name :: visited)) steps).outcome = .ok tasks) :
    ∃ routes : List (List Stop),
      (∀ route, route ∈ routes ↔ lib.IsRoute visited name route ∧
        ∃ p rest, route = ⟨name, p⟩ :: rest ∧ place ≤ p) ∧
      (routes.Pairwise fun route other => route.map Stop.place < other.map Stop.place) ∧
      tasks = routes.flatMap (tasksAlong lib replies lead) := by
  induction steps generalizing place tasks with
  | nil =>
    refine ⟨[], fun route => ⟨fun hmem => by simp at hmem, ?_⟩, List.Pairwise.nil, ?_⟩
    · -- No step stands at such a place.
      rintro ⟨hroute, p, rest, rfl, hp⟩
      obtain ⟨-, -, step, hstep, -⟩ := Library.isRoute_cons_iff.1 hroute
      have hlen : (lib.stepsOf name).length ≤ place := List.drop_eq_nil_iff.1 hsteps
      have hnone : lib.stepAt? ⟨name, p⟩ = none := List.getElem?_eq_none (Nat.le_trans hlen hp)
      simp [hnone] at hstep
    · have : ([] : List Task) = tasks := Except.ok.inj h
      simp [← this]
  | cons step later ih =>
    rw [outcome_collect_cons] at h
    cases hfirst : (lib.source.tasksOfStep (.steady told replies) (sourceOf lead name)
        (name :: visited) step).outcome with
    | error e => simp [hfirst, Except.bind] at h
    | ok bs =>
      cases hmore : (collect (lib.source.tasksOfStep (.steady told replies) (sourceOf lead name)
          (name :: visited)) later).outcome with
      | error e => simp [hfirst, hmore, Except.bind] at h
      | ok more =>
        simp only [hfirst, hmore, Except.bind, Except.ok.injEq] at h
        have hstep : lib.stepAt? ⟨name, place⟩ = some step := by
          have := congrArg List.head? hsteps
          simpa [Library.stepAt?] using this
        have hlater : (lib.stepsOf name).drop (place + 1) = later := by
          rw [← List.tail_drop, hsteps, List.tail_cons]
        have hmem : step ∈ lib.stepsOf name := List.mem_of_getElem? hstep
        obtain ⟨front, hfront, hfrontOrdered, hfrontTasks⟩ :=
          exists_routes_of_step hname hstep (hnested step hmem) hfirst
        obtain ⟨others, hothers, hothersOrdered, hothersTasks⟩ := ih (place + 1) hlater more hmore
        refine ⟨front ++ others, fun route => ?_, ?_, ?_⟩
        · rw [List.mem_append, hfront, hothers]
          constructor
          · rintro (⟨hroute, rest, rfl⟩ | ⟨hroute, p, rest, rfl, hp⟩)
            · exact ⟨hroute, place, rest, rfl, Nat.le_refl _⟩
            · exact ⟨hroute, p, rest, rfl, by omega⟩
          · rintro ⟨hroute, p, rest, rfl, hp⟩
            rcases Nat.eq_or_lt_of_le hp with rfl | hlt
            · exact Or.inl ⟨hroute, rest, rfl⟩
            · exact Or.inr ⟨hroute, p, rest, rfl, hlt⟩
        · refine Library.ordered_append place hfrontOrdered hothersOrdered ?_ ?_
          · intro route hroute
            obtain ⟨-, rest, rfl⟩ := (hfront route).1 hroute
            exact ⟨_, rest, rfl, rfl⟩
          · intro route hroute
            obtain ⟨-, p, rest, rfl, hp⟩ := (hothers route).1 hroute
            exact ⟨_, rest, rfl, hp⟩
        · rw [← h, hfrontTasks, hothersTasks, List.flatMap_append]

/-- Every expansion is told by routes. The induction is on the room that is left, because what is
read refers only to what has less of it. -/
theorem toldByRoutes (lib : Library) (told : String → List Event)
    (replies : String → Except String String) (lead : String) (visited : List String)
    (name : String) : ToldByRoutes lib told replies lead visited name := by
  induction hroom : lib.room visited name using Nat.strongRecOn
    generalizing lead visited name with
  | ind n ih =>
    intro tasks h
    by_cases hname : name ∈ visited
    · rw [outcome_expand_of_mem hname] at h
      refine ⟨[], ⟨fun route => ⟨fun hmem => by simp at hmem, fun hroute => ?_⟩,
        List.Pairwise.nil⟩, by simpa using h⟩
      cases route with
      | nil => exact absurd hroute.starts (by simp)
      | cons stop rest => exact absurd hname (Library.isRoute_cons_iff.1 hroute).2.1
    · rw [outcome_expand_of_notMem hname] at h
      cases hread : (lib.read name).outcome with
      | error e => simp [hread, Except.bind] at h
      | ok steps =>
        simp only [hread, Except.bind] at h
        have hsteps := Library.stepsOf_of_ok hread
        have hnested : ∀ step ∈ lib.stepsOf name, ∀ target, step.reference? = some target →
            ToldByRoutes lib told replies (sourceOf lead name) (name :: visited) target := by
          intro step hstep target htarget
          rw [hsteps] at hstep
          exact ih _ (hroom ▸ lib.room_lt hname (lib.mem_references hread hstep htarget)) _ _ _ rfl
        obtain ⟨routes, hmem, hordered, htasks⟩ :=
          exists_routes_of_steps hname hnested steps 0 hsteps tasks h
        refine ⟨routes, ⟨fun route => ?_, hordered⟩, htasks⟩
        rw [hmem]
        refine ⟨fun hroute => hroute.1, fun hroute => ⟨hroute, ?_⟩⟩
        -- Every route begins in the workflow it is a route from.
        cases route with
        | nil => exact absurd hroute.starts (by simp)
        | cons stop rest =>
          obtain ⟨rfl, -⟩ := Library.isRoute_cons_iff.1 hroute
          exact ⟨stop.place, rest, rfl, Nat.zero_le _⟩

end Recursion

/-! ## The tasks of a workflow -/

/-- What a route contributes: one task for a plain step, one for each item of a loop, in their
order, and one for a loop without items; all of them from that step, along that route. -/
structure Contributes (lib : Library) (replies : String → Except String String) (lead : String)
    (route : List Stop) (step : Step) : Prop where
  plain : step.action = .plain →
    tasksAlong lib replies lead route =
      [plainTask step (sourceAlong lead (route.map Stop.workflow))]
  items : ∀ command var items, step.action = .loop command var →
    Loop.settled replies command = .ok items →
    tasksAlong lib replies lead route =
      items.map (Loop.taskFor step (sourceAlong lead (route.map Stop.workflow)))
  fallback : ∀ command var obstacle, step.action = .loop command var →
    Loop.settled replies command = .error obstacle →
    tasksAlong lib replies lead route =
      [Loop.fallback step (sourceAlong lead (route.map Stop.workflow)) obstacle]
  provenance : ∀ task ∈ tasksAlong lib replies lead route,
    task.step = step.id ∧ task.source = sourceAlong lead (route.map Stop.workflow)

theorem provenance_of_mem_stepTasks {replies : String → Except String String} {step : Step}
    {source : String} {task : Task} (h : task ∈ stepTasks replies step source) :
    task.step = step.id ∧ task.source = source := by
  unfold stepTasks at h
  split at h
  · unfold Loop.tasksOf at h
    split at h
    · rw [List.mem_singleton.1 h]
      exact ⟨rfl, rfl⟩
    · obtain ⟨item, -, rfl⟩ := List.mem_map.1 h
      exact ⟨rfl, rfl⟩
  · rw [List.mem_singleton.1 h]
    exact ⟨rfl, rfl⟩

/-- The step at the end of a route is one whose tasks can be told. -/
theorem Library.IsRoute.exists_last {lib : Library} {visited : List String} {root : String}
    {route : List Stop} (h : lib.IsRoute visited root route) :
    ∃ stop step, route.getLast? = some stop ∧ lib.stepAt? stop = some step ∧
      step.reference? = none := by
  cases hlast : route.getLast? with
  | none =>
    rw [List.getLast?_eq_none_iff.1 hlast] at h
    exact absurd h.starts (by simp)
  | some stop =>
    obtain ⟨step, hstep⟩ := Option.isSome_iff_exists.1 (h.stands stop (List.mem_of_getLast? hlast))
    exact ⟨stop, step, rfl, hstep, Library.next?_of_stepAt? hstep ▸ h.ends stop hlast⟩

theorem contributes_of_isRoute {lib : Library} {visited : List String} {root : String}
    {route : List Stop} (replies : String → Except String String) (lead : String)
    (h : lib.IsRoute visited root route) :
    ∃ stop step, route.getLast? = some stop ∧ lib.stepAt? stop = some step ∧
      step.reference? = none ∧ Contributes lib replies lead route step := by
  obtain ⟨stop, step, hlast, hstep, hnone⟩ := h.exists_last
  have htasks : tasksAlong lib replies lead route =
      stepTasks replies step (sourceAlong lead (route.map Stop.workflow)) := by
    rw [tasksAlong, hlast, Option.bind_some, hstep]
  refine ⟨stop, step, hlast, hstep, hnone, ⟨fun haction => ?_, ?_, ?_, fun task htask => ?_⟩⟩
  · simp only [htasks, stepTasks, haction]
  · intro command var items haction hitems
    simp only [htasks, stepTasks, haction, hitems, Loop.tasksOf]
  · intro command var obstacle haction hobstacle
    simp only [htasks, stepTasks, haction, hobstacle, Loop.tasksOf]
  · exact provenance_of_mem_stepTasks (htasks ▸ htask)

/-- **The tasks of a workflow are the tasks of its routes.** The routes from the root that keep
clear of the open workflows, each once and in lexicographic order of their places, give the tasks of
an expansion that succeeds; and what a route contributes is told by its last step and the names of
its workflows. -/
theorem expand_eq_flatMap_routes (lib : Library) (told : String → List Event)
    (replies : String → Except String String) (lead : String) (visited : List String)
    (root : String) (tasks : List Task)
    (h : (expand lib.source (.steady told replies) lead visited root).outcome = .ok tasks) :
    ∃ routes : List (List Stop),
      (∀ route, route ∈ routes ↔ lib.IsRoute visited root route) ∧
      (routes.Pairwise fun route later => route.map Stop.place < later.map Stop.place) ∧
      tasks = routes.flatMap (tasksAlong lib replies lead) ∧
      ∀ route ∈ routes, ∃ stop step, route.getLast? = some stop ∧ lib.stepAt? stop = some step ∧
        step.reference? = none ∧ Contributes lib replies lead route step := by
  obtain ⟨routes, hroutes, htasks⟩ := toldByRoutes lib told replies lead visited root tasks h
  refine ⟨routes, hroutes.mem_iff, hroutes.ordered, htasks, fun route hroute => ?_⟩
  exact contributes_of_isRoute replies lead ((hroutes.mem_iff route).1 hroute)

/-- Two workflows that refer to each other; one of them is referred to twice, and it loops. -/
def crossReferring : Library :=
  .ofList
    [("release",
        [{ id := "check", name := "Check", kind := .nested, target := some "testing",
           workflow := "release", line := 1 },
          { id := "ship", name := "Ship", workflow := "release", line := 2 },
          { id := "again", name := "Again", kind := .nested, target := some "testing",
            workflow := "release", line := 3 }]),
      ("testing",
        [{ id := "run", name := "Run", kind := .loop, body := "Run $T", command := some "ls",
           var := some "T", workflow := "testing", line := 1 },
          { id := "back", name := "Back", kind := .nested, target := some "release",
            workflow := "testing", line := 2 }])]

/-- What the first of them comes to when the loop's command prints two items. -/
def crossReferringTasks : List Task :=
  [{ name := "Run: a", description := "Run a", source := "all > release > testing",
     step := "run" },
    { name := "Run: b", description := "Run b", source := "all > release > testing",
      step := "run" },
    { name := "Ship", description := "Ship", source := "all > release", step := "ship" },
    { name := "Run: a", description := "Run a", source := "all > release > testing",
      step := "run" },
    { name := "Run: b", description := "Run b", source := "all > release > testing",
      step := "run" }]

/-- Two routes lead through the workflow that is referred to twice, and none leads back. -/
theorem expand_crossReferring_eq_flatMap_routes :
    (expand crossReferring.source (.steady (fun _ => []) fun _ => .ok "a\nb\n") "all" ["docs"]
        "release").outcome = .ok crossReferringTasks ∧
      ∃ routes : List (List Stop),
        (∀ route, route ∈ routes ↔ crossReferring.IsRoute ["docs"] "release" route) ∧
        (routes.Pairwise fun route later => route.map Stop.place < later.map Stop.place) ∧
        crossReferringTasks =
          routes.flatMap (tasksAlong crossReferring (fun _ => .ok "a\nb\n") "all") ∧
        ∀ route ∈ routes, ∃ stop step, route.getLast? = some stop ∧
          crossReferring.stepAt? stop = some step ∧ step.reference? = none ∧
          Contributes crossReferring (fun _ => .ok "a\nb\n") "all" route step := by
  have h : (expand crossReferring.source (.steady (fun _ => []) fun _ => .ok "a\nb\n") "all"
      ["docs"] "release").outcome = .ok crossReferringTasks := by
    decide +kernel
  exact ⟨h, expand_eq_flatMap_routes crossReferring (fun _ => []) (fun _ => .ok "a\nb\n") "all"
    ["docs"] "release" crossReferringTasks h⟩

/-- A workflow with the empty name that refers to another one. -/
def nameless : Library :=
  .ofList
    [("", [{ id := "go", name := "Go", kind := .nested, target := some "a", workflow := "",
             line := 1 }]),
      ("a", [{ id := "do", name := "Do", workflow := "a", line := 1 }])]

/-- **A root without a name is not joined.** The only task of this expansion comes from a route
through the workflows with the names `""` and `"a"`, and its source is `"a"`. -/
theorem not_source_eq_join_of_empty_root :
    ∃ (route : List Stop) (task : Task),
      (expand nameless.source (.steady (fun _ => []) fun _ => .ok "") "" [] "").outcome =
        .ok [task] ∧
      nameless.IsRoute [] "" route ∧
      tasksAlong nameless (fun _ => .ok "") "" route = [task] ∧
      task.source ≠ joinWith sourceSeparator (route.map Stop.workflow) := by
  refine ⟨[⟨"", 0⟩, ⟨"a", 0⟩],
    { name := "Do", description := "Do", source := "a", step := "do" }, by decide +kernel, ?_,
    by decide +kernel, by decide⟩
  exact ⟨rfl, by decide, by decide, by decide, by decide, by decide⟩

end Runbook
