import Mathlib.Data.List.Sort
import Runbook.Proofs.Expansion.Enumeration
import Runbook.Proofs.Expansion.Reach

/-!
# `Proofs/Expansion/Visited` — what an expansion is told of where it stands

An expansion is told two things: the source that leads to its root, and the workflows that are open
already. Neither changes what there is to find. The expansion with nothing in front and nothing open
has all the tasks, and every other one of the same root has those of them that lie on routes clear of
the open workflows (`isRoute_iff_clear`), in the same order and under the longer source
(`expand_filter_clear`). In particular it succeeds: more open workflows mean fewer documents to read
(`exists_ok_of_subset`).

Open workflows are passed over at every depth, and more of them become open on the way; but routes
are in lexicographic order whatever is open, so two lists of routes with the same members are equal.
-/

set_option autoImplicit false

namespace Runbook

open Runbook.Text Runbook.Workflow

/-! ## More open workflows -/

/-- What is collected succeeds if every part does, and not otherwise. -/
theorem exists_collect_ok_iff {ε α β : Type} {f : α → Traced ε (List β)} {as : List α} :
    (∃ bs, (collect f as).outcome = .ok bs) ↔ ∀ a ∈ as, ∃ bs, (f a).outcome = .ok bs := by
  induction as with
  | nil => exact ⟨fun _ => by simp, fun _ => ⟨[], rfl⟩⟩
  | cons a as ih =>
    rw [outcome_collect_cons, List.forall_mem_cons, ← ih]
    constructor
    · rintro ⟨bs, h⟩
      cases hfirst : (f a).outcome with
      | error e => simp [hfirst, Except.bind] at h
      | ok first =>
        cases hmore : (collect f as).outcome with
        | error e => simp [hfirst, hmore, Except.bind] at h
        | ok more => exact ⟨⟨first, rfl⟩, more, rfl⟩
    · rintro ⟨⟨first, hfirst⟩, more, hmore⟩
      exact ⟨first ++ more, by rw [hfirst, hmore]; rfl⟩

section Steady

variable {lib : Library} {told : String → List Event} {replies : String → Except String String}

/-- An expansion that succeeds still does when more workflows are open. -/
theorem exists_ok_of_subset {visited more : List String} {lead : String} (lead' : String)
    {name : String} (hsub : visited ⊆ more)
    (h : ∃ tasks, (expand lib.source (.steady told replies) lead visited name).outcome =
      .ok tasks) :
    ∃ tasks, (expand lib.source (.steady told replies) lead' more name).outcome = .ok tasks := by
  induction visited, name using lib.branch_induction generalizing more lead lead' with
  | pruned visited name hname => exact ⟨[], outcome_expand_of_mem (hsub hname)⟩
  | opened visited name hname ih =>
    by_cases hopen : name ∈ more
    · exact ⟨[], outcome_expand_of_mem hopen⟩
    rw [outcome_expand_of_notMem hname] at h
    rw [outcome_expand_of_notMem hopen]
    cases hread : (lib.read name).outcome with
    | error e =>
      obtain ⟨tasks, htasks⟩ := h
      simp [hread, Except.bind] at htasks
    | ok steps =>
      simp only [hread, Except.bind] at h ⊢
      rw [exists_collect_ok_iff] at h ⊢
      intro step hstep
      cases href : step.reference? with
      | none => exact ⟨_, outcome_tasksOfStep_of_none href _ _⟩
      | some target =>
        have hrefers : lib.Refers name target :=
          ⟨step, Library.stepsOf_of_ok hread ▸ hstep, href⟩
        have hstep := h step hstep
        rw [Source.tasksOfStep_of_some _ _ href] at hstep ⊢
        exact ih target hrefers _ (List.cons_subset_cons name hsub) hstep

end Steady

/-! ## Routes that keep clear -/

/-- A route goes through none of some workflows. -/
def clearOf (visited : List String) (route : List Stop) : Bool :=
  route.all fun stop => !visited.contains stop.workflow

theorem clearOf_iff {visited : List String} {route : List Stop} :
    clearOf visited route = true ↔ ∀ stop ∈ route, stop.workflow ∉ visited := by
  simp [clearOf]

namespace Library

variable {lib : Library}

/-- The routes that keep clear of open workflows are among those where nothing is open. -/
theorem isRoute_iff_clear {visited : List String} {root : String} {route : List Stop} :
    lib.IsRoute visited root route ↔ lib.IsRoute [] root route ∧ clearOf visited route = true := by
  rw [clearOf_iff]
  constructor
  · exact fun h => ⟨{ h with fresh := by simp }, h.fresh⟩
  · rintro ⟨h, hclear⟩
    exact { h with fresh := hclear }

/-- There is one list of routes for a root and what is open. -/
theorem ListsRoutes.eq {visited : List String} {root : String} {routes others : List (List Stop)}
    (h : lib.ListsRoutes visited root routes) (h' : lib.ListsRoutes visited root others) :
    routes = others := by
  let before (route other : List Stop) : Prop := route.map Stop.place < other.map Stop.place
  have : Std.Irrefl before := ⟨fun route => List.lt_irrefl (route.map Stop.place)⟩
  have : Std.Antisymm before := ⟨fun route other hlt hgt => absurd hgt (List.lt_asymm hlt)⟩
  refine List.Pairwise.eq_of_mem_iff (r := before) h.ordered h'.ordered fun route => ?_
  rw [h.mem_iff, h'.mem_iff]

/-- Clear routes are listed in the order of all routes. -/
theorem ListsRoutes.filter_clear {root : String} {routes : List (List Stop)}
    (h : lib.ListsRoutes [] root routes) (visited : List String) :
    lib.ListsRoutes visited root (routes.filter (clearOf visited)) where
  mem_iff route := by
    rw [List.mem_filter, h.mem_iff]
    exact isRoute_iff_clear.symm
  ordered := h.ordered.filter _

end Library

/-! ## Sources that lead further -/

/-- A task as it is seen from further outside. -/
def Task.within (lead : String) (task : Task) : Task :=
  { task with source := sourceOf lead task.source }

/-- The tasks of a step differ by their source only. -/
theorem map_within_stepTasks (replies : String → Except String String) (step : Step)
    (source lead : String) :
    (stepTasks replies step source).map (Task.within lead) =
      stepTasks replies step (sourceOf lead source) := by
  unfold stepTasks
  cases step.action with
  | plain => rfl
  | nested target => rfl
  | loop command var =>
    dsimp only
    cases Loop.settled replies command with
    | error obstacle => rfl
    | ok items =>
      unfold Loop.tasksOf
      rw [List.map_map]
      rfl

theorem sourceAlong_eq_sourceOf {root : String} (hroot : root ≠ "") (lead : String)
    (names : List String) :
    sourceAlong lead (root :: names) = sourceOf lead (sourceAlong "" (root :: names)) := by
  -- A nameless root would drop out of the source on the right, and stay in it on the left.
  by_cases hlead : lead = ""
  · simp [sourceOf, hlead]
  · simp [sourceAlong, sourceOf, joinWith, hlead, hroot, String.append_assoc]

/-- What a route contributes, seen from further outside. -/
theorem tasksAlong_eq_map_within {lib : Library} {visited : List String} {root : String}
    {route : List Stop} (replies : String → Except String String) (lead : String)
    (hroot : root ≠ "") (h : lib.IsRoute visited root route) :
    tasksAlong lib replies lead route =
      (tasksAlong lib replies "" route).map (Task.within lead) := by
  cases route with
  | nil => exact absurd h.starts (by simp)
  | cons stop rest =>
    obtain ⟨rfl, -⟩ := Library.isRoute_cons_iff.1 h
    unfold tasksAlong
    cases (stop :: rest).getLast?.bind lib.stepAt? with
    | none => rfl
    | some step =>
      dsimp only
      rw [map_within_stepTasks, List.map_cons, ← sourceAlong_eq_sourceOf hroot]

/-! ## The tasks that are left -/

/-- **What is open takes away the routes through it, and nothing else changes.** Where an expansion
with nothing in front and nothing open succeeds, so does every expansion of the same root. Its tasks
are those of the routes that keep clear of what is open, in the same order; the source in front of
them is all they differ by. -/
theorem expand_filter_clear (lib : Library) (told : String → List Event)
    (replies : String → Except String String) {root : String} (hroot : root ≠ "")
    {tasks : List Task}
    (h : (expand lib.source (.steady told replies) "" [] root).outcome = .ok tasks)
    (lead : String) (visited : List String) :
    ∃ routes : List (List Stop),
      (∀ route, route ∈ routes ↔ lib.IsRoute [] root route) ∧
      (routes.Pairwise fun route later => route.map Stop.place < later.map Stop.place) ∧
      tasks = routes.flatMap (tasksAlong lib replies "") ∧
      (expand lib.source (.steady told replies) lead visited root).outcome =
        .ok (((routes.filter (clearOf visited)).flatMap (tasksAlong lib replies "")).map
          (Task.within lead)) := by
  obtain ⟨routes, hroutes, htasks⟩ := toldByRoutes lib told replies "" [] root tasks h
  obtain ⟨left, hleft⟩ := exists_ok_of_subset lead (List.nil_subset visited) ⟨tasks, h⟩
  obtain ⟨clear, hclear, hleftTasks⟩ := toldByRoutes lib told replies lead visited root left hleft
  refine ⟨routes, hroutes.mem_iff, hroutes.ordered, htasks, ?_⟩
  rw [hleft, hleftTasks, hclear.eq (hroutes.filter_clear visited), List.map_flatMap]
  refine congrArg Except.ok (List.flatMap_congr fun route hroute => ?_)
  have hroute := (hroutes.mem_iff route).1 (List.mem_filter.1 hroute).1
  exact tasksAlong_eq_map_within replies lead hroot hroute

/-- Both ways from the first of two workflows into the second are closed if the second is open. -/
theorem expand_crossReferring_filter_clear :
    "release" ≠ "" ∧
      ∃ (tasks : List Task) (routes : List (List Stop)),
        (expand crossReferring.source (.steady (fun _ => []) fun _ => .ok "a\nb\n") "" []
          "release").outcome = .ok tasks ∧ tasks.length = 5 ∧
        tasks = routes.flatMap (tasksAlong crossReferring (fun _ => .ok "a\nb\n") "") ∧
        (expand crossReferring.source (.steady (fun _ => []) fun _ => .ok "a\nb\n") "all"
          ["testing"] "release").outcome =
          .ok (((routes.filter (clearOf ["testing"])).flatMap
            (tasksAlong crossReferring (fun _ => .ok "a\nb\n") "")).map (Task.within "all")) ∧
        (expand crossReferring.source (.steady (fun _ => []) fun _ => .ok "a\nb\n") "all"
          ["testing"] "release").outcome =
          .ok [{ name := "Ship", description := "Ship", source := "all > release",
                 step := "ship" }] := by
  have hroot : "release" ≠ "" := by decide
  have hcount : (expand crossReferring.source (.steady (fun _ => []) fun _ => .ok "a\nb\n") "" []
      "release").outcome.map List.length = .ok 5 := by
    decide +kernel
  cases h : (expand crossReferring.source (.steady (fun _ => []) fun _ => .ok "a\nb\n") "" []
      "release").outcome with
  | error e =>
    rw [h] at hcount
    cases hcount
  | ok tasks =>
    rw [h] at hcount
    obtain ⟨routes, -, -, htasks, hleft⟩ := expand_filter_clear crossReferring (fun _ => [])
      (fun _ => .ok "a\nb\n") hroot h "all" ["testing"]
    exact ⟨hroot, tasks, routes, rfl, Except.ok.inj hcount, htasks, hleft, by decide +kernel⟩

end Runbook
