import Mathlib.Data.Set.Card
import Runbook.Proofs.Session.Agreement
import Runbook.Proofs.Session.Circular

/-!
# `Proofs/Session/Depth` — how deep an expansion goes

Workflows are expanded inside each other, and each time one more of them is open. References lead
only to names that some document refers to, and behind a name that is open nothing is expanded. So
every reference that is followed leaves one name less to follow (`Library.depth_of_refers`), and no
more expansions lie inside each other than there are such names, and two: the outermost one, whose
name nothing need refer to, and an innermost one that is passed over or finds no document.

Hence an expansion needs no more than that many levels. An expansion that is given so many and does
whatever it likes when they are used up (`expandWithin`) is the plain one, and so is one that stops
reading when so many workflows are open (`Source.bounded`): neither is ever used up
(`expand_ends`).
-/

set_option autoImplicit false

namespace Runbook

open Runbook.Workflow

variable {σ α β γ : Type}

/-! ## Names that are left to follow -/

/-- An expansion inside other ones: the workflow that is expanded, and those that are open. -/
structure Branch where
  opened : List String
  name : String

namespace Library

variable (lib : Library)

/-- The names that some document refers to. -/
def targets : Set String := {target | ∃ name, lib.Refers name target}

/-- Those among them that are not open. -/
def untried (opened : List String) : Set String := {target ∈ lib.targets | target ∉ opened}

open Classical in
/-- How many expansions can lie inside each other, from the expansion of a workflow on. -/
noncomputable def depth (opened : List String) (name : String) : Nat :=
  (lib.untried opened).ncard + if name ∈ lib.targets then 1 else 2

/-- An expansion lies directly inside another one. -/
def Nests (outer inner : Branch) : Prop :=
  outer.name ∉ outer.opened ∧ lib.Refers outer.name inner.name ∧
    inner.opened = outer.name :: outer.opened

variable {lib} {opened : List String} {name target : String}

theorem finite_targets : lib.targets.Finite :=
  (List.finite_toSet lib.references).subset fun _ ⟨_, h⟩ => h.mem_references

/-- A library lists at least the names that some document refers to. -/
theorem ncard_targets_le : lib.targets.ncard ≤ lib.references.length := by
  have hsubset : lib.targets ⊆ (lib.references.toFinset : Set String) := by
    rintro target ⟨name, hrefers⟩
    simpa using hrefers.mem_references
  calc lib.targets.ncard
      ≤ (lib.references.toFinset : Set String).ncard :=
        Set.ncard_le_ncard hsubset (Finset.finite_toSet _)
    _ = lib.references.toFinset.card := Set.ncard_coe_finset _
    _ ≤ lib.references.length := List.toFinset_card_le _

theorem finite_untried : (lib.untried opened).Finite := finite_targets.subset (Set.sep_subset _ _)

theorem untried_cons : lib.untried (name :: opened) = lib.untried opened \ {name} := by
  ext target
  simp only [untried, List.mem_cons, not_or, Set.mem_ofPred_eq, Set.mem_sdiff,
    Set.mem_singleton_iff]
  tauto

theorem depth_le (opened : List String) (name : String) :
    lib.depth opened name ≤ lib.targets.ncard + 2 := by
  have hle : (lib.untried opened).ncard ≤ lib.targets.ncard :=
    Set.ncard_le_ncard (Set.sep_subset _ _) finite_targets
  unfold depth
  split <;> omega

theorem depth_pos : 0 < lib.depth opened name := by
  unfold depth
  split <;> omega

/-- **A reference that is followed leaves one name less to follow.** -/
theorem depth_of_refers (hname : name ∉ opened) (h : lib.Refers name target) :
    lib.depth (name :: opened) target + 1 = lib.depth opened name := by
  have htarget : target ∈ lib.targets := ⟨name, h⟩
  unfold depth
  rw [if_pos htarget, untried_cons]
  split
  · next hmem =>
    have huntried : name ∈ lib.untried opened := ⟨hmem, hname⟩
    rw [Set.ncard_sdiff_singleton_add_one huntried finite_untried]
  · next hmem =>
    rw [Set.sdiff_singleton_eq_self fun huntried => hmem huntried.1]

/-- No more expansions lie inside each other than its depth says. -/
theorem length_le_depth {outer : Branch} {inner : List Branch}
    (h : (outer :: inner).IsChain lib.Nests) :
    (outer :: inner).length ≤ lib.depth outer.opened outer.name := by
  induction inner generalizing outer with
  | nil => exact depth_pos
  | cons next inner ih =>
    obtain ⟨⟨hname, hrefers, hopened⟩, hrest⟩ := List.isChain_cons_cons.1 h
    have hnext := ih hrest
    have hdepth := depth_of_refers hname hrefers
    rw [hopened] at hnext
    rw [List.length_cons]
    omega

/-- **Induction on the levels that are left**, of which there are enough. -/
theorem level_induction {motive : Nat → List String → String → Prop}
    (pruned : ∀ level opened name, name ∈ opened → motive (level + 1) opened name)
    (entered : ∀ level opened name, name ∉ opened →
      (∀ target, lib.Refers name target → motive level (name :: opened) target) →
      motive (level + 1) opened name)
    (level : Nat) (opened : List String) (name : String) (h : lib.depth opened name ≤ level) :
    motive level opened name := by
  induction level generalizing opened name with
  | zero => exact absurd h (Nat.not_le_of_gt depth_pos)
  | succ level ih =>
    by_cases hname : name ∈ opened
    · exact pruned level opened name hname
    · refine entered level opened name hname fun target htarget => ih _ _ ?_
      have := depth_of_refers hname htarget
      omega

end Library

/-! ## Levels -/

/-- An expansion with a number of levels. When they are used up, anything may happen. -/
def expandWithin {m : Type → Type} [Monad m] [Telling m] (read : String → m (List Step))
    (run : Runner m) (usedUp : m (List Task)) :
    Nat → String → List String → String → m (List Task)
  | 0, _, _, _ => usedUp
  | level + 1, lead, visited, name =>
    if name ∈ visited then do
      Telling.tell (.circular (sourceOf lead name) name)
      pure []
    else do
      let steps ← read name
      collect
        (fun step =>
          match step.action with
          | .plain => pure [plainTask step (sourceOf lead name)]
          | .loop .. => Loop.tasks run step (sourceOf lead name)
          | .nested target =>
            expandWithin read run usedUp level (sourceOf lead name) (name :: visited) target)
        steps

section Levels

variable {lib : Library} {run : Runner (Work σ)}

/-- An expansion with enough levels is the plain one. -/
theorem expandWithin_eq_expand (usedUp : Work σ (List Task)) (level : Nat) (lead : String)
    (visited : List String) (name : String) (h : lib.depth visited name ≤ level) :
    expandWithin (lib.readIn σ) run usedUp level lead visited name =
      expand (lib.sourceIn σ) run lead visited name := by
  refine Library.level_induction (motive := fun level visited name => ∀ lead,
    expandWithin (lib.readIn σ) run usedUp level lead visited name =
      expand (lib.sourceIn σ) run lead visited name) ?_ ?_ level visited name h lead
  · intro level visited name hname lead
    rw [expand_of_mem _ _ hname, expandWithin, if_pos hname]
  · intro level visited name hname ih lead
    rw [expand_sourceIn_of_notMem _ hname, expandWithin, if_neg hname]
    refine readIn_bind_collect_congr fun step hrefers => ?_
    unfold Source.tasksOfStep
    cases haction : step.action with
    | plain => rfl
    | loop command var => rfl
    | nested target =>
      exact ih target (hrefers target ((step.reference?_eq_some_iff target).2 haction)) _

end Levels

/-! ## Reading that stops somewhere -/

section Bounded

variable {lib : Library} {run : Runner (Work σ)} {I : Session σ → Prop}
  {read : String → Work σ (List Step)} {limit : Nat}

/-- An expansion that stops reading when enough workflows are open is the plain one, on sessions in
which the documents are those of a library. Commands have to leave it so. -/
theorem agreeOn_expand_bounded (hread : ∀ name, Work.AgreeOn I (read name) (lib.readIn σ name))
    (hrun : ∀ command, Work.AgreeOn I (run command) (run command)) (lead : String)
    (visited : List String) (name : String)
    (h : visited.length + lib.depth visited name ≤ limit) :
    Work.AgreeOn I (expand (.bounded limit read) run lead visited name)
      (expand (lib.sourceIn σ) run lead visited name) := by
  refine agreeOn_expand (Q := fun visited name => visited.length + lib.depth visited name ≤ limit)
    ⟨fun visited name hname hlimit => ?_, fun visited name hname hlimit s steps hsteps step hstep
      target htarget => ?_⟩ hrun lead visited name h
  · have hpos : 0 < lib.depth visited name := Library.depth_pos
    rw [stepsAt_bounded read hname (by omega), stepsAt_sourceIn]
    exact hread name
  · rw [stepsAt_sourceIn] at hsteps
    have hrefers : lib.Refers name target := ⟨step, mem_stepsOf_of_readIn hsteps hstep, htarget⟩
    have hdepth := Library.depth_of_refers hname hrefers
    rw [List.length_cons]
    omega

end Bounded

/-! ## The end of an expansion -/

section Ending

/-- **Every expansion ends**, with tasks or over a document, whatever refers to what and whatever is
open at its beginning. No more expansions lie inside each other than names are referred to, and two.
So many levels are never used up, and neither is a limit of as many more open workflows. -/
theorem expand_ends (lib : Library) {run : Runner (Work σ)} (hrun : run.Returns) (lead : String)
    (visited : List String) (root : String) :
    (∀ s, (∃ tasks, (expand (lib.sourceIn σ) run lead visited root s).answer = .ok tasks) ∨
      ∃ fault, (expand (lib.sourceIn σ) run lead visited root s).answer =
        .error (.document fault)) ∧
    lib.targets.Finite ∧
    (∀ chain : List Branch, chain.head? = some ⟨visited, root⟩ → chain.IsChain lib.Nests →
      chain.length ≤ lib.targets.ncard + 2) ∧
    (∀ usedUp level, lib.targets.ncard + 2 ≤ level →
      expandWithin (lib.readIn σ) run usedUp level lead visited root =
        expand (lib.sourceIn σ) run lead visited root) ∧
    ∀ limit, visited.length + lib.targets.ncard + 2 ≤ limit →
      expand (.bounded limit (lib.readIn σ)) run lead visited root =
        expand (lib.sourceIn σ) run lead visited root := by
  have hdepth : lib.depth visited root ≤ lib.targets.ncard + 2 := Library.depth_le visited root
  refine ⟨fun s => ?_, Library.finite_targets, ?_, fun usedUp level hlevel => ?_, ?_⟩
  · have hsettled := ensures_expand lib hrun visited root lead s
    cases hanswer : (expand (lib.sourceIn σ) run lead visited root s).answer with
    | ok tasks => exact .inl ⟨tasks, rfl⟩
    | error e =>
      rw [hanswer] at hsettled
      obtain ⟨_, fault, -, -, rfl⟩ := hsettled
      exact .inr ⟨fault, rfl⟩
  · rintro (_ | ⟨outer, inner⟩) hhead hchain
    · cases hhead
    · obtain rfl : outer = ⟨visited, root⟩ := by simpa using hhead
      exact (Library.length_le_depth hchain).trans hdepth
  · exact expandWithin_eq_expand usedUp level lead visited root (hdepth.trans hlevel)
  · intro limit hlimit
    have hagree : Work.AgreeOn (fun _ => True)
        (expand (.bounded limit (lib.readIn σ)) run lead visited root) _ :=
      agreeOn_expand_bounded (fun name s _ => ⟨rfl, trivial⟩) (fun command s _ => ⟨rfl, trivial⟩)
        lead visited root (by omega)
    exact funext fun s => (hagree s trivial).1

/-- A workflow that nothing refers to, and below it one that refers to itself. Here the bound is met,
by the expansion that is passed over in the end. -/
theorem expand_ends_recurringBelowNameless :
    clearing.Returns ∧
      (∃ chain : List Branch, chain.head? = some ⟨[], ""⟩ ∧
        chain.IsChain recurringBelowNameless.Nests ∧
        chain.length = recurringBelowNameless.targets.ncard + 2) ∧
      ∀ usedUp, expandWithin (recurringBelowNameless.readIn Memory) clearing usedUp 3 "" [] "" =
        expand (recurringBelowNameless.sourceIn Memory) clearing "" [] "" := by
  have hrun : clearing.Returns := fun _ _ => ⟨_, rfl⟩
  have hends := expand_ends recurringBelowNameless hrun "" [] ""
  obtain ⟨-, -, hchains, hlevels, -⟩ := hends
  have hle : recurringBelowNameless.targets.ncard ≤ 1 := by
    have hsubset : recurringBelowNameless.targets ⊆ {"a"} := by
      rintro target ⟨name, hrefers⟩
      have hmem : target ∈ ["a", "a"] := hrefers.mem_references
      simpa using hmem
    simpa using Set.ncard_le_ncard hsubset (Set.finite_singleton "a")
  have hchain : [⟨[], ""⟩, ⟨[""], "a"⟩, ⟨["a", ""], "a"⟩].IsChain recurringBelowNameless.Nests := by
    refine .cons_cons ⟨by simp, ⟨_, List.mem_cons_self, rfl⟩, rfl⟩ (.cons_cons ?_ (.singleton _))
    exact ⟨by simp, ⟨_, List.mem_cons_self, rfl⟩, rfl⟩
  have hlength := hchains _ rfl hchain
  refine ⟨hrun, ⟨_, rfl, hchain, ?_⟩, fun usedUp => hlevels usedUp 3 (by omega)⟩
  simp only [List.length_cons, List.length_nil] at hlength ⊢
  omega

end Ending

end Runbook
