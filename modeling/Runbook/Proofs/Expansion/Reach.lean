import Mathlib.Logic.Relation
import Runbook.Proofs.Expansion.Route

/-!
# `Proofs/Expansion/Reach` — what references lead to

A workflow refers to others, and these to others again. What can be reached in this way
(`Library.Reaches`) says nothing of the order in which an expansion goes, nor of what is open on the
way; what an expansion comes to open (`Library.Opens`) does, and it is inductive along the recursion
of `expand`. The two are the same where nothing is open yet (`opens_nil_iff_reaches`): a workflow
that is kept from being opened a second time was opened before, and whatever lies behind it can be
reached from there. So passing over open workflows hides nothing.

Proofs about expansions go by `Library.branch_induction`: a workflow is open, or the claim holds of
all that it refers to once it is open too.
-/

set_option autoImplicit false

namespace Runbook

open Runbook.Workflow

namespace Library

variable (lib : Library)

/-- Some step of a workflow refers to another workflow. -/
def Refers (name target : String) : Prop :=
  ∃ step ∈ lib.stepsOf name, step.reference? = some target

/-- References lead from a workflow to another one, in any number of steps. -/
def Reaches : String → String → Prop := Relation.ReflTransGen lib.Refers

/-- The document of a workflow can be read. -/
def Readable (name : String) : Prop := ∃ steps, (lib.read name).outcome = .ok steps

/-- An expansion of a workflow, begun while others are open, comes to open a workflow. -/
inductive Opens : List String → String → String → Prop
  | here {visited : List String} {name : String} : name ∉ visited → Opens visited name name
  | through {visited : List String} {name target last : String} : name ∉ visited →
      lib.Refers name target → Opens (name :: visited) target last → Opens visited name last

variable {lib}

/-- A workflow with steps is one that was read. -/
theorem read_of_mem_stepsOf {name : String} {step : Step} (h : step ∈ lib.stepsOf name) :
    (lib.read name).outcome = .ok (lib.stepsOf name) := by
  unfold stepsOf at h ⊢
  split at h
  · next steps hread => rw [hread]
  · cases h

theorem Refers.mem_references {name target : String} (h : lib.Refers name target) :
    target ∈ lib.references := by
  obtain ⟨step, hstep, htarget⟩ := h
  exact lib.mem_references (read_of_mem_stepsOf hstep) hstep htarget

theorem Refers.ne_empty {name target : String} (h : lib.Refers name target) : target ≠ "" := by
  obtain ⟨step, -, htarget⟩ := h
  exact Step.ne_empty_of_reference? htarget

/-- **Induction along the branches of an expansion.** Either a workflow is open already, or what it
refers to is taken up with the workflow open as well. The measure is the room that is left. -/
theorem branch_induction (lib : Library) {motive : List String → String → Prop}
    (pruned : ∀ visited name, name ∈ visited → motive visited name)
    (opened : ∀ visited name, name ∉ visited →
      (∀ target, lib.Refers name target → motive (name :: visited) target) → motive visited name)
    (visited : List String) (name : String) : motive visited name := by
  induction hroom : lib.room visited name using Nat.strongRecOn generalizing visited name with
  | ind n ih =>
    by_cases hname : name ∈ visited
    · exact pruned visited name hname
    · refine opened visited name hname fun target htarget => ?_
      exact ih _ (hroom ▸ lib.room_lt hname htarget.mem_references) _ _ rfl

/-! ## Passing over open workflows hides nothing -/

theorem Opens.notMem {visited : List String} {name last : String}
    (h : lib.Opens visited name last) : name ∉ visited := by
  cases h with
  | here hname => exact hname
  | through hname _ _ => exact hname

theorem opens_iff {visited : List String} {name last : String} :
    lib.Opens visited name last ↔ name ∉ visited ∧
      (last = name ∨
        ∃ target, lib.Refers name target ∧ lib.Opens (name :: visited) target last) := by
  constructor
  · intro h
    cases h with
    | here hname => exact ⟨hname, .inl rfl⟩
    | through hname htarget hlast => exact ⟨hname, .inr ⟨_, htarget, hlast⟩⟩
  · rintro ⟨hname, rfl | ⟨target, htarget, hlast⟩⟩
    · exact .here hname
    · exact .through hname htarget hlast

theorem Opens.reaches {visited : List String} {name last : String}
    (h : lib.Opens visited name last) : lib.Reaches name last := by
  induction h with
  | here _ => exact .refl
  | through _ htarget _ ih => exact .head htarget ih

/-- What an opened workflow refers to is opened as well, unless it was open from the beginning. On
the way to it the expansion may be back at a workflow of the branch; then it was opened there. -/
theorem Opens.next {visited : List String} {name last following : String}
    (h : lib.Opens visited name last) (hfollowing : lib.Refers last following)
    (hfresh : following ∉ visited) : lib.Opens visited name following := by
  induction h with
  | @here visited name hname =>
    by_cases hback : following = name
    · subst hback
      exact .here hname
    · exact .through hname hfollowing (.here (by simp [hback, hfresh]))
  | @through visited name target last hname htarget _ ih =>
    by_cases hback : following = name
    · subst hback
      exact .here hname
    · exact .through hname htarget (ih hfollowing (by simp [hback, hfresh]))

/-- **What can be reached is what an expansion opens.** -/
theorem opens_nil_iff_reaches {root name : String} :
    lib.Opens [] root name ↔ lib.Reaches root name := by
  refine ⟨Opens.reaches, fun h => ?_⟩
  induction h with
  | refl => exact .here (by simp)
  | tail _ hnext ih => exact ih.next hnext (by simp)

end Library

end Runbook

/-!
## References that lead back

A circle is a way along references that comes back to where it has been (`Library.IsCircle`): its
names differ from each other, and its last reference leads to one of them. An expansion that is
begun while some workflows are open can also come back to one of these, so circles are relative to
what is open; `isCircle_cons_iff` takes the first workflow off a circle and opens it.

From a root with nothing open, there is a circle exactly if the references reach a workflow that
leads back to itself (`exists_isCircle_iff`). Two ways to the same workflow that never lead back are
none.
-/

namespace Runbook

namespace Library

variable (lib : Library)

/-- References lead from a workflow back to itself. -/
def Recurs (name : String) : Prop := Relation.TransGen lib.Refers name name

/-- A way from a root along references, through workflows that are not open and differ from each
other, to one that is open then. -/
structure IsCircle (visited : List String) (root : String) (names : List String) (last : String) :
    Prop where
  starts : (names ++ [last]).head? = some root
  leads : (names ++ [last]).IsChain lib.Refers
  simple : names.Nodup
  fresh : ∀ name ∈ names, name ∉ visited
  back : last ∈ names ∨ last ∈ visited

variable {lib} {visited names : List String} {root name target last : String}

theorem isCircle_nil_iff : lib.IsCircle visited root [] last ↔ last = root ∧ last ∈ visited := by
  constructor
  · intro h
    exact ⟨by simpa using h.starts, by simpa using h.back⟩
  · rintro ⟨rfl, hlast⟩
    exact ⟨rfl, by simp, by simp, by simp, .inr hlast⟩

/-- **The first workflow of a circle.** It is open for what follows. -/
theorem isCircle_cons_iff : lib.IsCircle visited root (name :: names) last ↔
    name = root ∧ root ∉ visited ∧
      ∃ target, lib.Refers root target ∧ lib.IsCircle (root :: visited) target names last := by
  constructor
  · intro h
    obtain rfl : name = root := by simpa using h.starts
    obtain ⟨hname, hsimple⟩ := List.nodup_cons.1 h.simple
    obtain ⟨hfresh, hrest⟩ := List.forall_mem_cons.1 h.fresh
    have hleads := h.leads
    rw [List.cons_append, List.isChain_cons] at hleads
    obtain ⟨target, htarget⟩ : ∃ target, (names ++ [last]).head? = some target := by
      cases names with
      | nil => exact ⟨last, rfl⟩
      | cons target rest => exact ⟨target, rfl⟩
    refine ⟨rfl, hfresh, target, hleads.1 target htarget, htarget, hleads.2, hsimple, ?_, ?_⟩
    · intro other hother hopen
      rcases List.mem_cons.1 hopen with rfl | hopen
      · exact hname hother
      · exact hrest other hother hopen
    · have hback := h.back
      simp only [List.mem_cons] at hback ⊢
      tauto
  · rintro ⟨rfl, hfresh, target, htarget, h⟩
    refine ⟨rfl, ?_, ?_, ?_, ?_⟩
    · rw [List.cons_append, List.isChain_cons]
      refine ⟨fun next hnext => ?_, h.leads⟩
      obtain rfl := Option.some.inj (h.starts.symm.trans hnext)
      exact htarget
    · exact List.nodup_cons.2 ⟨fun hname => h.fresh name hname List.mem_cons_self, h.simple⟩
    · refine List.forall_mem_cons.2 ⟨hfresh, fun other hother hopen => ?_⟩
      exact h.fresh other hother (List.mem_cons_of_mem _ hopen)
    · have hback := h.back
      simp only [List.mem_cons] at hback ⊢
      tauto

/-- A circle ends in what was open before, or closes in itself. -/
theorem IsCircle.closes (h : lib.IsCircle visited root names last) :
    lib.Reaches root last ∧ (last ∈ visited ∨ lib.Recurs last) := by
  induction names generalizing visited root with
  | nil =>
    obtain ⟨rfl, hlast⟩ := isCircle_nil_iff.1 h
    exact ⟨.refl, .inl hlast⟩
  | cons name names ih =>
    obtain ⟨-, -, target, htarget, hrest⟩ := isCircle_cons_iff.1 h
    obtain ⟨hreaches, hopen | hrecurs⟩ := ih hrest
    · refine ⟨.head htarget hreaches, ?_⟩
      rcases List.mem_cons.1 hopen with rfl | hopen
      · exact .inr (.head' htarget hreaches)
      · exact .inl hopen
    · exact ⟨.head htarget hreaches, .inr hrecurs⟩

/-- What leads to a workflow that recurs refers to something that does. -/
theorem Reaches.exists_refers (h : lib.Reaches root last) (hrecurs : lib.Recurs last) :
    ∃ target, lib.Refers root target ∧ lib.Reaches target last := by
  rcases Relation.ReflTransGen.cases_head h with rfl | h
  · exact Relation.TransGen.head'_iff.1 hrecurs
  · exact h

/-- An expansion that can reach a workflow that recurs goes round some circle, whatever is open. On
every branch it comes to something that is open in the end. -/
theorem exists_isCircle (visited : List String) (root : String)
    (h : ∃ last, lib.Reaches root last ∧ lib.Recurs last) :
    ∃ names last, lib.IsCircle visited root names last := by
  induction visited, root using lib.branch_induction with
  | pruned visited root hroot => exact ⟨[], root, isCircle_nil_iff.2 ⟨rfl, hroot⟩⟩
  | opened visited root hroot ih =>
    obtain ⟨recurring, hreaches, hrecurs⟩ := h
    obtain ⟨target, htarget, hreaches⟩ := hreaches.exists_refers hrecurs
    obtain ⟨names, last, hcircle⟩ := ih target htarget ⟨recurring, hreaches, hrecurs⟩
    exact ⟨root :: names, last, isCircle_cons_iff.2 ⟨rfl, hroot, target, htarget, hcircle⟩⟩

/-- **There is a circle exactly if something that can be reached recurs.** -/
theorem exists_isCircle_iff : (∃ names last, lib.IsCircle [] root names last) ↔
    ∃ name, lib.Reaches root name ∧ lib.Recurs name := by
  constructor
  · rintro ⟨names, last, h⟩
    obtain ⟨hreaches, hopen | hrecurs⟩ := h.closes
    · cases hopen
    · exact ⟨last, hreaches, hrecurs⟩
  · exact exists_isCircle [] root

end Library

end Runbook
