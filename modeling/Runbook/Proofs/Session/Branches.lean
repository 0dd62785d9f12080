import Runbook.Proofs.Expansion.Reach
import Runbook.Proofs.Session.Agreement

/-!
# `Proofs/Session/Branches` — the workflows that are open when a document is read

An expansion is inside other ones, and all their workflows are open. Which these are is nowhere in
the tasks that an expansion comes to, so a library is taken that keeps a record
(`Library.recorded`): whenever a document is about to be read, it notes the workflows that are open.
The record changes nothing else, neither what is told nor what the expansion comes to
(`tells_flatten`).

What is noted is a way of references from the root, the innermost workflow first, and no name is
twice on it (`isWay_of_mem_branches`).
-/

set_option autoImplicit false

namespace Runbook

open Runbook.Workflow

variable {σ α β : Type}

/-! ## A record of what is read -/

namespace Library

variable (lib : Library)

/-- A library that notes, whenever a document is about to be read, the workflows that are open then,
with that of the document in front. -/
def recorded : Source (Work (List (List String))) where
  room := lib.room
  read visited name h := do
    Work.modify fun s => { s with store := (name :: visited) :: s.store }
    (lib.opened visited name h).inSession

/-- The workflows that are open at each reading of a document, when the tasks of a workflow are
found; the latest first. -/
def branches (run : Runner (Traced DocumentError)) (root : String) : List (List String) :=
  (flatten lib.recorded run.inSession root ⟨[], none⟩).session.store

theorem recorded_stepsAt {visited : List String} {name : String} (h : name ∉ visited) :
    lib.recorded.stepsAt visited name h =
      Work.modify (fun s => { s with store := (name :: visited) :: s.store }) >>= fun _ =>
        lib.readIn (List (List String)) name := by
  rw [← stepsAt_sourceIn lib h]
  exact map_bind (m := Work _) _ _ _

end Library

/-! ## The record changes nothing else -/

/-- Work that tells and answers what an operation does that does not look at the session. -/
def Work.Tells (x : Work σ α) (t : Traced DocumentError α) : Prop :=
  ∀ s, (x s).events = t.events ∧ (x s).answer = t.outcome.mapError .document

namespace Work.Tells

theorem inSession (t : Traced DocumentError α) : (t.inSession : Work σ α).Tells t :=
  fun _ => ⟨rfl, rfl⟩

theorem bind {x : Work σ α} {t : Traced DocumentError α} {f : α → Work σ β}
    {g : α → Traced DocumentError β} (hx : x.Tells t)
    (hf : ∀ a, t.outcome = .ok a → (f a).Tells (g a)) : (x >>= f).Tells (t >>= g) := by
  intro s
  obtain ⟨hevents, hanswer⟩ := hx s
  cases h : t.outcome with
  | error e =>
    rw [h] at hanswer
    rw [Work.bind_apply_of_error hanswer, Traced.bind_of_error h]
    exact ⟨hevents, rfl⟩
  | ok a =>
    rw [h] at hanswer
    obtain ⟨hevents', hanswer'⟩ := hf a h (x s).session
    rw [Work.bind_apply_of_ok hanswer, Traced.bind_of_ok h]
    exact ⟨congrArg₂ (· ++ ·) hevents hevents', hanswer'⟩

theorem collect {f : α → Work σ (List β)} {g : α → Traced DocumentError (List β)} {as : List α}
    (h : ∀ a ∈ as, (f a).Tells (g a)) : (Runbook.collect f as).Tells (Runbook.collect g as) := by
  induction as with
  | nil => exact fun _ => ⟨rfl, rfl⟩
  | cons a as ih =>
    obtain ⟨ha, has⟩ := List.forall_mem_cons.1 h
    exact ha.bind fun bs _ => (ih has).bind fun more _ => fun _ => ⟨rfl, rfl⟩

end Work.Tells

section Telling

variable {lib : Library} {run : Runner (Traced DocumentError)}

theorem tells_expand (lead : String) (visited : List String) (name : String) :
    (expand lib.recorded run.inSession lead visited name).Tells
      (expand lib.source run lead visited name) := by
  induction visited, name using lib.branch_induction generalizing lead with
  | pruned visited name hname =>
    rw [expand_of_mem _ _ hname, expand_of_mem _ _ hname]
    exact fun _ => ⟨rfl, rfl⟩
  | opened visited name hname ih =>
    rw [expand_eq_stepsAt_bind _ _ hname, lib.recorded_stepsAt hname, expand_source_of_notMem hname]
    refine Work.Tells.bind ?_ fun steps hread => .collect fun step hstep => ?_
    · exact fun _ => ⟨rfl, rfl⟩
    · unfold Source.tasksOfStep
      cases haction : step.action with
      | plain => exact fun _ => ⟨rfl, rfl⟩
      | loop command var =>
        rw [← inSession_loopTasks]
        exact .inSession _
      | nested target =>
        refine ih target ⟨step, ?_, (step.reference?_eq_some_iff target).2 haction⟩ _
        rw [Library.stepsOf_of_ok hread]
        exact hstep

/-- **The record changes nothing else.** -/
theorem tells_flatten (root : String) :
    (flatten lib.recorded run.inSession root).Tells (flatten lib.source run root) :=
  (tells_expand "" [] root).bind fun _ _ _ => ⟨rfl, rfl⟩

end Telling

/-! ## What is noted -/

namespace Library

/-- Workflows that are open inside each other, the innermost first: references lead from the root
through all of them, and none of them is met twice. -/
structure IsWay (lib : Library) (root : String) (opened : List String) : Prop where
  root_eq : opened.getLast? = some root
  leads : opened.IsChain fun inner outer => lib.Refers outer inner
  simple : opened.Nodup

variable {lib : Library} {root name target : String} {opened : List String}

theorem IsWay.reaches (h : lib.IsWay root opened) (hname : name ∈ opened) :
    lib.Reaches root name := by
  obtain ⟨hroot, hleads, -⟩ := h
  induction opened generalizing name with
  | nil => cases hname
  | cons inner outer ih =>
    cases outer with
    | nil =>
      obtain rfl : inner = root := by simpa using hroot
      obtain rfl : name = inner := by simpa using hname
      exact .refl
    | cons next outer =>
      obtain ⟨hrefers, hrest⟩ := List.isChain_cons_cons.1 hleads
      rw [List.getLast?_cons_cons] at hroot
      rcases List.mem_cons.1 hname with rfl | hname
      · exact (ih List.mem_cons_self hroot hrest).tail hrefers
      · exact ih hname hroot hrest

/-- A workflow that an expansion comes to: it is the root, or the innermost open one refers to it. -/
def ComesTo (lib : Library) (root : String) (opened : List String) (name : String) : Prop :=
  opened.Nodup ∧ (name :: opened).getLast? = some root ∧
    (name :: opened).IsChain fun inner outer => lib.Refers outer inner

theorem ComesTo.isWay (h : lib.ComesTo root opened name) (hname : name ∉ opened) :
    lib.IsWay root (name :: opened) where
  root_eq := h.2.1
  leads := h.2.2
  simple := List.nodup_cons.2 ⟨hname, h.1⟩

theorem ComesTo.next (h : lib.ComesTo root opened name) (hname : name ∉ opened)
    (htarget : lib.Refers name target) : lib.ComesTo root (name :: opened) target := by
  obtain ⟨hnodup, hroot, hleads⟩ := h
  refine ⟨List.nodup_cons.2 ⟨hname, hnodup⟩, ?_, List.isChain_cons_cons.2 ⟨htarget, hleads⟩⟩
  rw [List.getLast?_cons_cons]
  exact hroot

/-- **Whatever is noted is a way of references from the root.** -/
theorem isWay_of_mem_branches {run : Runner (Traced DocumentError)}
    (h : opened ∈ lib.branches run root) : lib.IsWay root opened := by
  let noted (s : Session (List (List String))) : Prop := ∀ opened ∈ s.store, lib.IsWay root opened
  have hsource : Source.AgreeOn noted (lib.ComesTo root) lib.recorded lib.recorded := by
    refine ⟨fun visited name hname hcomes => ?_, fun visited name hname hcomes s steps hsteps step
      hstep target htarget => ?_⟩
    · rw [lib.recorded_stepsAt hname]
      refine .bind (fun s hs => ⟨rfl, ?_⟩) fun _ _ _ => .of_silent fun _ => rfl
      exact List.forall_mem_cons.2 ⟨hcomes.isWay hname, hs⟩
    · rw [lib.recorded_stepsAt hname] at hsteps
      have hmem : step ∈ lib.stepsOf name := mem_stepsOf_of_readIn (s := s) hsteps hstep
      exact hcomes.next hname ⟨step, hmem, htarget⟩
  have hrun : ∀ command, Work.AgreeOn noted (run.inSession command) (run.inSession command) :=
    fun command => .of_silent fun _ => rfl
  have hroot : lib.ComesTo root [] root := ⟨.nil, rfl, .singleton root⟩
  have hnothing : noted ⟨[], none⟩ := fun _ hmem => absurd hmem List.not_mem_nil
  exact (agreeOn_flatten (agreeOn_expand hsource hrun "" [] root hroot) _ hnothing).2 opened h

end Library

end Runbook
