import Runbook.Command.Basic
import Runbook.Proofs.Expansion.Reach
import Runbook.Proofs.Session.Outcome
import Runbook.Workflow.Folder

/-!
# `Proofs/Session/Circular` — references that lead back are told

An expansion passes over a workflow that is open, and tells so. What it tells is exact: where it
succeeds, it tells of every circle along its branches, and of nothing else (`warns_expand`). Seen
from a root, something is told exactly if a workflow can be reached that leads back to itself, and
each time the way is named on which this was noticed (`circular_of_flatten`). A workflow that two
others share is none of this.

All this is about what the expansion tells itself. Reading documents and running commands tell of
other things (`Library.Quiet`, `Runner.Quiet`); so it is with the documents of a folder and with the
commands of a shell.
-/

set_option autoImplicit false

namespace Runbook

open Runbook.Text Runbook.Workflow

variable {σ α β : Type}

/-! ## What tells of no circles -/

/-- None of what is told is about a circle. -/
def Quiet (es : List Event) : Prop := ∀ path name, Event.circular path name ∉ es

theorem Quiet.nil : Quiet [] := fun _ _ => List.not_mem_nil

theorem Quiet.append {es more : List Event} (h : Quiet es) (h' : Quiet more) :
    Quiet (es ++ more) := fun path name hmem =>
  (List.mem_append.1 hmem).elim (h path name) (h' path name)

/-- Reading the documents of a library tells of no circles. -/
def Library.Quiet (lib : Library) : Prop := ∀ name, Runbook.Quiet (lib.read name).events

/-- Commands that tell of no circles, whatever they do to the session. -/
def Runner.Quiet (run : Runner (Work σ)) : Prop :=
  ∀ command, (run command).Ensures fun es _ => Runbook.Quiet es

theorem Library.quiet_ofList (workflows : List (String × List Step)) :
    (Library.ofList workflows).Quiet := by
  intro name
  simp only [Library.ofList]
  split
  · exact .nil
  · exact .nil

/-- What is told of reading a document. -/
def Event.isOfReading : Event → Bool
  | .extraMarker .. | .openFence .. | .parsed .. => true
  | _ => false

theorem isOfReading_of_readSteps {strictness : Strictness} {workflow text : String} {e : Event}
    (h : e ∈ (readSteps strictness workflow text).events) : e.isOfReading = true := by
  have hread : ∀ e ∈ (Outline.ofText text).sections.flatMap (Section.extraMarkers workflow) ++
      (Outline.ofText text).endingEvents workflow, e.isOfReading = true := by
    intro e he
    rcases List.mem_append.1 he with he | he
    · obtain ⟨s, -, hs⟩ := List.mem_flatMap.1 he
      obtain ⟨mark, -, rfl⟩ := List.mem_map.1 hs
      rfl
    · unfold Outline.endingEvents at he
      split at he
      · cases he
      · exact List.mem_singleton.1 he ▸ rfl
  unfold readSteps at h
  dsimp only at h
  split at h
  · cases h
  · exact hread e h

theorem Workflow.Folder.isOfReading_of_read {f : Folder} {name : String} {e : Event}
    (h : e ∈ (f.read name).events) : e.isOfReading = true := by
  unfold Folder.read at h
  split at h
  · cases h
  · split at h
    · cases h
    · next cs _ =>
      cases houtcome : (readSteps f.strictness name (documentText cs)).outcome with
      | error fault =>
        rw [Traced.bind_of_error houtcome] at h
        exact isOfReading_of_readSteps h
      | ok steps =>
        rw [Traced.bind_of_ok houtcome] at h
        rcases List.mem_append.1 h with h | h
        · exact isOfReading_of_readSteps h
        · exact List.mem_singleton.1 h ▸ rfl

/-- Documents of a folder. -/
theorem Workflow.Folder.quiet_library (f : Folder) : f.library.Quiet := by
  intro name path last hmem
  cases isOfReading_of_read (f := f) hmem

/-- Commands of a shell, if running a process tells nothing of circles. -/
theorem quiet_runner {execute : Command.Request → Work σ Command.Ending}
    (h : ∀ asked, (execute asked).Ensures fun es _ => Quiet es) (shell : Option String)
    (timeout : Option Int) : (Command.runner execute shell timeout).Quiet := by
  intro command
  have htell : (Telling.tell (.running command) : Work σ Unit).Ensures fun es _ => Quiet es :=
    fun _ _ _ hmem => by cases hmem with | tail _ h => cases h
  refine htell.bind (fun es _ hes => ?_) fun _ _ hes => hes
  refine (h _).bind (fun more _ hmore => ?_) fun _ _ hmore => hes.append hmore
  exact .pure (hes.append (hmore.append .nil))

/-! ## Telling of just some circles -/

/-- Of some circles all is told that is to tell, if there is an answer, and nothing of others. -/
structure Warns (so : String → String → Prop) (es : List Event) (answer : Except Failure α) :
    Prop where
  sound : ∀ path name, .circular path name ∈ es → so path name
  complete : ∀ a, answer = .ok a → ∀ path name, so path name → .circular path name ∈ es

namespace Warns

variable {so so' : String → String → Prop} {es more : List Event} {answer : Except Failure α}

theorem congr (h : Warns so es answer) (hso : ∀ path name, so path name ↔ so' path name) :
    Warns so' es answer where
  sound path name hmem := (hso path name).1 (h.sound path name hmem)
  complete a ha path name hname := h.complete a ha path name ((hso path name).2 hname)

theorem of_quiet (h : Quiet es) (hso : ∀ path name, ¬ so path name) : Warns so es answer where
  sound path name hmem := absurd hmem (h path name)
  complete _ _ path name hname := absurd hname (hso path name)

/-- What is told before may be left out of account. -/
theorem of_quiet_append (h : Quiet es) (hmore : Warns so more answer) :
    Warns so (es ++ more) answer where
  sound path name hmem :=
    hmore.sound path name ((List.mem_append.1 hmem).resolve_left (h path name))
  complete a ha path name hname := List.mem_append_right _ (hmore.complete a ha path name hname)

theorem bind {x : Work σ α} {f : α → Work σ β} (hx : x.Ensures (Warns so))
    (hf : ∀ a, (f a).Ensures (Warns so')) :
    (x >>= f).Ensures (Warns fun path name => so path name ∨ so' path name) := by
  refine Work.Ensures.bind hx (fun es a h => (hf a).imp fun more answer h' => ⟨?_, ?_⟩) ?_
  · intro path name hmem
    exact (List.mem_append.1 hmem).imp (h.sound path name) (h'.sound path name)
  · rintro b hb path name (hname | hname)
    · exact List.mem_append_left _ (h.complete a rfl path name hname)
    · exact List.mem_append_right _ (h'.complete b hb path name hname)
  · exact fun es e h => ⟨fun path name hmem => .inl (h.sound path name hmem), nofun⟩

theorem collect {f : α → Work σ (List β)} {so : α → String → String → Prop} {as : List α}
    (h : ∀ a ∈ as, (f a).Ensures (Warns (so a))) :
    (Runbook.collect f as).Ensures (Warns fun path name => ∃ a ∈ as, so a path name) := by
  induction as with
  | nil => exact .pure (.of_quiet .nil (by simp))
  | cons a as ih =>
    obtain ⟨ha, has⟩ := List.forall_mem_cons.1 h
    have hmore := fun bs => Warns.bind (ih has) fun more =>
      (.pure (.of_quiet .nil fun _ _ => id) :
        (Pure.pure (bs ++ more) : Work σ (List β)).Ensures (Warns fun _ _ => False))
    exact (Warns.bind ha hmore).imp fun _ _ hall => hall.congr fun path name => by simp

end Warns

/-! ## Expansions -/

section Recursion

variable {lib : Library} {run : Runner (Work σ)}

/-- What there is to tell of circles in an expansion: the ways round them. -/
def Library.Circling (lib : Library) (lead : String) (visited : List String)
    (root path last : String) : Prop :=
  ∃ names, lib.IsCircle visited root names last ∧ path = sourceAlong lead (names ++ [last])

/-- A workflow that is open is the end of a circle. -/
theorem Library.circling_iff_of_mem {lead : String} {visited : List String}
    {root path last : String} (h : root ∈ visited) :
    lib.Circling lead visited root path last ↔ path = sourceOf lead root ∧ last = root := by
  constructor
  · rintro ⟨_ | ⟨name, names⟩, hcircle, rfl⟩
    · obtain ⟨rfl, -⟩ := isCircle_nil_iff.1 hcircle
      exact ⟨sourceAlong_singleton lead last, rfl⟩
    · exact absurd h (isCircle_cons_iff.1 hcircle).2.1
  · rintro ⟨rfl, rfl⟩
    exact ⟨[], isCircle_nil_iff.2 ⟨rfl, h⟩, (sourceAlong_singleton lead last).symm⟩

/-- Circles lead from a workflow that is not open through one that it refers to. -/
theorem Library.circling_iff_of_notMem {lead : String} {visited : List String}
    {root path last : String} (h : root ∉ visited) :
    lib.Circling lead visited root path last ↔ ∃ target, lib.Refers root target ∧
      lib.Circling (sourceOf lead root) (root :: visited) target path last := by
  have hsource : ∀ {target names}, lib.Refers root target →
      lib.IsCircle (root :: visited) target names last →
      sourceAlong (sourceOf lead root) (names ++ [last]) =
        sourceAlong lead (root :: names ++ [last]) := by
    intro target names htarget hcircle
    obtain ⟨rest, hrest⟩ : ∃ rest, names ++ [last] = target :: rest := by
      have := hcircle.starts
      cases names with
      | nil => exact ⟨[], by simpa using this⟩
      | cons name rest => exact ⟨rest ++ [last], by simpa using this⟩
    rw [List.cons_append, hrest]
    exact sourceAlong_cons lead root htarget.ne_empty rest
  constructor
  · rintro ⟨_ | ⟨name, names⟩, hcircle, rfl⟩
    · obtain ⟨rfl, hlast⟩ := isCircle_nil_iff.1 hcircle
      exact absurd hlast h
    · obtain ⟨rfl, -, target, htarget, hrest⟩ := isCircle_cons_iff.1 hcircle
      exact ⟨target, htarget, names, hrest, (hsource htarget hrest).symm⟩
  · rintro ⟨target, htarget, names, hrest, rfl⟩
    exact ⟨root :: names, isCircle_cons_iff.2 ⟨rfl, h, target, htarget, hrest⟩,
      hsource htarget hrest⟩

/-- Loops tell of no circles. -/
theorem quiet_loopTasks (hrun : run.Quiet) (step : Step) (source : String) :
    (Loop.tasks run step source).Ensures fun es _ => Quiet es := by
  have hfind : (Loop.find run step.command).Ensures fun es _ => Quiet es := by
    rcases Loop.find_cases run step.command with ⟨obstacle, h⟩ | ⟨command, h⟩ <;> rw [h]
    · exact .pure .nil
    · refine (hrun command).bind (fun es _ hes => ?_) fun _ _ hes => hes
      exact .pure (hes.append .nil)
  have hevents : ∀ found, Quiet (Loop.eventsOf step found) := by
    rintro ((_ | _ | _ | _) | items) path name hmem <;>
      simp [Loop.eventsOf, Loop.Obstacle.events] at hmem
  refine hfind.bind (fun es found hes => ?_) fun _ _ hes => hes
  refine (ensures_tellAll _).bind ?_ ?_
  · rintro _ _ ⟨rfl, -⟩
    exact .pure (hes.append ((hevents found).append .nil))
  · rintro _ _ ⟨-, ⟨⟩⟩

/-- **An expansion tells of its circles**, and of no others. -/
theorem warns_expand (hlib : lib.Quiet) (hrun : run.Quiet) (lead : String) (visited : List String)
    (name : String) :
    (expand (lib.sourceIn σ) run lead visited name).Ensures
      (Warns (lib.Circling lead visited name)) := by
  induction visited, name using lib.branch_induction generalizing lead with
  | pruned visited name hname =>
    rw [expand_of_mem _ _ hname]
    refine fun s => ⟨fun path last hmem => ?_, fun _ _ path last hcircle => ?_⟩
    · rw [Library.circling_iff_of_mem hname]
      simpa using List.mem_singleton.1 hmem
    · obtain ⟨rfl, rfl⟩ := (Library.circling_iff_of_mem hname).1 hcircle
      exact List.mem_singleton_self _
  | opened visited name hname ih =>
    refine ensures_expand_of_notMem hname (fun fault hread => ?_) fun steps hread => ?_
    · exact ⟨fun path last hmem => absurd hmem (hlib name path last), nofun⟩
    · have hstep : ∀ step ∈ steps, ((lib.sourceIn σ).tasksOfStep run (sourceOf lead name)
          (name :: visited) step).Ensures (Warns fun path last => ∃ target,
            step.reference? = some target ∧
              lib.Circling (sourceOf lead name) (name :: visited) target path last) := by
        intro step hstep
        unfold Source.tasksOfStep
        cases haction : step.action with
        | plain =>
          have hnone : step.reference? = none := by simp [Step.reference?, haction]
          exact .pure (.of_quiet .nil (by simp [hnone]))
        | loop command var =>
          have hnone : step.reference? = none := by simp [Step.reference?, haction]
          exact (quiet_loopTasks hrun step _).imp fun _ _ h => .of_quiet h (by simp [hnone])
        | nested target =>
          have htarget := (step.reference?_eq_some_iff target).2 haction
          have hrefers : lib.Refers name target :=
            ⟨step, Library.stepsOf_of_ok hread ▸ hstep, htarget⟩
          exact (ih target hrefers _).imp fun _ _ h => h.congr (by simp [htarget])
      refine (Warns.collect hstep).imp fun es answer h => .of_quiet_append (hlib name) ?_
      refine h.congr fun path last => ?_
      rw [Library.circling_iff_of_notMem hname]
      unfold Library.Refers
      rw [Library.stepsOf_of_ok hread]
      constructor
      · rintro ⟨step, hmem, target, htarget, hcircle⟩
        exact ⟨target, ⟨step, hmem, htarget⟩, hcircle⟩
      · rintro ⟨target, ⟨step, hmem, htarget⟩, hcircle⟩
        exact ⟨step, hmem, target, htarget, hcircle⟩

end Recursion

/-! ## The tasks of a workflow -/

section Flattening

variable {lib : Library} {run : Runner (Work σ)}

theorem warns_flatten (hlib : lib.Quiet) (hrun : run.Quiet) (root : String) :
    (flatten (lib.sourceIn σ) run root).Ensures (Warns (lib.Circling "" [] root)) := by
  have hnumber : ∀ tasks : List Task, ((do
      Telling.tell (.flattened root tasks.length)
      pure (assignIds tasks)) : Work σ (List Task)).Ensures (Warns fun _ _ => False) :=
    fun tasks _ => .of_quiet (fun path name hmem => by simpa using List.mem_singleton.1 hmem)
      fun _ _ => id
  exact (Warns.bind (warns_expand hlib hrun "" [] root) hnumber).imp fun _ _ h =>
    h.congr fun path last => by rw [or_false]

/-- Where nothing is open, a circle closes in itself, and it is told by its names. Only the empty
name of a root is not. -/
theorem Library.circling_nil_iff {root path last : String} : lib.Circling "" [] root path last ↔
    ∃ names, names.head? = some root ∧ last ∈ names ∧ names.Nodup ∧
      (names ++ [last]).IsChain lib.Refers ∧
      path = joinWith sourceSeparator
        (if root = "" then names.tail ++ [last] else names ++ [last]) := by
  have hsource : ∀ {names : List String}, names.head? = some root →
      sourceAlong "" (names ++ [last]) = joinWith sourceSeparator
        (if root = "" then names.tail ++ [last] else names ++ [last]) := by
    rintro (_ | ⟨name, names⟩) ⟨⟩
    simp [sourceAlong]
  constructor
  · rintro ⟨names, hcircle, rfl⟩
    have hlast : last ∈ names := hcircle.back.resolve_right List.not_mem_nil
    have hroot : names.head? = some root := by
      have := hcircle.starts
      rwa [List.head?_append_of_ne_nil _ (List.ne_nil_of_mem hlast)] at this
    exact ⟨names, hroot, hlast, hcircle.simple, hcircle.leads, hsource hroot⟩
  · rintro ⟨names, hroot, hlast, hsimple, hleads, rfl⟩
    refine ⟨names, ⟨?_, hleads, hsimple, by simp, .inl hlast⟩, (hsource hroot).symm⟩
    rwa [List.head?_append_of_ne_nil _ (List.ne_nil_of_mem hlast)]

/-- **Circles are told, and nothing else is told as one.** When the tasks of a workflow are found,
some circular reference is told exactly if a workflow can be reached that leads back to itself. What
is told are the ways from the root through different workflows back to one of them, each reference
along the way leading from one to the next. They are told by their names; the name of the root is
left out if it is empty. -/
theorem circular_of_flatten (hlib : lib.Quiet) (hrun : run.Quiet) {root : String} {s : Session σ}
    {tasks : List Task} (h : (flatten (lib.sourceIn σ) run root s).answer = .ok tasks) :
    ((∃ path last, .circular path last ∈ (flatten (lib.sourceIn σ) run root s).events) ↔
      ∃ name, Relation.ReflTransGen lib.Refers root name ∧
        Relation.TransGen lib.Refers name name) ∧
    ∀ path last, .circular path last ∈ (flatten (lib.sourceIn σ) run root s).events ↔
      ∃ names, names.head? = some root ∧ last ∈ names ∧ names.Nodup ∧
        (names ++ [last]).IsChain lib.Refers ∧
        path = joinWith sourceSeparator
          (if root = "" then names.tail ++ [last] else names ++ [last]) := by
  have hwarns := warns_flatten hlib hrun root s
  have htold : ∀ path last, .circular path last ∈ (flatten (lib.sourceIn σ) run root s).events ↔
      lib.Circling "" [] root path last :=
    fun path last => ⟨hwarns.sound path last, hwarns.complete tasks h path last⟩
  refine ⟨?_, fun path last => (htold path last).trans Library.circling_nil_iff⟩
  refine Iff.trans ?_ Library.exists_isCircle_iff
  constructor
  · rintro ⟨path, last, hmem⟩
    obtain ⟨names, hcircle, -⟩ := (htold path last).1 hmem
    exact ⟨names, last, hcircle⟩
  · rintro ⟨names, last, hcircle⟩
    exact ⟨_, last, (htold _ last).2 ⟨names, hcircle, rfl⟩⟩

/-- Two workflows refer to each other. That is told as the way from the first one back to it. -/
theorem circular_of_flatten_crossReferring :
    crossReferring.Quiet ∧ clearing.Quiet ∧
      ∃ tasks, (flatten (crossReferring.sourceIn Memory) clearing "release"
        ⟨⟨some motley⟩, none⟩).answer = .ok tasks ∧
        (∃ name, Relation.ReflTransGen crossReferring.Refers "release" name ∧
          Relation.TransGen crossReferring.Refers name name) ∧
        ∃ names, names.head? = some "release" ∧ "release" ∈ names ∧ names.Nodup ∧
          (names ++ ["release"]).IsChain crossReferring.Refers ∧
          "release > testing > release" = joinWith sourceSeparator (names ++ ["release"]) := by
  have hlib : crossReferring.Quiet := Library.quiet_ofList _
  have hrun : clearing.Quiet := fun _ _ => .nil
  have htold : .circular "release > testing > release" "release" ∈
      (flatten (crossReferring.sourceIn Memory) clearing "release"
        ⟨⟨some motley⟩, none⟩).events := by
    decide +kernel
  have hcount : (flatten (crossReferring.sourceIn Memory) clearing "release"
      ⟨⟨some motley⟩, none⟩).answer.map List.length = .ok 4 := by
    decide +kernel
  cases htasks : (flatten (crossReferring.sourceIn Memory) clearing "release"
      ⟨⟨some motley⟩, none⟩).answer with
  | error e =>
    rw [htasks] at hcount
    cases hcount
  | ok tasks =>
    obtain ⟨hexact, hways⟩ := circular_of_flatten hlib hrun htasks
    exact ⟨hlib, hrun, tasks, rfl, hexact.1 ⟨_, _, htold⟩, (hways _ _).1 htold⟩

/-- A workflow with the empty name that refers to one that refers to itself. -/
def recurringBelowNameless : Library :=
  .ofList
    [("", [{ id := "go", name := "Go", kind := .nested, target := some "a", workflow := "",
             line := 1 }]),
      ("a", [{ id := "again", name := "Again", kind := .nested, target := some "a",
               workflow := "a", line := 1 }])]

/-- **A root without a name is not told.** Nothing fails here, and what is told is not a way from
the root. -/
theorem not_circular_from_nameless_root :
    ∃ path last, (flatten (recurringBelowNameless.sourceIn Memory) clearing ""
        ⟨⟨none⟩, none⟩).answer.map List.length = .ok 0 ∧
      .circular path last ∈ (flatten (recurringBelowNameless.sourceIn Memory) clearing ""
        ⟨⟨none⟩, none⟩).events ∧
      ¬ ∃ names, names.head? = some "" ∧ last ∈ names ∧
        path = joinWith sourceSeparator (names ++ [last]) := by
  refine ⟨"a > a", "a", by decide +kernel, by decide +kernel, ?_⟩
  rintro ⟨_ | ⟨name, names⟩, hroot, hlast, hpath⟩
  · cases hlast
  · obtain rfl : name = "" := by simpa using hroot
    obtain ⟨second, rest, rfl⟩ : ∃ second rest, names = second :: rest :=
      List.exists_cons_of_ne_nil (List.ne_nil_of_mem (by simpa using hlast : "a" ∈ names))
    -- What is joined behind an empty name begins with a separator.
    have hfirst := congrArg (fun s : String => s.toList.head?) hpath
    simp [joinWith, sourceSeparator] at hfirst

end Flattening

end Runbook
