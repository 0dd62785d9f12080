import Runbook.Proofs.Workflow.Conservation

/-!
# `Proofs/Workflow/Strictness` — what strictness changes

A strict and a lenient reader part at one thing only, a step with more than one marker. The lenient
one tells of every marker after the first, under the title and the line of the step (`toldExtra`), and
the strict one gives up at the first step of which there would be something to tell. So what is told
by the one decides what becomes of the other.

Which markers a step has is a matter of the document's account. None makes it a plain step; of several
the last one alone says what it does, and as many are told of as there are before it.
-/

set_option autoImplicit false

namespace Runbook

/-- The step that has a further marker, if an event tells of one, and the line of its heading. -/
def Event.extraMarker? : Event → Option (String × Nat)
  | .extraMarker step _ line _ => some (step, line)
  | _ => none

/-- The steps that are told to have a further marker, in order, once for each such marker. -/
def toldExtra (events : List Event) : List (String × Nat) := events.filterMap Event.extraMarker?

theorem toldExtra_append (es es' : List Event) :
    toldExtra (es ++ es') = toldExtra es ++ toldExtra es' := List.filterMap_append

theorem toldExtra_flatMap {α : Type} (f : α → List Event) (as : List α) :
    toldExtra (as.flatMap f) = as.flatMap fun a => toldExtra (f a) := List.filterMap_flatMap

end Runbook

namespace Runbook.Workflow

open Runbook.Text

/-! ## What is told of sections -/

theorem toldExtra_extraMarkers (workflow : String) (s : Section) :
    toldExtra (s.extraMarkers workflow) = List.replicate (s.marks.length - 1) (s.title, s.line) := by
  unfold toldExtra Section.extraMarkers
  rw [List.filterMap_map, ← List.length_tail]
  induction s.marks.tail with
  | nil => rfl
  | cons mark rest ih =>
    rw [List.filterMap_cons, ih]
    rfl

theorem toldExtra_endingEvents (workflow : String) (o : Outline) :
    toldExtra (o.endingEvents workflow) = [] := by
  unfold Outline.endingEvents
  split <;> rfl

/-- What a lenient reader tells of further markers, in the order of the sections. -/
theorem toldExtra_readSteps (workflow text : String) :
    toldExtra (readSteps .lenient workflow text).events =
      (Outline.ofText text).sections.flatMap fun s =>
        List.replicate (s.marks.length - 1) (s.title, s.line) := by
  show toldExtra ((Outline.ofText text).sections.flatMap (Section.extraMarkers workflow) ++
    (Outline.ofText text).endingEvents workflow) = _
  rw [toldExtra_append, toldExtra_flatMap, toldExtra_endingEvents, List.append_nil]
  simp only [toldExtra_extraMarkers]

/-- The first section that is told of is the first whose marks conflict. -/
theorem head?_told (sections : List Section) :
    (sections.flatMap fun s =>
        List.replicate (s.marks.length - 1) (s.title, s.line)).head? =
      (sections.find? Section.conflicted).map fun s => (s.title, s.line) := by
  induction sections with
  | nil => rfl
  | cons s more ih =>
    rw [List.flatMap_cons, List.head?_append, List.head?_replicate, ih, List.find?_cons]
    cases hc : s.conflicted with
    | true =>
      have hmarks : 2 ≤ s.marks.length := of_decide_eq_true hc
      rw [if_neg (by omega)]
      rfl
    | false =>
      have hmarks : ¬ 2 ≤ s.marks.length := of_decide_eq_false hc
      rw [if_pos (by omega)]
      rfl

/-- Sections on lines of their own are told of once for each mark after the first. -/
theorem count_told {sections : List Section} (h : (sections.map (·.line)).Nodup) {s : Section}
    (hs : s ∈ sections) :
    (sections.flatMap fun s =>
        List.replicate (s.marks.length - 1) (s.title, s.line)).count (s.title, s.line) =
      s.marks.length - 1 := by
  have hother : ∀ {sections : List Section}, s.line ∉ sections.map (·.line) →
      (sections.flatMap fun s =>
        List.replicate (s.marks.length - 1) (s.title, s.line)).count (s.title, s.line) = 0 := by
    intro sections hnot
    refine List.count_eq_zero.2 fun hmem => hnot ?_
    obtain ⟨other, hother, htold⟩ := List.mem_flatMap.1 hmem
    exact List.mem_map.2 ⟨other, hother, (Prod.mk.inj (List.eq_of_mem_replicate htold)).2.symm⟩
  induction sections with
  | nil => cases hs
  | cons first more ih =>
    obtain ⟨hnot, hmore⟩ := List.nodup_cons.1 h
    rw [List.flatMap_cons, List.count_append]
    rcases List.mem_cons.1 hs with rfl | hs
    · rw [List.count_replicate_self, hother hnot, Nat.add_zero]
    · have hne : (first.title, first.line) ≠ (s.title, s.line) := fun heq =>
        hnot (List.mem_map.2 ⟨s, hs, (Prod.mk.inj heq).2.symm⟩)
      rw [ih hmore hs, List.count_replicate, if_neg (by simpa using hne), Nat.zero_add]

/-! ## The two readers -/

/-- What a strict reader makes of a document can be told from what a lenient one does: it gives up
over the first step that is told to have a further marker, or else does the same. -/
theorem readSteps_strict_eq (workflow text : String) :
    readSteps .strict workflow text =
      match (toldExtra (readSteps .lenient workflow text).events).head? with
      | some (title, line) => .fail (.conflictingMarkers workflow title line)
      | none => readSteps .lenient workflow text := by
  rw [toldExtra_readSteps, head?_told]
  unfold readSteps
  dsimp only
  cases hfound : (Outline.ofText text).sections.find? Section.conflicted <;> rfl

/-! ## The markers of a segment -/

/-- The markers of a segment, in order. -/
def Segment.markers (s : Segment) : List Item := s.items.filter Item.isMarker

/-- The last marker is the last of the markers. -/
theorem Segment.lastMarker?_eq (s : Segment) : s.lastMarker? = s.markers.getLast? := by
  unfold Segment.lastMarker? Segment.markers
  rw [← List.head?_filter, List.filter_reverse, List.head?_reverse]

/-- A section has a mark for each marker of its segment. -/
theorem Segment.length_marks_toSection (s : Segment) (line : Nat) :
    (s.toSection line).marks.length = s.markers.length := by
  have hmarks : (s.toSection line).marks = s.items.filterMap Item.mark? := marks_classified s.items
  unfold Segment.markers
  rw [hmarks]
  induction s.items with
  | nil => rfl
  | cons item items ih =>
    cases item with
    | text line => exact ih
    | workflow line target => exact congrArg (· + 1) ih
    | loop line var block => exact congrArg (· + 1) ih

/-- Only a step without a marker is a plain one. -/
theorem Segment.Describes.kind_eq_task_iff {s : Segment} {workflow : String} {step : Step}
    (h : s.Describes workflow step) : step.kind = .task ↔ s.markers = [] := by
  rw [← List.getLast?_eq_none_iff, ← s.lastMarker?_eq]
  constructor
  · intro hkind
    cases hlast : s.lastMarker? with
    | none => rfl
    | some item =>
      cases item with
      | workflow line target => cases hkind.symm.trans (h.of_workflow line target hlast).1
      | loop line var block => cases hkind.symm.trans (h.of_loop line var block hlast).1
      | text line =>
        have hmarker : Item.isMarker (.text line) = true := List.find?_some hlast
        cases hmarker
  · exact fun hlast => (h.of_none hlast).1

/-- Each segment is told of once for each marker after the first. -/
theorem Account.Covers.count_toldExtra {account : Account} {text : String}
    (h : account.Covers (Text.lines text)) (workflow : String) {k : Nat} {segment : Segment}
    (hsegment : account.segments[k]? = some segment) :
    (toldExtra (readSteps .lenient workflow text).events).count
        (segment.title, (account.linesBefore k).length + 1) = segment.markers.length - 1 := by
  have hsections : (Outline.ofText text).sections =
      sectionsFrom (account.front.length + 1) account.segments := h.sections_eq
  have hget : (Outline.ofText text).sections[k]? =
      some (segment.toSection ((account.linesBefore k).length + 1)) := by
    rw [hsections, getElem?_sectionsFrom, hsegment, Account.linesBefore, List.length_append,
      Nat.add_right_comm]
    rfl
  have hnodup : ((Outline.ofText text).sections.map (·.line)).Nodup := by
    rw [hsections]
    exact (pairwise_line_sectionsFrom _ _).2.imp Nat.ne_of_lt
  rw [toldExtra_readSteps, ← segment.length_marks_toSection ((account.linesBefore k).length + 1)]
  exact count_told hnodup (List.mem_of_getElem? hget)

/-- **Strictness changes nothing but what becomes of conflicts.** A lenient reader takes every
document. A strict reader gives up exactly if the lenient one tells of a step with a further marker,
over the first such step, named by its title and the line of its heading; otherwise the two come to
the same. A step is plain if the document's account has no marker for it, and else it is what the last
one says; it is told of once for each marker but one. -/
theorem strict_of_lenient (workflow text : String) :
    ∃ (steps : List Step) (account : Account),
      (readSteps .lenient workflow text).outcome = .ok steps ∧
      readSteps .strict workflow text =
        (match (toldExtra (readSteps .lenient workflow text).events).head? with
        | some (title, line) => .fail (.conflictingMarkers workflow title line)
        | none => readSteps .lenient workflow text) ∧
      account.Covers (lines text) ∧
      (∀ other : Account, other.Covers (lines text) → other = account) ∧
      account.Describes workflow steps ∧
      ∀ (k : Nat) (segment : Segment) (step : Step),
        account.segments[k]? = some segment → steps[k]? = some step →
          (step.kind = .task ↔ segment.markers = []) ∧
          (toldExtra (readSteps .lenient workflow text).events).count
            (segment.title, (account.linesBefore k).length + 1) = segment.markers.length - 1 := by
  obtain ⟨account, hcovers⟩ := exists_covers (lines text)
  have hdescribes := hcovers.describes_steps workflow
  refine ⟨_, account, outcome_readSteps_lenient workflow text, readSteps_strict_eq workflow text,
    hcovers, fun other hother => hother.unique hcovers, hdescribes, ?_⟩
  intro k segment step hsegment hstep
  exact ⟨(hdescribes.describes k segment step hsegment hstep).kind_eq_task_iff,
    hcovers.count_toldExtra workflow hsegment⟩

end Runbook.Workflow
