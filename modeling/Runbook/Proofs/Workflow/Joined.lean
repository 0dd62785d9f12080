import Runbook.Proofs.Workflow.Boundary
import Runbook.Proofs.Workflow.Scan

/-!
# `Proofs/Workflow/Joined` — documents put one below the other

A document that begins with a heading can be put below another one, and each is read as if it stood
alone. For the one above nothing changes, and for the one below only the numbers of its lines. This
holds of what is wrong with a document too: the first step whose markers conflict is named, the one
above before the one below.

One condition is on the document above, which has to end outside every fenced block. Without it the
headings below may be quoted. A document that is refused needs no such condition, as a step whose
markers conflict is not mended by what comes later (`find?_conflicted_append`).
-/

set_option autoImplicit false

namespace Runbook

/-- An error in a document that stands so many lines further down. -/
def DocumentError.movedBy (n : Nat) : DocumentError → DocumentError
  | .conflictingMarkers workflow step line => .conflictingMarkers workflow step (line + n)
  | .notFound workflow path => .notFound workflow path
  | .undecodable workflow path fault => .undecodable workflow path fault

namespace Workflow

open Runbook.Text

/-- A section that stands so many lines further down. -/
def Section.movedBy (n : Nat) (s : Section) : Section := { s with line := s.line + n }

/-- A step that stands so many lines further down. -/
def Step.movedBy (n : Nat) (s : Step) : Step := { s with line := s.line + n }

/-- The reading of a document ends outside every fence, and in no command block. -/
def Outline.EndsOutside (o : Outline) : Prop := o.ending.depth = 0 ∧ o.ending ≠ .command

/-! ## Lines further down -/

theorem divide_add (line n : Nat) (cs : List Classified) : divide (line + n) cs =
    ((divide line cs).1, (divide line cs).2.map (Section.movedBy n)) := by
  induction cs generalizing line with
  | nil => rfl
  | cons c cs ih =>
    have hrest := ih (line + 1)
    rw [Nat.add_right_comm] at hrest
    rcases plain_or_heading c with hc | ⟨title, hc⟩
    · rw [divide_cons_of_plain hc, divide_cons_of_plain hc, hrest]
    · rw [hc, divide_cons_heading, divide_cons_heading, hrest]
      rfl

theorem step_movedBy (n : Nat) (s : Section) (workflow : String) :
    (s.movedBy n).step workflow = (s.step workflow).movedBy n := by
  have hmarks : (s.movedBy n).marks = s.marks := rfl
  unfold Section.step
  dsimp only
  rw [hmarks]
  cases s.marks.getLast? with
  | none => rfl
  | some mark => cases mark <;> rfl

theorem find?_conflicted_movedBy (n : Nat) (sections : List Section) :
    (sections.map (Section.movedBy n)).find? Section.conflicted =
      (sections.find? Section.conflicted).map (Section.movedBy n) := by
  rw [List.find?_map]
  rfl

/-! ## The sections of both -/

theorem fst_divide_scan {ms : List String} (h : BeginsStep ms) (line : Nat) :
    (divide line (scan (.preamble 0) ms).1).1 = [] := by
  cases ms with
  | nil => cases h
  | cons text rest =>
    obtain ⟨title, ht⟩ := Option.isSome_iff_exists.1 h
    rw [scan_cons, roleAt_preamble_heading ht]
    rfl

/-- At a heading a reading that has come to its end outside every block goes on as at first. -/
theorem scan_ending {ls ms : List String} (hms : BeginsStep ms)
    (hend : (Outline.ofLines ls).EndsOutside) :
    scan (scan (.preamble 0) ls).2 ms = scan (.preamble 0) ms := by
  obtain ⟨hdepth, hcommand⟩ := hend
  have hending : (Outline.ofLines ls).ending = (scan (.preamble 0) ls).2 := rfl
  have hdue : Place.Due (.preamble 0) ls := fun hgap => by cases hgap
  have hgap := scan_ne_gap hdue
  rw [hending] at hdepth hcommand
  cases hplace : (scan (.preamble 0) ls).2 with
  | preamble depth =>
    rw [hplace] at hdepth
    obtain rfl : depth = 0 := hdepth
    rfl
  | text depth =>
    rw [hplace] at hdepth
    obtain rfl : depth = 0 := hdepth
    exact scan_text_eq hms
  | gap => exact absurd hplace hgap
  | command => exact absurd hplace hcommand

theorem sections_append {ls ms : List String} (hms : BeginsStep ms)
    (hend : (Outline.ofLines ls).EndsOutside) :
    (Outline.ofLines (ls ++ ms)).sections = (Outline.ofLines ls).sections ++
      (Outline.ofLines ms).sections.map (Section.movedBy ls.length) := by
  show (divide 1 (scan (.preamble 0) (ls ++ ms)).1).2 = (divide 1 (scan (.preamble 0) ls).1).2 ++
    (divide 1 (scan (.preamble 0) ms).1).2.map (Section.movedBy ls.length)
  rw [scan_append hms, scan_ending hms hend]
  dsimp only
  rw [divide_append (fst_divide_scan hms _), length_scan, divide_add]

/-! ## Conflicts stay -/

theorem length_marks_le_append (cs ds : List Classified) :
    (marks cs).length ≤ (marks (cs ++ ds)).length := by
  induction cs with
  | nil => exact Nat.zero_le _
  | cons c cs ih =>
    obtain ⟨line, role⟩ := c
    cases role with
    | workflow target => exact Nat.succ_le_succ ih
    | loop var owns => exact Nat.succ_le_succ ih
    | preamble => exact ih
    | heading title => exact ih
    | gap => exact ih
    | opening => exact ih
    | command => exact ih
    | closing => exact ih
    | body => exact ih

/-- Further lines go to the last section, and so to those before the first one only if there is
none. -/
theorem exists_fst_divide_append (line : Nat) (cs ds : List Classified) :
    ∃ more, (divide line (cs ++ ds)).1 = (divide line cs).1 ++ more ∧
      ((divide line cs).2 ≠ [] → more = []) := by
  induction cs generalizing line with
  | nil => exact ⟨(divide line ds).1, rfl, fun hne => absurd rfl hne⟩
  | cons c cs ih =>
    rcases plain_or_heading c with hc | ⟨title, hc⟩
    · obtain ⟨more, hmore, hnil⟩ := ih (line + 1)
      refine ⟨more, ?_, ?_⟩
      · rw [List.cons_append, divide_cons_of_plain hc, divide_cons_of_plain hc, hmore]
        rfl
      · rw [divide_cons_of_plain hc]
        exact hnil
    · rw [hc]
      exact ⟨[], rfl, fun _ => rfl⟩

/-- The first section whose marks conflict is the same one, whatever follows. -/
theorem find?_conflicted_append {line : Nat} {cs : List Classified} {s : Section}
    (h : (divide line cs).2.find? Section.conflicted = some s) (ds : List Classified) :
    ∃ s', (divide line (cs ++ ds)).2.find? Section.conflicted = some s' ∧ s'.title = s.title ∧
      s'.line = s.line := by
  induction cs generalizing line with
  | nil => cases h
  | cons c cs ih =>
    rcases plain_or_heading c with hc | ⟨title, hc⟩
    · rw [divide_cons_of_plain hc] at h
      rw [List.cons_append, divide_cons_of_plain hc]
      exact ih h
    · obtain ⟨more, hmore, hnil⟩ := exists_fst_divide_append (line + 1) cs ds
      rw [hc, divide_cons_heading, List.find?_cons] at h
      rw [hc, List.cons_append, divide_cons_heading, List.find?_cons, hmore]
      split at h
      · next hconflicted =>
        -- The conflict is in the first section, which can only have got longer.
        obtain rfl := Option.some.inj h
        have hstill : Section.conflicted
            { title, line, lines := (divide (line + 1) cs).1 ++ more } = true := by
          unfold Section.conflicted Section.marks at hconflicted ⊢
          have hle := length_marks_le_append (divide (line + 1) cs).1 more
          simp only [decide_eq_true_eq] at hconflicted ⊢
          omega
        rw [hstill]
        exact ⟨_, rfl, rfl, rfl⟩
      · next hclear =>
        have hne : (divide (line + 1) cs).2 ≠ [] := by
          intro hnone
          rw [hnone] at h
          cases h
        rw [hnil hne, List.append_nil, hclear]
        exact ih h

/-! ## Documents -/

/-- The sections of a document in which one below another is read. -/
theorem sections_ofText_append {a b : String} (hb : BeginsStep (lines b))
    (ha : (Outline.ofText a).EndsOutside) : (Outline.ofText (a ++ "\n" ++ b)).sections =
      (Outline.ofText a).sections ++
        (Outline.ofText b).sections.map (Section.movedBy (lines a).length) := by
  unfold Outline.ofText
  rw [lines_append_newline]
  exact sections_append hb ha

theorem steps_ofText_append {a b : String} (hb : BeginsStep (lines b))
    (ha : (Outline.ofText a).EndsOutside) (workflow : String) :
    (Outline.ofText (a ++ "\n" ++ b)).steps workflow = (Outline.ofText a).steps workflow ++
      ((Outline.ofText b).steps workflow).map (Step.movedBy (lines a).length) := by
  unfold Outline.steps
  rw [sections_ofText_append hb ha, List.map_append, List.map_map, List.map_map]
  refine congrArg (_ ++ ·) (List.map_congr_left fun s _ => ?_)
  exact step_movedBy (lines a).length s workflow

/-- What is wrong with a document stays wrong above another one. -/
theorem outcome_readSteps_append_of_error {strictness : Strictness} {workflow a b : String}
    {e : DocumentError} (hb : BeginsStep (lines b))
    (h : (readSteps strictness workflow a).outcome = .error e) :
    (readSteps strictness workflow (a ++ "\n" ++ b)).outcome = .error e := by
  cases strictness with
  | lenient =>
    rw [outcome_readSteps_lenient] at h
    cases h
  | strict =>
    rw [outcome_readSteps_strict] at h ⊢
    cases hfind : (Outline.ofText a).sections.find? Section.conflicted with
    | none =>
      rw [hfind] at h
      cases h
    | some s =>
      rw [hfind] at h
      obtain rfl := Except.error.inj h
      obtain ⟨s', hfind', htitle, hline⟩ := find?_conflicted_append hfind
        (scan (scan (.preamble 0) (lines a)).2 (lines b)).1
      have hsections : (Outline.ofText (a ++ "\n" ++ b)).sections =
          (divide 1 ((scan (.preamble 0) (lines a)).1 ++
            (scan (scan (.preamble 0) (lines a)).2 (lines b)).1)).2 := by
        unfold Outline.ofText
        rw [lines_append_newline]
        show (divide 1 (scan (.preamble 0) (lines a ++ lines b)).1).2 = _
        rw [scan_append hb]
      rw [hsections, hfind']
      dsimp only
      rw [htitle, hline]

/-- A document that begins with a heading is read below another one as it is read alone. If the one
above is refused, both together are refused for the same reason. If it is read, and ends outside
every fence and command block, both together are read as the steps of the one and then those of the
other, so many lines further down; or they are refused for what is wrong with the one below. -/
theorem outcome_readSteps_append (strictness : Strictness) (workflow : String) {a b : String}
    (hb : BeginsStep (lines b)) :
    (∀ e, (readSteps strictness workflow a).outcome = .error e →
      (readSteps strictness workflow (a ++ "\n" ++ b)).outcome = .error e) ∧
    ((Outline.ofText a).EndsOutside →
      ∀ before, (readSteps strictness workflow a).outcome = .ok before →
        (∀ after, (readSteps strictness workflow b).outcome = .ok after →
          (readSteps strictness workflow (a ++ "\n" ++ b)).outcome =
            .ok (before ++ after.map (Step.movedBy (lines a).length))) ∧
        ∀ e, (readSteps strictness workflow b).outcome = .error e →
          (readSteps strictness workflow (a ++ "\n" ++ b)).outcome =
            .error (e.movedBy (lines a).length)) := by
  refine ⟨fun e he => outcome_readSteps_append_of_error hb he, fun ha before hbefore => ?_⟩
  have hsections := sections_ofText_append hb ha
  have hsteps := steps_ofText_append hb ha workflow
  obtain rfl := steps_of_readSteps hbefore
  cases strictness with
  | lenient =>
    simp only [outcome_readSteps_lenient]
    refine ⟨fun after hafter => ?_, fun e he => by cases he⟩
    obtain rfl := Except.ok.inj hafter
    rw [hsteps]
  | strict =>
    have hclear : (Outline.ofText a).sections.find? Section.conflicted = none := by
      rw [outcome_readSteps_strict] at hbefore
      cases hfind : (Outline.ofText a).sections.find? Section.conflicted with
      | none => rfl
      | some s =>
        rw [hfind] at hbefore
        cases hbefore
    have hfind : (Outline.ofText (a ++ "\n" ++ b)).sections.find? Section.conflicted =
        ((Outline.ofText b).sections.find? Section.conflicted).map
          (Section.movedBy (lines a).length) := by
      rw [hsections, List.find?_append, hclear, Option.none_or, find?_conflicted_movedBy]
    simp only [outcome_readSteps_strict, hfind, hsteps]
    cases hb : (Outline.ofText b).sections.find? Section.conflicted with
    | none =>
      refine ⟨fun after hafter => ?_, fun e he => by cases he⟩
      obtain rfl := Except.ok.inj hafter
      rfl
    | some s =>
      constructor
      · intro after hafter
        cases hafter
      · intro e he
        obtain rfl := Except.error.inj he
        rfl

/-- A document that ends in a loop marker and a blank line. -/
def waiting : String :=
  unlines ["### Step 1: A", "\x60\x60\x60", "### Step 9: Quoted", "\x60\x60\x60", "Text.",
    "<!-- loop:X -->", ""]

/-- A document whose second step has two markers, and one without the second of them. -/
def torn : String :=
  unlines ["### Step 1: B", "\x60\x60\x60", "ls", "\x60\x60\x60", "### Step 2: C",
    "<!-- workflow:w -->", "<!-- loop:Y -->"]

/-- The same document without its last line. -/
def whole : String :=
  unlines ["### Step 1: B", "\x60\x60\x60", "ls", "\x60\x60\x60", "### Step 2: C",
    "<!-- workflow:w -->"]

theorem outcome_readSteps_waiting :
    BeginsStep (lines whole) ∧ BeginsStep (lines torn) ∧ (Outline.ofText waiting).EndsOutside ∧
      (∃ before after, (readSteps .strict "w" waiting).outcome = .ok before ∧
        (readSteps .strict "w" whole).outcome = .ok after ∧
        (readSteps .strict "w" (waiting ++ "\n" ++ whole)).outcome =
          .ok (before ++ after.map (Step.movedBy 7)) ∧
        (before ++ after.map (Step.movedBy 7)).map (·.line) = [1, 8, 12]) ∧
      (readSteps .strict "w" (waiting ++ "\n" ++ torn)).outcome =
        .error (.conflictingMarkers "w" "C" 12) ∧
      (readSteps .strict "w" (torn ++ "\n" ++ whole)).outcome =
        .error (.conflictingMarkers "w" "C" 5) := by
  obtain ⟨hwhole, htorn, hends, hclear, hclear', hlength⟩ :
      BeginsStep (lines whole) ∧ BeginsStep (lines torn) ∧
      ((Outline.ofText waiting).ending.depth = 0 ∧ (Outline.ofText waiting).ending ≠ .command) ∧
      (∀ s ∈ (Outline.ofText waiting).sections, s.conflicted = false) ∧
      (∀ s ∈ (Outline.ofText whole).sections, s.conflicted = false) ∧
      (lines waiting).length = 7 := by
    decide +kernel
  obtain ⟨hfind, hlines⟩ :
      ((Outline.ofText torn).sections.find? Section.conflicted).map (fun s => (s.title, s.line)) =
        some ("C", 5) ∧
      ((Outline.ofText waiting).steps "w" ++
        ((Outline.ofText whole).steps "w").map (Step.movedBy 7)).map (·.line) = [1, 8, 12] := by
    decide +kernel
  have hbefore := outcome_readSteps hclear .strict "w"
  have hafter := outcome_readSteps hclear' .strict "w"
  have hrefused : (readSteps .strict "w" torn).outcome = .error (.conflictingMarkers "w" "C" 5) := by
    obtain ⟨s, hs, heq⟩ := Option.map_eq_some_iff.1 hfind
    obtain ⟨htitle, hline⟩ := Prod.mk.inj heq
    rw [outcome_readSteps_strict, hs]
    dsimp only
    rw [htitle, hline]
  have hjoined := (outcome_readSteps_append .strict "w" hwhole).2 hends _ hbefore
  have hlost := (outcome_readSteps_append .strict "w" htorn).2 hends _ hbefore
  rw [hlength] at hjoined hlost
  exact ⟨hwhole, htorn, hends, ⟨_, _, hbefore, hafter, hjoined.1 _ hafter, hlines⟩,
    hlost.2 _ hrefused, (outcome_readSteps_append .strict "w" hwhole).1 _ hrefused⟩

end Workflow

end Runbook
