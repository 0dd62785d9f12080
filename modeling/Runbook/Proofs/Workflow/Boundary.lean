import Runbook.Proofs.Workflow.Scan
import Runbook.Workflow.Reading

/-!
# `Proofs/Workflow/Boundary` — where steps begin

Two notions of a fenced block meet in a document with loops. The counter of the documentation takes
every line; the reader takes a loop's command block as a whole, up to the next fence of any kind.
They part where a command block ends at a fence with a label: the reader is outside every block then,
and the counter stands two higher, since a labelled fence opens.

A `Tally` keeps what the counter has too much. An end at a labelled fence is owed two, and a bare
fence at which the reader opens a block while the counter closes one pays it back. With that the
counter is known at every line (`Tally.count_after`), and with it where the steps begin: at every
heading at which the counter is zero, and besides at those that the reader meets while an end is
owed. Documents whose command blocks end at bare fences never owe anything.
-/

set_option autoImplicit false

namespace Runbook.Workflow

open Runbook.Text

/-! ## What the counter has too much -/

/-- The reader's own depth, one inside a command block, and the ends that are owed. -/
structure Tally where
  depth : Nat
  /-- Command blocks that ended at a labelled fence and have not been made up for. -/
  owed : Nat
  deriving DecidableEq, Repr

/-- The counter over all lines, as a tally has it. -/
def Tally.count (t : Tally) : Nat := t.depth + 2 * t.owed

/-- The tally after a line that both take alike. A bare fence outside every block opens one for the
reader; where an end is owed it closes one for the counter. -/
def Tally.across (t : Tally) (line : String) : Tally where
  depth := depthAfter t.depth line
  owed := if isFence line && !isLabelled line && t.depth == 0 then t.owed - 1 else t.owed

/-- The tally after a line in its role. -/
def Tally.after (t : Tally) (c : Classified) : Tally :=
  if c.2 = .closing ∧ isLabelled c.1 = true then { depth := 0, owed := t.owed + 1 }
  else t.across c.1

/-- A tally that goes with a place. Between a loop marker and its command block the block is still
to come. -/
def Tally.Fits (t : Tally) (rest : List String) : Place → Prop
  | .preamble depth | .text depth => t.depth = depth
  | .gap => t.depth = 0 ∧ hasBlock rest = true
  | .command => t.depth = 1

theorem Tally.across_of_not_isFence (t : Tally) {line : String} (h : isFence line = false) :
    t.across line = t := by
  unfold Tally.across
  rw [depthAfter_of_not_isFence h, h]
  rfl

theorem Tally.count_mk (depth owed : Nat) : (Tally.mk depth owed).count = depth + 2 * owed := rfl

/-- The line that pays an owed end back. -/
theorem Tally.across_bare_zero {line : String} (hf : isFence line = true)
    (hl : isLabelled line = false) (owed : Nat) : Tally.across ⟨0, owed⟩ line = ⟨1, owed - 1⟩ := by
  unfold Tally.across
  rw [hf, hl]
  exact congrArg (fun depth => Tally.mk depth (owed - 1)) (depthAfter_bare_zero hf hl)

theorem Tally.across_bare_succ {line : String} (hf : isFence line = true)
    (hl : isLabelled line = false) (depth owed : Nat) :
    Tally.across ⟨depth + 1, owed⟩ line = ⟨depth, owed⟩ := by
  unfold Tally.across
  rw [hf, hl]
  exact congrArg (fun depth => Tally.mk depth owed) (depthAfter_bare_succ hf hl depth)

theorem Tally.across_labelled {line : String} (hf : isFence line = true)
    (hl : isLabelled line = true) (depth owed : Nat) :
    Tally.across ⟨depth, owed⟩ line = ⟨depth + 1, owed⟩ := by
  unfold Tally.across
  rw [hf, hl]
  exact congrArg (fun depth => Tally.mk depth owed) (depthAfter_labelled hf hl depth)

/-- Where both take a line alike, the counter goes with the tally. -/
theorem Tally.count_across (t : Tally) (line : String) :
    (t.across line).count = depthAfter t.count line := by
  by_cases hf : isFence line = true
  · obtain ⟨depth, owed⟩ := t
    by_cases hl : isLabelled line = true
    · rw [Tally.across_labelled hf hl, depthAfter_labelled hf hl]
      simp only [Tally.count_mk]
      omega
    · rw [Bool.not_eq_true] at hl
      match depth, owed with
      | depth + 1, owed =>
        have hcount : Tally.count ⟨depth + 1, owed⟩ = (depth + 2 * owed) + 1 := by
          simp only [Tally.count_mk]
          omega
        rw [Tally.across_bare_succ hf hl, hcount, depthAfter_bare_succ hf hl]
        rfl
      | 0, 0 =>
        rw [Tally.across_bare_zero hf hl]
        exact (depthAfter_bare_zero hf hl).symm
      | 0, owed + 1 =>
        have hcount : Tally.count ⟨0, owed + 1⟩ = (2 * owed + 1) + 1 := by
          simp only [Tally.count_mk]
          omega
        rw [Tally.across_bare_zero hf hl, hcount, depthAfter_bare_succ hf hl]
        simp only [Tally.count_mk]
        omega
  · rw [Bool.not_eq_true] at hf
    rw [t.across_of_not_isFence hf, depthAfter_of_not_isFence hf]

theorem Tally.after_of_ne_closing (t : Tally) {line : String} {role : Role}
    (h : role ≠ .closing) : t.after (line, role) = t.across line := by
  unfold Tally.after
  rw [if_neg fun hc => h hc.1]

/-- Headings, markers and blank lines leave the tally alone. -/
theorem Tally.after_of_not_isFence (t : Tally) {line : String} {role : Role}
    (hrole : role ≠ .closing) (h : isFence line = false) : t.after (line, role) = t := by
  rw [t.after_of_ne_closing hrole, t.across_of_not_isFence h]

/-! ## One line -/

theorem eq_command_of_closing {place : Place} {line : String} {rest : List String}
    (h : (roleAt place line rest).1 = .closing) : place = .command ∧ isFence line = true := by
  obtain rfl := eq_command_of_roleAt (.inr h)
  cases hf : isFence line with
  | true => exact ⟨rfl, rfl⟩
  | false =>
    rw [roleAt_command hf] at h
    cases h

/-- The counter after a line is the one that the tally after the line has. -/
theorem Tally.count_after {t : Tally} {place : Place} {line : String} {rest : List String}
    (h : t.Fits (line :: rest) place) :
    (t.after (line, (roleAt place line rest).1)).count = depthAfter t.count line := by
  by_cases hc : (roleAt place line rest).1 = .closing ∧ isLabelled line = true
  · obtain ⟨rfl, hf⟩ := eq_command_of_closing hc.1
    have hdepth : t.depth = 1 := h
    rw [depthAfter_labelled hf hc.2]
    unfold Tally.after
    rw [if_pos hc]
    simp only [Tally.count, hdepth]
    omega
  · unfold Tally.after
    rw [if_neg hc, t.count_across]

theorem Tally.fits_preamble {t : Tally} {depth : Nat} (h : t.depth = depth) (line : String)
    (rest : List String) : (t.across line).Fits rest (.preamble (depthAfter depth line)) := by
  subst h
  rfl

theorem Tally.fits_text {t : Tally} {depth : Nat} (h : t.depth = depth) (line : String)
    (rest : List String) : (t.across line).Fits rest (.text (depthAfter depth line)) := by
  subst h
  rfl

/-- Outside every block, in the text of a step. -/
theorem Tally.fits_after_outside {t : Tally} {line : String} {rest : List String}
    (h : t.depth = 0) :
    (t.after (line, (roleOutside line rest).1)).Fits rest (roleOutside line rest).2 := by
  unfold roleOutside
  split
  · next title marker ht =>
    rw [t.after_of_not_isFence (by simp) (not_isFence_of_headingTitle? ht)]
    exact h
  · next target hm =>
    rw [t.after_of_not_isFence (by simp) (not_isFence_of_marker? hm)]
    exact h
  · next var hm =>
    split
    · next hb =>
      rw [t.after_of_not_isFence (by simp) (not_isFence_of_marker? hm)]
      exact ⟨h, hb⟩
    · rw [t.after_of_not_isFence (by simp) (not_isFence_of_marker? hm)]
      exact h
  · rw [t.after_of_ne_closing (by simp)]
    exact Tally.fits_text h line rest

theorem Tally.fits_after {t : Tally} {place : Place} {line : String} {rest : List String}
    (h : t.Fits (line :: rest) place) :
    (t.after (line, (roleAt place line rest).1)).Fits rest (roleAt place line rest).2 := by
  unfold roleAt
  split
  · split
    · next title ht =>
      rw [t.after_of_not_isFence (by simp) (not_isFence_of_headingTitle? ht)]
      exact h
    · rw [t.after_of_ne_closing (by simp)]
      exact Tally.fits_preamble h line rest
  · rw [t.after_of_ne_closing (by simp)]
    exact Tally.fits_preamble h line rest
  · exact Tally.fits_after_outside h
  · rw [t.after_of_ne_closing (by simp)]
    exact Tally.fits_text h line rest
  · obtain ⟨hdepth, hblock⟩ := h
    split
    · next hf =>
      rw [t.after_of_ne_closing (by simp)]
      show depthAfter t.depth line = 1
      rw [hdepth]
      by_cases hl : isLabelled line = true
      · exact depthAfter_labelled hf hl 0
      · exact depthAfter_bare_zero hf (Bool.not_eq_true _ ▸ hl)
    · next hf =>
      rw [Bool.not_eq_true] at hf
      rw [t.after_of_not_isFence (by simp) hf]
      refine ⟨hdepth, ?_⟩
      unfold hasBlock at hblock ⊢
      by_cases hblank : isBlankLine line = true
      · rwa [List.dropWhile_cons_of_pos hblank] at hblock
      · rw [List.dropWhile_cons_of_neg hblank] at hblock
        exact absurd hblock (by simp [hf])
  · split
    · next hf =>
      unfold Tally.after
      split
      · rfl
      · next hc =>
        have hl : isLabelled line = false := by simpa using hc
        have hdepth : t.depth = 1 := h
        show depthAfter t.depth line = 0
        rw [hdepth]
        exact depthAfter_bare_succ hf hl 0
    · next hf =>
      rw [t.after_of_not_isFence (by simp) ((Bool.not_eq_true _).mp hf)]
      exact h

/-! ## Steps and headings -/

/-- The role of a line that begins a step. -/
def Role.begins : Role → Bool
  | .heading _ => true
  | _ => false

theorem begins_roleAt {place : Place} {line : String} {rest : List String}
    (h : (roleAt place line rest).1.begins = true) :
    place.depth = 0 ∧ place ≠ .command ∧ (headingTitle? line).isSome = true := by
  unfold roleAt at h
  split at h
  · split at h
    · next ht => exact ⟨rfl, by simp, by simp [ht]⟩
    · cases h
  · cases h
  · unfold roleOutside at h
    split at h
    · next ht => exact ⟨rfl, by simp, by simp [ht]⟩
    · cases h
    · split at h <;> cases h
    · cases h
  · cases h
  · split at h <;> cases h
  · split at h <;> cases h

/-- A step begins only where the reader is outside every block. -/
theorem Tally.depth_of_begins {t : Tally} {place : Place} {line : String} {rest : List String}
    (hfit : t.Fits (line :: rest) place) (h : (roleAt place line rest).1.begins = true) :
    t.depth = 0 := by
  obtain ⟨hdepth, hcommand, -⟩ := begins_roleAt h
  cases place with
  | preamble depth => exact hfit.trans hdepth
  | text depth => exact hfit.trans hdepth
  | gap => exact hfit.1
  | command => exact absurd rfl hcommand

/-- A heading that finds the counter at zero begins a step. -/
theorem Tally.begins_of_count {t : Tally} {place : Place} {line : String} {rest : List String}
    (hfit : t.Fits (line :: rest) place) (hcount : t.count = 0)
    (h : (headingTitle? line).isSome = true) : (roleAt place line rest).1.begins = true := by
  obtain ⟨title, ht⟩ := Option.isSome_iff_exists.1 h
  have hdepth : t.depth = 0 := by
    unfold Tally.count at hcount
    omega
  cases place with
  | preamble depth =>
    obtain rfl : depth = 0 := hfit.symm.trans hdepth
    simp [roleAt, ht, Role.begins]
  | text depth =>
    obtain rfl : depth = 0 := hfit.symm.trans hdepth
    simp [roleAt, roleOutside, ht, Role.begins]
  | gap =>
    -- What stands here is blank or a fence, and neither is a heading.
    have hblock := hfit.2
    unfold hasBlock at hblock
    by_cases hblank : isBlankLine line = true
    · rw [headingTitle?_of_isBlankLine hblank] at ht
      cases ht
    · rw [List.dropWhile_cons_of_neg hblank] at hblock
      have hf : isFence line = true := by simpa using hblock
      rw [not_isFence_of_headingTitle? ht] at hf
      cases hf
  | command =>
    have hone : t.depth = 1 := hfit
    omega

/-! ## Whole documents -/

/-- The lines that begin steps, in lines that have `line` lines before them. -/
def beginnings (line : Nat) : List Classified → List Nat
  | [] => []
  | c :: rest =>
    if c.2.begins then (line + 1) :: beginnings (line + 1) rest else beginnings (line + 1) rest

theorem map_line_divide (line : Nat) (cs : List Classified) :
    (divide (line + 1) cs).2.map (·.line) = beginnings line cs := by
  induction cs generalizing line with
  | nil => rfl
  | cons c cs ih =>
    obtain ⟨text, role⟩ := c
    cases role <;> simp only [divide, beginnings, Role.begins, List.map_cons, ih] <;> rfl

/-- No step begins while an end is owed. -/
def SettledFrom (t : Tally) (cs : List Classified) : Prop :=
  ∀ front c back, cs = front ++ c :: back → c.2.begins = true → (front.foldl Tally.after t).owed = 0

theorem settledFrom_cons_iff {t : Tally} {c : Classified} {cs : List Classified} :
    SettledFrom t (c :: cs) ↔
      (c.2.begins = true → t.owed = 0) ∧ SettledFrom (t.after c) cs := by
  constructor
  · intro h
    refine ⟨h [] c cs rfl, fun front d back hcs => ?_⟩
    exact h (c :: front) d back (by rw [hcs, List.cons_append])
  · rintro ⟨hc, hcs⟩ front d back heq hd
    cases front with
    | nil =>
      obtain ⟨rfl, -⟩ := List.cons.inj heq
      exact hc hd
    | cons e front =>
      obtain ⟨rfl, hrest⟩ := List.cons.inj heq
      exact hcs front d back hrest hd

/-- What a reading from a place on has to do with the counter. A heading at which the counter is
zero always begins a step; whether nothing else does is a matter of the ends that are owed. -/
theorem beginnings_scan {t : Tally} {place : Place} {ls : List String} (hfit : t.Fits ls place)
    (line : Nat) :
    (outsideFrom line t.count ls).Sublist (beginnings line (scan place ls).1) ∧
      (beginnings line (scan place ls).1 = outsideFrom line t.count ls ↔
        SettledFrom t (scan place ls).1) := by
  induction ls generalizing t place line with
  | nil => exact ⟨.slnil, fun _ front c back h => by simp [scan] at h, fun _ => rfl⟩
  | cons text rest ih =>
    have hrest := ih (Tally.fits_after hfit) (line + 1)
    rw [Tally.count_after hfit] at hrest
    obtain ⟨hsub, hiff⟩ := hrest
    simp only [scan, beginnings, outsideFrom]
    rw [settledFrom_cons_iff, ← hiff]
    by_cases hb : (roleAt place text rest).1.begins = true
    · have hdepth := Tally.depth_of_begins hfit hb
      rw [if_pos hb, (begins_roleAt hb).2.2]
      by_cases howed : t.owed = 0
      · have hcount : t.count = 0 := by simp only [Tally.count, hdepth, howed]
        rw [hcount] at hsub hiff ⊢
        simp only [beq_self_eq_true, Bool.and_self, if_true, List.cons.injEq, true_and]
        exact ⟨hsub.cons_cons _, by simp [howed]⟩
      · have hcount : (t.count == 0) = false := by
          simp only [Tally.count, hdepth, beq_eq_false_iff_ne]
          omega
        rw [hcount]
        simp only [Bool.and_false, Bool.false_eq_true, if_false]
        refine ⟨hsub.cons _, fun heq => ?_, fun h => absurd (h.1 hb) howed⟩
        have hmem : line + 1 ∈ outsideFrom (line + 1) (depthAfter t.count text) rest :=
          heq ▸ List.mem_cons_self
        exact absurd (lt_of_mem_outsideFrom hmem) (Nat.lt_irrefl _)
    · have hno : ((headingTitle? text).isSome && t.count == 0) = false := by
        refine Bool.eq_false_iff.2 fun h => hb ?_
        rw [Bool.and_eq_true, beq_iff_eq] at h
        exact Tally.begins_of_count hfit h.2 h.1
      rw [if_neg hb, hno]
      simp only [Bool.false_eq_true, if_false]
      exact ⟨hsub, by simp [hb]⟩

/-- No line that ends a command block has a label. -/
def EndsBare (cs : List Classified) : Prop :=
  ∀ c ∈ cs, c.2 = .closing → isLabelled c.1 = false

theorem settledFrom_of_endsBare {t : Tally} {cs : List Classified} (ht : t.owed = 0)
    (h : EndsBare cs) : SettledFrom t cs := by
  induction cs generalizing t with
  | nil => exact fun front c back hcs => by simp at hcs
  | cons c cs ih =>
    refine settledFrom_cons_iff.2 ⟨fun _ => ht, ih ?_ fun d hd => h d (List.mem_cons_of_mem _ hd)⟩
    unfold Tally.after
    rw [if_neg fun hc => by simp [h c List.mem_cons_self hc.1] at hc]
    unfold Tally.across
    simp only [ht, Nat.zero_sub, ite_self]

theorem lines_steps_ofLines (workflow : String) (ls : List String) :
    ((Outline.ofLines ls).steps workflow).map (·.line) =
      (beginnings 0 (scan (.preamble 0) ls).1).map Int.ofNat := by
  rw [← map_line_divide, List.map_map]
  unfold Outline.steps
  rw [List.map_map]
  exact List.map_congr_left fun s _ => line_step workflow s

/-- Where the steps of a document begin. Every heading at which the fence counter is zero begins a
step. These are all if and only if no step begins while an end at a labelled fence is owed; so they
are all where command blocks end at bare fences. -/
theorem lines_of_readSteps {strictness : Strictness} {workflow text : String} {steps : List Step}
    (h : (readSteps strictness workflow text).outcome = .ok steps) :
    ((headingsOutside (lines text)).map Int.ofNat).Sublist (steps.map (·.line)) ∧
      (steps.map (·.line) = (headingsOutside (lines text)).map Int.ofNat ↔
        SettledFrom ⟨0, 0⟩ (scan (.preamble 0) (lines text)).1) ∧
      (EndsBare (scan (.preamble 0) (lines text)).1 →
        steps.map (·.line) = (headingsOutside (lines text)).map Int.ofNat) := by
  have hfit : (Tally.mk 0 0).Fits (lines text) (.preamble 0) := rfl
  obtain ⟨hsub, hiff⟩ := beginnings_scan hfit 0
  rw [steps_of_readSteps h, Outline.ofText, lines_steps_ofLines, headingsOutside_eq_outsideFrom,
    List.map_inj_right fun _ _ => Int.ofNat.inj]
  exact ⟨hsub.map _, hiff, fun hbare => hiff.2 (settledFrom_of_endsBare rfl hbare)⟩

/-- Sections without conflicting markers are read, however strictly. -/
theorem outcome_readSteps {text : String}
    (h : ∀ s ∈ (Outline.ofText text).sections, s.conflicted = false) (strictness : Strictness)
    (workflow : String) :
    (readSteps strictness workflow text).outcome =
      .ok ((Outline.ofText text).steps workflow) := by
  have hfind : (Outline.ofText text).sections.find? Section.conflicted = none := by
    rw [List.find?_eq_none]
    exact fun s hs => by simp [h s hs]
  unfold readSteps
  dsimp only
  rw [hfind]
  cases strictness <;> rfl

/-- A document whose loop command opens a block of its own, which ends the command for the reader
and leaves the counter in two blocks. -/
def sealedByLabel : String :=
  unlines ["### Step 1: A", "<!-- loop:X -->", "\x60\x60\x60bash", "cat <<EOF",
    "\x60\x60\x60python", "### Step 2: Fake", "\x60\x60\x60", "EOF", "\x60\x60\x60",
    "### Step 3: B"]

/-- A document with headings in a nested block and behind a command block that ends bare. -/
def sealedBare : String :=
  unlines ["### Step 1: A", "\x60\x60\x60md", "### Step 9: Quoted", "\x60\x60\x60bash",
    "\x60\x60\x60", "### Step 9: Quoted", "\x60\x60\x60", "<!-- loop:X -->", "",
    "\x60\x60\x60bash", "ls", "\x60\x60\x60", "### Step 2: B"]

theorem lines_of_sealedBare :
    ∃ steps, (readSteps .strict "w" sealedBare).outcome = .ok steps ∧
      EndsBare (scan (.preamble 0) (lines sealedBare)).1 ∧ steps.map (·.line) = [1, 13] ∧
      steps.map (·.line) = (headingsOutside (lines sealedBare)).map Int.ofNat := by
  obtain ⟨hclear, hbare, hlines⟩ : (∀ s ∈ (Outline.ofText sealedBare).sections,
      s.conflicted = false) ∧
      (∀ c ∈ (scan (.preamble 0) (lines sealedBare)).1,
        c.2 = .closing → isLabelled c.1 = false) ∧
      ((Outline.ofText sealedBare).steps "w").map (·.line) = [1, 13] := by
    decide +kernel
  have hread := outcome_readSteps hclear .strict "w"
  exact ⟨_, hread, hbare, hlines, (lines_of_readSteps hread).2.2 hbare⟩

/-- A step begins in a block that the counter has open. -/
theorem lines_of_sealedByLabel :
    ∃ steps, (readSteps .strict "w" sealedByLabel).outcome = .ok steps ∧
      steps.map (·.line) = [1, 6, 10] ∧ headingsOutside (lines sealedByLabel) = [1, 10] := by
  obtain ⟨hclear, hlines, hheadings⟩ : (∀ s ∈ (Outline.ofText sealedByLabel).sections,
      s.conflicted = false) ∧
      ((Outline.ofText sealedByLabel).steps "w").map (·.line) = [1, 6, 10] ∧
      headingsOutside (lines sealedByLabel) = [1, 10] := by
    decide +kernel
  exact ⟨_, outcome_readSteps hclear .strict "w", hlines, hheadings⟩

end Runbook.Workflow
