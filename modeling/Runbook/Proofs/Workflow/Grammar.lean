import Runbook.Proofs.Text.Grammar
import Runbook.Proofs.Workflow.Name

/-!
# `Proofs/Workflow/Grammar` — which lines are headings and markers

The lines that give a document its structure have a grammar each, with a slot for the name
(`headingForm`, `markerForm`). The grammars leave much open. The blanks around a name may be taken by
the slot or by what is around it, a bracket may begin a note or stand in the name, and an arrow may end
a marker or be a part of what it holds. What it is depends on the order in which the ways are tried.

The recognisers try nothing twice, and yet find what the grammars find. Up to the slot there is one way
only, because every run of blanks or digits is followed by something that cannot belong to it. The
blanks before the slot are taken as a whole if that leaves anything for the slot. Otherwise the last of
them is given back, which is how a name can be blank. A name ends at the first place behind which
nothing but blanks stands, or blanks and a note with a bracket at the end of the line
(`fits_headingForm_iff`). What a marker holds ends before the arrow at the end of the line and the
blanks that the arrow follows (`fits_arrow_iff`).
-/

set_option autoImplicit false

namespace Runbook.Workflow

open Runbook.Text Runbook.Text.Grammar

/-! ## Headings -/

theorem isBlank_of_isDigit {c : Char} (h : isDigit c = true) : isBlank c = false := by
  have hdigits : ∀ start ∈ digitZeros, ∀ d : Fin 10, isBlank (Char.ofNat (start + d)) = false := by
    decide
  obtain ⟨start, hstart, hrange⟩ := List.any_eq_true.1 h
  simp only [Bool.and_eq_true, decide_eq_true_eq] at hrange
  have hc := hdigits start hstart ⟨c.toNat - start, by omega⟩
  rwa [Nat.add_sub_cancel' hrange.1, Char.ofNat_toNat] at hc

/-- The heading of a step, with what stands behind its colon. -/
def IsHeading (line : String) (behind : List Char) : Prop :=
  ∃ gap gap' number, gap ≠ [] ∧ allBlank gap = true ∧ gap' ≠ [] ∧ allBlank gap' = true ∧
    number ≠ [] ∧ (∀ c ∈ number, isDigit c = true) ∧
    line.toList = "###".toList ++ gap ++ "Step".toList ++ gap' ++ number ++ ":".toList ++ behind

theorem afterColon?_eq_some_iff {line : String} {behind : List Char} :
    afterColon? line.toList = some behind ↔ IsHeading line behind := by
  constructor
  · intro h
    unfold afterColon? at h
    obtain ⟨cs₁, h₁, h⟩ := Option.bind_eq_some_iff.1 h
    obtain ⟨cs₂, h₂, h⟩ := Option.bind_eq_some_iff.1 h
    obtain ⟨cs₃, h₃, h⟩ := Option.bind_eq_some_iff.1 h
    obtain ⟨cs₄, h₄, h⟩ := Option.bind_eq_some_iff.1 h
    obtain ⟨cs₅, h₅, h₆⟩ := Option.bind_eq_some_iff.1 h
    obtain ⟨gap, hgapNe, hgap, rfl⟩ := exists_run_of_afterRun? h₂
    obtain ⟨gap', hgapNe', hgap', rfl⟩ := exists_run_of_afterRun? h₄
    obtain ⟨number, hnumberNe, hnumber, rfl⟩ := exists_run_of_afterRun? h₅
    obtain rfl := after?_eq_some_iff.1 h₃
    obtain rfl := after?_eq_some_iff.1 h₆
    refine ⟨gap, gap', number, hgapNe, List.all_eq_true.2 hgap, hgapNe', List.all_eq_true.2 hgap',
      hnumberNe, hnumber, ?_⟩
    rw [after?_eq_some_iff.1 h₁]
    simp only [List.append_assoc]
    rfl
  · rintro ⟨gap, gap', number, hgapNe, hgap, hgapNe', hgap', hnumberNe, hnumber, hline⟩
    -- No part begins like the run before it.
    have hstep : ∀ rest c, ("Step".toList ++ rest).head? = some c → isBlank c = false := by
      intro rest c hc
      obtain rfl := Option.some.inj hc
      decide
    have hdigit : ∀ rest c, (number ++ rest).head? = some c → isBlank c = false := by
      intro rest c hc
      obtain ⟨d, more, rfl⟩ := List.exists_cons_of_ne_nil hnumberNe
      obtain rfl := Option.some.inj hc
      exact isBlank_of_isDigit (hnumber d List.mem_cons_self)
    have hcolon : ∀ rest c, (":".toList ++ rest).head? = some c → isDigit c = false := by
      intro rest c hc
      obtain rfl := Option.some.inj hc
      decide
    have hgap : ∀ c ∈ gap, isBlank c = true := fun c hc => isBlank_of_mem hgap hc
    have hgap' : ∀ c ∈ gap', isBlank c = true := fun c hc => isBlank_of_mem hgap' hc
    simp only [List.append_assoc] at hline
    unfold afterColon?
    simp only [Option.bind_eq_bind]
    rw [hline, after?_append, Option.bind_some, afterRun?_append hgapNe hgap (hstep _),
      Option.bind_some, after?_append, Option.bind_some, afterRun?_append hgapNe' hgap' (hdigit _),
      Option.bind_some, afterRun?_append hnumberNe hnumber (hcolon _), Option.bind_some]
    exact after?_append _ _

theorem Kept.length_le_of_kept {title name name' cut cut' : List Char} (h : Kept title name cut)
    (h' : Kept title name' cut') : name.length ≤ name'.length := by
  by_cases hcut : cut' = []
  · subst hcut
    rw [← List.append_nil name', ← h'.title_eq, h.title_eq, List.length_append]
    exact Nat.le_add_right _ _
  · exact h.length_le (h'.getLast?_eq hcut) _ _ h'.title_eq (h'.beginsNote hcut)

/-- A title determines what is kept of it. -/
theorem Kept.eq_of_kept {title name name' cut cut' : List Char} (h : Kept title name cut)
    (h' : Kept title name' cut') : name = name' := by
  have hlength := Nat.le_antisymm (h.length_le_of_kept h') (h'.length_le_of_kept h)
  exact (List.append_inj (h.title_eq.symm.trans h'.title_eq) hlength).1

/-- A heading has a blank behind its colon and at least one character more, and its name is what is
kept of the text behind the blanks. -/
theorem headingTitle?_eq_some_iff {line name : String} :
    headingTitle? line = some name ↔ ∃ b behind cut, IsHeading line (b :: behind) ∧
      isBlank b = true ∧ behind ≠ [] ∧ Kept (trim behind) name.toList cut := by
  constructor
  · intro h
    unfold headingTitle? at h
    split at h
    · next b behind hafter =>
      by_cases hb : (isBlank b && !behind.isEmpty) = true
      · rw [if_pos hb] at h
        obtain rfl := Option.some.inj h
        simp only [Bool.and_eq_true, Bool.not_eq_true', List.isEmpty_eq_false_iff] at hb
        obtain ⟨cut, hkept⟩ := exists_kept (trim behind)
        refine ⟨b, behind, cut, afterColon?_eq_some_iff.1 hafter, hb.1, hb.2, ?_⟩
        rw [String.toList_ofList]
        exact hkept
      · rw [if_neg hb] at h
        cases h
    · cases h
  · rintro ⟨b, behind, cut, hheading, hb, hne, hkept⟩
    obtain ⟨cut', hkept'⟩ := exists_kept (trim behind)
    have hname : name = String.ofList (withoutNotes (trim behind)) := by
      rw [← hkept.eq_of_kept hkept', String.ofList_toList]
    have hcond : (isBlank b && !behind.isEmpty) = true := by simp [hb, hne]
    unfold headingTitle?
    rw [afterColon?_eq_some_iff.2 hheading, hname]
    exact if_pos hcond

/-! ## The grammar of headings -/

/-- Notes, with blanks before each. The brackets of a note may hold others. -/
def notes : Grammar :=
  many (run isBlank ++ literal "[".toList ++ many (one onLine) ++ literal "]".toList)

/-- The grammar of a heading, with a slot for its name. -/
def headingForm : Slotted where
  before := literal "###".toList ++ run isBlank ++ literal "Step".toList ++ run isBlank ++
    run isDigit ++ literal ":".toList ++ run isBlank
  within := someText
  behind := notes ++ many (one isBlank) ++ finish

/-- A note begins a text, and another or the same one ends it, blanks aside. -/
def IsNotes (cs : List Char) : Prop :=
  ∃ blanks inner back, cs = blanks ++ '[' :: (inner ++ ']' :: back) ∧ blanks ≠ [] ∧
    allBlank blanks = true ∧ allBlank back = true

/-- One note, and what is left behind it. -/
theorem mem_rests_note {cs rest : List Char} :
    rest ∈ (run isBlank ++ literal "[".toList ++ many (one onLine) ++ literal "]".toList).rests cs ↔
      ∃ blanks inner, cs = blanks ++ '[' :: (inner ++ ']' :: rest) ∧ blanks ≠ [] ∧
        allBlank blanks = true ∧ ∀ c ∈ inner, onLine c = true := by
  constructor
  · intro h
    obtain ⟨cs₃, h, hclose⟩ := mem_rests_append.1 h
    obtain ⟨cs₂, h, hmany⟩ := mem_rests_append.1 h
    obtain ⟨cs₁, hrun, hopen⟩ := mem_rests_append.1 h
    obtain ⟨blanks, hne, hblanks, rfl⟩ := mem_rests_run.1 hrun
    obtain rfl := mem_rests_literal.1 hopen
    obtain ⟨inner, hinner, rfl⟩ := mem_rests_many_one.1 hmany
    obtain rfl := mem_rests_literal.1 hclose
    exact ⟨blanks, inner, rfl, hne, List.all_eq_true.2 hblanks, hinner⟩
  · rintro ⟨blanks, inner, rfl, hne, hblanks, hinner⟩
    refine mem_rests_append.2 ⟨']' :: rest, mem_rests_append.2 ⟨inner ++ ']' :: rest,
      mem_rests_append.2 ⟨'[' :: (inner ++ ']' :: rest), ?_, ?_⟩, ?_⟩, ?_⟩
    · exact mem_rests_run.2 ⟨blanks, hne, fun c hc => isBlank_of_mem hblanks hc, rfl⟩
    · exact mem_rests_literal.2 rfl
    · exact mem_rests_many_one.2 ⟨inner, hinner, rfl⟩
    · exact mem_rests_literal.2 rfl

theorem allBlank_or_isNotes {cs rest : List Char} (h : rest ∈ notes.rests cs)
    (hrest : allBlank rest = true) : allBlank cs = true ∨ IsNotes cs := by
  -- Each note makes the text shorter.
  induction hlength : cs.length using Nat.strongRecOn generalizing cs with
  | ind n ih =>
    subst hlength
    rcases mem_rests_many.1 h with rfl | ⟨next, hnote, hlt, hmore⟩
    · exact .inl hrest
    · right
      obtain ⟨blanks, inner, rfl, hne, hblanks, -⟩ := mem_rests_note.1 hnote
      rcases ih next.length hlt hmore rfl with hblank | ⟨gap, further, back, rfl, -, -, hback⟩
      · exact ⟨blanks, inner, next, rfl, hne, hblanks, hblank⟩
      · refine ⟨blanks, inner ++ ']' :: (gap ++ '[' :: further), back, ?_, hne, hblanks, hback⟩
        simp only [List.append_assoc, List.cons_append]

/-- Behind the name of a heading fits what is blank or consists of notes. -/
theorem fits_headingForm_iff {cs : List Char} (hline : ∀ c ∈ cs, onLine c = true) :
    headingForm.behind.Fits cs ↔ allBlank cs = true ∨ IsNotes cs := by
  constructor
  · rintro ⟨rest, h⟩
    obtain ⟨last, h, hfinish⟩ := mem_rests_append.1 h
    obtain ⟨mid, hnotes, hblanks⟩ := mem_rests_append.1 h
    obtain ⟨rfl, -⟩ := mem_rests_finish.1 hfinish
    obtain ⟨blanks, hall, rfl⟩ := mem_rests_many_one.1 hblanks
    rw [List.append_nil] at hnotes
    exact allBlank_or_isNotes hnotes (List.all_eq_true.2 hall)
  · intro h
    -- Blanks are all that is left behind the notes.
    have hback : ∃ back, allBlank back = true ∧ back ∈ notes.rests cs := by
      rcases h with hblank | ⟨blanks, inner, back, rfl, hne, hblanks, hback⟩
      · exact ⟨cs, hblank, mem_rests_many.2 (.inl rfl)⟩
      · refine ⟨back, hback, mem_rests_many.2 (.inr ⟨back, ?_, ?_, mem_rests_many.2 (.inl rfl)⟩)⟩
        · refine mem_rests_note.2 ⟨blanks, inner, rfl, hne, hblanks, ?_⟩
          intro c hc
          apply hline
          simp [hc]
        · simp only [List.length_append, List.length_cons]
          omega
    obtain ⟨back, hblank, hback⟩ := hback
    refine ⟨[], mem_rests_append.2 ⟨[], mem_rests_append.2 ⟨back, hback, ?_⟩, ?_⟩⟩
    · refine mem_rests_many_one.2 ⟨back, fun c hc => isBlank_of_mem hblank hc, ?_⟩
      rw [List.append_nil]
    · exact mem_rests_finish.2 ⟨rfl, rfl⟩

theorem isNotes_append {cut back : List Char} (h : BeginsNote cut) (hlast : cut.getLast? = some ']')
    (hback : allBlank back = true) : IsNotes (cut ++ back) := by
  obtain ⟨blanks, rest, rfl, hne, hblanks⟩ := h
  rcases List.eq_nil_or_concat rest with rfl | ⟨inner, c, rfl⟩
  · rw [List.getLast?_concat] at hlast
    cases hlast
  · rw [List.concat_eq_append, ← List.cons_append, ← List.append_assoc, List.getLast?_concat] at hlast
    obtain rfl := Option.some.inj hlast
    refine ⟨blanks, inner, back, ?_, hne, hblanks, hback⟩
    simp

/-- What the slot of a heading takes of a title is what is kept of it. -/
theorem Kept.head?_filled {title name cut blanks : List Char} (h : Kept title name cut)
    (htitle : trim title = title) (hne : title ≠ []) (hblanks : allBlank blanks = true)
    (hline : ∀ c ∈ title ++ blanks, onLine c = true) :
    (filled someText headingForm.behind (title ++ blanks)).head? = some name := by
  have hsplit : title ++ blanks = name ++ (cut ++ blanks) := by
    rw [h.title_eq, List.append_assoc]
  rw [hsplit] at hline ⊢
  obtain ⟨hname, hrest⟩ := List.forall_mem_append.1 hline
  apply Text.head?_filled hname
  · intro hnil
    exact hne ((h.eq_nil_iff htitle).1 hnil)
  · rw [fits_headingForm_iff hrest]
    by_cases hcut : cut = []
    · left
      rw [hcut]
      exact hblanks
    · right
      have hlast := h.getLast?_eq hcut
      rw [h.title_eq, List.getLast?_append_of_ne_nil _ hcut] at hlast
      exact isNotes_append (h.beginsNote hcut) hlast hblanks
  · intro earlier later hcs _ hfits
    have hline' : ∀ c ∈ later, onLine c = true := by
      intro c hc
      apply hline
      rw [hcs]
      exact List.mem_append_right _ hc
    have htrim : trimEnd (earlier ++ later) = title := by
      rw [← hcs, ← hsplit, trimEnd_append_of_allBlank hblanks, ← htitle]
      exact trimEnd_eq_self fun _ => getLast?_trim
    rcases (fits_headingForm_iff hline').1 hfits with hblank | ⟨gap, inner, back, rfl, hgap, hgapBlank,
      hback⟩
    · -- Only blanks are left, so all of the title has been taken.
      rw [trimEnd_append_of_allBlank hblank] at htrim
      have hfront : name <+: trimEnd earlier := ⟨cut, by rw [htrim, h.title_eq]⟩
      exact (hfront.trans (isPrefix_trimEnd earlier)).length_le
    · -- Notes are left, and a name ends where the first note begins.
      have hnotes : earlier ++ (gap ++ '[' :: (inner ++ ']' :: back)) =
          (earlier ++ (gap ++ '[' :: inner)) ++ ']' :: back := by simp
      rw [hnotes, trimEnd_append_cons (by decide) hback] at htrim
      refine h.length_le ?_ earlier (gap ++ '[' :: (inner ++ [']'])) ?_ ?_
      · rw [← htrim, List.getLast?_concat]
      · simp [← htrim]
      · exact ⟨gap, _, rfl, hgap, hgapBlank⟩

/-- There is one way through a heading up to the blanks behind its colon. -/
theorem fillings_headingForm (cs : List Char) :
    headingForm.fillings cs = (afterColon? cs).toList.flatMap fun behind =>
      ((run isBlank).rests behind).flatMap (filled someText headingForm.behind) := by
  have hstep : "Step".toList = 'S' :: "tep".toList := rfl
  have hcolon : ":".toList = [':'] := rfl
  have hblank : isBlank 'S' = false := by decide
  have hdigit : isDigit ':' = false := by decide
  unfold Slotted.fillings afterColon?
  simp only [headingForm, rests_append, List.flatMap_assoc, hstep, hcolon, Option.bind_eq_bind,
    Option.toList_bind, Function.comp_def, flatMap_rests_run_literal hblank,
    flatMap_rests_run_literal hdigit, flatMap_rests_run_run fun _ => isBlank_of_isDigit]
  simp only [rests_literal]

/-- The slot takes what is behind the blanks, or the last of them if nothing is. -/
theorem trim_head?_filled_headingForm {behind : List Char} (hline : ∀ c ∈ behind, onLine c = true)
    (hne : behind ≠ []) :
    (((many (one isBlank)).rests behind).flatMap
      (filled someText headingForm.behind)).head?.map trim = some (withoutNotes (trim behind)) := by
  obtain ⟨cut, hkept⟩ := exists_kept (trim behind)
  by_cases hblank : allBlank behind = true
  · rcases List.eq_nil_or_concat behind with rfl | ⟨front, c, rfl⟩
    · exact absurd rfl hne
    · rw [List.concat_eq_append] at hblank hline ⊢
      obtain ⟨hfront, hc⟩ := allBlank_append.1 hblank
      have hlast := head?_flatMap_filled_concat (fun d hd => isBlank_of_mem hfront hd)
        (hline c (List.mem_append_right _ List.mem_cons_self)) (by simp)
        (filled_nil headingForm.behind) ((fits_headingForm_iff (List.forall_mem_nil _)).2 (.inl rfl))
      rw [hlast, Option.map_some, (trim_eq_nil_iff _).2 hblank, (trim_eq_nil_iff _).2 hc]
      rfl
  · have htitle : trim (trim behind) = trim behind := trim_trim behind
    obtain ⟨blanks, hblanks, hsplit⟩ := exists_trimEnd_append (trimStart behind)
    have hhead : (filled someText headingForm.behind (behind.dropWhile isBlank)).head? =
        some (withoutNotes (trim behind)) := by
      have hdrop : behind.dropWhile isBlank = trim behind ++ blanks := hsplit
      rw [hdrop]
      apply hkept.head?_filled htitle _ hblanks
      · intro c hc
        rw [← hdrop] at hc
        exact hline c ((List.dropWhile_suffix _).mem hc)
      · rwa [ne_eq, trim_eq_nil_iff]
    rw [head?_flatMap_rests_many_one hhead, Option.map_some, hkept.trim_eq htitle]

example : headingForm.filling? "### Step 7:   ".toList = some [' '] := by decide +kernel

/-- A heading is recognised if its grammar fits, and its name is the text of the slot without the blanks
around it. -/
theorem headingTitle?_eq_filling? {line : String} (hline : '\n' ∉ line.toList) :
    headingTitle? line =
      (headingForm.filling? line.toList).map fun text => String.ofList (trim text) := by
  unfold headingTitle? Slotted.filling?
  rw [fillings_headingForm]
  cases hafter : afterColon? line.toList with
  | none => rfl
  | some behind =>
    cases behind with
    | nil => rfl
    | cons b behind =>
      obtain ⟨front, hfront, -⟩ := exists_front_of_afterColon? hafter
      have hbehind : ∀ c ∈ behind, onLine c = true := by
        apply onLine_of_notMem
        intro hmem
        apply hline
        rw [hfront]
        simp [hmem]
      rw [Option.toList_some, List.flatMap_singleton, run, rests_append, rests_one_cons]
      by_cases hb : isBlank b = true
      · rw [if_pos hb, List.flatMap_singleton]
        by_cases hne : behind = []
        · subst hne
          simp [rests, repeats, filled_nil]
        · have hname := trim_head?_filled_headingForm hbehind hne
          have hcond : (isBlank b && !behind.isEmpty) = true := by simp [hb, hne]
          have hmap : (fun text => String.ofList (trim text)) = String.ofList ∘ trim := rfl
          rw [hmap, ← Option.map_map, hname]
          exact if_pos hcond
      · rw [if_neg hb]
        simp [hb]

/-! ## Markers -/

/-- A word that neither the blanks before it nor the `runner:` can be taken for. -/
def IsKeyword (word : String) : Prop :=
  ∃ w letters, word.toList = w :: letters ∧ isBlank w = false ∧ w ≠ 'r'

theorem isKeyword_workflow : IsKeyword "workflow" :=
  ⟨'w', "orkflow".toList, rfl, by decide, by decide⟩

theorem isKeyword_loop : IsKeyword "loop" := ⟨'l', "oop".toList, rfl, by decide, by decide⟩

theorem Marker.isKeyword_word (m : Marker) : IsKeyword m.word := by
  cases m with
  | workflow target => exact isKeyword_workflow
  | loop var => exact isKeyword_loop

/-- What is left behind the opening of a comment when blanks and `runner:` are dropped. -/
def dropRunner (cs : List Char) : List Char :=
  (after? "runner:".toList (trimStart cs)).getD (trimStart cs)

theorem after?_runner_eq_none {w : Char} (hw : w ≠ 'r') (cs : List Char) :
    after? "runner:".toList (w :: cs) = none := if_neg hw.symm

theorem dropRunner_append {word : String} (hword : IsKeyword word) {blanks runner : List Char}
    (hblanks : allBlank blanks = true) (hrunner : runner = [] ∨ runner = "runner:".toList)
    (rest : List Char) :
    dropRunner (blanks ++ (runner ++ (word.toList ++ rest))) = word.toList ++ rest := by
  obtain ⟨w, letters, hletters, hblank, hw⟩ := hword
  unfold dropRunner
  rw [hletters]
  rcases hrunner with rfl | rfl
  · have hstart : trimStart (blanks ++ ([] ++ (w :: letters ++ rest))) = w :: (letters ++ rest) := by
      apply trimStart_append hblanks
      intro c hc
      obtain rfl := Option.some.inj hc
      exact hblank
    rw [hstart, after?_runner_eq_none hw]
    rfl
  · have hstart : trimStart (blanks ++ ("runner:".toList ++ (w :: letters ++ rest))) =
        "runner:".toList ++ (w :: letters ++ rest) := by
      apply trimStart_append hblanks
      intro c hc
      obtain rfl := Option.some.inj hc
      decide
    rw [hstart, after?_append]
    rfl

theorem held?_eq_some {text : List Char} {name : String}
    (htext : allBlank text = false → name = String.ofList (trim text))
    (hblank : allBlank text = true → ∃ c, text.getLast? = some c ∧ name = String.ofList [c]) :
    held? text = some name := by
  unfold held?
  by_cases h : allBlank text = true
  · obtain ⟨c, hc, rfl⟩ := hblank h
    rw [if_pos h, hc]
    rfl
  · rw [if_neg h, htext (Bool.eq_false_iff.2 h)]

/-- A marker line falls apart in one way. -/
theorem Holds.exists_after? {word line name : String} {text : List Char} (hword : IsKeyword word)
    (h : Holds word line text name) : ∃ cs, after? "<!--".toList (trim line.toList) = some cs ∧
      dropRunner cs = word.toList ++ (":".toList ++ (text ++ "-->".toList)) := by
  obtain ⟨blanks, runner, hblanks, hrunner, hline⟩ := h.line_eq
  simp only [List.append_assoc] at hline
  rw [hline]
  exact ⟨_, after?_append _ _, dropRunner_append hword hblanks hrunner _⟩

theorem Holds.markerText?_eq {word line name : String} {text : List Char} (hword : IsKeyword word)
    (h : Holds word line text name) : markerText? word (trim line.toList) = some name := by
  obtain ⟨cs, hopen, hcs⟩ := h.exists_after? hword
  have hcolon : after? (word.toList ++ [':']) (dropRunner cs) = some (text ++ "-->".toList) := by
    rw [after?_eq_some_iff, hcs, List.append_assoc]
    rfl
  have harrow : before? "-->".toList (text ++ "-->".toList) = some text := before?_eq_some_iff.2 rfl
  unfold markerText?
  simp only [Option.bind_eq_bind]
  rw [hopen, Option.bind_some]
  change (after? (word.toList ++ [':']) (dropRunner cs)).bind _ = _
  rw [hcolon, Option.bind_some, harrow, Option.bind_some]
  exact held?_eq_some h.of_text h.of_blank

/-- No line is a marker of both kinds. -/
theorem Holds.not_loop {line target var : String} {text text' : List Char}
    (h : Holds "workflow" line text target) : ¬ Holds "loop" line text' var := by
  intro h'
  obtain ⟨cs, hopen, hcs⟩ := h.exists_after? isKeyword_workflow
  obtain ⟨cs', hopen', hcs'⟩ := h'.exists_after? isKeyword_loop
  rw [hopen] at hopen'
  obtain rfl := Option.some.inj hopen'
  rw [hcs] at hcs'
  change 'w' :: _ = 'l' :: _ at hcs'
  exact absurd (List.cons.inj hcs').1 (by decide)

theorem Holds.text_ne_nil {word line name : String} {text : List Char}
    (h : Holds word line text name) : text ≠ [] := by
  rintro rfl
  obtain ⟨c, hc, -⟩ := h.of_blank rfl
  cases hc

theorem marker?_eq_some_iff {line : String} {m : Marker} :
    marker? line = some m ↔ ∃ text, Holds m.word line text m.name := by
  constructor
  · exact exists_holds_of_marker?
  · rintro ⟨text, h⟩
    have htext := h.markerText?_eq m.isKeyword_word
    unfold marker?
    dsimp only
    cases m with
    | workflow target =>
      change markerText? "workflow" _ = some target at htext
      rw [htext]
    | loop var =>
      change markerText? "loop" _ = some var at htext
      cases hworkflow : markerText? "workflow" (trim line.toList) with
      | none => rw [htext]; rfl
      | some target =>
        obtain ⟨text', h'⟩ := exists_holds_of_markerText? hworkflow
        exact absurd h h'.not_loop

/-! ## The grammar of markers -/

/-- The end of a marker. -/
def arrow : Grammar := many (one isBlank) ++ literal "-->".toList ++ finish

/-- The grammar of a marker, with a slot for what it holds. -/
def markerForm (word : String) : Slotted where
  before := literal "<!--".toList ++ many (one isBlank) ++ opt (literal "runner:".toList) ++
    literal (word.toList ++ ":".toList) ++ many (one isBlank)
  within := someText
  behind := arrow

theorem fits_arrow_iff {cs : List Char} :
    arrow.Fits cs ↔ ∃ blanks, allBlank blanks = true ∧ cs = blanks ++ "-->".toList := by
  constructor
  · rintro ⟨rest, h⟩
    obtain ⟨last, h, hfinish⟩ := mem_rests_append.1 h
    obtain ⟨mid, hblanks, hliteral⟩ := mem_rests_append.1 h
    obtain ⟨rfl, -⟩ := mem_rests_finish.1 hfinish
    obtain rfl := mem_rests_literal.1 hliteral
    obtain ⟨blanks, hall, rfl⟩ := mem_rests_many_one.1 hblanks
    exact ⟨blanks, List.all_eq_true.2 hall, rfl⟩
  · rintro ⟨blanks, hblanks, rfl⟩
    refine ⟨[], mem_rests_append.2 ⟨[], mem_rests_append.2 ⟨"-->".toList, ?_, ?_⟩, ?_⟩⟩
    · exact mem_rests_many_one.2 ⟨blanks, fun c hc => isBlank_of_mem hblanks hc, rfl⟩
    · exact mem_rests_literal.2 rfl
    · exact mem_rests_finish.2 ⟨rfl, rfl⟩

/-- An arrow has no room for a name. -/
theorem filled_arrow_arrow : filled someText arrow "-->".toList = [] := by
  rw [List.eq_nil_iff_forall_not_mem]
  intro text htext
  obtain ⟨rest, hsplit, hne, hfits⟩ := exists_of_mem_filled htext
  obtain ⟨blanks, -, rfl⟩ := fits_arrow_iff.1 hfits
  have hlength := congrArg List.length hsplit
  simp only [List.length_append] at hlength
  have hpos := List.length_pos_iff.2 hne
  omega

/-- A name ends before the blanks that the arrow follows. -/
theorem head?_filled_arrow {text blanks : List Char} (hline : ∀ c ∈ text, onLine c = true)
    (hne : text ≠ []) (hblanks : allBlank blanks = true)
    (hleast : ∀ earlier later, text ++ blanks = earlier ++ later → earlier ≠ [] →
      allBlank later = true → text.length ≤ earlier.length) :
    (filled someText arrow (text ++ (blanks ++ "-->".toList))).head? = some text := by
  apply Text.head?_filled hline hne
  · exact fits_arrow_iff.2 ⟨blanks, hblanks, rfl⟩
  · intro earlier later hsplit hearlier hfits
    obtain ⟨gap, hgap, rfl⟩ := fits_arrow_iff.1 hfits
    rw [← List.append_assoc, ← List.append_assoc] at hsplit
    exact hleast earlier gap (List.append_cancel_right hsplit) hearlier hgap

theorem isBlank_of_head?_arrow : ∀ c, "-->".toList.head? = some c → isBlank c = false := by
  intro c hc
  obtain rfl := Option.some.inj hc
  decide

/-- Without an arrow at the end of the line there is nothing to be held. -/
theorem flatMap_filled_arrow_of_none {cs : List Char} (h : before? "-->".toList cs = none) :
    ((many (one isBlank)).rests cs).flatMap (filled someText arrow) = [] := by
  rw [List.eq_nil_iff_forall_not_mem]
  intro text htext
  obtain ⟨start, hstart, hfilled⟩ := List.mem_flatMap.1 htext
  obtain ⟨front, -, rfl⟩ := mem_rests_many_one.1 hstart
  obtain ⟨rest, rfl, -, hfits⟩ := exists_of_mem_filled hfilled
  obtain ⟨blanks, -, rfl⟩ := fits_arrow_iff.1 hfits
  have hsome : before? "-->".toList (front ++ (text ++ (blanks ++ "-->".toList))) =
      some (front ++ (text ++ blanks)) := by
    rw [before?_eq_some_iff]
    simp only [List.append_assoc]
  rw [h] at hsome
  cases hsome

theorem head?_filled_arrow_of_blank {text : List Char} (hline : ∀ c ∈ text, onLine c = true)
    (hblank : allBlank text = true) :
    (((many (one isBlank)).rests (text ++ "-->".toList)).flatMap (filled someText arrow)).head? =
      text.getLast?.map fun c => [c] := by
  rcases List.eq_nil_or_concat text with rfl | ⟨front, c, rfl⟩
  · rw [List.nil_append, rests_many_one_of_head? isBlank_of_head?_arrow, List.flatMap_singleton,
      filled_arrow_arrow]
    rfl
  · rw [List.concat_eq_append] at hblank hline ⊢
    obtain ⟨hfront, hc⟩ := allBlank_append.1 hblank
    have hlast := head?_flatMap_filled_concat (fun d hd => isBlank_of_mem hfront hd)
      (hline c (List.mem_append_right _ List.mem_cons_self)) isBlank_of_head?_arrow
      filled_arrow_arrow (fits_arrow_iff.2 ⟨[], rfl, rfl⟩)
    rw [List.append_assoc, List.singleton_append, hlast, List.getLast?_concat]
    rfl

theorem head?_filled_arrow_of_text {text : List Char} (hline : ∀ c ∈ text, onLine c = true)
    (htext : allBlank text = false) :
    (((many (one isBlank)).rests (text ++ "-->".toList)).flatMap (filled someText arrow)).head? =
      some (trim text) := by
  obtain ⟨blanks, hblanks, hsplit⟩ := exists_trimEnd_append (trimStart text)
  have hdrop : (text ++ "-->".toList).dropWhile isBlank = trim text ++ (blanks ++ "-->".toList) := by
    rw [← List.append_assoc, trim, ← hsplit]
    exact trimStart_append_of_text htext _
  apply head?_flatMap_rests_many_one
  rw [hdrop]
  apply head?_filled_arrow _ _ hblanks
  · intro earlier later hcs _ hlater
    have htrim : trim text = trimEnd earlier := by
      rw [← trimEnd_append_of_allBlank hlater, ← hcs, trimEnd_append_of_allBlank hblanks]
      exact (trimEnd_eq_self fun _ => getLast?_trim).symm
    rw [htrim]
    exact (isPrefix_trimEnd earlier).length_le
  · intro c hc
    exact hline c (mem_of_mem_trim hc)
  · rw [ne_eq, trim_eq_nil_iff, htext]
    decide

/-- The slot takes what a marker holds. -/
theorem head?_filled_markerForm {cs : List Char} (hline : ∀ c ∈ cs, onLine c = true) :
    (((many (one isBlank)).rests cs).flatMap (filled someText arrow)).head?.map String.ofList =
      (before? "-->".toList cs).bind held? := by
  cases harrow : before? "-->".toList cs with
  | none =>
    rw [flatMap_filled_arrow_of_none harrow]
    rfl
  | some text =>
    obtain rfl := before?_eq_some_iff.1 harrow
    obtain ⟨htext, -⟩ := List.forall_mem_append.1 hline
    rw [Option.bind_some, held?]
    by_cases hblank : allBlank text = true
    · rw [if_pos hblank, head?_filled_arrow_of_blank htext hblank, Option.map_map]
      rfl
    · rw [if_neg hblank, head?_filled_arrow_of_text htext (Bool.eq_false_iff.2 hblank)]
      rfl

theorem dropRunner_suffix (cs : List Char) : dropRunner cs <:+ cs := by
  have hstart : trimStart cs <:+ cs := List.dropWhile_suffix _
  unfold dropRunner
  cases hafter : after? "runner:".toList (trimStart cs) with
  | none => exact hstart
  | some rest =>
    have hrest : rest <:+ trimStart cs := ⟨_, (after?_eq_some_iff.1 hafter).symm⟩
    exact hrest.trans hstart

/-- All blanks are dropped, and `runner:` is if it is there, where neither can be what comes next. -/
theorem flatMap_rests_runner {α : Type} {k : List Char → List α}
    (hblank : ∀ c rest, isBlank c = true → k (c :: rest) = [])
    (hrunner : ∀ rest, k ("runner:".toList ++ rest) = []) (cs : List Char) :
    ((many (one isBlank)).rests cs).flatMap (fun rest =>
      ((opt (literal "runner:".toList)).rests rest).flatMap k) = k (dropRunner cs) := by
  have hopt : ∀ cs, ((opt (literal "runner:".toList)).rests cs).flatMap k =
      (after? "runner:".toList cs).toList.flatMap k ++ k cs := by
    intro cs
    rw [rests, rests_literal, List.flatMap_append, List.flatMap_singleton]
  rw [flatMap_rests_many_one, hopt]
  · have hdrop : cs.dropWhile isBlank = trimStart cs := rfl
    rw [hdrop]
    unfold dropRunner
    cases hafter : after? "runner:".toList (trimStart cs) with
    | none => rfl
    | some rest =>
      rw [after?_eq_some_iff.1 hafter, hrunner]
      simp
  · intro c rest hc
    have hne : c ≠ 'r' := by
      rintro rfl
      exact absurd hc (by decide)
    rw [hopt, after?_runner_eq_none hne, hblank c rest hc]
    rfl

/-- There is one way through a marker up to the blanks behind its colon. -/
theorem fillings_markerForm {word : String} (hword : IsKeyword word) (cs : List Char) :
    (markerForm word).fillings cs = (after? "<!--".toList cs).toList.flatMap fun cs =>
      (after? (word.toList ++ ":".toList) (dropRunner cs)).toList.flatMap fun cs =>
        ((many (one isBlank)).rests cs).flatMap (filled someText arrow) := by
  obtain ⟨w, letters, hletters, hblank, hw⟩ := hword
  have hnone : ∀ c rest, w ≠ c → after? (word.toList ++ ":".toList) (c :: rest) = none := by
    intro c rest hne
    rw [hletters]
    exact if_neg hne
  unfold Slotted.fillings
  simp only [markerForm, rests_append, List.flatMap_assoc]
  rw [rests_literal]
  congr 1
  funext cs
  rw [flatMap_rests_runner, rests_literal]
  · intro c rest hc
    have hne : w ≠ c := by
      rintro rfl
      rw [hblank] at hc
      cases hc
    rw [rests_literal, hnone c rest hne]
    rfl
  · intro rest
    rw [rests_literal]
    change (after? _ ('r' :: _)).toList.flatMap _ = _
    rw [hnone _ _ hw]
    rfl

/-- A marker of a kind is recognised if its grammar fits, and it holds the text of the slot. -/
theorem markerText?_eq_filling? {word : String} (hword : IsKeyword word) {cs : List Char}
    (hline : '\n' ∉ cs) :
    markerText? word cs = ((markerForm word).filling? cs).map String.ofList := by
  unfold Slotted.filling?
  rw [fillings_markerForm hword]
  unfold markerText?
  simp only [Option.bind_eq_bind]
  cases hopen : after? "<!--".toList cs with
  | none => rfl
  | some inner =>
    rw [Option.bind_some, Option.toList_some, List.flatMap_singleton]
    change (after? (word.toList ++ ":".toList) (dropRunner inner)).bind _ = _
    cases hcolon : after? (word.toList ++ ":".toList) (dropRunner inner) with
    | none => rfl
    | some behind =>
      rw [Option.bind_some, Option.toList_some, List.flatMap_singleton]
      refine (head?_filled_markerForm (onLine_of_notMem ?_)).symm
      intro hmem
      apply hline
      rw [after?_eq_some_iff.1 hopen]
      refine List.mem_append_right _ ((dropRunner_suffix inner).mem ?_)
      rw [after?_eq_some_iff.1 hcolon]
      exact List.mem_append_right _ hmem

theorem marker?_iff_filling? {line : String} (hline : '\n' ∉ line.toList) {m : Marker} :
    marker? line = some m ↔
      (markerForm m.word).filling? (trim line.toList) = some m.name.toList := by
  have hform : markerText? m.word (trim line.toList) =
      ((markerForm m.word).filling? (trim line.toList)).map String.ofList :=
    markerText?_eq_filling? m.isKeyword_word fun hmem => hline (mem_of_mem_trim hmem)
  rw [marker?_eq_some_iff]
  constructor
  · rintro ⟨text, h⟩
    rw [h.markerText?_eq m.isKeyword_word] at hform
    obtain ⟨held, hheld, hname⟩ := Option.map_eq_some_iff.1 hform.symm
    rw [hheld, ← hname, String.toList_ofList]
  · intro h
    rw [h, Option.map_some, String.ofList_toList] at hform
    exact exists_holds_of_markerText? hform

/-! ## What is recognised -/

/-- A heading is a line with its parts in order, and then a blank and at least one character more. Its
name is what is kept of the text behind the blanks. A marker has some text between its colon and the
arrow that ends it, and no line is a marker of both kinds. On a line that is what the grammars find,
when the ways through them are tried in their order. -/
theorem recognised_iff :
    (∀ line name, headingTitle? line = some name ↔ ∃ b behind cut, IsHeading line (b :: behind) ∧
      isBlank b = true ∧ behind ≠ [] ∧ Kept (trimEnd (trimStart behind)) name.toList cut) ∧
    (∀ line m, marker? line = some m ↔ ∃ text, text ≠ [] ∧ Holds m.word line text m.name) ∧
    (∀ line text text' target var, Holds "workflow" line text target →
      ¬ Holds "loop" line text' var) ∧
    ∀ line, '\n' ∉ line.toList →
      headingTitle? line =
        (headingForm.filling? line.toList).map (fun text => String.ofList (trim text)) ∧
      ∀ m, marker? line = some m ↔
        (markerForm m.word).filling? (trim line.toList) = some m.name.toList := by
  refine ⟨fun line name => headingTitle?_eq_some_iff, ?_, ?_, ?_⟩
  · intro line m
    rw [marker?_eq_some_iff]
    constructor
    · rintro ⟨text, h⟩
      exact ⟨text, h.text_ne_nil, h⟩
    · rintro ⟨text, -, h⟩
      exact ⟨text, h⟩
  · intro line text text' target var h
    exact h.not_loop
  · intro line hline
    exact ⟨headingTitle?_eq_filling? hline, fun m => marker?_iff_filling? hline⟩

/-- A heading with brackets in its name and in a note, a marker with an arrow in its text, and one with
nothing but blanks in it. -/
def trickyLines : List String :=
  ["###\tStep ٣:  Build[x] fast [if [it] breaks]  ", " <!--  runner:loop: a --> b -->",
    "<!--workflow: \t-->"]

theorem recognised_trickyLines : ∃ heading loop workflow, trickyLines = [heading, loop, workflow] ∧
    '\n' ∉ heading.toList ∧
    (headingForm.filling? heading.toList).map (fun text => String.ofList (trim text)) =
      some "Build[x] fast" ∧
    '\n' ∉ loop.toList ∧
    (markerForm "loop").filling? (trim loop.toList) = some "a --> b".toList ∧
    '\n' ∉ workflow.toList ∧
    (markerForm "workflow").filling? (trim workflow.toList) = some "\t".toList ∧
    Holds "workflow" workflow " \t".toList "\t" ∧ ¬ Holds "loop" workflow " \t".toList "\t" := by
  refine ⟨_, _, _, rfl, by decide, ?_, by decide, ?_, by decide, ?_, ?_⟩
  · rw [← (recognised_iff.2.2.2 _ (by decide)).1]
    decide +kernel
  · apply ((recognised_iff.2.2.2 _ (by decide)).2 (.loop "a --> b")).1
    decide +kernel
  · apply ((recognised_iff.2.2.2 _ (by decide)).2 (.workflow "\t")).1
    decide +kernel
  · have hworkflow : Holds "workflow" "<!--workflow: \t-->" " \t".toList "\t" :=
      ⟨⟨[], [], rfl, .inl rfl, by decide⟩, by decide, fun _ => ⟨'\t', by decide, by decide⟩⟩
    exact ⟨hworkflow, recognised_iff.2.2.1 _ _ _ _ _ hworkflow⟩

end Runbook.Workflow
