import Runbook.Proofs.Text.Trim
import Runbook.Proofs.Workflow.Conservation

/-!
# `Proofs/Workflow/Title` — what a name keeps of its title

The title of a heading is what stands behind its first colon, without the blanks around it
(`titleText`). A name keeps all of a title that does not end in a closing bracket. Of one that does,
it keeps what is before the first *beginning of a note*, a run of blanks that an opening bracket
follows (`Kept`). That is decided at the front of the title and nowhere else. So where text stands
between two notes, the text goes with them: of `Build [fast] now [optional]` only `Build` is left.

The characters of a title that stand in no brackets are counted by depth (`unbracketed`), and a name
keeps all of them exactly when nothing but notes stands behind the place where it ends.
-/

set_option autoImplicit false

namespace Runbook.Workflow

open Runbook.Text

/-! ## The heading of a step -/

/-- What stands behind the first colon of a line. -/
def behindColon (line : String) : List Char := (line.toList.dropWhile (· != ':')).tail

/-- The title on a heading line. -/
def titleText (line : String) : List Char := trim (behindColon line)

theorem behindColon_eq {line : String} {front back : List Char}
    (h : line.toList = front ++ ':' :: back) (hfront : ':' ∉ front) : behindColon line = back := by
  have hpass : ∀ c ∈ front, (c != ':') = true := by
    intro c hc
    rw [bne_iff_ne]
    rintro rfl
    exact hfront hc
  unfold behindColon
  rw [h, List.dropWhile_append_of_pos hpass, List.dropWhile_cons_of_neg (by simp)]
  rfl

/-- A run is taken off whole, and there is one. -/
theorem exists_run_of_afterRun? {p : Char → Bool} {cs rest : List Char}
    (h : afterRun? p cs = some rest) :
    ∃ run, run ≠ [] ∧ (∀ c ∈ run, p c = true) ∧ cs = run ++ rest := by
  cases cs with
  | nil => cases h
  | cons c more =>
    simp only [afterRun?] at h
    by_cases hc : p c = true
    · rw [if_pos hc] at h
      obtain rfl := Option.some.inj h
      refine ⟨c :: more.takeWhile p, List.cons_ne_nil _ _, ?_, ?_⟩
      · exact List.forall_mem_cons.2 ⟨hc, List.all_eq_true.1 List.all_takeWhile⟩
      · rw [List.cons_append, List.takeWhile_append_dropWhile]
    · rw [if_neg hc] at h
      cases h

theorem not_mem_of_forall {p : Char → Bool} {run : List Char} (h : ∀ c ∈ run, p c = true)
    {c : Char} (hc : p c = false) : c ∉ run := by
  intro hmem
  rw [h c hmem] at hc
  cases hc

/-- The colon of a heading is the first one on its line. -/
theorem exists_front_of_afterColon? {cs back : List Char} (h : afterColon? cs = some back) :
    ∃ front, cs = front ++ ':' :: back ∧ ':' ∉ front := by
  unfold afterColon? at h
  obtain ⟨cs₁, h₁, h⟩ := Option.bind_eq_some_iff.1 h
  obtain ⟨cs₂, h₂, h⟩ := Option.bind_eq_some_iff.1 h
  obtain ⟨cs₃, h₃, h⟩ := Option.bind_eq_some_iff.1 h
  obtain ⟨cs₄, h₄, h⟩ := Option.bind_eq_some_iff.1 h
  obtain ⟨cs₅, h₅, h₆⟩ := Option.bind_eq_some_iff.1 h
  obtain ⟨gap, -, hgap, rfl⟩ := exists_run_of_afterRun? h₂
  obtain ⟨gap', -, hgap', rfl⟩ := exists_run_of_afterRun? h₄
  obtain ⟨number, -, hnumber, rfl⟩ := exists_run_of_afterRun? h₅
  obtain rfl := after?_eq_some_iff.1 h₁
  obtain rfl := after?_eq_some_iff.1 h₃
  obtain rfl := after?_eq_some_iff.1 h₆
  refine ⟨"###".toList ++ gap ++ "Step".toList ++ gap' ++ number, by simp, ?_⟩
  have hcolon : isBlank ':' = false := by decide
  have hdigit : isDigit ':' = false := by decide
  simp only [List.mem_append, not_or]
  exact ⟨⟨⟨⟨by decide, not_mem_of_forall hgap hcolon⟩, by decide⟩, not_mem_of_forall hgap' hcolon⟩,
    not_mem_of_forall hnumber hdigit⟩

/-- What is left of a title when its notes are dropped. -/
def withoutNotes (title : List Char) : List Char :=
  if title.getLast? == some ']' then beforeNote title else title

/-- The name on a heading line is its title without notes. -/
theorem toList_of_headingTitle? {line name : String} (h : headingTitle? line = some name) :
    name.toList = withoutNotes (titleText line) := by
  unfold headingTitle? at h
  split at h
  · next c rest hafter =>
    obtain ⟨front, hline, hfront⟩ := exists_front_of_afterColon? hafter
    by_cases hc : (isBlank c && !rest.isEmpty) = true
    · rw [if_pos hc] at h
      obtain rfl := Option.some.inj h
      have hblank : isBlank c = true := by
        rw [Bool.and_eq_true] at hc
        exact hc.1
      -- The first of the blanks has been taken off already.
      have hstart : trimStart (c :: rest) = trimStart rest := List.dropWhile_cons_of_pos hblank
      unfold titleText
      rw [behindColon_eq hline hfront, String.toList_ofList, trim, hstart]
      rfl
    · rw [if_neg hc] at h
      cases h
  · cases h

theorem MetAll.headingTitle?_of_getElem? {segments : List Segment} (h : MetAll segments) {k : Nat}
    {s : Segment} (hs : segments[k]? = some s) : headingTitle? s.heading = some s.title := by
  induction segments generalizing k with
  | nil => cases hs
  | cons first more ih =>
    obtain ⟨htitle, -, hall⟩ := h
    cases k with
    | zero =>
      obtain rfl := Option.some.inj hs
      exact htitle
    | succ k => exact ih hall hs

/-- The heading of a segment stands behind the lines before the segment. -/
theorem getElem?_segmentLines (front : List String) {segments : List Segment} {k : Nat}
    {s : Segment} (hs : segments[k]? = some s) :
    (front ++ segmentLines segments)[(front ++ segmentLines (segments.take k)).length]? =
      some s.heading := by
  obtain ⟨hlt, rfl⟩ := List.getElem?_eq_some_iff.1 hs
  have hsplit : segmentLines segments = segmentLines (segments.take k) ++
      ((segments[k]).lines ++ segmentLines (segments.drop (k + 1))) := by
    unfold segmentLines
    rw [← List.flatMap_cons, ← List.flatMap_append, ← List.drop_eq_getElem_cons hlt,
      List.take_append_drop]
  rw [hsplit, ← List.append_assoc, List.getElem?_append_right (Nat.le_refl _), Nat.sub_self]
  rfl

/-- Every step is described by a segment of its document. -/
theorem exists_segment_of_readSteps {strictness : Strictness} {workflow text : String}
    {steps : List Step} (h : (readSteps strictness workflow text).outcome = .ok steps) {s : Step}
    (hs : s ∈ steps) : ∃ (account : Account) (k : Nat) (segment : Segment),
      account.Covers (lines text) ∧ account.segments[k]? = some segment ∧
        s.line = (account.linesBefore k).length + 1 ∧ segment.Describes workflow s := by
  obtain ⟨account, hcovers⟩ := exists_covers (lines text)
  obtain rfl := steps_of_readSteps h
  have hdescribes := hcovers.describes_steps workflow
  obtain ⟨k, hk⟩ := List.mem_iff_getElem?.1 hs
  have hlt : k < account.segments.length := by
    rw [← hdescribes.length_eq]
    exact (List.getElem?_eq_some_iff.1 hk).1
  have hsegment := List.getElem?_eq_getElem hlt
  exact ⟨account, k, _, hcovers, hsegment, hdescribes.line_eq k s hk,
    hdescribes.describes k _ s hsegment hk⟩

/-- Every step stands on a heading line, and has its name from there. -/
theorem exists_heading_of_readSteps {strictness : Strictness} {workflow text : String}
    {steps : List Step} (h : (readSteps strictness workflow text).outcome = .ok steps) {s : Step}
    (hs : s ∈ steps) : ∃ (k : Nat) (line : String), s.line = k + 1 ∧
      (lines text)[k]? = some line ∧ headingTitle? line = some s.name := by
  obtain ⟨account, k, segment, hcovers, hsegment, hline, hdescribes⟩ :=
    exists_segment_of_readSteps h hs
  refine ⟨_, segment.heading, hline, ?_, ?_⟩
  · rw [← hcovers.lines_eq]
    exact getElem?_segmentLines account.front hsegment
  · rw [hdescribes.name_eq]
    exact hcovers.metAll.headingTitle?_of_getElem? hsegment

/-! ## Where a name ends -/

/-- Blanks, one at least, and then an opening bracket. -/
def BeginsNote (cs : List Char) : Prop :=
  ∃ blanks rest, cs = blanks ++ '[' :: rest ∧ blanks ≠ [] ∧ allBlank blanks = true

theorem BeginsNote.ne_nil {cs : List Char} (h : BeginsNote cs) : cs ≠ [] := by
  obtain ⟨blanks, rest, rfl, -, -⟩ := h
  exact List.append_ne_nil_of_right_ne_nil _ (List.cons_ne_nil _ _)

theorem beginsNote_cons_iff {c : Char} {rest : List Char} :
    BeginsNote (c :: rest) ↔ (isBlank c && (trimStart rest).head? == some '[') = true := by
  rw [Bool.and_eq_true, beq_iff_eq]
  constructor
  · rintro ⟨blanks, back, hcs, hne, hblanks⟩
    cases blanks with
    | nil => exact absurd rfl hne
    | cons b blanks =>
      obtain ⟨rfl, hrest⟩ := List.cons.inj hcs
      have hmore : ∀ d ∈ blanks, isBlank d = true :=
        fun d hd => isBlank_of_mem hblanks (List.mem_cons_of_mem _ hd)
      refine ⟨isBlank_of_mem hblanks List.mem_cons_self, ?_⟩
      rw [hrest, trimStart, List.append_eq, List.dropWhile_append_of_pos hmore,
        List.dropWhile_cons_of_neg (by decide)]
      rfl
  · rintro ⟨hc, hhead⟩
    have hsplit := List.takeWhile_append_dropWhile (p := isBlank) (l := rest)
    obtain ⟨back, hback⟩ := List.head?_eq_some_iff.1 hhead
    refine ⟨c :: rest.takeWhile isBlank, back, ?_, List.cons_ne_nil _ _, ?_⟩
    · rw [List.cons_append, ← hback]
      exact congrArg (c :: ·) hsplit.symm
    · exact allBlank_cons.2 ⟨hc, List.all_takeWhile⟩

/-- A title has been cut: the name is its front and the cut the rest. A title that ends otherwise than
in a closing bracket is not cut at all; of another one, everything from the first beginning of a note
is. -/
structure Kept (title name cut : List Char) : Prop where
  title_eq : title = name ++ cut
  getLast?_eq : cut ≠ [] → title.getLast? = some ']'
  beginsNote : cut ≠ [] → BeginsNote cut
  length_le : title.getLast? = some ']' → ∀ earlier later, title = earlier ++ later →
    BeginsNote later → name.length ≤ earlier.length

/-- The first beginning of a note, if there is one, is where `beforeNote` stops. -/
theorem exists_beforeNote_append (cs : List Char) : ∃ cut, cs = beforeNote cs ++ cut ∧
    (cut ≠ [] → BeginsNote cut) ∧ ∀ earlier later, cs = earlier ++ later → BeginsNote later →
      (beforeNote cs).length ≤ earlier.length := by
  induction cs with
  | nil => exact ⟨[], rfl, fun h => absurd rfl h, fun _ _ _ _ => Nat.zero_le _⟩
  | cons c rest ih =>
    by_cases hnote : BeginsNote (c :: rest)
    · have hstop : beforeNote (c :: rest) = [] := if_pos (beginsNote_cons_iff.1 hnote)
      rw [hstop]
      exact ⟨c :: rest, rfl, fun _ => hnote, fun _ _ _ _ => Nat.zero_le _⟩
    · have hgo : beforeNote (c :: rest) = c :: beforeNote rest :=
        if_neg fun h => hnote (beginsNote_cons_iff.2 h)
      obtain ⟨cut, hcut, hbegins, hfirst⟩ := ih
      rw [hgo]
      refine ⟨cut, congrArg (c :: ·) hcut, hbegins, ?_⟩
      intro earlier later hcs hlater
      cases earlier with
      | nil =>
        rw [List.nil_append] at hcs
        exact absurd (hcs ▸ hlater) hnote
      | cons d earlier =>
        obtain ⟨-, hrest⟩ := List.cons.inj hcs
        exact Nat.succ_le_succ (hfirst earlier later hrest hlater)

theorem exists_kept (title : List Char) : ∃ cut, Kept title (withoutNotes title) cut := by
  unfold withoutNotes
  by_cases hlast : title.getLast? = some ']'
  · rw [if_pos (beq_iff_eq.2 hlast)]
    obtain ⟨cut, hcut, hbegins, hfirst⟩ := exists_beforeNote_append title
    exact ⟨cut, hcut, fun _ => hlast, hbegins, fun _ => hfirst⟩
  · rw [if_neg fun h => hlast (beq_iff_eq.1 h)]
    exact ⟨[], (List.append_nil _).symm, fun h => absurd rfl h, fun h => absurd rfl h,
      fun h => absurd h hlast⟩

/-- Blanks before the first opening bracket of a text are before it in every part of the text. -/
theorem allBlank_of_append_eq {front back blanks rest : List Char} (hfront : '[' ∉ front)
    (h : front ++ back = blanks ++ '[' :: rest) (hblanks : allBlank blanks = true) :
    allBlank front = true := by
  induction front generalizing blanks with
  | nil => rfl
  | cons c front ih =>
    cases blanks with
    | nil =>
      obtain ⟨rfl, -⟩ := List.cons.inj h
      exact absurd List.mem_cons_self hfront
    | cons b blanks =>
      obtain ⟨rfl, htail⟩ := List.cons.inj h
      obtain ⟨hc, hmore⟩ := allBlank_cons.1 hblanks
      have hrest := ih (fun hmem => hfront (List.mem_cons_of_mem _ hmem)) htail hmore
      exact allBlank_cons.2 ⟨hc, hrest⟩

/-- Of a title whose front has no brackets and which has a note behind that and ends in one, nothing
but the front is left, whatever there is between the first bracket and the last. -/
theorem Kept.eq_trimEnd {title name cut front back : List Char} (h : Kept title name cut)
    (htitle : title = front ++ back) (hfront : '[' ∉ front) (hback : BeginsNote back)
    (hlast : title.getLast? = some ']') : name = trimEnd front := by
  obtain ⟨blanks, hblanks, hsplit⟩ := exists_trimEnd_append front
  -- The trimmed front is where a note begins, so the name is no longer.
  have hnote : BeginsNote (blanks ++ back) := by
    obtain ⟨gap, rest, rfl, hne, hgap⟩ := hback
    exact ⟨blanks ++ gap, rest, by rw [List.append_assoc],
      List.append_ne_nil_of_right_ne_nil _ hne, allBlank_append.2 ⟨hblanks, hgap⟩⟩
  have hcut : title = trimEnd front ++ (blanks ++ back) := by
    rw [← List.append_assoc, ← hsplit, htitle]
  have hle := h.length_le hlast _ _ hcut hnote
  have hname : name <+: title := ⟨cut, h.title_eq.symm⟩
  have hprefix : name <+: trimEnd front :=
    List.prefix_of_prefix_length_le hname ⟨blanks ++ back, hcut.symm⟩ hle
  -- What the trimmed front has more would be blanks, and it does not end in one.
  obtain ⟨more, hmore⟩ := hprefix
  have hrest : cut = more ++ (blanks ++ back) := by
    rw [h.title_eq, ← hmore, List.append_assoc] at hcut
    exact List.append_cancel_left hcut
  obtain ⟨gap, rest, hgap, -, hgapBlank⟩ := h.beginsNote <| by
    rw [hrest]
    exact List.append_ne_nil_of_right_ne_nil _ hnote.ne_nil
  have hbracket : '[' ∉ more := by
    intro hmem
    refine hfront ((isPrefix_trimEnd front).mem ?_)
    rw [← hmore]
    exact List.mem_append_right _ hmem
  have hblank := allBlank_of_append_eq hbracket (hrest.symm.trans hgap) hgapBlank
  rcases List.eq_nil_or_concat more with rfl | ⟨init, c, rfl⟩
  · rw [List.append_nil] at hmore
    exact hmore
  · exfalso
    have hlastChar : (trimEnd front).getLast? = some c := by
      rw [← hmore, List.concat_eq_append, ← List.append_assoc, List.getLast?_concat]
    have hc := getLast?_trimEnd hlastChar
    rw [isBlank_of_mem hblank (by simp)] at hc
    cases hc

/-! ## What stands in no brackets -/

/-- How many brackets are open behind a character. A closing bracket that closes none is passed over.
-/
def nesting (depth : Nat) (c : Char) : Nat :=
  if c = '[' then depth + 1 else if c = ']' then depth - 1 else depth

/-- The characters of a text that stand in no brackets, without the blanks. Before the text as many
brackets are open as `depth` says. -/
def unbracketed : Nat → List Char → List Char
  | _, [] => []
  | depth, c :: rest =>
    if depth = 0 ∧ c ≠ '[' ∧ isBlank c = false then c :: unbracketed (nesting depth c) rest
    else unbracketed (nesting depth c) rest

theorem unbracketed_append (depth : Nat) (cs ds : List Char) :
    unbracketed depth (cs ++ ds) =
      unbracketed depth cs ++ unbracketed (cs.foldl nesting depth) ds := by
  induction cs generalizing depth with
  | nil => rfl
  | cons c rest ih =>
    have hrest := ih (nesting depth c)
    rw [List.cons_append, List.foldl_cons]
    by_cases hc : depth = 0 ∧ c ≠ '[' ∧ isBlank c = false
    · simp only [unbracketed, if_pos hc]
      exact congrArg (c :: ·) hrest
    · simp only [unbracketed, if_neg hc]
      exact hrest

/-- A name keeps what its title has outside of brackets if nothing of the kind was cut. -/
theorem Kept.unbracketed_eq_iff {title name cut : List Char} (h : Kept title name cut) :
    unbracketed 0 title = unbracketed 0 name ↔ unbracketed (name.foldl nesting 0) cut = [] := by
  rw [h.title_eq, unbracketed_append]
  exact List.append_right_eq_self

/-! ## The names of a document -/

/-- What the name of every step is of the title on its heading line: the title up to the first
beginning of a note, if the title ends in a closing bracket, and the whole title otherwise. All that
the title has outside of brackets is kept if and only if notes alone stand behind the name. And for
a title with two notes and a text between them the name is what is before the first of them, whatever
the text is. -/
theorem kept_of_readSteps {strictness : Strictness} {workflow text : String} {steps : List Step}
    (h : (readSteps strictness workflow text).outcome = .ok steps) :
    ∀ s ∈ steps, ∃ (k : Nat) (line : String), s.line = k + 1 ∧ (lines text)[k]? = some line ∧
      (∃ cut, Kept (titleText line) s.name.toList cut ∧
        (unbracketed 0 (titleText line) = unbracketed 0 s.name.toList ↔
          unbracketed (s.name.toList.foldl nesting 0) cut = [])) ∧
      ∀ front first between second : List Char, '[' ∉ front →
        titleText line = front ++ " [".toList ++ first ++ "] ".toList ++ between ++
          " [".toList ++ second ++ "]".toList →
        s.name.toList = trimEnd front := by
  intro s hs
  obtain ⟨k, line, hline, hk, hheading⟩ := exists_heading_of_readSteps h hs
  have hname := toList_of_headingTitle? hheading
  obtain ⟨cut, hkept⟩ := exists_kept (titleText line)
  rw [← hname] at hkept
  refine ⟨k, line, hline, hk, ⟨cut, hkept, hkept.unbracketed_eq_iff⟩, ?_⟩
  intro front first between second hfront htitle
  have hsplit : titleText line = front ++ ([' '] ++ '[' ::
      (first ++ ("] ".toList ++ (between ++ (" [".toList ++ (second ++ "]".toList)))))) := by
    rw [htitle]
    simp only [List.append_assoc]
    rfl
  have hlast : (titleText line).getLast? = some ']' := by
    rw [htitle]
    exact List.getLast?_concat
  exact hkept.eq_trimEnd hsplit hfront ⟨[' '], _, rfl, List.cons_ne_nil _ _, by decide⟩ hlast

/-- A document with text between two notes of a title, and with a title that ends in two. -/
def annotated : String :=
  unlines ["### Step 1: Build [fast] now [optional]", "Run it.",
    "### Step 2: Ship it [twice] [to [both] sites]"]

/-- Its steps. -/
def annotatedSteps : List Step :=
  [{ id := "build", name := "Build", body := "Run it.", workflow := "w", line := 1 },
    { id := "ship-it", name := "Ship it", workflow := "w", line := 3 }]

theorem readSteps_annotated : (readSteps .strict "w" annotated).outcome = .ok annotatedSteps := by
  obtain ⟨hclear, hsteps⟩ : (∀ s ∈ (Outline.ofText annotated).sections, s.conflicted = false) ∧
      (Outline.ofText annotated).steps "w" = annotatedSteps := by
    decide +kernel
  rw [← hsteps]
  exact outcome_readSteps hclear .strict "w"

theorem kept_of_annotated :
    ∃ steps, (readSteps .strict "w" annotated).outcome = .ok steps ∧
      steps.map (·.name) = ["Build", "Ship it"] ∧
      ∀ s ∈ steps, ∃ (k : Nat) (line : String), s.line = k + 1 ∧
        (lines annotated)[k]? = some line ∧
        (∃ cut, Kept (titleText line) s.name.toList cut ∧
          (unbracketed 0 (titleText line) = unbracketed 0 s.name.toList ↔
            unbracketed (s.name.toList.foldl nesting 0) cut = [])) ∧
        ∀ front first between second : List Char, '[' ∉ front →
          titleText line = front ++ " [".toList ++ first ++ "] ".toList ++ between ++
            " [".toList ++ second ++ "]".toList →
          s.name.toList = trimEnd front :=
  ⟨_, readSteps_annotated, rfl, kept_of_readSteps readSteps_annotated⟩

/-- A word that stands in no brackets is lost with the notes around it. -/
theorem name_of_annotated :
    ∃ first more, (readSteps .strict "w" annotated).outcome = .ok (first :: more) ∧
      first.line = 1 ∧
      (lines annotated)[0]? = some "### Step 1: Build [fast] now [optional]" ∧
      titleText "### Step 1: Build [fast] now [optional]" =
        "Build [fast] now [optional]".toList ∧
      first.name ≠ "Build [fast] now" ∧
      unbracketed 0 "Build [fast] now [optional]".toList = "Buildnow".toList ∧
      unbracketed 0 first.name.toList = "Build".toList :=
  ⟨_, _, readSteps_annotated, rfl, by decide +kernel, by decide +kernel, by decide, by decide,
    by decide⟩

end Runbook.Workflow
