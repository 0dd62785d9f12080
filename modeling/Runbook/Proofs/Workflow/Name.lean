import Runbook.Proofs.Workflow.Title

/-!
# `Proofs/Workflow/Name` — which names are blank

A step has up to three names that come from its document: its own from the heading, that of the
workflow which takes its place, and that of the variable which stands for an item. A proper name
(`IsName`) is not empty and has no blanks around it.

All three are cut out of a line between blanks, but each line may have nothing else there, and then
there is nothing proper to be cut out. A heading gives the empty name then. A marker keeps one blank,
because the text that it holds may not be empty. So a name is proper exactly when its line has
anything but blanks in the place of the name.
-/

set_option autoImplicit false

namespace Runbook.Workflow

open Runbook.Text

/-- Something is there, and no blanks are around it. -/
def IsName (name : String) : Prop := name ≠ "" ∧ trimmed name = name

instance (name : String) : Decidable (IsName name) := inferInstanceAs (Decidable (_ ∧ _))

theorem isName_ofList_trim_iff (cs : List Char) :
    IsName (String.ofList (trim cs)) ↔ allBlank cs = false := by
  have htrimmed : trimmed (String.ofList (trim cs)) = String.ofList (trim cs) := by
    unfold trimmed
    rw [String.toList_ofList, trim_trim]
  have hempty : String.ofList (trim cs) = "" ↔ allBlank cs = true :=
    String.ofList_eq_empty_iff.trans (trim_eq_nil_iff cs)
  unfold IsName
  rw [ne_eq, hempty, Bool.not_eq_true]
  exact and_iff_left htrimmed

/-- A blank is no name. -/
theorem not_isName_blank {c : Char} (h : isBlank c = true) : ¬ IsName (String.ofList [c]) := by
  rintro ⟨-, htrimmed⟩
  have hblank : allBlank [c] = true := allBlank_cons.2 ⟨h, rfl⟩
  unfold trimmed at htrimmed
  rw [String.toList_ofList, (trim_eq_nil_iff [c]).2 hblank] at htrimmed
  exact absurd (String.ofList_eq_empty_iff.1 htrimmed.symm) (List.cons_ne_nil _ _)

/-! ## Headings -/

/-- A name has no blanks around it: its title has none, and a note begins with its blanks. -/
theorem Kept.trim_eq {title name cut : List Char} (h : Kept title name cut)
    (htitle : trim title = title) : trim name = name := by
  refine trim_eq_self ?_ ?_
  · intro c hc
    have hhead : title.head? = some c := by
      rw [h.title_eq]
      exact head?_of_append hc
    rw [← htitle] at hhead
    exact head?_trim hhead
  · intro c hc
    by_cases hcut : cut = []
    · have hlast := hc
      rw [← List.append_nil name, ← hcut, ← h.title_eq, ← htitle] at hlast
      exact getLast?_trim hlast
    · -- With a blank more the note would begin one character before.
      by_contra hblank
      rw [Bool.not_eq_false] at hblank
      obtain ⟨init, rfl⟩ := List.getLast?_eq_some_iff.1 hc
      obtain ⟨blanks, rest, hbegins, -, hblanks⟩ := h.beginsNote hcut
      have hnote : BeginsNote (c :: cut) :=
        ⟨c :: blanks, rest, congrArg (c :: ·) hbegins, List.cons_ne_nil _ _,
          allBlank_cons.2 ⟨hblank, hblanks⟩⟩
      have hearlier : title = init ++ c :: cut := by
        rw [h.title_eq, List.append_assoc]
        rfl
      have hle := h.length_le (h.getLast?_eq hcut) init (c :: cut) hearlier hnote
      rw [List.length_append, List.length_singleton] at hle
      exact absurd hle (Nat.not_succ_le_self _)

/-- Something of a title is always kept. -/
theorem Kept.eq_nil_iff {title name cut : List Char} (h : Kept title name cut)
    (htitle : trim title = title) : name = [] ↔ title = [] := by
  constructor
  · rintro rfl
    by_contra hne
    have hcut : title = cut := h.title_eq
    obtain ⟨blanks, rest, hbegins, hblanksNe, hblanks⟩ := h.beginsNote (hcut ▸ hne)
    obtain ⟨c, more, rfl⟩ := List.exists_cons_of_ne_nil hblanksNe
    have hhead : (trim title).head? = some c := by
      rw [htitle, hcut, hbegins]
      rfl
    have hc := head?_trim hhead
    rw [isBlank_of_mem hblanks List.mem_cons_self] at hc
    cases hc
  · rintro rfl
    exact (List.append_eq_nil_iff.1 h.title_eq.symm).1

theorem isName_iff_of_headingTitle? {line name : String} (h : headingTitle? line = some name) :
    trimmed name = name ∧ (IsName name ↔ allBlank (behindColon line) = false) := by
  have hname := toList_of_headingTitle? h
  have htitle : trim (titleText line) = titleText line := trim_trim _
  obtain ⟨cut, hkept⟩ := exists_kept (titleText line)
  rw [← hname] at hkept
  have htrimmed : trimmed name = name := by
    unfold trimmed
    rw [hkept.trim_eq htitle, String.ofList_toList]
  have hempty : name = "" ↔ allBlank (behindColon line) = true := by
    rw [← String.toList_eq_nil_iff, hkept.eq_nil_iff htitle]
    exact trim_eq_nil_iff _
  refine ⟨htrimmed, ?_⟩
  unfold IsName
  rw [ne_eq, hempty, Bool.not_eq_true]
  exact and_iff_left htrimmed

/-! ## Markers -/

/-- The word that says which kind of marker it is. -/
def Marker.word : Marker → String
  | .workflow _ => "workflow"
  | .loop _ => "loop"

/-- The name that a marker holds. -/
def Marker.name : Marker → String
  | .workflow target => target
  | .loop var => var

/-- A marker line with some text between its colon and its arrow, and the name that is made of the
text: what is left without the blanks around it, or the last of the blanks where nothing is left. -/
structure Holds (word line : String) (text : List Char) (name : String) : Prop where
  line_eq : ∃ blanks runner, allBlank blanks = true ∧ (runner = [] ∨ runner = "runner:".toList) ∧
    trim line.toList = "<!--".toList ++ blanks ++ runner ++ word.toList ++ ":".toList ++ text ++
      "-->".toList
  of_text : allBlank text = false → name = String.ofList (trim text)
  of_blank : allBlank text = true → ∃ c, text.getLast? = some c ∧ name = String.ofList [c]

theorem Holds.name_ne_empty {word line : String} {text : List Char} {name : String}
    (h : Holds word line text name) : name ≠ "" := by
  by_cases hblank : allBlank text = true
  · obtain ⟨c, -, rfl⟩ := h.of_blank hblank
    exact fun hempty => absurd (String.ofList_eq_empty_iff.1 hempty) (List.cons_ne_nil _ _)
  · rw [Bool.not_eq_true] at hblank
    obtain rfl := h.of_text hblank
    exact ((isName_ofList_trim_iff text).2 hblank).1

theorem Holds.isName_iff {word line : String} {text : List Char} {name : String}
    (h : Holds word line text name) : IsName name ↔ allBlank text = false := by
  by_cases hblank : allBlank text = true
  · obtain ⟨c, hc, rfl⟩ := h.of_blank hblank
    have hc := isBlank_of_mem hblank (List.mem_of_getLast? hc)
    rw [hblank]
    exact iff_of_false (not_isName_blank hc) (by simp)
  · rw [Bool.not_eq_true] at hblank
    obtain rfl := h.of_text hblank
    exact isName_ofList_trim_iff text

theorem exists_holds_of_markerText? {word line name : String}
    (h : markerText? word (trim line.toList) = some name) : ∃ text, Holds word line text name := by
  unfold markerText? at h
  obtain ⟨cs, hopen, h⟩ := Option.bind_eq_some_iff.1 h
  dsimp only at h
  obtain ⟨rest, hword, h⟩ := Option.bind_eq_some_iff.1 h
  obtain ⟨text, harrow, hheld⟩ := Option.bind_eq_some_iff.1 h
  obtain ⟨blanks, hblanks, hcs⟩ := exists_append_trimStart cs
  -- `runner:` is taken off if it is there.
  have hrunner : ∃ runner, (runner = [] ∨ runner = "runner:".toList) ∧
      trimStart cs = runner ++ (after? "runner:".toList (trimStart cs)).getD (trimStart cs) := by
    cases hafter : after? "runner:".toList (trimStart cs) with
    | none => exact ⟨[], .inl rfl, rfl⟩
    | some behind => exact ⟨_, .inr rfl, after?_eq_some_iff.1 hafter⟩
  obtain ⟨runner, hkind, hsplit⟩ := hrunner
  rw [after?_eq_some_iff.1 hword, before?_eq_some_iff.1 harrow] at hsplit
  refine ⟨text, ⟨blanks, runner, hblanks, hkind, ?_⟩, ?_, ?_⟩
  · rw [after?_eq_some_iff.1 hopen, hcs, hsplit]
    simp only [List.append_assoc]
    rfl
  · intro hblank
    unfold held? at hheld
    rw [hblank] at hheld
    exact (Option.some.inj hheld).symm
  · intro hblank
    unfold held? at hheld
    rw [if_pos hblank] at hheld
    obtain ⟨c, hc, rfl⟩ := Option.map_eq_some_iff.1 hheld
    exact ⟨c, hc, rfl⟩

theorem exists_holds_of_marker? {line : String} {m : Marker} (h : marker? line = some m) :
    ∃ text, Holds m.word line text m.name := by
  unfold marker? at h
  dsimp only at h
  split at h
  · next target htarget =>
    obtain rfl := Option.some.inj h
    exact exists_holds_of_markerText? htarget
  · obtain ⟨var, hvar, rfl⟩ := Option.map_eq_some_iff.1 h
    exact exists_holds_of_markerText? hvar

/-- The marker that an item is, and its line. -/
def Item.marker? : Item → Option (String × Marker)
  | .workflow line target => some (line, .workflow target)
  | .loop line var _ => some (line, .loop var)
  | .text _ => none

theorem Met.marker?_eq {depth : Nat} {items : List Item} {rest : List String}
    (h : Met depth items rest) {item : Item} (hitem : item ∈ items) {line : String} {m : Marker}
    (hm : item.marker? = some (line, m)) :
    line ∈ itemLines items ∧ Workflow.marker? line = some m := by
  induction h with
  | done _ => cases hitem
  | workflow hline _ ih =>
    rcases List.mem_cons.1 hitem with rfl | hmore
    · cases hm
      exact ⟨List.mem_cons_self, hline⟩
    · exact ⟨List.mem_cons_of_mem _ (ih hmore).1, (ih hmore).2⟩
  | bare hline _ _ ih =>
    rcases List.mem_cons.1 hitem with rfl | hmore
    · cases hm
      exact ⟨List.mem_cons_self, hline⟩
    · exact ⟨List.mem_cons_of_mem _ (ih hmore).1, (ih hmore).2⟩
  | owner hline _ _ ih =>
    rcases List.mem_cons.1 hitem with rfl | hmore
    · cases hm
      exact ⟨List.mem_cons_self, hline⟩
    · exact ⟨List.mem_append_right _ (ih hmore).1, (ih hmore).2⟩
  | text _ _ ih =>
    rcases List.mem_cons.1 hitem with rfl | hmore
    · cases hm
    · exact ⟨List.mem_cons_of_mem _ (ih hmore).1, (ih hmore).2⟩

/-! ## The names of a document -/

theorem MetAll.met_of_mem {segments : List Segment} (h : MetAll segments) {s : Segment}
    (hs : s ∈ segments) :
    (∃ rest, Met 0 s.items rest) ∧ ∀ line ∈ s.lines, line ∈ segmentLines segments := by
  induction segments with
  | nil => cases hs
  | cons first more ih =>
    obtain ⟨-, hmet, hall⟩ := h
    rcases List.mem_cons.1 hs with rfl | hmore
    · exact ⟨⟨_, hmet⟩, fun line hline => List.mem_append_left _ hline⟩
    · obtain ⟨hrest, hlines⟩ := ih hall hmore
      exact ⟨hrest, fun line hline => List.mem_append_right _ (hlines line hline)⟩

/-- The last marker of a segment holds the name that the step has from it. -/
theorem Account.Covers.exists_holds {a : Account} {ls : List String} (h : a.Covers ls)
    {segment : Segment} (hsegment : segment ∈ a.segments) {item : Item}
    (hlast : segment.lastMarker? = some item) {line : String} {m : Marker}
    (hm : item.marker? = some (line, m)) :
    line ∈ ls ∧ ∃ text, Holds m.word line text m.name := by
  obtain ⟨⟨rest, hmet⟩, hlines⟩ := h.metAll.met_of_mem hsegment
  have hitem : item ∈ segment.items := List.mem_reverse.1 (List.mem_of_find?_eq_some hlast)
  obtain ⟨hline, hmarker⟩ := hmet.marker?_eq hitem hm
  refine ⟨?_, exists_holds_of_marker? hmarker⟩
  rw [← h.lines_eq]
  exact List.mem_append_right _ (hlines line (List.mem_cons_of_mem _ hline))

/-- Which names of a document are proper. No name of a step has blanks around it, and it is empty
only where nothing but blanks stands behind the colon of its heading. A nested step has a target and
a loop a variable, which are never empty; each is held by a marker line, and it is proper unless the
text that the line holds is blank throughout. Of such a text it is the last blank. -/
theorem isName_of_readSteps {strictness : Strictness} {workflow text : String} {steps : List Step}
    (h : (readSteps strictness workflow text).outcome = .ok steps) : ∀ s ∈ steps,
    (∃ (k : Nat) (line : String), s.line = k + 1 ∧ (lines text)[k]? = some line ∧
      trimmed s.name = s.name ∧ (IsName s.name ↔ allBlank (behindColon line) = false)) ∧
    (s.kind = .nested → ∃ target, s.target = some target ∧ target ≠ "" ∧
      ∃ line ∈ lines text, ∃ held, Holds "workflow" line held target ∧
        (IsName target ↔ allBlank held = false)) ∧
    (s.kind = .loop → ∃ var, s.var = some var ∧ var ≠ "" ∧
      ∃ line ∈ lines text, ∃ held, Holds "loop" line held var ∧
        (IsName var ↔ allBlank held = false)) := by
  intro s hs
  obtain ⟨k, line, hline, hk, hheading⟩ := exists_heading_of_readSteps h hs
  obtain ⟨account, i, segment, hcovers, hsegment, -, hdescribes⟩ :=
    exists_segment_of_readSteps h hs
  have hmem := List.mem_of_getElem? hsegment
  refine ⟨⟨k, line, hline, hk, isName_iff_of_headingTitle? hheading⟩, ?_⟩
  cases hlast : segment.lastMarker? with
  | none =>
    have hkind := (hdescribes.of_none hlast).1
    rw [hkind]
    exact ⟨nofun, nofun⟩
  | some item =>
    cases item with
    | text line =>
      have hno : Item.isMarker (.text line) = true := List.find?_some hlast
      cases hno
    | workflow line target =>
      obtain ⟨hkind, htarget, -, -⟩ := hdescribes.of_workflow _ _ hlast
      obtain ⟨hline, held, hheld⟩ := hcovers.exists_holds hmem hlast rfl
      rw [hkind]
      exact ⟨fun _ => ⟨target, htarget, hheld.name_ne_empty, line, hline, held, hheld,
        hheld.isName_iff⟩, nofun⟩
    | loop line var block =>
      obtain ⟨hkind, -, hvar, -⟩ := hdescribes.of_loop _ _ _ hlast
      obtain ⟨hline, held, hheld⟩ := hcovers.exists_holds hmem hlast rfl
      rw [hkind]
      exact ⟨nofun, fun _ => ⟨var, hvar, hheld.name_ne_empty, line, hline, held, hheld,
        hheld.isName_iff⟩⟩

/-- A document with a blank title and blank markers, and with a proper one of each kind. -/
def blankNamed : String :=
  unlines ["### Step 1: A", "<!-- workflow: -->", "### Step 2:  ", "<!--loop:\t -->",
    "### Step 3: B [x]", "<!-- runner:workflow: release -->", "### Step 4: C",
    " <!-- loop:FILE-->"]

/-- Its steps. -/
def blankNamedSteps : List Step :=
  [{ id := "a", name := "A", kind := .nested, target := some " ", workflow := "w", line := 1 },
    { id := "", name := "", kind := .loop, var := some " ", workflow := "w", line := 3 },
    { id := "b", name := "B", kind := .nested, target := some "release", workflow := "w", line := 5 },
    { id := "c", name := "C", kind := .loop, var := some "FILE", workflow := "w", line := 7 }]

theorem readSteps_blankNamed :
    (readSteps .strict "w" blankNamed).outcome = .ok blankNamedSteps := by
  obtain ⟨hclear, hsteps⟩ : (∀ s ∈ (Outline.ofText blankNamed).sections, s.conflicted = false) ∧
      (Outline.ofText blankNamed).steps "w" = blankNamedSteps := by
    decide +kernel
  rw [← hsteps]
  exact outcome_readSteps hclear .strict "w"

theorem isName_of_blankNamed :
    ∃ steps, (readSteps .strict "w" blankNamed).outcome = .ok steps ∧
      steps.map (·.name) = ["A", "", "B", "C"] ∧
      steps.map (·.target) = [some " ", none, some "release", none] ∧
      steps.map (·.var) = [none, some " ", none, some "FILE"] ∧
      ∀ s ∈ steps,
        (∃ (k : Nat) (line : String), s.line = k + 1 ∧ (lines blankNamed)[k]? = some line ∧
          trimmed s.name = s.name ∧ (IsName s.name ↔ allBlank (behindColon line) = false)) ∧
        (s.kind = .nested → ∃ target, s.target = some target ∧ target ≠ "" ∧
          ∃ line ∈ lines blankNamed, ∃ held, Holds "workflow" line held target ∧
            (IsName target ↔ allBlank held = false)) ∧
        (s.kind = .loop → ∃ var, s.var = some var ∧ var ≠ "" ∧
          ∃ line ∈ lines blankNamed, ∃ held, Holds "loop" line held var ∧
            (IsName var ↔ allBlank held = false)) :=
  ⟨_, readSteps_blankNamed, rfl, rfl, rfl, isName_of_readSteps readSteps_blankNamed⟩

/-- Neither a blank title nor a blank marker gives a proper name. -/
theorem not_isName_of_blankNamed :
    ∃ first second more, (readSteps .strict "w" blankNamed).outcome =
        .ok (first :: second :: more) ∧
      first.kind = .nested ∧ first.target = some " " ∧ ¬ IsName " " ∧
      second.kind = .loop ∧ second.var = some " " ∧ ¬ IsName second.name :=
  ⟨_, _, _, readSteps_blankNamed, rfl, rfl, by decide, rfl, rfl, by decide⟩

end Runbook.Workflow
