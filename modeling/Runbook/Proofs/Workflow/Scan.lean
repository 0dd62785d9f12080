import Runbook.Workflow.Outline

/-!
# `Proofs/Workflow/Scan` — what one line does to the reading of a document

The documentation of the format knows one counter. It runs over every line of a document, and a step
begins at each heading that it finds at zero (`headingsOutside`). The counter has nothing to do with
how a reader goes about its work, so it can be held against the reader. Headings, markers and blank
lines are no fences, so the counter stands still at every line that the reader takes for one of these.

The reader decides the role of a line from its place and the line itself. It looks further in one
case only: a loop marker is followed by its command block or it is not (`hasBlock`). Everything here
comes of that. Lines that agree on `hasBlock` are as good as each other behind a line
(`roleAt_congr`), a heading is where every look ahead ends (`hasBlock_append`), and so a reading can
be taken up at a heading that is met outside every fence (`scan_append`, `scan_text_eq`). A reading
that is divided into sections falls apart at headings in the same way (`divide_append`).
-/

set_option autoImplicit false

namespace Runbook.Workflow

open Runbook.Text

/-! ## The three ways of a fence -/

theorem depthAfter_labelled {line : String} (h : isFence line = true)
    (hl : isLabelled line = true) (depth : Nat) : depthAfter depth line = depth + 1 := by
  rw [depthAfter, fenceDelta, h, hl]
  rfl

/-- A bare fence in a block closes the block. -/
theorem depthAfter_bare_succ {line : String} (h : isFence line = true)
    (hl : isLabelled line = false) (depth : Nat) :
    depthAfter ((depth + 1 : Nat) : Int) line = depth := by
  rw [depthAfter, fenceDelta, h, hl]
  simp only [Bool.not_true, Bool.false_eq_true, if_false]
  rw [if_pos (by omega)]
  omega

/-- A bare fence outside every block opens one. -/
theorem depthAfter_bare_zero {line : String} (h : isFence line = true)
    (hl : isLabelled line = false) : depthAfter 0 line = 1 := by
  rw [depthAfter, fenceDelta, h, hl]
  rfl

/-! ## What is no fence -/

theorem head?_of_head?_trimEnd {cs : List Char} {c : Char} (h : (trimEnd cs).head? = some c) :
    cs.head? = some c := by
  have hp : trimEnd cs <+: cs := by
    have hs := List.dropWhile_suffix isBlank (l := cs.reverse)
    rw [← List.reverse_prefix, List.reverse_reverse] at hs
    exact hs
  obtain ⟨rest, hrest⟩ := hp
  cases ht : trimEnd cs with
  | nil => simp [ht] at h
  | cons d ds =>
    rw [ht] at h hrest
    rw [← hrest]
    exact h

/-- A fence begins with the fence character, blanks aside. -/
theorem head?_trim_of_isFence {line : String} (h : isFence line = true) :
    (trim line.toList).head? = some fenceChar := by
  obtain ⟨rest, hrest⟩ := List.isPrefixOf_iff_prefix.1 h
  rw [← hrest]
  rfl

theorem head?_trimStart_of_isFence {line : String} (h : isFence line = true) :
    (trimStart line.toList).head? = some fenceChar :=
  head?_of_head?_trimEnd (head?_trim_of_isFence h)

/-- A heading begins with a number sign. -/
theorem head?_of_headingTitle? {line title : String} (h : headingTitle? line = some title) :
    line.toList.head? = some '#' := by
  unfold headingTitle? at h
  split at h
  · next c rest ha =>
    unfold afterColon? at ha
    obtain ⟨cs, hcs, -⟩ := Option.bind_eq_some_iff.1 ha
    rw [after?_eq_some_iff.1 hcs]
    rfl
  · cases h

theorem head?_trimStart_of_headingTitle? {line title : String}
    (h : headingTitle? line = some title) : (trimStart line.toList).head? = some '#' := by
  have hhead := head?_of_headingTitle? h
  cases hl : line.toList with
  | nil => simp [hl] at hhead
  | cons c rest =>
    rw [hl] at hhead
    obtain rfl : c = '#' := by simpa using hhead
    rw [trimStart, List.dropWhile_cons_of_neg (by decide)]
    rfl

theorem not_isFence_of_headingTitle? {line title : String}
    (h : headingTitle? line = some title) : isFence line = false := by
  refine Bool.eq_false_iff.2 fun hf => ?_
  have hfence := head?_trimStart_of_isFence hf
  rw [head?_trimStart_of_headingTitle? h] at hfence
  exact absurd hfence (by decide)

/-- A marker begins with the opening of a comment. -/
theorem head?_of_markerText? {word : String} {cs : List Char} {held : String}
    (h : markerText? word cs = some held) : cs.head? = some '<' := by
  unfold markerText? at h
  obtain ⟨rest, hrest, -⟩ := Option.bind_eq_some_iff.1 h
  rw [after?_eq_some_iff.1 hrest]
  rfl

theorem head?_trim_of_marker? {line : String} {marker : Marker}
    (h : marker? line = some marker) : (trim line.toList).head? = some '<' := by
  unfold marker? at h
  dsimp only at h
  split at h
  · next target ht => exact head?_of_markerText? ht
  · next =>
    obtain ⟨var, hvar, -⟩ := Option.map_eq_some_iff.1 h
    exact head?_of_markerText? hvar

theorem not_isFence_of_marker? {line : String} {marker : Marker}
    (h : marker? line = some marker) : isFence line = false := by
  refine Bool.eq_false_iff.2 fun hf => ?_
  have hfence := head?_trim_of_isFence hf
  rw [head?_trim_of_marker? h] at hfence
  exact absurd hfence (by decide)

/-- No line is a marker and a heading. -/
theorem headingTitle?_of_marker? {line : String} {marker : Marker}
    (h : marker? line = some marker) : headingTitle? line = none := by
  cases ht : headingTitle? line with
  | none => rfl
  | some title =>
    have hhead := head?_of_head?_trimEnd (head?_trim_of_marker? h)
    rw [head?_trimStart_of_headingTitle? ht] at hhead
    exact absurd hhead (by decide)

theorem headingTitle?_of_isBlankLine {line : String} (h : isBlankLine line = true) :
    headingTitle? line = none := by
  cases ht : headingTitle? line with
  | none => rfl
  | some title =>
    have hhead := head?_trimStart_of_headingTitle? ht
    rw [(trimStart_eq_nil_iff _).2 h] at hhead
    cases hhead

theorem marker?_of_isBlankLine {line : String} (h : isBlankLine line = true) :
    marker? line = none := by
  cases hm : marker? line with
  | none => rfl
  | some marker =>
    have hhead := head?_of_head?_trimEnd (head?_trim_of_marker? hm)
    rw [(trimStart_eq_nil_iff _).2 h] at hhead
    cases hhead

theorem not_isFence_of_isBlankLine {line : String} (h : isBlankLine line = true) :
    isFence line = false := by
  refine Bool.eq_false_iff.2 fun hf => ?_
  have hhead := head?_trimStart_of_isFence hf
  rw [(trimStart_eq_nil_iff _).2 h] at hhead
  cases hhead

theorem not_isBlankLine_of_headingTitle? {line title : String}
    (h : headingTitle? line = some title) : isBlankLine line = false := by
  refine Bool.eq_false_iff.2 fun hblank => ?_
  rw [headingTitle?_of_isBlankLine hblank] at h
  cases h

/-! ## Headings at which the counter is zero -/

/-- The lines, counted from one, that are headings and find the counter at zero. -/
def headingsOutside (ls : List String) : List Nat :=
  ((List.range ls.length).filter fun i =>
    (ls[i]?.bind headingTitle?).isSome && depthOver (ls.take i) == 0).map (· + 1)

/-- The headings that find the counter at zero, in lines that have `line` lines before them and
meet the counter at `count`. -/
def outsideFrom (line count : Nat) : List String → List Nat
  | [] => []
  | text :: rest =>
    let later := outsideFrom (line + 1) (depthAfter count text) rest
    if (headingTitle? text).isSome && count == 0 then (line + 1) :: later else later

theorem outsideFrom_eq_filter (line count : Nat) (ls : List String) :
    outsideFrom line count ls = ((List.range ls.length).filter fun i =>
      (ls[i]?.bind headingTitle?).isSome &&
        (ls.take i).foldl (fun (depth : Nat) text => depthAfter depth text) count == 0).map
        (· + line + 1) := by
  induction ls generalizing line count with
  | nil => rfl
  | cons text rest ih =>
    rw [outsideFrom, ih, List.length_cons, List.range_succ_eq_map, List.filter_cons,
      List.filter_map, apply_ite (List.map (· + line + 1))]
    simp only [List.map_cons, List.map_map, List.getElem?_cons_zero, List.take_zero,
      List.foldl_nil, Option.bind_some, Nat.zero_add]
    have hshift : (· + line + 1) ∘ Nat.succ = fun i : Nat => i + (line + 1) + 1 := by
      funext i
      simp only [Function.comp, Nat.succ_eq_add_one]
      omega
    rw [hshift]
    rfl

theorem headingsOutside_eq_outsideFrom (ls : List String) :
    headingsOutside ls = outsideFrom 0 0 ls := (outsideFrom_eq_filter 0 0 ls).symm

/-- Headings are found behind the lines that went before. -/
theorem lt_of_mem_outsideFrom {line count : Nat} {ls : List String} {n : Nat}
    (h : n ∈ outsideFrom line count ls) : line < n := by
  rw [outsideFrom_eq_filter, List.mem_map] at h
  obtain ⟨i, -, rfl⟩ := h
  omega

/-! ## Looking for a command block -/

theorem hasBlock_cons_of_isBlankLine {line : String} (h : isBlankLine line = true)
    (rest : List String) : hasBlock (line :: rest) = hasBlock rest := by
  unfold hasBlock
  rw [List.dropWhile_cons_of_pos h]

theorem hasBlock_cons_of_not_isBlankLine {line : String} (h : isBlankLine line = false)
    (rest : List String) : hasBlock (line :: rest) = isFence line := by
  unfold hasBlock
  rw [List.dropWhile_cons_of_neg (by simp [h])]
  rfl

/-- A line with something on it that is no fence is not the way to a block. -/
theorem isBlankLine_of_hasBlock {line : String} {rest : List String}
    (h : hasBlock (line :: rest) = true) (hf : isFence line = false) : isBlankLine line = true := by
  by_cases hblank : isBlankLine line = true
  · exact hblank
  · rw [hasBlock_cons_of_not_isBlankLine ((Bool.not_eq_true _).mp hblank), hf] at h
    cases h

/-- The first of some lines is a heading. -/
def BeginsStep (ls : List String) : Prop := (ls.head?.bind headingTitle?).isSome = true

instance (ls : List String) : Decidable (BeginsStep ls) := inferInstanceAs (Decidable (_ = true))

theorem hasBlock_of_beginsStep {ls : List String} (h : BeginsStep ls) : hasBlock ls = false := by
  cases ls with
  | nil => rfl
  | cons line rest =>
    obtain ⟨title, ht⟩ := Option.isSome_iff_exists.1 h
    rw [hasBlock_cons_of_not_isBlankLine (not_isBlankLine_of_headingTitle? ht),
      not_isFence_of_headingTitle? ht]

/-- No look ahead goes beyond a heading. -/
theorem hasBlock_append {ms : List String} (h : BeginsStep ms) (ls : List String) :
    hasBlock (ls ++ ms) = hasBlock ls := by
  induction ls with
  | nil => exact hasBlock_of_beginsStep h
  | cons line rest ih =>
    rw [List.cons_append]
    by_cases hblank : isBlankLine line = true
    · rw [hasBlock_cons_of_isBlankLine hblank, hasBlock_cons_of_isBlankLine hblank, ih]
    · rw [Bool.not_eq_true] at hblank
      rw [hasBlock_cons_of_not_isBlankLine hblank, hasBlock_cons_of_not_isBlankLine hblank]

/-! ## One line -/

theorem roleAt_text_zero (line : String) (rest : List String) :
    roleAt (.text 0) line rest = roleOutside line rest := rfl

theorem roleAt_preamble_zero (line : String) (rest : List String) :
    roleAt (.preamble 0) line rest =
      match headingTitle? line with
      | some title => (.heading title, .text 0)
      | none => (.preamble, .preamble (depthAfter 0 line)) := rfl

/-- Of the lines behind a line it matters only whether a command block follows. -/
theorem roleAt_congr {rest rest' : List String} (h : hasBlock rest = hasBlock rest')
    (place : Place) (line : String) : roleAt place line rest = roleAt place line rest' := by
  cases place with
  | preamble depth => cases depth <;> rfl
  | text depth =>
    cases depth with
    | zero =>
      rw [roleAt_text_zero, roleAt_text_zero]
      unfold roleOutside
      rw [h]
    | succ depth => rfl
  | gap => rfl
  | command => rfl

theorem roleAt_heading {line title : String} (h : headingTitle? line = some title)
    (rest : List String) : roleAt (.text 0) line rest = (.heading title, .text 0) := by
  rw [roleAt_text_zero]
  simp only [roleOutside, h]

theorem roleAt_preamble_heading {line title : String} (h : headingTitle? line = some title)
    (rest : List String) : roleAt (.preamble 0) line rest = (.heading title, .text 0) := by
  rw [roleAt_preamble_zero, h]

theorem roleAt_workflow {line target : String} (h : marker? line = some (.workflow target))
    (rest : List String) : roleAt (.text 0) line rest = (.workflow target, .text 0) := by
  rw [roleAt_text_zero]
  simp only [roleOutside, headingTitle?_of_marker? h, h]

theorem roleAt_loop {line var : String} (h : marker? line = some (.loop var))
    (rest : List String) : roleAt (.text 0) line rest =
      if hasBlock rest then (.loop var true, .gap) else (.loop var false, .text 0) := by
  rw [roleAt_text_zero]
  simp only [roleOutside, headingTitle?_of_marker? h, h]

/-- A line of a step's text: inside a fence any line, outside every one that is neither a heading
nor a marker. -/
theorem roleAt_body {depth : Nat} {line : String}
    (h : depth = 0 → headingTitle? line = none ∧ marker? line = none) (rest : List String) :
    roleAt (.text depth) line rest = (.body, .text (depthAfter depth line)) := by
  cases depth with
  | zero =>
    obtain ⟨hheading, hmarker⟩ := h rfl
    rw [roleAt_text_zero]
    simp only [roleOutside, hheading, hmarker, Int.natCast_zero]
  | succ depth => rfl

theorem roleAt_preamble {depth : Nat} {line : String} (h : depth = 0 → headingTitle? line = none)
    (rest : List String) :
    roleAt (.preamble depth) line rest = (.preamble, .preamble (depthAfter depth line)) := by
  cases depth with
  | zero =>
    rw [roleAt_preamble_zero, h rfl]
    rfl
  | succ depth => rfl

theorem roleAt_gap {line : String} (h : isFence line = false) (rest : List String) :
    roleAt .gap line rest = (.gap, .gap) := if_neg (Bool.eq_false_iff.1 h)

theorem roleAt_opening {line : String} (h : isFence line = true) (rest : List String) :
    roleAt .gap line rest = (.opening, .command) := if_pos h

theorem roleAt_command {line : String} (h : isFence line = false) (rest : List String) :
    roleAt .command line rest = (.command, .command) := if_neg (Bool.eq_false_iff.1 h)

theorem roleAt_closing {line : String} (h : isFence line = true) (rest : List String) :
    roleAt .command line rest = (.closing, .text 0) := if_pos h

/-- Lines of a command, and the end of its block, are met inside the block only. -/
theorem eq_command_of_roleAt {place : Place} {line : String} {rest : List String}
    (h : (roleAt place line rest).1 = .command ∨ (roleAt place line rest).1 = .closing) :
    place = .command := by
  unfold roleAt at h
  split at h
  · split at h <;> simp at h
  · simp at h
  · unfold roleOutside at h
    split at h
    · simp at h
    · simp at h
    · split at h <;> simp at h
    · simp at h
  · simp at h
  · split at h <;> simp at h
  · rfl

/-! ## A reading that is taken up again -/

theorem scan_cons (place : Place) (line : String) (rest : List String) :
    scan place (line :: rest) =
      ((line, (roleAt place line rest).1) :: (scan (roleAt place line rest).2 rest).1,
        (scan (roleAt place line rest).2 rest).2) := rfl

/-- A reading can be interrupted before any heading, and taken up at the place it has come to. -/
theorem scan_append {ms : List String} (h : BeginsStep ms) (place : Place) (ls : List String) :
    scan place (ls ++ ms) =
      ((scan place ls).1 ++ (scan (scan place ls).2 ms).1, (scan (scan place ls).2 ms).2) := by
  induction ls generalizing place with
  | nil => rfl
  | cons line rest ih =>
    rw [List.cons_append, scan_cons, scan_cons, roleAt_congr (hasBlock_append h rest), ih]
    rfl

/-- Who stands outside every fence may as well begin at a heading. -/
theorem scan_text_eq {ms : List String} (h : BeginsStep ms) :
    scan (.text 0) ms = scan (.preamble 0) ms := by
  cases ms with
  | nil => cases h
  | cons line rest =>
    obtain ⟨title, ht⟩ := Option.isSome_iff_exists.1 h
    rw [scan_cons, scan_cons, roleAt_heading ht, roleAt_preamble_heading ht]

/-- Behind a loop marker that owns a block the reader is on the way to it. -/
def Place.Due (place : Place) (rest : List String) : Prop := place = .gap → hasBlock rest = true

theorem Place.Due.roleAt {place : Place} {line : String} {rest : List String}
    (h : place.Due (line :: rest)) : (roleAt place line rest).2.Due rest := by
  intro hgap
  cases place with
  | preamble depth =>
    cases ht : headingTitle? line with
    | some title =>
      cases depth with
      | zero => simp [roleAt_preamble_heading ht] at hgap
      | succ depth => cases hgap
    | none => simp [roleAt_preamble fun _ => ht] at hgap
  | text depth =>
    cases depth with
    | succ depth => cases hgap
    | zero =>
      rw [roleAt_text_zero] at hgap
      unfold roleOutside at hgap
      split at hgap
      · cases hgap
      · cases hgap
      · next var hm =>
        by_cases hblock : hasBlock rest = true
        · exact hblock
        · rw [if_neg hblock] at hgap
          cases hgap
      · cases hgap
  | gap =>
    by_cases hf : isFence line = true
    · simp [roleAt_opening hf] at hgap
    · rw [Bool.not_eq_true] at hf
      have hblock := h rfl
      rwa [hasBlock_cons_of_isBlankLine (isBlankLine_of_hasBlock hblock hf)] at hblock
  | command =>
    by_cases hf : isFence line = true
    · simp [roleAt_closing hf] at hgap
    · simp [roleAt_command ((Bool.not_eq_true _).mp hf)] at hgap

/-- No document ends on the way to a command block. -/
theorem scan_ne_gap {place : Place} {ls : List String} (h : place.Due ls) :
    (scan place ls).2 ≠ .gap := by
  induction ls generalizing place with
  | nil =>
    intro hgap
    exact absurd (h hgap) (by decide)
  | cons line rest ih => exact ih h.roleAt

/-! ## Sections -/

/-- A line that begins no step, in a reading. -/
def Plain (c : Classified) : Prop := ∀ title, c.2 ≠ .heading title

theorem divide_cons_heading (line : Nat) (text title : String) (cs : List Classified) :
    divide line ((text, .heading title) :: cs) =
      ([], { title, line, lines := (divide (line + 1) cs).1 } :: (divide (line + 1) cs).2) := rfl

theorem divide_cons_of_plain {c : Classified} (h : Plain c) (line : Nat) (cs : List Classified) :
    divide line (c :: cs) = (c :: (divide (line + 1) cs).1, (divide (line + 1) cs).2) := by
  obtain ⟨text, role⟩ := c
  cases role with
  | heading title => exact absurd rfl (h title)
  | preamble => rfl
  | workflow target => rfl
  | loop var owns => rfl
  | gap => rfl
  | opening => rfl
  | command => rfl
  | closing => rfl
  | body => rfl

theorem plain_or_heading (c : Classified) : Plain c ∨ ∃ title, c = (c.1, .heading title) := by
  obtain ⟨text, role⟩ := c
  cases role with
  | heading title => exact .inr ⟨title, rfl⟩
  | _ => exact .inl fun title h => by cases h

/-- Lines that begin no step go to what is before them. -/
theorem divide_append_of_plain {cs : List Classified} (h : ∀ c ∈ cs, Plain c) (line : Nat)
    (ds : List Classified) : divide line (cs ++ ds) =
      (cs ++ (divide (line + cs.length) ds).1, (divide (line + cs.length) ds).2) := by
  induction cs generalizing line with
  | nil => rfl
  | cons c cs ih =>
    obtain ⟨hc, hcs⟩ := List.forall_mem_cons.1 h
    rw [List.cons_append, divide_cons_of_plain hc, ih hcs, List.length_cons,
      Nat.add_right_comm, Nat.add_assoc]
    rfl

/-- What is read up to a heading keeps its sections, whatever is read from there. -/
theorem divide_append {line : Nat} {cs ds : List Classified}
    (h : (divide (line + cs.length) ds).1 = []) : divide line (cs ++ ds) =
      ((divide line cs).1, (divide line cs).2 ++ (divide (line + cs.length) ds).2) := by
  induction cs generalizing line with
  | nil =>
    show divide line ds = ([], (divide line ds).2)
    rw [← h]
    rfl
  | cons c cs ih =>
    rw [List.length_cons, ← Nat.add_assoc, Nat.add_right_comm] at h ⊢
    rcases plain_or_heading c with hc | ⟨title, hc⟩
    · rw [List.cons_append, divide_cons_of_plain hc, divide_cons_of_plain hc, ih h]
    · rw [List.cons_append, hc, divide_cons_heading, divide_cons_heading, ih h]
      rfl

end Runbook.Workflow
