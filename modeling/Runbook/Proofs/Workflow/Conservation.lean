import Runbook.Proofs.Workflow.Account
import Runbook.Proofs.Workflow.Boundary

/-!
# `Proofs/Workflow/Conservation` — every line has its effect in one step

The reader goes from line to line; an account takes the document apart all at once. They agree: the
roles that the reader gives to the lines are those of the account (`Met.fst_scan`), and so its
sections are the account's segments (`Account.Covers.sections_eq`). From there it is a matter of
single items what a step says (`Segment.Describes`). Its text is its lines of text, in order and as
they stand, and its command is the content of the block of its last marker. Lines in front of the
first segment have no part in any step.
-/

set_option autoImplicit false

namespace Runbook.Workflow

open Runbook.Text

/-! ## The roles in an account -/

/-- The lines of a block in their roles. -/
def Block.classified (b : Block) : List Classified :=
  b.gaps.map (·, .gap) ++ (b.opening, .opening) ::
    (b.content.map (·, .command) ++ b.closing.toList.map (·, .closing))

/-- The lines of an item in their roles. -/
def Item.classified : Item → List Classified
  | .workflow line target => [(line, .workflow target)]
  | .loop line var none => [(line, .loop var false)]
  | .loop line var (some block) => (line, .loop var true) :: block.classified
  | .text line => [(line, .body)]

/-- The lines of some items in their roles. -/
def classified (items : List Item) : List Classified := items.flatMap Item.classified

theorem classified_cons (item : Item) (items : List Item) :
    classified (item :: items) = item.classified ++ classified items := rfl

theorem fst_scan_gaps {gaps : List String} (h : ∀ line ∈ gaps, isBlankLine line = true)
    (rest : List String) :
    (scan .gap (gaps ++ rest)).1 = gaps.map (·, .gap) ++ (scan .gap rest).1 := by
  induction gaps with
  | nil => rfl
  | cons line gaps ih =>
    obtain ⟨hline, hgaps⟩ := List.forall_mem_cons.1 h
    rw [List.cons_append, scan_cons, roleAt_gap (not_isFence_of_isBlankLine hline)]
    dsimp only
    rw [ih hgaps]
    rfl

theorem fst_scan_content {content : List String} (h : ∀ line ∈ content, isFence line = false)
    (rest : List String) :
    (scan .command (content ++ rest)).1 = content.map (·, .command) ++ (scan .command rest).1 := by
  induction content with
  | nil => rfl
  | cons line content ih =>
    obtain ⟨hline, hcontent⟩ := List.forall_mem_cons.1 h
    rw [List.cons_append, scan_cons, roleAt_command hline]
    dsimp only
    rw [ih hcontent]
    rfl

theorem Block.Stands.fst_scan {b : Block} {rest : List String} (h : b.Stands rest) :
    (scan .gap (b.lines ++ rest)).1 = b.classified ++ (scan (.text 0) rest).1 := by
  have hends : (scan .command (b.closing.toList ++ rest)).1 =
      b.closing.toList.map (·, .closing) ++ (scan (.text 0) rest).1 := by
    cases hclosing : b.closing with
    | none =>
      rw [h.rest_eq_nil hclosing]
      rfl
    | some line =>
      show (scan .command (line :: rest)).1 = _
      rw [scan_cons, roleAt_closing (h.isFence_of_mem_closing line hclosing)]
      rfl
  unfold Block.lines Block.classified
  rw [List.append_assoc, fst_scan_gaps h.isBlankLine_of_mem_gaps, List.cons_append, scan_cons,
    roleAt_opening h.isFence_opening, List.append_assoc]
  dsimp only
  rw [fst_scan_content h.not_isFence_of_mem_content, hends, List.append_assoc, List.cons_append,
    List.append_assoc]

/-- The reader meets items in the roles that they give to their lines. -/
theorem Met.fst_scan {depth : Nat} {items : List Item} {rest : List String}
    (h : Met depth items rest) : (scan (.text depth) (itemLines items ++ rest)).1 =
      classified items ++ (scan (.text 0) rest).1 := by
  induction h with
  | done hdone =>
    rcases hdone with rfl | rfl
    · rfl
    · rfl
  | workflow hm _ ih =>
    rw [itemLines_cons_append, classified_cons]
    show (scan (.text 0) (_ :: _)).1 = _
    rw [scan_cons, roleAt_workflow hm]
    exact congrArg (_ :: ·) ih
  | bare hm hblock _ ih =>
    rw [itemLines_cons_append, classified_cons]
    show (scan (.text 0) (_ :: _)).1 = _
    rw [scan_cons, roleAt_loop hm, if_neg]
    · exact congrArg (_ :: ·) ih
    · exact Bool.eq_false_iff.1 hblock
  | @owner line var block items rest hm hstands _ ih =>
    rw [itemLines_cons_append, classified_cons]
    show (scan (.text 0) (line :: (block.lines ++ (itemLines items ++ rest)))).1 = _
    rw [scan_cons, roleAt_loop hm, if_pos (hstands.hasBlock_eq _)]
    dsimp only
    rw [hstands.fst_scan, ih, ← List.append_assoc]
    rfl
  | text hplain _ ih =>
    rw [itemLines_cons_append, classified_cons]
    show (scan (.text _) (_ :: _)).1 = _
    rw [scan_cons, roleAt_body hplain]
    exact congrArg (_ :: ·) ih

theorem Passed.fst_scan {depth : Nat} {front rest : List String} (h : Passed depth front rest)
    (hrest : Follows rest) : (scan (.preamble depth) (front ++ rest)).1 =
      front.map (·, .preamble) ++ (scan (.text 0) rest).1 := by
  induction h with
  | done hdone =>
    rcases hrest with rfl | hbegins
    · rfl
    · obtain rfl := hdone.resolve_left (fun hnil => by simp [hnil, BeginsStep] at hbegins)
      rw [scan_text_eq hbegins]
      rfl
  | line hplain _ ih =>
    rw [List.cons_append, scan_cons, roleAt_preamble hplain]
    exact congrArg (_ :: ·) (ih hrest)

/-! ## The sections of an account -/

theorem Block.plain_of_mem_classified (b : Block) : ∀ c ∈ b.classified, Plain c := by
  intro c hc
  simp only [Block.classified, List.mem_append, List.mem_cons, List.mem_map] at hc
  rcases hc with ⟨line, -, rfl⟩ | rfl | ⟨line, -, rfl⟩ | ⟨line, -, rfl⟩ <;>
    exact fun title h => by cases h

theorem Item.plain_of_mem_classified (item : Item) : ∀ c ∈ item.classified, Plain c := by
  intro c hc
  cases item with
  | workflow line target =>
    rw [List.mem_singleton.1 hc]
    exact fun title h => by cases h
  | text line =>
    rw [List.mem_singleton.1 hc]
    exact fun title h => by cases h
  | loop line var block =>
    cases block with
    | none =>
      rw [List.mem_singleton.1 hc]
      exact fun title h => by cases h
    | some block =>
      rcases List.mem_cons.1 hc with rfl | hc
      · exact fun title h => by cases h
      · exact block.plain_of_mem_classified c hc

theorem plain_of_mem_classified (items : List Item) : ∀ c ∈ classified items, Plain c := by
  intro c hc
  obtain ⟨item, -, hitem⟩ := List.mem_flatMap.1 hc
  exact item.plain_of_mem_classified c hitem

theorem Block.map_fst_classified (b : Block) : b.classified.map (·.1) = b.lines := by
  simp [Block.classified, Block.lines, Function.comp_def]

theorem map_fst_classified (items : List Item) :
    (classified items).map (·.1) = itemLines items := by
  induction items with
  | nil => rfl
  | cons item items ih =>
    have hitem : item.classified.map (·.1) = item.lines := by
      cases item with
      | workflow line target => rfl
      | text line => rfl
      | loop line var block =>
        cases block with
        | none => rfl
        | some block => exact congrArg (line :: ·) block.map_fst_classified
    rw [classified_cons, List.map_append, hitem, ih]
    rfl

theorem length_classified (items : List Item) :
    (classified items).length = (itemLines items).length := by
  rw [← map_fst_classified, List.length_map]

/-- The section that a segment is, if its heading stands on a line. -/
def Segment.toSection (s : Segment) (line : Nat) : Section where
  title := s.title
  line := line
  lines := classified s.items

/-- The sections that some segments are, one behind the other from a line on. -/
def sectionsFrom (line : Nat) : List Segment → List Section
  | [] => []
  | s :: more => s.toSection line :: sectionsFrom (line + s.lines.length) more

theorem MetAll.divide_scan {segments : List Segment} (h : MetAll segments) (line : Nat) :
    divide line (scan (.text 0) (segmentLines segments)).1 = ([], sectionsFrom line segments) := by
  induction segments generalizing line with
  | nil => rfl
  | cons s more ih =>
    obtain ⟨htitle, hmet, hall⟩ := h
    have hlines : segmentLines (s :: more) =
        s.heading :: (itemLines s.items ++ segmentLines more) := rfl
    have hlength : s.lines.length = (classified s.items).length + 1 := by
      rw [length_classified]
      rfl
    rw [hlines, scan_cons, roleAt_heading htitle, divide_cons_heading]
    dsimp only
    rw [hmet.fst_scan, divide_append_of_plain (plain_of_mem_classified s.items), ih hall,
      sectionsFrom, hlength, List.append_nil, Nat.add_assoc, Nat.add_comm 1]
    rfl

/-- The sections of a document are the segments of its account. -/
theorem Account.Covers.sections_eq {a : Account} {ls : List String} (h : a.Covers ls) :
    (Outline.ofLines ls).sections = sectionsFrom (a.front.length + 1) a.segments := by
  obtain ⟨rfl, hpassed, hall⟩ := h
  have hfront : ∀ c ∈ a.front.map fun line => ((line, Role.preamble) : Classified), Plain c := by
    intro c hc
    obtain ⟨line, -, rfl⟩ := List.mem_map.1 hc
    exact fun title hne => by cases hne
  show (divide 1 (scan (.preamble 0) a.lines).1).2 = _
  unfold Account.lines
  rw [hpassed.fst_scan hall.follows, divide_append_of_plain hfront, hall.divide_scan,
    List.length_map, Nat.add_comm]

theorem getElem?_sectionsFrom (segments : List Segment) (line k : Nat) :
    (sectionsFrom line segments)[k]? =
      segments[k]?.map (·.toSection (line + (segmentLines (segments.take k)).length)) := by
  induction segments generalizing line k with
  | nil => rfl
  | cons s more ih =>
    cases k with
    | zero => rfl
    | succ k =>
      rw [sectionsFrom, List.getElem?_cons_succ, ih, List.getElem?_cons_succ, List.take_succ_cons]
      have hlength : (segmentLines (s :: more.take k)).length =
          s.lines.length + (segmentLines (more.take k)).length := by
        simp [segmentLines]
      rw [hlength, Nat.add_assoc]

/-- Headings stand one below the other. -/
theorem pairwise_line_sectionsFrom (segments : List Segment) (line : Nat) :
    (∀ s ∈ sectionsFrom line segments, line ≤ s.line) ∧
      ((sectionsFrom line segments).map (·.line)).Pairwise (· < ·) := by
  induction segments generalizing line with
  | nil => exact ⟨fun s hs => absurd hs List.not_mem_nil, List.Pairwise.nil⟩
  | cons s more ih =>
    obtain ⟨hbelow, hpairwise⟩ := ih (line + s.lines.length)
    have hlength : 0 < s.lines.length := Nat.succ_pos _
    refine ⟨?_, List.pairwise_cons.2 ⟨?_, hpairwise⟩⟩
    · intro later hlater
      rcases List.mem_cons.1 hlater with rfl | hlater
      · exact Nat.le_refl _
      · exact Nat.le_trans (Nat.le_add_right _ _) (hbelow later hlater)
    · intro n hn
      obtain ⟨later, hlater, rfl⟩ := List.mem_map.1 hn
      exact Nat.lt_of_lt_of_le (Nat.lt_add_of_pos_right hlength) (hbelow later hlater)

/-! ## What a segment says of its step -/

/-- The text of an item, if it is text. -/
def Item.text? : Item → Option String
  | .text line => some line
  | _ => none

/-- An item that says what the step does. -/
def Item.isMarker : Item → Bool
  | .workflow _ _ | .loop _ _ _ => true
  | .text _ => false

/-- The last marker of a segment. -/
def Segment.lastMarker? (s : Segment) : Option Item := s.items.reverse.find? Item.isMarker

/-- A segment of a workflow says what a step is, the line of its heading apart. -/
structure Segment.Describes (s : Segment) (workflow : String) (step : Step) : Prop where
  id_eq : step.id = slug s.title
  name_eq : step.name = s.title
  workflow_eq : step.workflow = workflow
  body_eq : step.body = trimmed (unlines (s.items.filterMap Item.text?))
  of_none : s.lastMarker? = none →
    step.kind = .task ∧ step.target = none ∧ step.command = none ∧ step.var = none
  of_workflow : ∀ line target, s.lastMarker? = some (.workflow line target) →
    step.kind = .nested ∧ step.target = some target ∧ step.command = none ∧ step.var = none
  of_loop : ∀ line var block, s.lastMarker? = some (.loop line var block) →
    step.kind = .loop ∧ step.target = none ∧ step.var = some var ∧
      step.command = block.map fun b => trimmed (unlines b.content)

/-- The lines before a segment. -/
def Account.linesBefore (a : Account) (k : Nat) : List String :=
  a.front ++ segmentLines (a.segments.take k)

/-- An account says what the steps of a workflow are. -/
structure Account.Describes (a : Account) (workflow : String) (steps : List Step) : Prop where
  length_eq : steps.length = a.segments.length
  line_eq : ∀ (k : Nat) (step : Step), steps[k]? = some step →
    step.line = (a.linesBefore k).length + 1
  describes : ∀ (k : Nat) (segment : Segment) (step : Step), a.segments[k]? = some segment →
    steps[k]? = some step → segment.Describes workflow step

/-- The mark that an item is. -/
def Item.mark? : Item → Option Mark
  | .workflow _ target => some (.workflow target)
  | .loop _ var block => some (.loop var (block.map fun b => trimmed (unlines b.content)))
  | .text _ => none

theorem filter_role_map (ls : List String) (role : Role) :
    (ls.map ((·, role) : String → Classified)).filter (·.2 == role) = ls.map (·, role) := by
  refine List.filter_eq_self.2 fun c hc => ?_
  obtain ⟨line, -, rfl⟩ := List.mem_map.1 hc
  exact beq_self_eq_true role

theorem filter_role_map_of_ne {role role' : Role} (h : role ≠ role') (ls : List String) :
    (ls.map ((·, role) : String → Classified)).filter (·.2 == role') = [] := by
  refine List.filter_eq_nil_iff.2 fun c hc => ?_
  obtain ⟨line, -, rfl⟩ := List.mem_map.1 hc
  simpa using h

theorem not_inBlock_of_classified (items : List Item) :
    (classified items).takeWhile (·.2.inBlock) = [] := by
  cases items with
  | nil => rfl
  | cons item items =>
    cases item with
    | workflow line target => rfl
    | text line => rfl
    | loop line var block => cases block <;> rfl

/-- The content of a block is found behind its marker. -/
theorem blockLines_classified (b : Block) (items : List Item) :
    blockLines (b.classified ++ classified items) = b.content := by
  have hends : (b.closing.toList.map ((·, .closing) : String → Classified) ++
      classified items).takeWhile (·.2.inBlock) = [] := by
    cases b.closing with
    | none => exact not_inBlock_of_classified items
    | some line => rfl
  have hgaps : ∀ c ∈ b.gaps.map ((·, .gap) : String → Classified), c.2.inBlock = true := by
    intro c hc
    obtain ⟨line, -, rfl⟩ := List.mem_map.1 hc
    rfl
  have hcontent : ∀ c ∈ b.content.map ((·, .command) : String → Classified),
      c.2.inBlock = true := by
    intro c hc
    obtain ⟨line, -, rfl⟩ := List.mem_map.1 hc
    rfl
  unfold blockLines Block.classified
  rw [List.append_assoc, List.takeWhile_append_of_pos hgaps, List.cons_append,
    List.takeWhile_cons_of_pos rfl, List.append_assoc, List.takeWhile_append_of_pos hcontent, hends]
  rw [List.append_nil, List.filter_append, List.filter_cons_of_neg (by simp),
    filter_role_map_of_ne (by simp), filter_role_map, List.nil_append, List.map_map]
  exact List.map_id _

theorem marks_append_of_inBlock {cs : List Classified}
    (h : ∀ c ∈ cs, c.2.inBlock = true ∨ c.2 = .closing) (ds : List Classified) :
    marks (cs ++ ds) = marks ds := by
  induction cs with
  | nil => rfl
  | cons c cs ih =>
    obtain ⟨hc, hcs⟩ := List.forall_mem_cons.1 h
    obtain ⟨line, role⟩ := c
    rw [List.cons_append]
    cases role with
    | gap => exact ih hcs
    | opening => exact ih hcs
    | command => exact ih hcs
    | closing => exact ih hcs
    | preamble => simp [Role.inBlock] at hc
    | heading title => simp [Role.inBlock] at hc
    | workflow target => simp [Role.inBlock] at hc
    | loop var owns => simp [Role.inBlock] at hc
    | body => simp [Role.inBlock] at hc

theorem marks_classified (items : List Item) :
    marks (classified items) = items.filterMap Item.mark? := by
  induction items with
  | nil => rfl
  | cons item items ih =>
    rw [classified_cons]
    cases item with
    | workflow line target => exact congrArg (_ :: ·) ih
    | text line => exact ih
    | loop line var block =>
      cases block with
      | none => exact congrArg (_ :: ·) ih
      | some block =>
        have hblock : ∀ c ∈ block.classified, c.2.inBlock = true ∨ c.2 = .closing := by
          intro c hc
          simp only [Block.classified, List.mem_append, List.mem_cons, List.mem_map] at hc
          rcases hc with ⟨line, -, rfl⟩ | rfl | ⟨line, -, rfl⟩ | ⟨line, -, rfl⟩ <;> simp [Role.inBlock]
        show Mark.loop var (some (trimmed (unlines (blockLines
          (block.classified ++ classified items))))) ::
            marks (block.classified ++ classified items) = _
        rw [blockLines_classified, marks_append_of_inBlock hblock, ih]
        rfl

theorem texts_classified (items : List Item) :
    ((classified items).filter (·.2 == .body)).map (·.1) = items.filterMap Item.text? := by
  induction items with
  | nil => rfl
  | cons item items ih =>
    rw [classified_cons, List.filter_append, List.map_append, ih]
    cases item with
    | workflow line target => rfl
    | text line => rfl
    | loop line var block =>
      cases block with
      | none => rfl
      | some block =>
        have hblock : block.classified.filter (·.2 == .body) = [] := by
          unfold Block.classified
          rw [List.filter_append, List.filter_cons_of_neg (by simp), List.filter_append,
            filter_role_map_of_ne (by simp), filter_role_map_of_ne (by simp),
            filter_role_map_of_ne (by simp)]
          rfl
        rw [Item.classified, List.filter_cons_of_neg (by simp), hblock]
        rfl

theorem getLast?_filterMap_mark? (items : List Item) :
    (items.filterMap Item.mark?).getLast? =
      (items.reverse.find? Item.isMarker).bind Item.mark? := by
  rw [List.getLast?_filterMap]
  induction items.reverse with
  | nil => rfl
  | cons item items ih =>
    cases item with
    | workflow line target => rfl
    | loop line var block => rfl
    | text line => exact ih

/-- A segment describes the step that its section is made into. -/
theorem Segment.describes_step (s : Segment) (line : Nat) (workflow : String) :
    s.Describes workflow ((s.toSection line).step workflow) := by
  have hlast : (s.toSection line).marks.getLast? = s.lastMarker?.bind Item.mark? :=
    (congrArg List.getLast? (marks_classified s.items)).trans (getLast?_filterMap_mark? s.items)
  have hbody : (s.toSection line).body = trimmed (unlines (s.items.filterMap Item.text?)) :=
    congrArg (fun texts => trimmed (unlines texts)) (texts_classified s.items)
  unfold Section.step
  dsimp only
  rw [hlast, hbody]
  cases hmarker : s.lastMarker? with
  | none =>
    refine ⟨rfl, rfl, rfl, rfl, fun _ => ⟨rfl, rfl, rfl, rfl⟩, ?_, ?_⟩
    · intro line target h
      cases hmarker.symm.trans h
    · intro line var block h
      cases hmarker.symm.trans h
  | some item =>
    cases item with
    | text line =>
      have hno : Item.isMarker (.text line) = true := List.find?_some hmarker
      cases hno
    | workflow text target =>
      refine ⟨rfl, rfl, rfl, rfl, ?_, ?_, ?_⟩
      · intro h
        cases hmarker.symm.trans h
      · intro line' target' h
        cases hmarker.symm.trans h
        exact ⟨rfl, rfl, rfl, rfl⟩
      · intro line' var block h
        cases hmarker.symm.trans h
    | loop text var block =>
      refine ⟨rfl, rfl, rfl, rfl, ?_, ?_, ?_⟩
      · intro h
        cases hmarker.symm.trans h
      · intro line' target h
        cases hmarker.symm.trans h
      · intro line' var' block' h
        cases hmarker.symm.trans h
        exact ⟨rfl, rfl, rfl, rfl⟩

/-! ## Documents -/

theorem Account.Covers.describes_steps {a : Account} {text : String}
    (h : a.Covers (Text.lines text))
    (workflow : String) : a.Describes workflow ((Outline.ofText text).steps workflow) := by
  have hsections : (Outline.ofText text).steps workflow =
      (sectionsFrom (a.front.length + 1) a.segments).map (Section.step workflow) :=
    congrArg (List.map (Section.step workflow)) h.sections_eq
  have hget : ∀ k, ((Outline.ofText text).steps workflow)[k]? =
      a.segments[k]?.map fun s : Segment =>
        (s.toSection ((a.linesBefore k).length + 1)).step workflow := by
    intro k
    rw [hsections, List.getElem?_map, getElem?_sectionsFrom, Option.map_map,
      Account.linesBefore, List.length_append, Nat.add_right_comm]
    rfl
  refine ⟨?_, ?_, ?_⟩
  · have hlength : ∀ (line : Nat) (segments : List Segment),
        (sectionsFrom line segments).length = segments.length := by
      intro line segments
      induction segments generalizing line with
      | nil => rfl
      | cons s more ih => exact congrArg (· + 1) (ih _)
    rw [hsections, List.length_map, hlength]
  · intro k step hstep
    rw [hget] at hstep
    obtain ⟨s, -, rfl⟩ := Option.map_eq_some_iff.1 hstep
    exact line_step workflow _
  · intro k segment step hsegment hstep
    rw [hget, hsegment] at hstep
    obtain rfl := Option.some.inj hstep
    exact segment.describes_step _ workflow

/-- Whenever a document is read, its steps stand on lines one below the other, and the account of its
lines says what they are: each step begins where its segment does, and is what the segment describes.
A document has one account only, in which every line has its place. -/
theorem account_of_readSteps {strictness : Strictness} {workflow text : String}
    {steps : List Step} (h : (readSteps strictness workflow text).outcome = .ok steps) :
    (steps.map (·.line)).Pairwise (· < ·) ∧
      ∃ account : Account, account.Covers (lines text) ∧
        (∀ other : Account, other.Covers (lines text) → other = account) ∧
        account.Describes workflow steps := by
  obtain ⟨account, hcovers⟩ := exists_covers (lines text)
  rw [steps_of_readSteps h]
  refine ⟨?_, account, hcovers, fun other hother => hother.unique hcovers,
    hcovers.describes_steps workflow⟩
  have hlines : ((Outline.ofText text).steps workflow).map (·.line) =
      ((sectionsFrom (account.front.length + 1) account.segments).map (·.line)).map Int.ofNat := by
    unfold Outline.steps Outline.ofText
    rw [hcovers.sections_eq, List.map_map, List.map_map]
    exact List.map_congr_left fun s _ => line_step workflow s
  rw [hlines, List.pairwise_map]
  exact (pairwise_line_sectionsFrom _ _).2.imp fun hlt => Int.ofNat_lt.2 hlt

/-- A document with a quoted heading in front, a loop whose block stands off, a step with two markers
of which the last has no block, and a block that the document ends in. -/
def patchwork : String :=
  unlines ["About", "\x60\x60\x60", "### Step 9: Quoted", "\x60\x60\x60", "### Step 1: Scan",
    "Look at each.", "<!-- loop:FILE -->", "", "\x60\x60\x60bash", " ls", "", "\x60\x60\x60",
    "Note it.", "### Step 2: Ship", "<!-- workflow:release -->", "Go.", "<!-- loop:TAG -->", "",
    "### Step 3: End", "<!-- loop:X -->", "\x60\x60\x60", "cat"]

theorem account_of_patchwork :
    ∃ steps, (readSteps .lenient "w" patchwork).outcome = .ok steps ∧
      steps.map (·.line) = [5, 14, 19] ∧
      steps.map (·.body) = ["Look at each.\nNote it.", "Go.", ""] ∧
      steps.map (·.command) = [some "ls", none, some "cat"] ∧
      (steps.map (·.line)).Pairwise (· < ·) ∧
      ∃ account : Account, account.Covers (lines patchwork) ∧
        (∀ other : Account, other.Covers (lines patchwork) → other = account) ∧
        account.Describes "w" steps := by
  have hread := outcome_readSteps_lenient "w" patchwork
  obtain ⟨hlines, hbodies, hcommands⟩ :
      ((Outline.ofText patchwork).steps "w").map (·.line) = [5, 14, 19] ∧
      ((Outline.ofText patchwork).steps "w").map (·.body) =
        ["Look at each.\nNote it.", "Go.", ""] ∧
      ((Outline.ofText patchwork).steps "w").map (·.command) = [some "ls", none, some "cat"] := by
    decide +kernel
  exact ⟨_, hread, hlines, hbodies, hcommands, account_of_readSteps hread⟩

end Runbook.Workflow
