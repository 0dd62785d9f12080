import Runbook.Proofs.Workflow.Scan

/-!
# `Proofs/Workflow/Account` — what becomes of every line of a document

The format can be said without a reader. A document is some lines in front and then segments, each
of them a heading with the items below it, and an item is a marker, a loop marker with the block that
it owns, or a line of text. `Account` is a document taken apart in this way, and `Account.Covers`
says that it is taken apart rightly: which lines may be a heading or a marker depends on the fence
depth they are met at, and a block is a loop marker's own if only blank lines lie between.

Every document has an account (`exists_covers`), and it has one only (`Account.Covers.unique`). So no
line is dropped, none is in two segments, and none could be taken for something else.
-/

set_option autoImplicit false

namespace Runbook.Workflow

open Runbook.Text

/-! ## Accounts -/

/-- A fenced block that belongs to a loop marker, with the blank lines before it. -/
structure Block where
  gaps : List String
  opening : String
  content : List String
  /-- The fence that ends the block, unless the document ends first. -/
  closing : Option String

/-- The lines of a block. -/
def Block.lines (b : Block) : List String :=
  b.gaps ++ b.opening :: (b.content ++ b.closing.toList)

/-- What a step is made of below its heading. -/
inductive Item where
  /-- A marker that puts another workflow in the place of the step. -/
  | workflow (line target : String)
  /-- A loop marker, with its block if it has one. -/
  | loop (line var : String) (block : Option Block)
  | text (line : String)

/-- The lines of an item. -/
def Item.lines : Item → List String
  | .workflow line _ => [line]
  | .loop line _ none => [line]
  | .loop line _ (some block) => line :: block.lines
  | .text line => [line]

/-- The lines of some items. -/
def itemLines (items : List Item) : List String := items.flatMap Item.lines

theorem itemLines_cons_append (item : Item) (items : List Item) (rest : List String) :
    itemLines (item :: items) ++ rest = item.lines ++ (itemLines items ++ rest) := by
  unfold itemLines
  rw [List.flatMap_cons, List.append_assoc]

/-- A heading and what is below it. -/
structure Segment where
  heading : String
  title : String
  items : List Item

/-- The lines of a segment. -/
def Segment.lines (s : Segment) : List String := s.heading :: itemLines s.items

/-- The lines of some segments. -/
def segmentLines (segments : List Segment) : List String := segments.flatMap Segment.lines

/-- A document that is taken apart. -/
structure Account where
  /-- The lines before the first segment. -/
  front : List String
  segments : List Segment

/-- The lines of a document that is taken apart. -/
def Account.lines (a : Account) : List String := a.front ++ segmentLines a.segments

/-! ## The format -/

/-- A block stands before some lines. It is as long as it can be: if no fence ends it, nothing
follows. -/
structure Block.Stands (b : Block) (rest : List String) : Prop where
  isBlankLine_of_mem_gaps : ∀ line ∈ b.gaps, isBlankLine line = true
  isFence_opening : isFence b.opening = true
  not_isFence_of_mem_content : ∀ line ∈ b.content, isFence line = false
  isFence_of_mem_closing : ∀ line ∈ b.closing, isFence line = true
  rest_eq_nil : b.closing = none → rest = []

/-- Items that are met at a fence depth and stand before some lines, which begin with a heading that
is met outside every fence. Markers are met outside every fence too. -/
inductive Met : Nat → List Item → List String → Prop
  | done {depth : Nat} {rest : List String} : (rest = [] ∨ depth = 0) → Met depth [] rest
  | workflow {line target : String} {items : List Item} {rest : List String} :
      marker? line = some (.workflow target) → Met 0 items rest →
      Met 0 (.workflow line target :: items) rest
  | bare {line var : String} {items : List Item} {rest : List String} :
      marker? line = some (.loop var) → hasBlock (itemLines items ++ rest) = false →
      Met 0 items rest → Met 0 (.loop line var none :: items) rest
  | owner {line var : String} {block : Block} {items : List Item} {rest : List String} :
      marker? line = some (.loop var) → block.Stands (itemLines items ++ rest) →
      Met 0 items rest → Met 0 (.loop line var (some block) :: items) rest
  | text {depth : Nat} {line : String} {items : List Item} {rest : List String} :
      (depth = 0 → headingTitle? line = none ∧ marker? line = none) →
      Met (depthAfter depth line) items rest → Met depth (.text line :: items) rest

/-- Segments that stand one behind the other, up to the end of the document. -/
def MetAll : List Segment → Prop
  | [] => True
  | s :: more =>
    headingTitle? s.heading = some s.title ∧ Met 0 s.items (segmentLines more) ∧ MetAll more

/-- Lines before the first heading outside every fence, from a fence depth on. -/
inductive Passed : Nat → List String → List String → Prop
  | done {depth : Nat} {rest : List String} : (rest = [] ∨ depth = 0) → Passed depth [] rest
  | line {depth : Nat} {line : String} {front rest : List String} :
      (depth = 0 → headingTitle? line = none) → Passed (depthAfter depth line) front rest →
      Passed depth (line :: front) rest

/-- An account of a document's lines. -/
structure Account.Covers (a : Account) (ls : List String) : Prop where
  lines_eq : a.lines = ls
  passed : Passed 0 a.front (segmentLines a.segments)
  metAll : MetAll a.segments

/-! ## Every document has an account -/

theorem Block.Stands.hasBlock_eq {b : Block} {rest : List String} (h : b.Stands rest)
    (more : List String) : hasBlock (b.lines ++ more) = true := by
  have hopening : isBlankLine b.opening = false := by
    refine Bool.eq_false_iff.2 fun hblank => ?_
    have hf := h.isFence_opening
    rw [not_isFence_of_isBlankLine hblank] at hf
    cases hf
  unfold hasBlock Block.lines
  rw [List.append_assoc, List.dropWhile_append_of_pos h.isBlankLine_of_mem_gaps, List.cons_append,
    List.dropWhile_cons_of_neg (by simp [hopening])]
  exact h.isFence_opening

/-- Where a block is due, one stands. -/
theorem exists_stands {ls : List String} (h : hasBlock ls = true) :
    ∃ block rest, ls = Block.lines block ++ rest ∧ block.Stands rest := by
  have hgaps : ∀ line ∈ ls.takeWhile isBlankLine, isBlankLine line = true :=
    List.all_eq_true.1 List.all_takeWhile
  have hsplit := List.takeWhile_append_dropWhile (p := isBlankLine) (l := ls)
  unfold hasBlock at h
  cases hbehind : ls.dropWhile isBlankLine with
  | nil => simp [hbehind] at h
  | cons opening more =>
    rw [hbehind] at h hsplit
    have hopening : isFence opening = true := h
    have hcontent : ∀ line ∈ more.takeWhile (!isFence ·), isFence line = false := by
      intro line hline
      simpa using List.all_eq_true.1 List.all_takeWhile line hline
    have hends := List.takeWhile_append_dropWhile (p := (!isFence ·)) (l := more)
    cases hclosing : more.dropWhile (!isFence ·) with
    | nil =>
      rw [hclosing, List.append_nil] at hends
      refine ⟨⟨ls.takeWhile isBlankLine, opening, more, none⟩, [], ?_, hgaps, hopening, ?_,
        fun line hline => by simp at hline, fun _ => rfl⟩
      · simpa [Block.lines] using hsplit.symm
      · rwa [hends] at hcontent
    | cons closing rest =>
      have hfence : isFence closing = true := by
        have hhead := List.head?_dropWhile_not (!isFence ·) more
        rw [hclosing] at hhead
        simpa using hhead
      rw [hclosing] at hends
      refine ⟨⟨ls.takeWhile isBlankLine, opening, more.takeWhile (!isFence ·), some closing⟩, rest,
        ?_, hgaps, hopening, hcontent, ?_, fun hnone => by cases hnone⟩
      · simpa [Block.lines, hends] using hsplit.symm
      · intro line hline
        rwa [← Option.mem_some_iff.1 hline]

/-- Whatever the depth, lines fall apart into items and segments. -/
theorem exists_met (ls : List String) (depth : Nat) : ∃ items segments,
    Met depth items (segmentLines segments) ∧ MetAll segments ∧
      itemLines items ++ segmentLines segments = ls := by
  induction hlength : ls.length using Nat.strongRecOn generalizing ls depth with
  | ind n ih =>
    subst hlength
    cases ls with
    | nil => exact ⟨[], [], .done (.inl rfl), trivial, rfl⟩
    | cons line rest =>
      have hrest : rest.length < (line :: rest).length := Nat.lt_succ_self _
      by_cases hbody : depth = 0 → headingTitle? line = none ∧ marker? line = none
      · obtain ⟨items, segments, hmet, hall, hlines⟩ :=
          ih _ hrest rest (depthAfter depth line) rfl
        exact ⟨.text line :: items, segments, .text hbody hmet, hall,
          congrArg (line :: ·) hlines⟩
      · obtain ⟨rfl, hspecial⟩ := Classical.not_imp.1 hbody
        obtain ⟨items, segments, hmet, hall, hlines⟩ := ih _ hrest rest 0 rfl
        cases hheading : headingTitle? line with
        | some title =>
          exact ⟨[], ⟨line, title, items⟩ :: segments, .done (.inr rfl), ⟨hheading, hmet, hall⟩,
            congrArg (line :: ·) hlines⟩
        | none =>
          cases hmarker : marker? line with
          | none => exact absurd ⟨hheading, hmarker⟩ hspecial
          | some marker =>
            cases marker with
            | workflow target =>
              exact ⟨.workflow line target :: items, segments, .workflow hmarker hmet, hall,
                congrArg (line :: ·) hlines⟩
            | loop var =>
              by_cases hblock : hasBlock rest = true
              · obtain ⟨block, behind, rfl, hstands⟩ := exists_stands hblock
                have hshorter : behind.length < (line :: (block.lines ++ behind)).length := by
                  rw [List.length_cons, List.length_append]
                  omega
                obtain ⟨items, segments, hmet, hall, rfl⟩ := ih _ hshorter behind 0 rfl
                refine ⟨.loop line var (some block) :: items, segments,
                  .owner hmarker hstands hmet, hall, ?_⟩
                exact congrArg (line :: ·) (List.append_assoc _ _ _)
              · rw [Bool.not_eq_true] at hblock
                exact ⟨.loop line var none :: items, segments,
                  .bare hmarker (hlines ▸ hblock) hmet, hall, congrArg (line :: ·) hlines⟩

theorem exists_passed (ls : List String) (depth : Nat) : ∃ front segments,
    Passed depth front (segmentLines segments) ∧ MetAll segments ∧
      front ++ segmentLines segments = ls := by
  induction ls generalizing depth with
  | nil => exact ⟨[], [], .done (.inl rfl), trivial, rfl⟩
  | cons line rest ih =>
    by_cases hpassed : depth = 0 → headingTitle? line = none
    · obtain ⟨front, segments, hfront, hall, hlines⟩ := ih (depthAfter depth line)
      exact ⟨line :: front, segments, .line hpassed hfront, hall, congrArg (line :: ·) hlines⟩
    · obtain ⟨rfl, hspecial⟩ := Classical.not_imp.1 hpassed
      obtain ⟨title, hheading⟩ := Option.ne_none_iff_exists'.1 hspecial
      obtain ⟨items, segments, hmet, hall, hlines⟩ := exists_met rest 0
      exact ⟨[], ⟨line, title, items⟩ :: segments, .done (.inr rfl), ⟨hheading, hmet, hall⟩,
        congrArg (line :: ·) hlines⟩

theorem exists_covers (ls : List String) : ∃ account : Account, account.Covers ls := by
  obtain ⟨front, segments, hpassed, hall, hlines⟩ := exists_passed ls 0
  exact ⟨⟨front, segments⟩, hlines, hpassed, hall⟩

/-! ## No document has two -/

/-- A run of elements of one kind, and the first element of another kind, are where they are. -/
theorem append_cons_inj {α : Type} {p : α → Bool} {front front' back back' : List α} {a a' : α}
    (hfront : ∀ b ∈ front, p b = true) (hfront' : ∀ b ∈ front', p b = true) (ha : p a = false)
    (ha' : p a' = false) (h : front ++ a :: back = front' ++ a' :: back') :
    front = front' ∧ a = a' ∧ back = back' := by
  have htake := congrArg (List.takeWhile p) h
  rw [List.takeWhile_append_of_pos hfront, List.takeWhile_append_of_pos hfront',
    List.takeWhile_cons_of_neg (by simp [ha]), List.takeWhile_cons_of_neg (by simp [ha']),
    List.append_nil, List.append_nil] at htake
  subst htake
  have hcons := List.append_cancel_left h
  exact ⟨rfl, List.cons.inj hcons⟩

theorem Block.Stands.unique {b b' : Block} {rest rest' : List String} (h : b.Stands rest)
    (h' : b'.Stands rest') (heq : b.lines ++ rest = b'.lines ++ rest') : b = b' ∧ rest = rest' := by
  obtain ⟨gaps, opening, content, closing⟩ := b
  obtain ⟨gaps', opening', content', closing'⟩ := b'
  obtain ⟨hgaps, hopening, hcontent, hclosing, hrest⟩ := h
  obtain ⟨hgaps', hopening', hcontent', hclosing', hrest'⟩ := h'
  have hblank : ∀ line : String, isFence line = true → isBlankLine line = false := by
    intro line hf
    refine Bool.eq_false_iff.2 fun hblank => ?_
    rw [not_isFence_of_isBlankLine hblank] at hf
    cases hf
  simp only [Block.lines, List.append_assoc, List.cons_append] at heq
  obtain ⟨rfl, rfl, hbehind⟩ :=
    append_cons_inj hgaps hgaps' (hblank _ hopening) (hblank _ hopening') heq
  have hplain : ∀ line ∈ content, (!isFence line) = true := fun line hl => by simp [hcontent line hl]
  have hplain' : ∀ line ∈ content', (!isFence line) = true :=
    fun line hl => by simp [hcontent' line hl]
  cases closing with
  | none =>
    obtain rfl := hrest rfl
    cases closing' with
    | none =>
      obtain rfl := hrest' rfl
      simp only [Option.toList_none, List.append_nil] at hbehind
      subst hbehind
      exact ⟨rfl, rfl⟩
    | some line =>
      -- The content of the one goes beyond the closing fence of the other.
      have hmem : line ∈ content := by
        simp only [Option.toList_none, Option.toList_some, List.append_nil] at hbehind
        rw [hbehind]
        exact List.mem_append_right _ List.mem_cons_self
      have hf := hclosing' line rfl
      rw [hcontent line hmem] at hf
      cases hf
  | some line =>
    cases closing' with
    | none =>
      obtain rfl := hrest' rfl
      have hmem : line ∈ content' := by
        simp only [Option.toList_none, Option.toList_some, List.append_nil] at hbehind
        rw [← hbehind]
        exact List.mem_append_right _ List.mem_cons_self
      have hf := hclosing line rfl
      rw [hcontent' line hmem] at hf
      cases hf
    | some line' =>
      obtain ⟨rfl, rfl, rfl⟩ := append_cons_inj hplain hplain' (by simp [hclosing line rfl])
        (by simp [hclosing' line' rfl]) hbehind
      exact ⟨rfl, rfl⟩

/-- The lines behind some items are none, or begin with a heading. -/
def Follows (rest : List String) : Prop := rest = [] ∨ BeginsStep rest

theorem MetAll.follows {segments : List Segment} (h : MetAll segments) :
    Follows (segmentLines segments) := by
  cases segments with
  | nil => exact .inl rfl
  | cons s more => exact .inr (Option.isSome_iff_exists.2 ⟨s.title, h.1⟩)

theorem not_beginsStep_cons {line : String} (h : headingTitle? line = none)
    (rest : List String) : ¬ BeginsStep (line :: rest) := by
  intro hbegins
  have hsome : (headingTitle? line).isSome = true := hbegins
  rw [h] at hsome
  cases hsome

/-- Outside every fence no item begins with a heading. -/
theorem Met.not_beginsStep {item : Item} {items : List Item} {rest : List String}
    (h : Met 0 (item :: items) rest) : ¬ BeginsStep (itemLines (item :: items) ++ rest) := by
  cases h with
  | workflow hmarker _ => exact not_beginsStep_cons (headingTitle?_of_marker? hmarker) _
  | bare hmarker _ _ => exact not_beginsStep_cons (headingTitle?_of_marker? hmarker) _
  | owner hmarker _ _ => exact not_beginsStep_cons (headingTitle?_of_marker? hmarker) _
  | text hplain _ => exact not_beginsStep_cons (hplain rfl).1 _

theorem Item.lines_ne_nil (item : Item) : item.lines ≠ [] := by
  cases item with
  | workflow line target => exact List.cons_ne_nil _ _
  | loop line var block => cases block <;> exact List.cons_ne_nil _ _
  | text line => exact List.cons_ne_nil _ _

/-- Items end where the next heading outside every fence is. -/
theorem Met.eq_nil {depth : Nat} {items : List Item} {rest rest' : List String}
    (h : Met depth items rest) (hdone : rest' = [] ∨ depth = 0) (hfollows : Follows rest')
    (heq : rest' = itemLines items ++ rest) : items = [] := by
  cases items with
  | nil => rfl
  | cons item items =>
    exfalso
    have hne : rest' ≠ [] := by
      rw [heq, itemLines_cons_append]
      exact List.append_ne_nil_of_left_ne_nil item.lines_ne_nil _
    obtain rfl := hdone.resolve_left hne
    exact h.not_beginsStep (heq ▸ hfollows.resolve_left hne)

/-- The depth behind an item that is met at a depth. -/
def Item.depthBehind (depth : Nat) : Item → Nat
  | .text line => depthAfter depth line
  | .workflow _ _ | .loop _ _ _ => 0

theorem Met.tail {depth : Nat} {item : Item} {items : List Item} {rest : List String}
    (h : Met depth (item :: items) rest) : Met (item.depthBehind depth) items rest := by
  cases h with
  | workflow _ hmet => exact hmet
  | bare _ _ hmet => exact hmet
  | owner _ _ hmet => exact hmet
  | text _ hmet => exact hmet

/-- The next item is told by the lines that are left. -/
theorem Met.head_unique {depth : Nat} {item item' : Item} {items items' : List Item}
    {rest rest' : List String} (h : Met depth (item :: items) rest)
    (h' : Met depth (item' :: items') rest')
    (heq : item.lines ++ (itemLines items ++ rest) = item'.lines ++ (itemLines items' ++ rest')) :
    item = item' ∧ itemLines items ++ rest = itemLines items' ++ rest' := by
  cases h with
  | workflow hm _ =>
    cases h' with
    | workflow hm' _ =>
      obtain ⟨rfl, hbehind⟩ := List.cons.inj heq
      obtain rfl := Marker.workflow.inj (Option.some.inj (hm.symm.trans hm'))
      exact ⟨rfl, hbehind⟩
    | bare hm' _ _ | owner hm' _ _ =>
      obtain ⟨rfl, -⟩ := List.cons.inj heq
      cases hm.symm.trans hm'
    | text hplain _ =>
      obtain ⟨rfl, -⟩ := List.cons.inj heq
      cases hm.symm.trans (hplain rfl).2
  | bare hm hblock _ =>
    cases h' with
    | workflow hm' _ =>
      obtain ⟨rfl, -⟩ := List.cons.inj heq
      cases hm.symm.trans hm'
    | bare hm' _ _ =>
      obtain ⟨rfl, hbehind⟩ := List.cons.inj heq
      obtain rfl := Marker.loop.inj (Option.some.inj (hm.symm.trans hm'))
      exact ⟨rfl, hbehind⟩
    | owner _ hstands' _ =>
      have hbehind := (List.cons.inj heq).2
      cases (congrArg hasBlock hbehind).symm.trans hblock |>.symm.trans (hstands'.hasBlock_eq _)
    | text hplain _ =>
      obtain ⟨rfl, -⟩ := List.cons.inj heq
      cases hm.symm.trans (hplain rfl).2
  | owner hm hstands _ =>
    cases h' with
    | workflow hm' _ =>
      obtain ⟨rfl, -⟩ := List.cons.inj heq
      cases hm.symm.trans hm'
    | bare _ hblock' _ =>
      have hbehind := (List.cons.inj heq).2
      cases (congrArg hasBlock hbehind).trans hblock' |>.symm.trans (hstands.hasBlock_eq _)
    | owner hm' hstands' _ =>
      obtain ⟨rfl, hbehind⟩ := List.cons.inj heq
      obtain ⟨rfl, hlines⟩ := hstands.unique hstands' hbehind
      obtain rfl := Marker.loop.inj (Option.some.inj (hm.symm.trans hm'))
      exact ⟨rfl, hlines⟩
    | text hplain _ =>
      obtain ⟨rfl, -⟩ := List.cons.inj heq
      cases hm.symm.trans (hplain rfl).2
  | text hplain _ =>
    cases h' with
    | workflow hm' _ | bare hm' _ _ | owner hm' _ _ =>
      obtain ⟨rfl, -⟩ := List.cons.inj heq
      cases hm'.symm.trans (hplain rfl).2
    | text _ _ =>
      obtain ⟨rfl, hbehind⟩ := List.cons.inj heq
      exact ⟨rfl, hbehind⟩

theorem Met.unique {depth : Nat} {items items' : List Item} {rest rest' : List String}
    (h : Met depth items rest) (h' : Met depth items' rest') (hrest : Follows rest)
    (hrest' : Follows rest') (heq : itemLines items ++ rest = itemLines items' ++ rest') :
    items = items' ∧ rest = rest' := by
  induction items generalizing depth items' with
  | nil =>
    cases h with
    | done hdone =>
      obtain rfl := h'.eq_nil hdone hrest heq
      exact ⟨rfl, heq⟩
  | cons item items ih =>
    cases items' with
    | nil =>
      cases h' with
      | done hdone => cases h.eq_nil hdone hrest' heq.symm
    | cons item' items' =>
      rw [itemLines_cons_append, itemLines_cons_append] at heq
      obtain ⟨rfl, hbehind⟩ := h.head_unique h' heq
      obtain ⟨rfl, rfl⟩ := ih h.tail h'.tail hbehind
      exact ⟨rfl, rfl⟩

theorem Passed.unique {depth : Nat} {front front' rest rest' : List String}
    (h : Passed depth front rest) (h' : Passed depth front' rest') (hrest : Follows rest)
    (hrest' : Follows rest') (heq : front ++ rest = front' ++ rest') :
    front = front' ∧ rest = rest' := by
  have hstop : ∀ {depth : Nat} {line : String} {more behind : List String},
      (depth = 0 → headingTitle? line = none) → (behind = [] ∨ depth = 0) → Follows behind →
      behind ≠ line :: more := by
    rintro depth line more behind hplain hdone hbehind rfl
    obtain rfl := hdone.resolve_left (List.cons_ne_nil _ _)
    exact not_beginsStep_cons (hplain rfl) more (hbehind.resolve_left (List.cons_ne_nil _ _))
  induction h generalizing front' with
  | done hdone =>
    cases h' with
    | done _ => exact ⟨rfl, heq⟩
    | line hplain _ => exact absurd heq (hstop hplain hdone hrest)
  | line hplain _ ih =>
    cases h' with
    | done hdone => exact absurd heq.symm (hstop hplain hdone hrest')
    | line _ hfront' =>
      obtain ⟨rfl, hbehind⟩ := List.cons.inj heq
      obtain ⟨rfl, rfl⟩ := ih hfront' hrest hbehind
      exact ⟨rfl, rfl⟩

theorem MetAll.unique {segments segments' : List Segment} (h : MetAll segments)
    (h' : MetAll segments') (heq : segmentLines segments = segmentLines segments') :
    segments = segments' := by
  induction segments generalizing segments' with
  | nil =>
    cases segments' with
    | nil => rfl
    | cons s' more' => cases heq
  | cons s more ih =>
    cases segments' with
    | nil => cases heq
    | cons s' more' =>
      obtain ⟨heading, title, items⟩ := s
      obtain ⟨heading', title', items'⟩ := s'
      obtain ⟨htitle, hmet, hall⟩ := h
      obtain ⟨htitle', hmet', hall'⟩ := h'
      obtain ⟨rfl, hbehind⟩ := List.cons.inj heq
      obtain ⟨rfl, hlines⟩ := hmet.unique hmet' hall.follows hall'.follows hbehind
      obtain rfl := ih hall hall' hlines
      obtain rfl : title = title' := Option.some.inj (htitle.symm.trans htitle')
      rfl

/-- A document has one account only. -/
theorem Account.Covers.unique {a b : Account} {ls : List String} (ha : a.Covers ls)
    (hb : b.Covers ls) : a = b := by
  obtain ⟨front, segments⟩ := a
  obtain ⟨front', segments'⟩ := b
  obtain ⟨rfl, hlines⟩ := ha.passed.unique hb.passed ha.metAll.follows hb.metAll.follows
    (ha.lines_eq.trans hb.lines_eq.symm)
  obtain rfl := ha.metAll.unique hb.metAll hlines
  rfl

end Runbook.Workflow
