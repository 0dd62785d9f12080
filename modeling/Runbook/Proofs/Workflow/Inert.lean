import Mathlib.Data.List.Forall2
import Runbook.Proofs.Workflow.Boundary

/-!
# `Proofs/Workflow/Inert` — what stands in a fenced block is not read

Two documents have the same number of lines, and where they differ the reader of the first one
stands inside a fenced block or a command block (`SameOutside`). Both lines are no fences there;
whatever else they are, headings and markers among it, makes no difference. The reader goes through
both documents in step: each line of the one has the role of the same line of the other
(`SameOutside.scan_eq`). So the sections have the same headings and the same marks, and the
steps can differ in two things only: in the body, where a line of the text was changed inside a
fence of that step, and in the command, where a line of that command was changed.
-/

set_option autoImplicit false

namespace Runbook.Workflow

open Runbook.Text

/-! ## Where two documents may differ -/

/-- The places at which the reader meets some lines. -/
def placesFrom (place : Place) : List String → List Place
  | [] => []
  | line :: rest => place :: placesFrom (roleAt place line rest).2 rest

/-- Inside a fenced block of the text, or inside a command block. -/
def Place.Fenced (place : Place) : Prop := 0 < place.depth ∨ place = .command

instance (place : Place) : Decidable place.Fenced := inferInstanceAs (Decidable (_ ∨ _))

/-- Of as many lines, those that are not the same are met inside a fenced block and are no fences.
-/
structure SameOutside (place : Place) (ls ls' : List String) : Prop where
  length_eq : ls.length = ls'.length
  fenced_of_ne : ∀ i : Nat, ls[i]? ≠ ls'[i]? →
    ∃ p : Place, (placesFrom place ls)[i]? = some p ∧ p.Fenced
  not_isFence_of_ne : ∀ i : Nat, ls[i]? ≠ ls'[i]? →
    ls[i]?.any isFence = false ∧ ls'[i]?.any isFence = false

theorem sameOutside_iff {place : Place} {ls ls' : List String} : SameOutside place ls ls' ↔
    ls.length = ls'.length ∧ ∀ i < ls.length, ls[i]? ≠ ls'[i]? →
      (placesFrom place ls)[i]?.any (fun p => decide p.Fenced) = true ∧
        ls[i]?.any isFence = false ∧ ls'[i]?.any isFence = false := by
  constructor
  · intro h
    refine ⟨h.length_eq, fun i _ hne => ⟨?_, h.not_isFence_of_ne i hne⟩⟩
    obtain ⟨p, hp, hfenced⟩ := h.fenced_of_ne i hne
    rw [hp]
    exact decide_eq_true hfenced
  · rintro ⟨hlength, hall⟩
    have hlt : ∀ i : Nat, ls[i]? ≠ ls'[i]? → i < ls.length := by
      intro i hne
      refine Nat.lt_of_not_le fun hle => hne ?_
      rw [List.getElem?_eq_none hle, List.getElem?_eq_none (hlength ▸ hle)]
    refine ⟨hlength, fun i hne => ?_, fun i hne => (hall i (hlt i hne) hne).2⟩
    obtain ⟨p, hp, hfenced⟩ := (Option.any_eq_true _ _).1 (hall i (hlt i hne) hne).1
    exact ⟨p, hp, of_decide_eq_true hfenced⟩

instance (place : Place) (ls ls' : List String) : Decidable (SameOutside place ls ls') :=
  decidable_of_iff' _ sameOutside_iff

theorem SameOutside.nil_left {place : Place} {ls : List String} (h : SameOutside place [] ls) :
    ls = [] := List.length_eq_zero_iff.1 h.length_eq.symm

theorem SameOutside.exists_cons {place : Place} {line : String} {rest ls : List String}
    (h : SameOutside place (line :: rest) ls) : ∃ line' rest', ls = line' :: rest' :=
  List.exists_cons_of_length_eq_add_one (h.length_eq.symm.trans List.length_cons)

section Head

variable {place : Place} {line line' : String} {rest rest' : List String}

/-- The first of two lines that are met are the same, unless they are inside a fenced block. -/
theorem SameOutside.head (h : SameOutside place (line :: rest) (line' :: rest')) :
    line = line' ∨ place.Fenced ∧ isFence line = false ∧ isFence line' = false := by
  by_cases heq : line = line'
  · exact .inl heq
  · have hne : (line :: rest)[0]? ≠ (line' :: rest')[0]? := fun h => heq (Option.some.inj h)
    obtain ⟨p, hp, hfenced⟩ := h.fenced_of_ne 0 hne
    obtain rfl : place = p := Option.some.inj hp
    exact .inr ⟨hfenced, h.not_isFence_of_ne 0 hne⟩

theorem SameOutside.tail (h : SameOutside place (line :: rest) (line' :: rest')) :
    SameOutside (roleAt place line rest).2 rest rest' where
  length_eq := Nat.succ.inj h.length_eq
  fenced_of_ne i := h.fenced_of_ne (i + 1)
  not_isFence_of_ne i := h.not_isFence_of_ne (i + 1)

end Head

/-! ## Two readings in step -/

/-- Behind a marker no line is inside a fenced block until a block has been opened. So the look
ahead sees the same. -/
theorem SameOutside.hasBlock_eq {place : Place} {ls ls' : List String}
    (hplace : place = .gap ∨ place = .text 0) (h : SameOutside place ls ls') :
    hasBlock ls = hasBlock ls' := by
  induction ls generalizing place ls' with
  | nil => rw [h.nil_left]
  | cons line rest ih =>
    obtain ⟨line', rest', rfl⟩ := h.exists_cons
    have hopen : ¬ place.Fenced := by
      rcases hplace with rfl | rfl <;> decide
    obtain rfl : line = line' := h.head.resolve_right fun hf => hopen hf.1
    by_cases hblank : isBlankLine line = true
    · have hfence := not_isFence_of_isBlankLine hblank
      have hnext : (roleAt place line rest).2 = .gap ∨ (roleAt place line rest).2 = .text 0 := by
        rcases hplace with rfl | rfl
        · exact .inl (by rw [roleAt_gap hfence])
        · refine .inr ?_
          rw [roleAt_body fun _ =>
            ⟨headingTitle?_of_isBlankLine hblank, marker?_of_isBlankLine hblank⟩]
          exact congrArg Place.text (depthAfter_of_not_isFence hfence 0)
      rw [hasBlock_cons_of_isBlankLine hblank, hasBlock_cons_of_isBlankLine hblank,
        ih hnext h.tail]
    · rw [Bool.not_eq_true] at hblank
      rw [hasBlock_cons_of_not_isBlankLine hblank, hasBlock_cons_of_not_isBlankLine hblank]

/-- Inside a fenced block all lines that are no fences are alike. -/
theorem roleAt_of_fenced {place : Place} (h : place.Fenced) {line line' : String}
    (hf : isFence line = false) (hf' : isFence line' = false) (rest rest' : List String) :
    roleAt place line rest = roleAt place line' rest' := by
  cases place with
  | preamble depth =>
    cases depth with
    | zero => exact absurd h (by decide)
    | succ depth =>
      rw [roleAt_preamble (by simp), roleAt_preamble (by simp), depthAfter_of_not_isFence hf,
        depthAfter_of_not_isFence hf']
  | text depth =>
    cases depth with
    | zero => exact absurd h (by decide)
    | succ depth =>
      rw [roleAt_body (by simp), roleAt_body (by simp), depthAfter_of_not_isFence hf,
        depthAfter_of_not_isFence hf']
  | gap => exact absurd h (by decide)
  | command => rw [roleAt_command hf, roleAt_command hf']

/-- Only a loop marker of the text makes the reader look ahead. -/
theorem roleAt_of_not_loop {place : Place} {line : String}
    (h : ∀ var, ¬ (place = .text 0 ∧ marker? line = some (.loop var))) (rest rest' : List String) :
    roleAt place line rest = roleAt place line rest' := by
  cases place with
  | preamble depth => cases depth <;> rfl
  | text depth =>
    cases depth with
    | zero =>
      rw [roleAt_text_zero, roleAt_text_zero]
      unfold roleOutside
      split
      · rfl
      · rfl
      · next var _ hm => exact absurd ⟨rfl, hm⟩ (h var)
      · rfl
    | succ depth => rfl
  | gap => rfl
  | command => rfl

/-- The step lemma: the first lines have the same role and lead to the same place. -/
theorem SameOutside.roleAt_eq {place : Place} {line line' : String} {rest rest' : List String}
    (h : SameOutside place (line :: rest) (line' :: rest')) :
    roleAt place line rest = roleAt place line' rest' := by
  rcases h.head with rfl | ⟨hfenced, hf, hf'⟩
  · by_cases hloop : ∃ var, place = .text 0 ∧ marker? line = some (.loop var)
    · obtain ⟨var, rfl, hm⟩ := hloop
      have hnext : (roleAt (.text 0) line rest).2 = .gap ∨
          (roleAt (.text 0) line rest).2 = .text 0 := by
        rw [roleAt_loop hm]
        split
        · exact .inl rfl
        · exact .inr rfl
      exact roleAt_congr (h.tail.hasBlock_eq hnext) _ _
    · exact roleAt_of_not_loop (not_exists.1 hloop) rest rest'
  · exact roleAt_of_fenced hfenced hf hf' rest rest'

/-- The run lemma: every line has the role of its counterpart, and both readings end alike. -/
theorem SameOutside.scan_eq {place : Place} {ls ls' : List String} (h : SameOutside place ls ls') :
    (scan place ls).1.map (·.2) = (scan place ls').1.map (·.2) ∧
      (scan place ls).2 = (scan place ls').2 := by
  induction ls generalizing place ls' with
  | nil =>
    rw [h.nil_left]
    exact ⟨rfl, rfl⟩
  | cons line rest ih =>
    obtain ⟨line', rest', rfl⟩ := h.exists_cons
    obtain ⟨hroles, hending⟩ := ih h.tail
    rw [scan_cons, scan_cons, ← h.roleAt_eq]
    exact ⟨congrArg (_ :: ·) hroles, hending⟩

/-! ## Sections with the same roles -/

/-- Sections that differ in what their lines say at most. -/
structure Section.Alike (s s' : Section) : Prop where
  title_eq : s.title = s'.title
  line_eq : s.line = s'.line
  roles_eq : s.lines.map (·.2) = s'.lines.map (·.2)

theorem alike_divide {cs cs' : List Classified} (h : cs.map (·.2) = cs'.map (·.2)) (line : Nat) :
    (divide line cs).1.map (·.2) = (divide line cs').1.map (·.2) ∧
      List.Forall₂ Section.Alike (divide line cs).2 (divide line cs').2 := by
  induction cs generalizing cs' line with
  | nil =>
    obtain rfl : cs' = [] := List.map_eq_nil_iff.1 h.symm
    exact ⟨rfl, .nil⟩
  | cons c cs ih =>
    obtain ⟨c', cs', rfl⟩ : ∃ c' cs'', cs' = c' :: cs'' :=
      List.exists_cons_of_length_eq_add_one (by simpa using (congrArg List.length h).symm)
    obtain ⟨hrole, hrest⟩ : c.2 = c'.2 ∧ cs.map (·.2) = cs'.map (·.2) := List.cons.inj h
    obtain ⟨hfront, hsections⟩ := ih hrest (line + 1)
    rcases plain_or_heading c with hc | ⟨title, hc⟩
    · have hc' : Plain c' := fun title => hrole ▸ hc title
      rw [divide_cons_of_plain hc, divide_cons_of_plain hc']
      exact ⟨congrArg₂ List.cons hrole hfront, hsections⟩
    · have hc' : c' = (c'.1, .heading title) := Prod.ext rfl (by rw [← hrole, hc])
      rw [hc, hc', divide_cons_heading, divide_cons_heading]
      exact ⟨rfl, .cons ⟨rfl, rfl, hfront⟩ hsections⟩

/-- The lines of one role, in lists of the same roles. -/
theorem filter_role_eq {role : Role} {cs cs' : List Classified}
    (hroles : cs.map (·.2) = cs'.map (·.2))
    (hsame : ∀ (j : Nat) (line line' : String), cs[j]? = some (line, role) →
      cs'[j]? = some (line', role) → line = line') :
    (cs.filter (·.2 == role)).map (·.1) = (cs'.filter (·.2 == role)).map (·.1) := by
  induction cs generalizing cs' with
  | nil =>
    obtain rfl : cs' = [] := List.map_eq_nil_iff.1 hroles.symm
    rfl
  | cons c cs ih =>
    obtain ⟨⟨line', r'⟩, cs', rfl, hr, hrest⟩ := List.map_eq_cons_iff.1 hroles.symm
    obtain ⟨line, r⟩ := c
    obtain rfl : r' = r := hr
    have htail := ih hrest.symm fun j => hsame (j + 1)
    by_cases hrole : r' = role
    · subst hrole
      rw [List.filter_cons_of_pos (by simp), List.filter_cons_of_pos (by simp), List.map_cons,
        List.map_cons, htail, hsame 0 line line' rfl rfl]
    · rw [List.filter_cons_of_neg (by simpa using hrole),
        List.filter_cons_of_neg (by simpa using hrole), htail]

theorem blockLines_eq {cs cs' : List Classified} (hroles : cs.map (·.2) = cs'.map (·.2))
    (hsame : ∀ (j : Nat) (line line' : String), cs[j]? = some (line, .command) →
      cs'[j]? = some (line', .command) → line = line') : blockLines cs = blockLines cs' := by
  have hfront : ∀ (ds : List Classified) {j : Nat} {c : Classified},
      (ds.takeWhile (·.2.inBlock))[j]? = some c → ds[j]? = some c := by
    intro ds j c hj
    obtain ⟨hlt, rfl⟩ := List.getElem?_eq_some_iff.1 hj
    exact List.prefix_iff_getElem?.1 (List.takeWhile_prefix _) j hlt
  have htake : ∀ ds : List Classified,
      (ds.takeWhile (·.2.inBlock)).map (·.2) = (ds.map (·.2)).takeWhile Role.inBlock := by
    intro ds
    rw [List.takeWhile_map]
    rfl
  unfold blockLines
  refine filter_role_eq ?_ fun j line line' hj hj' =>
    hsame j line line' (hfront cs hj) (hfront cs' hj')
  rw [htake, htake, hroles]

/-! ## Marks -/

/-- The line is a marker. -/
def Role.isMark : Role → Bool
  | .workflow _ | .loop .. => true
  | _ => false

/-- A mark whose command is not looked at. -/
def Mark.frame : Mark → Mark
  | .workflow target => .workflow target
  | .loop var command => .loop var (command.map fun _ => "")

theorem not_isMark_of_marks_eq_nil {cs : List Classified} (h : marks cs = []) :
    ∀ c ∈ cs, c.2.isMark = false := by
  induction cs with
  | nil => simp
  | cons c cs ih =>
    obtain ⟨line, role⟩ := c
    cases role with
    | workflow target => cases h
    | loop var owns => cases h
    | _ => exact List.forall_mem_cons.2 ⟨rfl, ih h⟩

theorem map_frame_marks {cs cs' : List Classified} (h : cs.map (·.2) = cs'.map (·.2)) :
    (marks cs).map Mark.frame = (marks cs').map Mark.frame := by
  induction cs generalizing cs' with
  | nil =>
    obtain rfl : cs' = [] := List.map_eq_nil_iff.1 h.symm
    rfl
  | cons c cs ih =>
    obtain ⟨⟨line', role'⟩, cs', rfl, hrole, hrest⟩ := List.map_eq_cons_iff.1 h.symm
    obtain ⟨line, role⟩ := c
    obtain rfl : role' = role := hrole
    have htail := ih hrest.symm
    cases role' with
    | workflow target => exact congrArg (Mark.workflow target :: ·) htail
    | loop var owns =>
      have hframe : ∀ text text' : String,
          (Mark.loop var (if owns then some text else none)).frame =
            (Mark.loop var (if owns then some text' else none)).frame := by
        intro text text'
        cases owns <;> rfl
      exact congrArg₂ List.cons (hframe _ _) htail
    | _ => exact htail

/-- The last mark depends on the lines of its own command block only. -/
theorem getLast?_marks_eq {cs cs' : List Classified} (hroles : cs.map (·.2) = cs'.map (·.2))
    (hsame : ∀ (j : Nat) (line line' : String), cs[j]? = some (line, .command) →
      cs'[j]? = some (line', .command) → (∀ c ∈ cs.drop j, c.2.isMark = false) → line = line') :
    (marks cs).getLast? = (marks cs').getLast? := by
  induction cs generalizing cs' with
  | nil =>
    obtain rfl : cs' = [] := List.map_eq_nil_iff.1 hroles.symm
    rfl
  | cons c cs ih =>
    obtain ⟨⟨line', role'⟩, cs', rfl, hrole, hrest⟩ := List.map_eq_cons_iff.1 hroles.symm
    obtain ⟨line, role⟩ := c
    obtain rfl : role' = role := hrole
    have htail := ih hrest.symm fun j => hsame (j + 1)
    cases role' with
    | workflow target =>
      show (Mark.workflow target :: marks cs).getLast? = (Mark.workflow target :: marks cs').getLast?
      rw [List.getLast?_cons, List.getLast?_cons, htail]
    | loop var owns =>
      simp only [marks, List.getLast?_cons, ← htail]
      cases hlast : (marks cs).getLast? with
      | some mark => rw [Option.getD_some, Option.getD_some]
      | none =>
        -- No mark is behind this one, so each line of a command that is left belongs to it.
        have hnone := not_isMark_of_marks_eq_nil (List.getLast?_eq_none_iff.1 hlast)
        rw [blockLines_eq hrest.symm fun j line line' hj hj' => hsame (j + 1) line line' hj hj'
          fun c hc => hnone c (List.mem_of_mem_drop hc)]
    | _ => exact htail

/-! ## Steps -/

/-- A step without its body and what its command says. -/
def Step.frame (s : Step) : Step := { s with body := "", command := s.command.map fun _ => "" }

theorem frame_step (workflow : String) (s : Section) : (s.step workflow).frame =
    let base : Step := { id := slug s.title, name := s.title, workflow, line := s.line }
    match s.marks.getLast?.map Mark.frame with
    | none => base
    | some (.workflow target) => { base with kind := .nested, target := some target }
    | some (.loop var command) => { base with kind := .loop, var := some var, command } := by
  unfold Section.step
  cases s.marks.getLast? with
  | none => rfl
  | some mark => cases mark <;> rfl

theorem Section.Alike.frame_step_eq {s s' : Section} (h : s.Alike s') (workflow : String) :
    (s.step workflow).frame = (s'.step workflow).frame := by
  have hlast : s.marks.getLast?.map Mark.frame = s'.marks.getLast?.map Mark.frame := by
    rw [← List.getLast?_map, ← List.getLast?_map]
    exact congrArg List.getLast? (map_frame_marks h.roles_eq)
  rw [frame_step, frame_step, h.title_eq, h.line_eq, hlast]

theorem Section.Alike.conflicted_eq {s s' : Section} (h : s.Alike s') :
    s.conflicted = s'.conflicted := by
  have hlength := congrArg List.length (map_frame_marks h.roles_eq)
  rw [List.length_map, List.length_map] at hlength
  unfold Section.conflicted Section.marks
  rw [hlength]

/-- Bodies differ only if a line of the text does. -/
theorem Section.Alike.exists_of_body_ne {s s' : Section} (h : s.Alike s')
    (hne : s.body ≠ s'.body) : ∃ (j : Nat) (line line' : String),
      s.lines[j]? = some (line, .body) ∧ s'.lines[j]? = some (line', .body) ∧ line ≠ line' := by
  by_contra hnone
  refine hne (congrArg (trimmed ∘ unlines) (filter_role_eq h.roles_eq ?_))
  exact fun j line line' hj hj' => by_contra fun hline => hnone ⟨j, line, line', hj, hj', hline⟩

/-- Commands differ only if a line of the last command block does, no marker following it. -/
theorem Section.Alike.exists_of_command_ne {workflow : String} {s s' : Section} (h : s.Alike s')
    (hne : (s.step workflow).command ≠ (s'.step workflow).command) :
    ∃ (j : Nat) (line line' : String), s.lines[j]? = some (line, .command) ∧
      s'.lines[j]? = some (line', .command) ∧ line ≠ line' ∧
      ∀ c ∈ s.lines.drop j, c.2.isMark = false := by
  by_contra hnone
  refine hne ?_
  have hlast : s.marks.getLast? = s'.marks.getLast? :=
    getLast?_marks_eq h.roles_eq fun j line line' hj hj' hlater =>
      by_contra fun hline => hnone ⟨j, line, line', hj, hj', hline, hlater⟩
  rw [command_step, command_step, hlast]

theorem map_find?_conflicted {ss ss' : List Section} (h : List.Forall₂ Section.Alike ss ss') :
    (ss.find? Section.conflicted).map (fun s => (s.title, s.line)) =
      (ss'.find? Section.conflicted).map fun s => (s.title, s.line) := by
  induction h with
  | nil => rfl
  | cons hs _ ih =>
    rw [List.find?_cons, List.find?_cons, ← hs.conflicted_eq]
    split
    · rw [Option.map_some, Option.map_some, hs.title_eq, hs.line_eq]
    · exact ih

/-! ## Where a step stands in its document -/

theorem fst_divide_prefix (line : Nat) (cs : List Classified) : (divide line cs).1 <+: cs := by
  induction cs generalizing line with
  | nil => exact List.prefix_refl []
  | cons c cs ih =>
    rcases plain_or_heading c with hc | ⟨title, hc⟩
    · rw [divide_cons_of_plain hc]
      exact List.cons_prefix_cons.2 ⟨rfl, ih (line + 1)⟩
    · rw [hc, divide_cons_heading]
      exact List.nil_prefix

/-- The line at which section `k` begins; if there is none, the line behind the last one. -/
def startOf (line : Nat) (cs : List Classified) (k : Nat) : Nat :=
  ((divide line cs).2[k]?.map Section.line).getD (line + cs.length)

theorem startOf_zero (line : Nat) (cs : List Classified) :
    startOf line cs 0 = line + (divide line cs).1.length := by
  induction cs generalizing line with
  | nil => rfl
  | cons c cs ih =>
    rcases plain_or_heading c with hc | ⟨title, hc⟩
    · have hrest := ih (line + 1)
      unfold startOf at hrest ⊢
      rw [divide_cons_of_plain hc, List.length_cons, Nat.add_comm cs.length, ← Nat.add_assoc,
        hrest, List.length_cons, Nat.add_right_comm, Nat.add_assoc]
    · rw [hc]
      rfl

/-- A section holds the lines behind its heading up to the next section. -/
theorem section_divide {line k : Nat} {cs : List Classified} {s : Section}
    (h : (divide line cs).2[k]? = some s) :
    ∃ m, s.line = line + m ∧ s.lines <+: cs.drop (m + 1) ∧
      startOf line cs (k + 1) = s.line + s.lines.length + 1 := by
  induction cs generalizing line k with
  | nil => cases h
  | cons c cs ih =>
    rcases plain_or_heading c with hc | ⟨title, hc⟩
    · rw [divide_cons_of_plain hc] at h
      obtain ⟨m, hline, hlines, hnext⟩ := ih h
      refine ⟨m + 1, by omega, hlines, ?_⟩
      rw [← hnext]
      unfold startOf
      rw [divide_cons_of_plain hc, List.length_cons, Nat.add_right_comm, ← Nat.add_assoc]
    · rw [hc] at h ⊢
      rw [divide_cons_heading] at h
      have hstart : ∀ n, startOf line ((c.1, .heading title) :: cs) (n + 1) =
          startOf (line + 1) cs n := by
        intro n
        unfold startOf
        rw [divide_cons_heading, List.length_cons, Nat.add_right_comm, ← Nat.add_assoc]
        rfl
      rw [hstart]
      cases k with
      | zero =>
        obtain rfl := Option.some.inj h
        refine ⟨0, rfl, fst_divide_prefix (line + 1) cs, ?_⟩
        rw [startOf_zero]
        dsimp only
        omega
      | succ k =>
        obtain ⟨m, hline, hlines, hnext⟩ := ih h
        exact ⟨m + 1, by omega, hlines, hnext⟩

/-- Line `i`, counted from zero, belongs to step `k`: it comes after the heading of that step and
before the next one. -/
def Encloses (steps : List Step) (k i : Nat) : Prop :=
  (∃ step, steps[k]? = some step ∧ step.line ≤ i) ∧
    ∀ next, steps[k + 1]? = some next → i + 1 < next.line

section Outline

variable {ls : List String} {k : Nat} {s : Section}

theorem getElem?_steps (workflow : String) (k : Nat) : ((Outline.ofLines ls).steps workflow)[k]? =
    (Outline.ofLines ls).sections[k]?.map (Section.step workflow) := List.getElem?_map

/-- The lines of a section in the reading of its document. -/
theorem getElem?_scan_of_section (hs : (Outline.ofLines ls).sections[k]? = some s) {j : Nat}
    {c : Classified} (hj : s.lines[j]? = some c) :
    (scan (.preamble 0) ls).1[s.line + j]? = some c := by
  obtain ⟨m, hline, hlines, -⟩ := section_divide hs
  obtain ⟨hlt, rfl⟩ := List.getElem?_eq_some_iff.1 hj
  rw [hline, Nat.add_comm 1, ← List.getElem?_drop]
  exact List.prefix_iff_getElem?.1 hlines j hlt

/-- A step encloses the lines of its section, and no others. -/
theorem encloses_iff (hs : (Outline.ofLines ls).sections[k]? = some s) (workflow : String) {i : Nat}
    (hi : i < ls.length) : Encloses ((Outline.ofLines ls).steps workflow) k i ↔
      ∃ j < s.lines.length, i = s.line + j := by
  obtain ⟨-, -, -, hstart⟩ := section_divide hs
  unfold Encloses
  rw [getElem?_steps, getElem?_steps, hs]
  simp only [Option.map_some, Option.some.injEq, exists_eq_left', line_step]
  have hcount : startOf 1 (scan (.preamble 0) ls).1 (k + 1) =
      (((Outline.ofLines ls).sections[k + 1]?.map Section.line).getD (1 + ls.length)) := by
    rw [startOf, length_scan]
    rfl
  rw [hcount] at hstart
  cases hnext : (Outline.ofLines ls).sections[k + 1]? with
  | none =>
    rw [hnext, Option.map_none, Option.getD_none] at hstart
    simp only [Option.map_none, reduceCtorEq, false_implies, implies_true, and_true]
    exact ⟨fun hfrom => ⟨i - s.line, by omega, by omega⟩, by rintro ⟨j, hj, rfl⟩; omega⟩
  | some next =>
    rw [hnext, Option.map_some, Option.getD_some] at hstart
    simp only [Option.map_some, Option.some.injEq, forall_eq', line_step]
    exact ⟨fun h => ⟨i - s.line, by omega, by omega⟩, by rintro ⟨j, hj, rfl⟩; omega⟩

end Outline

/-! ## The place of a line -/

/-- A line that is read has been met at some place. -/
theorem exists_place {place : Place} {ls : List String} {i : Nat} {line : String} {role : Role}
    (h : (scan place ls).1[i]? = some (line, role)) : ∃ p rest,
      (placesFrom place ls)[i]? = some p ∧ (roleAt p line rest).1 = role ∧ ls[i]? = some line := by
  induction ls generalizing place i with
  | nil => cases h
  | cons text rest ih =>
    cases i with
    | zero =>
      obtain ⟨rfl, rfl⟩ := Prod.mk.inj (Option.some.inj h)
      exact ⟨place, rest, rfl, rfl, rfl⟩
    | succ i => exact ih h

/-- The text of a step is not met in a command block. -/
theorem ne_command_of_body {place : Place} {line : String} {rest : List String}
    (h : (roleAt place line rest).1 = .body) : place ≠ .command := by
  rintro rfl
  by_cases hf : isFence line = true
  · rw [roleAt_closing hf] at h
    cases h
  · rw [roleAt_command ((Bool.not_eq_true _).mp hf)] at h
    cases h

/-! ## Documents that differ in fenced blocks -/

/-- How far step `k` may change with lines in fenced blocks. Its body does only if a line of it was
changed inside a fence; its command does only if a line of the block was changed from which the
step has its command, that is, in a command block that no marker of the step follows. -/
structure ChangesInside (ls ls' : List String) (steps : List Step) (k : Nat) (step step' : Step) :
    Prop where
  body : step.body ≠ step'.body → ∃ (i : Nat) (p : Place), ls[i]? ≠ ls'[i]? ∧ Encloses steps k i ∧
    (placesFrom (.preamble 0) ls)[i]? = some p ∧ 0 < p.depth
  command : step.command ≠ step'.command → ∃ i : Nat, ls[i]? ≠ ls'[i]? ∧ Encloses steps k i ∧
    (placesFrom (.preamble 0) ls)[i]? = some .command ∧
    ∀ n line role, i < n → Encloses steps k n → (scan (.preamble 0) ls).1[n]? = some (line, role) →
      role.isMark = false

section Sections

variable {ls ls' : List String} {k : Nat} {s s' : Section}

/-- A line that is not the same in two sections of one place is one that was changed. -/
theorem SameOutside.exists_changed (h : SameOutside (.preamble 0) ls ls')
    (hs : (Outline.ofLines ls).sections[k]? = some s)
    (hs' : (Outline.ofLines ls').sections[k]? = some s') (halike : s.Alike s') {j : Nat}
    {line line' : String} {role role' : Role} (hj : s.lines[j]? = some (line, role))
    (hj' : s'.lines[j]? = some (line', role')) (hne : line ≠ line') (workflow : String) :
    ls[s.line + j]? ≠ ls'[s.line + j]? ∧
      Encloses ((Outline.ofLines ls).steps workflow) k (s.line + j) ∧
      ∃ (p : Place) (rest : List String), (placesFrom (.preamble 0) ls)[s.line + j]? = some p ∧
        p.Fenced ∧ (roleAt p line rest).1 = role := by
  obtain ⟨p, rest, hp, hrole, hline⟩ := exists_place (getElem?_scan_of_section hs hj)
  obtain ⟨-, -, -, -, hline'⟩ := exists_place (getElem?_scan_of_section hs' hj')
  rw [← halike.line_eq] at hline'
  have hchanged : ls[s.line + j]? ≠ ls'[s.line + j]? := by
    rw [hline, hline']
    exact fun heq => hne (Option.some.inj heq)
  obtain ⟨p', hp', hfenced⟩ := h.fenced_of_ne _ hchanged
  obtain rfl : p = p' := Option.some.inj (hp.symm.trans hp')
  obtain ⟨hbound, -⟩ := List.getElem?_eq_some_iff.1 hline
  obtain ⟨hlt, -⟩ := List.getElem?_eq_some_iff.1 hj
  exact ⟨hchanged, (encloses_iff hs workflow hbound).2 ⟨j, hlt, rfl⟩, p, rest, hp, hfenced, hrole⟩

theorem SameOutside.changesInside (h : SameOutside (.preamble 0) ls ls')
    (hs : (Outline.ofLines ls).sections[k]? = some s)
    (hs' : (Outline.ofLines ls').sections[k]? = some s') (halike : s.Alike s')
    (workflow : String) : ChangesInside ls ls' ((Outline.ofLines ls).steps workflow) k
      (s.step workflow) (s'.step workflow) where
  body := by
    intro hne
    rw [body_step, body_step] at hne
    obtain ⟨j, line, line', hj, hj', hline⟩ := halike.exists_of_body_ne hne
    obtain ⟨hchanged, hencloses, p, rest, hp, hfenced, hrole⟩ :=
      h.exists_changed hs hs' halike hj hj' hline workflow
    exact ⟨_, p, hchanged, hencloses, hp, hfenced.resolve_right (ne_command_of_body hrole)⟩
  command := by
    intro hne
    obtain ⟨j, line, line', hj, hj', hline, hlater⟩ := halike.exists_of_command_ne hne
    obtain ⟨hchanged, hencloses, p, rest, hp, -, hrole⟩ :=
      h.exists_changed hs hs' halike hj hj' hline workflow
    obtain rfl := eq_command_of_roleAt (.inl hrole)
    refine ⟨_, hchanged, hencloses, hp, fun n text role hn hwithin hread => ?_⟩
    obtain ⟨-, -, -, -, htext⟩ := exists_place hread
    obtain ⟨hbound, -⟩ := List.getElem?_eq_some_iff.1 htext
    obtain ⟨m, hm, rfl⟩ := (encloses_iff hs workflow hbound).1 hwithin
    have hread' := getElem?_scan_of_section hs (List.getElem?_eq_getElem hm)
    have hmem : s.lines[m] ∈ s.lines.drop j := by
      rw [List.mem_iff_getElem?]
      exact ⟨m - j, by rw [List.getElem?_drop, Nat.add_sub_cancel' (by omega),
        List.getElem?_eq_getElem hm]⟩
    have hplain := hlater _ hmem
    rwa [← Option.some.inj (hread.symm.trans hread')] at hplain

end Sections

section Outlines

variable {ls ls' : List String}

theorem SameOutside.forall₂_sections (h : SameOutside (.preamble 0) ls ls') :
    List.Forall₂ Section.Alike (Outline.ofLines ls).sections (Outline.ofLines ls').sections :=
  (alike_divide h.scan_eq.1 1).2

theorem SameOutside.map_frame_steps (h : SameOutside (.preamble 0) ls ls') (workflow : String) :
    ((Outline.ofLines ls).steps workflow).map Step.frame =
      ((Outline.ofLines ls').steps workflow).map Step.frame := by
  unfold Outline.steps
  rw [List.map_map, List.map_map, ← List.forall₂_eq_eq_eq, List.forall₂_map_left_iff,
    List.forall₂_map_right_iff]
  exact h.forall₂_sections.imp fun s s' hs => hs.frame_step_eq workflow

theorem SameOutside.changesInside_steps (h : SameOutside (.preamble 0) ls ls') (workflow : String)
    {k : Nat} {step step' : Step} (hstep : ((Outline.ofLines ls).steps workflow)[k]? = some step)
    (hstep' : ((Outline.ofLines ls').steps workflow)[k]? = some step') :
    ChangesInside ls ls' ((Outline.ofLines ls).steps workflow) k step step' := by
  rw [getElem?_steps] at hstep hstep'
  obtain ⟨s, hs, rfl⟩ := Option.map_eq_some_iff.1 hstep
  obtain ⟨s', hs', rfl⟩ := Option.map_eq_some_iff.1 hstep'
  have halike : s.Alike s' := by
    obtain ⟨hlt, rfl⟩ := List.getElem?_eq_some_iff.1 hs
    obtain ⟨hlt', rfl⟩ := List.getElem?_eq_some_iff.1 hs'
    exact h.forall₂_sections.get hlt hlt'
  exact h.changesInside hs hs' halike workflow

end Outlines

/-- What stands in fenced blocks is not read. Two documents of as many lines that differ inside
fenced blocks only, in lines that are no fences, are refused for the same step or read as as many
steps, which agree in all but their bodies and commands; and those change only where a line of the
step was changed. -/
theorem outcome_readSteps_of_sameOutside (strictness : Strictness) (workflow : String)
    {text other : String} (h : SameOutside (.preamble 0) (lines text) (lines other)) :
    (∃ e, (readSteps strictness workflow text).outcome = .error e ∧
      (readSteps strictness workflow other).outcome = .error e) ∨
    ∃ steps others, (readSteps strictness workflow text).outcome = .ok steps ∧
      (readSteps strictness workflow other).outcome = .ok others ∧
      steps.map Step.frame = others.map Step.frame ∧
      ∀ (k : Nat) (step step' : Step), steps[k]? = some step → others[k]? = some step' →
        ChangesInside (lines text) (lines other) steps k step step' := by
  have hsteps := h.map_frame_steps workflow
  have hchanges : ∀ (k : Nat) (step step' : Step),
      ((Outline.ofText text).steps workflow)[k]? = some step →
      ((Outline.ofText other).steps workflow)[k]? = some step' →
      ChangesInside (lines text) (lines other) ((Outline.ofText text).steps workflow) k step
        step' := fun _ _ _ hstep hstep' => h.changesInside_steps workflow hstep hstep'
  cases strictness with
  | lenient =>
    exact .inr ⟨_, _, outcome_readSteps_lenient workflow text,
      outcome_readSteps_lenient workflow other, hsteps, hchanges⟩
  | strict =>
    have hfind := map_find?_conflicted h.forall₂_sections
    have htext := outcome_readSteps_strict workflow text
    have hother := outcome_readSteps_strict workflow other
    cases hs : (Outline.ofText text).sections.find? Section.conflicted with
    | none =>
      have hs' : (Outline.ofText other).sections.find? Section.conflicted = none :=
        Option.map_eq_none_iff.1 (hfind.symm.trans (Option.map_eq_none_iff.2 hs))
      rw [hs] at htext
      rw [hs'] at hother
      exact .inr ⟨_, _, htext, hother, hsteps, hchanges⟩
    | some s =>
      obtain ⟨s', hs', hnames⟩ :
          ∃ s', (Outline.ofText other).sections.find? Section.conflicted = some s' ∧
            (s'.title, s'.line) = (s.title, s.line) :=
        Option.map_eq_some_iff.1 (hfind.symm.trans (Option.map_eq_some_iff.2 ⟨s, hs, rfl⟩))
      obtain ⟨htitle, hline⟩ := Prod.mk.inj hnames
      rw [hs] at htext
      rw [hs'] at hother
      dsimp only at htext hother
      rw [htitle, hline] at hother
      exact .inl ⟨_, htext, hother⟩

/-- A document with a fenced block in one step and a command block in another. -/
def specimen : String :=
  unlines ["### Step 1: A", "\x60\x60\x60md", "one", "\x60\x60\x60", "### Step 2: B",
    "<!-- loop:X -->", "\x60\x60\x60", "two", "\x60\x60\x60"]

/-- The same document with a marker and a heading in these blocks. -/
def disguised : String :=
  unlines ["### Step 1: A", "\x60\x60\x60md", "<!-- workflow:w -->", "\x60\x60\x60",
    "### Step 2: B", "<!-- loop:X -->", "\x60\x60\x60", "### Step 9: C", "\x60\x60\x60"]

theorem outcome_readSteps_disguised :
    SameOutside (.preamble 0) (lines specimen) (lines disguised) ∧
    ∃ steps others, (readSteps .strict "w" specimen).outcome = .ok steps ∧
      (readSteps .strict "w" disguised).outcome = .ok others ∧
      steps.map Step.frame = others.map Step.frame ∧ others.map (·.line) = [1, 5] ∧
      others.map (·.command) = [none, some "### Step 9: C"] := by
  have hsame : SameOutside (.preamble 0) (lines specimen) (lines disguised) := by decide +kernel
  obtain ⟨hclear, hlines, hcommands⟩ :
      (∀ s ∈ (Outline.ofText specimen).sections, s.conflicted = false) ∧
      ((Outline.ofText disguised).steps "w").map (·.line) = [1, 5] ∧
      ((Outline.ofText disguised).steps "w").map (·.command) = [none, some "### Step 9: C"] := by
    decide +kernel
  refine ⟨hsame, ?_⟩
  rcases outcome_readSteps_of_sameOutside .strict "w" hsame with
    ⟨e, he, -⟩ | ⟨steps, others, hsteps, hothers, hframes, -⟩
  · rw [outcome_readSteps hclear] at he
    cases he
  · rw [← steps_of_readSteps hothers] at hlines hcommands
    exact ⟨steps, others, hsteps, hothers, hframes, hlines, hcommands⟩

end Runbook.Workflow
