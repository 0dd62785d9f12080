import Runbook.Loop.Basic
import Runbook.Proofs.Text.Trim

/-!
# `Proofs/Loop/Items` — an output and its items

What a command prints is a list of items, written one a line. A text can stand on a line as an item if
it is not empty, has no blanks around it and holds no line break (`IsItem`). The items of every output
are of that kind, and a list of such items is read back from the lines it is written on, so outputs and
lists of items are the same up to blanks.

Nothing else is lost. The characters that end a line are blanks themselves, so the characters of an
output that are no blanks (`solid`) are those of its items, in order.

Conventions differ on what a line is: a carriage return and the newline behind it may end one line
together or one line each, and behind the last end of a line there may be an empty line or none. The
items do not depend on it, because what the conventions differ in is lines without anything on them
(`items_eq_onLines`).
-/

set_option autoImplicit false

namespace Runbook.Loop

open Runbook.Text

/-- A text that can stand on a line of an output as its item. -/
structure IsItem (item : String) : Prop where
  ne_empty : item ≠ ""
  trimmed_eq : trimmed item = item
  unbroken : ∀ c ∈ item.toList, isLineBreak c = false

/-- The characters of a text that are no blanks. -/
def solid (cs : List Char) : List Char := cs.filter fun c => !isBlank c

/-- The items that stand on some lines. -/
def onLines (ls : List (List Char)) : List (List Char) := (ls.map trim).filter (!·.isEmpty)

theorem items_eq (output : List Char) : items output = onLines (pieces isLineBreak output) := rfl

theorem onLines_append (ls ls' : List (List Char)) :
    onLines (ls ++ ls') = onLines ls ++ onLines ls' := by
  unfold onLines
  rw [List.map_append, List.filter_append]

/-- On a line of blanks there is no item. -/
theorem onLines_blank {line : List Char} (h : allBlank line = true) (ls : List (List Char)) :
    onLines (line :: ls) = onLines ls := by
  have htrim : trim line = [] := (trim_eq_nil_iff line).2 h
  unfold onLines
  rw [List.map_cons, htrim]
  rfl

/-- On any other line there is one. -/
theorem onLines_cons {line : List Char} (h : allBlank line = false) (ls : List (List Char)) :
    onLines (line :: ls) = trim line :: onLines ls := by
  have htrim : trim line ≠ [] := by
    rw [ne_eq, trim_eq_nil_iff, h]
    decide
  unfold onLines
  rw [List.map_cons, List.filter_cons_of_pos (by simpa using htrim)]

theorem onLines_eq (ls : List (List Char)) :
    onLines ls = (ls.filter fun line => !allBlank line).map trim := by
  induction ls with
  | nil => rfl
  | cons line ls ih =>
    by_cases hblank : allBlank line = true
    · rw [onLines_blank hblank, ih, List.filter_cons_of_neg (by simp [hblank])]
    · rw [onLines_cons (by simpa using hblank), ih, List.filter_cons_of_pos (by simp [hblank]),
        List.map_cons]

/-! ## Line breaks -/

/-- What ends a line is blank. -/
theorem isBlank_of_isLineBreak {c : Char} (h : isLineBreak c = true) : isBlank c = true := by
  unfold isLineBreak at h
  unfold isBlank
  simp only [Bool.or_eq_true, Bool.and_eq_true, decide_eq_true_eq, beq_iff_eq] at h ⊢
  omega

theorem items_append_cons {c : Char} (hc : isLineBreak c = true) (front back : List Char) :
    items (front ++ c :: back) = items front ++ items back := by
  rw [items_eq, pieces_append_cons hc, onLines_append]
  rfl

theorem items_of_unbroken {cs : List Char} (hbreak : ∀ c ∈ cs, isLineBreak c = false)
    (hne : cs ≠ []) (htrim : trim cs = cs) : items cs = [cs] := by
  have hblank : allBlank cs = false := by
    rw [← Bool.not_eq_true, ← trim_eq_nil_iff, htrim]
    exact hne
  rw [items_eq, pieces_of_notMem hbreak, onLines_cons hblank, htrim]
  rfl

/-- The lines of a text where a carriage return and the newline behind it end one line together, and
where no line stands behind the last end of one. -/
def splitLines : List Char → List (List Char)
  | [] => []
  | '\r' :: '\n' :: rest => [] :: splitLines rest
  | c :: rest =>
    if isLineBreak c then [] :: splitLines rest
    else
      match splitLines rest with
      | [] => [[c]]
      | first :: others => (c :: first) :: others

/-- Lines and other lines begin with the same one, and the same items stand on the rest of both. No
line at all counts as an empty one. -/
inductive BeginAlike : List (List Char) → List (List Char) → Prop
  | none : BeginAlike [[]] []
  | first (line : List Char) {ls ls' : List (List Char)} (h : onLines ls = onLines ls') :
      BeginAlike (line :: ls) (line :: ls')

theorem BeginAlike.onLines_eq {ls ls' : List (List Char)} (h : BeginAlike ls ls') :
    onLines ls = onLines ls' := by
  cases h with
  | none => rfl
  | first line h =>
    show onLines ([line] ++ _) = onLines ([line] ++ _)
    rw [onLines_append, onLines_append, h]

theorem beginAlike_splitLines (cs : List Char) :
    BeginAlike (pieces isLineBreak cs) (splitLines cs) := by
  fun_induction splitLines cs with
  | case1 => exact .none
  | case2 rest ih =>
    -- The newline ends an empty line of its own, or none.
    refine .first [] ?_
    show onLines ([] :: pieces isLineBreak rest) = _
    rw [onLines_blank rfl, ih.onLines_eq]
  | case3 c rest _ hc ih =>
    rw [pieces, if_pos hc]
    exact .first [] ih.onLines_eq
  | case4 c rest _ hc hnil ih =>
    rw [hnil] at ih
    cases hpieces : pieces isLineBreak rest with
    | nil => exact absurd hpieces (pieces_ne_nil _ _)
    | cons first others =>
      rw [hpieces] at ih
      cases ih
      rw [pieces, if_neg hc, hpieces]
      exact .first [c] rfl
  | case5 c rest _ hc first others hlines ih =>
    rw [hlines] at ih
    cases hpieces : pieces isLineBreak rest with
    | nil => exact absurd hpieces (pieces_ne_nil _ _)
    | cons first others =>
      rw [hpieces] at ih
      rw [pieces, if_neg hc, hpieces]
      cases ih with
      | first _ h => exact .first (c :: first) h

/-- The items of an output are those on its lines, in this convention as in the other. -/
theorem items_eq_onLines (output : List Char) : items output = onLines (splitLines output) :=
  (beginAlike_splitLines output).onLines_eq

/-! ## Items in writing -/

variable {item : String}

theorem splitItems_of_isItem (h : IsItem item) : splitItems item = [item] := by
  have hne : item.toList ≠ [] := fun hnil => h.ne_empty (String.toList_eq_nil_iff.1 hnil)
  have htrim : trim item.toList = item.toList := by
    have := congrArg String.toList h.trimmed_eq
    rwa [trimmed, String.toList_ofList] at this
  unfold splitItems
  rw [items_of_unbroken h.unbroken hne htrim]
  simp

/-- The items of two outputs, one below the other. -/
theorem splitItems_append_newline (a b : String) :
    splitItems (a ++ "\n" ++ b) = splitItems a ++ splitItems b := by
  unfold splitItems
  rw [String.toList_append, String.toList_append, List.append_assoc]
  show (items (a.toList ++ '\n' :: b.toList)).map String.ofList = _
  rw [items_append_cons (by decide), List.map_append]

/-- What stands on the lines of an output are items. -/
theorem isItem_of_mem_splitItems {output : String} (h : item ∈ splitItems output) : IsItem item := by
  obtain ⟨cs, hcs, rfl⟩ := List.mem_map.1 h
  obtain ⟨hmem, hkept⟩ := List.mem_filter.1 hcs
  obtain ⟨line, hline, rfl⟩ := List.mem_map.1 hmem
  constructor
  · intro hempty
    rw [String.ofList_eq_empty_iff.1 hempty] at hkept
    cases hkept
  · unfold trimmed
    rw [String.toList_ofList, trim_trim]
  · intro c hc
    rw [String.toList_ofList] at hc
    exact not_mem_pieces isLineBreak output.toList line hline c (mem_of_mem_trim hc)

/-- Items are read back from the lines they are written on. -/
theorem splitItems_unlines {xs : List String} (h : ∀ x ∈ xs, IsItem x) :
    splitItems (unlines xs) = xs := by
  unfold unlines
  induction xs with
  | nil => decide
  | cons x rest ih =>
    obtain ⟨hx, hrest⟩ := List.forall_mem_cons.1 h
    cases rest with
    | nil =>
      rw [String.intercalate_singleton]
      exact splitItems_of_isItem hx
    | cons next rest =>
      rw [String.intercalate_cons_cons, splitItems_append_newline, splitItems_of_isItem hx, ih hrest]
      rfl

/-! ## Nothing is lost -/

theorem solid_append (cs ds : List Char) : solid (cs ++ ds) = solid cs ++ solid ds :=
  List.filter_append ..

theorem solid_eq_nil_iff {cs : List Char} : solid cs = [] ↔ allBlank cs = true := by
  unfold solid allBlank
  rw [List.filter_eq_nil_iff, List.all_eq_true]
  simp

theorem solid_trim (cs : List Char) : solid (trim cs) = solid cs := by
  obtain ⟨front, back, hfront, hback, hsplit⟩ := exists_append_trim_append cs
  calc solid (trim cs)
      = solid front ++ (solid (trim cs) ++ solid back) := by
        rw [solid_eq_nil_iff.2 hfront, solid_eq_nil_iff.2 hback, List.nil_append, List.append_nil]
    _ = solid (front ++ (trim cs ++ back)) := by rw [solid_append, solid_append]
    _ = solid cs := congrArg solid hsplit.symm

theorem flatMap_solid_onLines (ls : List (List Char)) :
    (onLines ls).flatMap solid = ls.flatMap solid := by
  induction ls with
  | nil => rfl
  | cons line ls ih =>
    rw [List.flatMap_cons]
    by_cases hblank : allBlank line = true
    · rw [onLines_blank hblank, ih, solid_eq_nil_iff.2 hblank, List.nil_append]
    · rw [onLines_cons (by simpa using hblank), List.flatMap_cons, solid_trim, ih]

/-- Between the lines of an output there is nothing but blanks. -/
theorem flatMap_solid_pieces (cs : List Char) : (pieces isLineBreak cs).flatMap solid = solid cs := by
  induction cs with
  | nil => rfl
  | cons c rest ih =>
    by_cases hc : isLineBreak c = true
    · have hblank : solid [c] = [] := solid_eq_nil_iff.2 (by simp [allBlank, isBlank_of_isLineBreak hc])
      rw [pieces, if_pos hc, List.flatMap_cons, ih, ← List.singleton_append, solid_append, hblank]
      rfl
    · rw [pieces, if_neg hc]
      cases hpieces : pieces isLineBreak rest with
      | nil => exact absurd hpieces (pieces_ne_nil _ _)
      | cons first others =>
        rw [hpieces] at ih
        show (([c] ++ first) :: others).flatMap solid = solid ([c] ++ rest)
        rw [solid_append, ← ih, List.flatMap_cons, List.flatMap_cons, solid_append, List.append_assoc]

/-- **Splitting an output into its items loses and invents nothing.** The items are the trimmed lines
of the output that are not blank, in order. Each of them is a text that can stand on a line as an item.
Of two outputs, one below the other, they are the items of the first and then those of the second.
Written one a line they are read back, and so is exactly every list of texts of that kind. And apart
from blanks they hold what the output holds, in its order. -/
theorem splitItems_conserves (a b : String) (xs : List String) :
    splitItems a = ((splitLines a.toList).filter fun line => !allBlank line).map
        (fun line => String.ofList (trim line)) ∧
      (∀ item ∈ splitItems a, IsItem item) ∧
      splitItems (a ++ "\n" ++ b) = splitItems a ++ splitItems b ∧
      splitItems (unlines (splitItems a)) = splitItems a ∧
      (splitItems (unlines xs) = xs ↔ ∀ x ∈ xs, IsItem x) ∧
      (splitItems a).flatMap (fun item => solid item.toList) = solid a.toList := by
  have hitems : ∀ item ∈ splitItems a, IsItem item := fun _ => isItem_of_mem_splitItems
  refine ⟨?_, hitems, splitItems_append_newline a b, splitItems_unlines hitems, ?_, ?_⟩
  · unfold splitItems
    rw [items_eq_onLines, onLines_eq, List.map_map]
    rfl
  · constructor
    · intro h x hx
      rw [← h] at hx
      exact isItem_of_mem_splitItems hx
    · exact splitItems_unlines
  · unfold splitItems
    rw [List.flatMap_map]
    simp only [String.toList_ofList]
    rw [items_eq, flatMap_solid_onLines, flatMap_solid_pieces]

/-- An output with ends of lines of several conventions, and with blanks that do not end one. -/
def mixedOutput : String := " one\r\n\n\u2028\x1ftwo \x1f\x85\u00a0two\u200b too\r"

theorem splitItems_mixedOutput :
    splitItems mixedOutput = ["one", "two", "two\u200b too"] ∧
      (∀ item ∈ splitItems mixedOutput, IsItem item) ∧
      splitItems (unlines ["one", "two", "two\u200b too"]) = ["one", "two", "two\u200b too"] := by
  have hsplit : splitItems mixedOutput = ["one", "two", "two\u200b too"] := by decide +kernel
  obtain ⟨-, hitems, -, hagain, -⟩ := splitItems_conserves mixedOutput "" []
  rw [hsplit] at hagain
  exact ⟨hsplit, hitems, hagain⟩

end Runbook.Loop
