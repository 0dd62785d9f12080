import Mathlib.Data.List.Basic
import Runbook.Text.Blank

/-!
# `Proofs/Text/Trim` — texts without blanks around them

Trimming takes a run of blanks off each end, and what is left has none there. A text with no blank at
either end is therefore its own trimming (`trim_eq_self`), which is what it means for a name to be
written without blanks around it, and trimming twice is trimming once.
-/

set_option autoImplicit false

namespace Runbook.Text

theorem isBlank_of_mem {cs : List Char} (h : allBlank cs = true) {c : Char} (hc : c ∈ cs) :
    isBlank c = true := List.all_eq_true.1 h c hc

theorem allBlank_cons {c : Char} {cs : List Char} :
    allBlank (c :: cs) = true ↔ isBlank c = true ∧ allBlank cs = true := by
  unfold allBlank
  rw [List.all_cons, Bool.and_eq_true]

theorem allBlank_append {cs ds : List Char} :
    allBlank (cs ++ ds) = true ↔ allBlank cs = true ∧ allBlank ds = true := by
  unfold allBlank
  rw [List.all_append, Bool.and_eq_true]

/-! ## The end -/

/-- What `trimEnd` takes off is a run of blanks. -/
theorem exists_trimEnd_append (cs : List Char) :
    ∃ blanks, allBlank blanks = true ∧ cs = trimEnd cs ++ blanks := by
  have hsplit := List.takeWhile_append_dropWhile (p := isBlank) (l := cs.reverse)
  refine ⟨(cs.reverse.takeWhile isBlank).reverse, ?_, ?_⟩
  · unfold allBlank
    rw [List.all_reverse]
    exact List.all_takeWhile
  · have hback := congrArg List.reverse hsplit
    rw [List.reverse_append, List.reverse_reverse] at hback
    exact hback.symm

theorem isPrefix_trimEnd (cs : List Char) : trimEnd cs <+: cs := by
  obtain ⟨blanks, -, hcs⟩ := exists_trimEnd_append cs
  exact ⟨blanks, hcs.symm⟩

theorem getLast?_trimEnd {cs : List Char} {c : Char} (h : (trimEnd cs).getLast? = some c) :
    isBlank c = false := by
  unfold trimEnd at h
  rw [List.getLast?_reverse] at h
  exact head?_trimStart cs.reverse c h

theorem trimEnd_eq_self {cs : List Char} (h : ∀ c, cs.getLast? = some c → isBlank c = false) :
    trimEnd cs = cs := by
  obtain ⟨blanks, hblanks, hcs⟩ := exists_trimEnd_append cs
  rcases List.eq_nil_or_concat blanks with rfl | ⟨front, c, rfl⟩
  · rw [List.append_nil] at hcs
    exact hcs.symm
  · -- A blank was taken off, which would be the last character.
    exfalso
    have hlast : cs.getLast? = some c := by
      rw [hcs, List.concat_eq_append, ← List.append_assoc, List.getLast?_concat]
    have hc := isBlank_of_mem hblanks (c := c) (by simp)
    rw [h c hlast] at hc
    cases hc

theorem trimEnd_append_of_allBlank {ds : List Char} (h : allBlank ds = true) (cs : List Char) :
    trimEnd (cs ++ ds) = trimEnd cs := by
  have hpass : ∀ c ∈ ds.reverse, isBlank c = true :=
    fun c hc => isBlank_of_mem h (List.mem_reverse.1 hc)
  unfold trimEnd
  rw [List.reverse_append, List.dropWhile_append_of_pos hpass]

/-- Trimming stops at the last character that is no blank. -/
theorem trimEnd_append_cons {c : Char} (hc : isBlank c = false) {back : List Char}
    (hback : allBlank back = true) (front : List Char) :
    trimEnd (front ++ c :: back) = front ++ [c] := by
  rw [List.append_cons, trimEnd_append_of_allBlank hback]
  refine trimEnd_eq_self ?_
  intro d hd
  rw [List.getLast?_concat] at hd
  obtain rfl := Option.some.inj hd
  exact hc

/-! ## Both ends -/

/-- What `trimStart` takes off is a run of blanks too. -/
theorem exists_append_trimStart (cs : List Char) :
    ∃ blanks, allBlank blanks = true ∧ cs = blanks ++ trimStart cs :=
  ⟨cs.takeWhile isBlank, List.all_takeWhile, List.takeWhile_append_dropWhile.symm⟩

theorem head?_of_append {front back : List Char} {c : Char} (h : front.head? = some c) :
    (front ++ back).head? = some c := by
  cases front with
  | nil => cases h
  | cons d ds => exact h

theorem trimStart_eq_self {cs : List Char} (h : ∀ c, cs.head? = some c → isBlank c = false) :
    trimStart cs = cs := by
  cases cs with
  | nil => rfl
  | cons c rest =>
    have hc := h c rfl
    unfold trimStart
    rw [List.dropWhile_cons_of_neg (by simp [hc])]

theorem trimStart_append {blanks cs : List Char} (hblanks : allBlank blanks = true)
    (hcs : ∀ c, cs.head? = some c → isBlank c = false) : trimStart (blanks ++ cs) = cs := by
  unfold trimStart
  rw [List.dropWhile_append_of_pos fun c hc => isBlank_of_mem hblanks hc]
  exact trimStart_eq_self hcs

theorem trimStart_append_of_text {text : List Char} (h : allBlank text = false) (rest : List Char) :
    trimStart (text ++ rest) = trimStart text ++ rest := by
  have hne : (text.dropWhile isBlank).isEmpty = false := by
    rw [List.isEmpty_eq_false_iff]
    intro hnil
    rw [(trimStart_eq_nil_iff text).1 hnil] at h
    cases h
  unfold trimStart
  rw [List.dropWhile_append, hne]
  rfl

theorem trim_eq_self {cs : List Char} (hhead : ∀ c, cs.head? = some c → isBlank c = false)
    (hlast : ∀ c, cs.getLast? = some c → isBlank c = false) : trim cs = cs := by
  unfold trim
  rw [trimStart_eq_self hhead, trimEnd_eq_self hlast]

/-- What trimming takes off is a run of blanks at either end. -/
theorem exists_append_trim_append (cs : List Char) : ∃ front back, allBlank front = true ∧
    allBlank back = true ∧ cs = front ++ (trim cs ++ back) := by
  obtain ⟨front, hfront, hstart⟩ := exists_append_trimStart cs
  obtain ⟨back, hback, hend⟩ := exists_trimEnd_append (trimStart cs)
  refine ⟨front, back, hfront, hback, ?_⟩
  rw [trim, ← hend]
  exact hstart

theorem mem_of_mem_trim {cs : List Char} {c : Char} (h : c ∈ trim cs) : c ∈ cs := by
  obtain ⟨front, back, -, -, hsplit⟩ := exists_append_trim_append cs
  rw [hsplit]
  exact List.mem_append_right _ (List.mem_append_left _ h)

theorem head?_trim {cs : List Char} {c : Char} (h : (trim cs).head? = some c) :
    isBlank c = false := by
  obtain ⟨rest, hrest⟩ := isPrefix_trimEnd (trimStart cs)
  have hhead : (trimEnd (trimStart cs) ++ rest).head? = some c := head?_of_append h
  rw [hrest] at hhead
  exact head?_trimStart cs c hhead

theorem getLast?_trim {cs : List Char} {c : Char} (h : (trim cs).getLast? = some c) :
    isBlank c = false := getLast?_trimEnd h

theorem trim_trim (cs : List Char) : trim (trim cs) = trim cs :=
  trim_eq_self (fun _ => head?_trim) fun _ => getLast?_trim

/-- Only a text of blanks has nothing left. -/
theorem trim_eq_nil_iff (cs : List Char) : trim cs = [] ↔ allBlank cs = true := by
  unfold trim
  rw [trimEnd_eq_nil_iff]
  constructor
  · intro h
    rw [← trimStart_eq_nil_iff]
    -- What is left would begin with a character that is no blank.
    cases hleft : trimStart cs with
    | nil => rfl
    | cons c rest =>
      have hc := head?_trimStart cs c (by rw [hleft]; rfl)
      rw [hleft] at h
      rw [isBlank_of_mem h List.mem_cons_self] at hc
      cases hc
  · intro h
    rw [(trimStart_eq_nil_iff cs).2 h]
    rfl

end Runbook.Text
