/-!
# `Text/Lines` — lines of a text

Two notions of a line meet in this library. A *document* is split at the newline character alone,
after the two other common line endings have been turned into it (`unifyNewlines`); every piece
between two newlines is a line, the last one included, so a text with `k` newlines has `k + 1` lines
and joining them again gives back the text. The *items* that a command prints are split at every
character that ends a line in any convention (`isLineBreak`).
-/

set_option autoImplicit false

namespace Runbook.Text

/-- The pieces of a text between the characters that `p` holds of, in order. There is always one
more piece than there are such characters. -/
def pieces (p : Char → Bool) : List Char → List (List Char)
  | [] => [[]]
  | c :: rest =>
    if p c then [] :: pieces p rest
    else
      match pieces p rest with
      | [] => [[c]]
      | first :: others => (c :: first) :: others

/-- The lines of a document. -/
def lines (s : String) : List String :=
  (pieces (· == '\n') s.toList).map String.ofList

/-- Lines put together again. -/
def unlines (ls : List String) : String := "\n".intercalate ls

/-- The three usual line endings turned into one: a newline. -/
def unifyNewlines : List Char → List Char
  | [] => []
  | '\r' :: '\n' :: rest => '\n' :: unifyNewlines rest
  | '\r' :: rest => '\n' :: unifyNewlines rest
  | c :: rest => c :: unifyNewlines rest

/-- The characters that end a line in one convention or another. -/
def isLineBreak (c : Char) : Bool :=
  let n := c.toNat
  (10 ≤ n && n ≤ 13) || (28 ≤ n && n ≤ 30) || n == 0x85 || n == 0x2028 || n == 0x2029

/-! ## Splitting loses nothing -/

theorem pieces_ne_nil (p : Char → Bool) (cs : List Char) : pieces p cs ≠ [] := by
  cases cs with
  | nil => simp [pieces]
  | cons c rest =>
    unfold pieces
    split
    · simp
    · split <;> simp

/-- No piece holds a separator. -/
theorem not_mem_pieces (p : Char → Bool) (cs : List Char) :
    ∀ piece ∈ pieces p cs, ∀ c ∈ piece, p c = false := by
  induction cs with
  | nil => simp [pieces]
  | cons d rest ih =>
    intro piece hpiece c hc
    unfold pieces at hpiece
    split at hpiece
    · rcases List.mem_cons.1 hpiece with rfl | h
      · simp at hc
      · exact ih piece h c hc
    · next hd =>
      split at hpiece
      · next h => exact absurd h (pieces_ne_nil p rest)
      · next first others h =>
        rcases List.mem_cons.1 hpiece with rfl | hmem
        · rcases List.mem_cons.1 hc with rfl | hc
          · simpa using hd
          · exact ih first (h ▸ List.mem_cons_self) c hc
        · exact ih piece (h ▸ List.mem_cons_of_mem _ hmem) c hc

/-- A text without separators is one piece. -/
theorem pieces_of_notMem {p : Char → Bool} {cs : List Char} (h : ∀ c ∈ cs, p c = false) :
    pieces p cs = [cs] := by
  induction cs with
  | nil => rfl
  | cons c cs ih =>
    obtain ⟨hc, hrest⟩ := List.forall_mem_cons.1 h
    rw [pieces, hc, ih hrest]
    rfl

/-! ## Two texts, one below the other -/

/-- At a separator a text falls apart into the pieces of its two halves. -/
theorem pieces_append_cons {p : Char → Bool} {c : Char} (hc : p c = true) (front back : List Char) :
    pieces p (front ++ c :: back) = pieces p front ++ pieces p back := by
  induction front with
  | nil =>
    simp only [List.nil_append, pieces, hc, if_true, List.cons_append]
  | cons d front ih =>
    simp only [List.cons_append, pieces, ih]
    by_cases hd : p d = true
    · rw [if_pos hd, if_pos hd, List.cons_append]
    · rw [if_neg hd, if_neg hd]
      -- The piece that `d` belongs to is the first of those in front.
      cases hfront : pieces p front with
      | nil => exact absurd hfront (pieces_ne_nil p front)
      | cons first others => rfl

/-- The lines of two texts, one below the other. -/
theorem lines_append_newline (a b : String) : lines (a ++ "\n" ++ b) = lines a ++ lines b := by
  unfold lines
  rw [String.toList_append, String.toList_append, List.append_assoc]
  show (pieces (· == '\n') (a.toList ++ '\n' :: b.toList)).map String.ofList = _
  rw [pieces_append_cons (by decide), List.map_append]

end Runbook.Text
