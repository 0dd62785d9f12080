import Runbook.Text.Blank

/-!
# `Text/Cut` — taking known text off an end

Headings, markers, paths and command words are recognised by what they begin or end with. Each
function here takes such a piece off and says `none` when the piece is not there, so a recogniser
is a chain of them.
-/

set_option autoImplicit false

namespace Runbook.Text

/-- What follows `lead` in a text that begins with it. -/
def after? : (lead cs : List Char) → Option (List Char)
  | [], cs => some cs
  | _ :: _, [] => none
  | l :: lead, c :: cs => if l = c then after? lead cs else none

/-- What precedes `tail` in a text that ends with it. -/
def before? (tail cs : List Char) : Option (List Char) :=
  (after? tail.reverse cs.reverse).map List.reverse

/-- What follows the leading run of characters with property `p`, when there is one at all. -/
def afterRun? (p : Char → Bool) : List Char → Option (List Char)
  | [] => none
  | c :: cs => if p c then some (cs.dropWhile p) else none

/-- A string begins with another. -/
def startsWith (lead s : String) : Bool := lead.toList.isPrefixOf s.toList

/-- A list of texts with a text between each two. -/
def joinWith (sep : String) (parts : List String) : String := sep.intercalate parts

/-! ## Recognising is taking apart -/

theorem after?_eq_some_iff {lead cs rest : List Char} :
    after? lead cs = some rest ↔ cs = lead ++ rest := by
  induction lead generalizing cs with
  | nil => simp [after?, eq_comm]
  | cons l lead ih =>
    cases cs with
    | nil => simp [after?]
    | cons c cs =>
      unfold after?
      split
      · next h => subst h; simp [ih]
      · next h =>
        simp only [reduceCtorEq, List.cons_append, List.cons.injEq, false_iff, not_and]
        exact fun e => absurd e.symm h

theorem before?_eq_some_iff {tail cs front : List Char} :
    before? tail cs = some front ↔ cs = front ++ tail := by
  unfold before?
  rw [Option.map_eq_some_iff]
  constructor
  · rintro ⟨r, hr, rfl⟩
    have := congrArg List.reverse (after?_eq_some_iff.1 hr)
    simpa using this
  · rintro rfl
    exact ⟨front.reverse, after?_eq_some_iff.2 (by simp), by simp⟩

end Runbook.Text
