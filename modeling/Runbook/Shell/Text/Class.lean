import Runbook.Text.Blank
import Runbook.Text.Case

/-!
# `Shell/Text/Class` — classes of characters

Patterns and translations speak of classes of characters by name. Within ASCII they are the usual
ones. Beyond it a character counts as a letter if it has another case or is no blank, control or
mark of punctuation that the general ranges of the standard set aside.
-/

set_option autoImplicit false

namespace Runbook.Shell

open Runbook.Text

/-- The capital of a letter, where it is one character. -/
def upperOf (c : Char) : Char :=
  match upperChar c with
  | [u] => u
  | _ => c

/-- A run of capitals beyond ASCII whose small letters are at a fixed distance: first, last, the
step from one to the next, and the distance. -/
def lowerRuns : List (Nat × Nat × Nat × Nat) :=
  [(0xC0, 0xD6, 1, 32), (0xD8, 0xDE, 1, 32), (0x100, 0x12E, 2, 1), (0x132, 0x136, 2, 1),
    (0x139, 0x147, 2, 1), (0x14A, 0x176, 2, 1), (0x179, 0x17D, 2, 1), (0x1CD, 0x1DB, 2, 1),
    (0x1DE, 0x1EE, 2, 1), (0x1F8, 0x21E, 2, 1), (0x222, 0x232, 2, 1), (0x388, 0x38A, 1, 37),
    (0x391, 0x3A1, 1, 32), (0x3A3, 0x3AB, 1, 32), (0x400, 0x40F, 1, 80), (0x410, 0x42F, 1, 32),
    (0x460, 0x480, 2, 1), (0x48A, 0x4BE, 2, 1), (0x4D0, 0x52E, 2, 1), (0x531, 0x556, 1, 48),
    (0x1E00, 0x1E94, 2, 1), (0x1EA0, 0x1EFE, 2, 1), (0xFF21, 0xFF3A, 1, 32)]

/-- The small letter of a capital. -/
def lowerOf (c : Char) : Char :=
  let n := c.toNat
  if n < 0x80 then c.toLower
  else if n = 0x178 then Char.ofNat 0xFF
  else
    match lowerRuns.find? fun (first, last, step, _) =>
        first ≤ n && n ≤ last && (n - first) % step == 0 with
    | some (_, _, _, distance) => Char.ofNat (n + distance)
    | none => c

/-- A capital. -/
def isCapital (c : Char) : Bool := lowerOf c != c

/-- A small letter. -/
def isSmall (c : Char) : Bool := upperOf c != c || c == 'ß'

/-- A mark or a sign beyond ASCII that is no letter. -/
def isForeignSign (c : Char) : Bool :=
  let n := c.toNat
  (0x80 ≤ n && n < 0xAA) || (0xAB ≤ n && n ≤ 0xB4) || (0xB6 ≤ n && n ≤ 0xB9) ||
    (0xBB ≤ n && n ≤ 0xBF) || n == 0xD7 || n == 0xF7 || (0x2000 ≤ n && n < 0x2100) ||
    (0x2190 ≤ n && n < 0x2C00) || (0x3000 ≤ n && n < 0x3005) || (0xE000 ≤ n && n < 0xF900) ||
    (0xFE00 ≤ n && n < 0xFE70) || 0x1F000 ≤ n

/-- A letter. -/
def isLetter (c : Char) : Bool :=
  if c.toNat < 0x80 then c.isAlpha else isSmall c || isCapital c || !(isForeignSign c || isBlank c)

/-- A character that prints something or moves the place of print by a blank. -/
def isPrinting (c : Char) : Bool :=
  let n := c.toNat
  0x20 ≤ n && n != 0x7F && !(0x80 ≤ n && n < 0xA0) && n < 0x10FF00

/-- The class of a name. -/
def classNamed? : (name : String) → Option (Char → Bool)
  | "alpha" => some isLetter
  | "digit" => some Char.isDigit
  | "alnum" => some fun c => isLetter c || c.isDigit
  | "upper" => some isCapital
  | "lower" => some isSmall
  | "space" => some fun c =>
    c == ' ' || (9 ≤ c.toNat && c.toNat ≤ 13) || (c.toNat ≥ 0x80 && isBlank c && c.toNat != 0x85)
  | "blank" => some fun c => c == ' ' || c == '\t'
  | "punct" => some fun c =>
    if c.toNat < 0x80 then 0x20 < c.toNat && c.toNat < 0x7F && !c.isAlphanum else isForeignSign c
  | "print" => some isPrinting
  | "graph" => some fun c => isPrinting c && !isBlank c
  | "cntrl" => some fun c => c.toNat < 0x20 || (0x7F ≤ c.toNat && c.toNat < 0xA0)
  | "xdigit" => some fun c =>
    c.isDigit || ('a' ≤ c && c ≤ 'f') || ('A' ≤ c && c ≤ 'F')
  | "word" => some fun c => isLetter c || c.isDigit || c == '_'
  | _ => none

/-- A character that a name may begin with. -/
def isNameStart (c : Char) : Bool := c.isAlpha || c == '_'

/-- A character that a name may go on with. -/
def isNameRest (c : Char) : Bool := c.isAlphanum || c == '_'

/-- A text that is a name. -/
def isName (s : String) : Bool :=
  match s.toList with
  | c :: rest => isNameStart c && rest.all isNameRest
  | [] => false

end Runbook.Shell
