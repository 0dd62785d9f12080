import Runbook.Text.Numeral

/-!
# `Shell/Text/Numeral` — numbers as commands write and read them

Commands count in words of 64 bits and read numbers in several bases. What cannot be read as part of
a number is left over, and each command decides what to make of the rest.
-/

set_option autoImplicit false

namespace Runbook.Shell

open Runbook.Text

/-- An integer as a signed word of 64 bits, what is beyond cut off. -/
def wrap (n : Int) : Int := Int.bmod n 18446744073709551616

/-- An integer as an unsigned word of 64 bits. -/
def unsignedWord (n : Int) : Nat := (n % 18446744073709551616).toNat

/-- The greatest and the least signed word. -/
def greatestWord : Int := 9223372036854775807

@[inherit_doc greatestWord]
def leastWord : Int := -9223372036854775808

/-- An integer as a string. -/
def intText (n : Int) : String := String.ofList (signed n)

/-- The value of a digit: ten figures, then the letters. -/
def digitOf? (c : Char) : Option Nat :=
  if '0' ≤ c ∧ c ≤ '9' then some (c.toNat - 48)
  else if 'a' ≤ c ∧ c ≤ 'z' then some (c.toNat - 87)
  else if 'A' ≤ c ∧ c ≤ 'Z' then some (c.toNat - 55)
  else none

/-- The digits of a base at the front of a text, and the rest. -/
def spanDigits (base : Nat) (cs : List Char) : List Char × List Char :=
  cs.span fun c => (digitOf? c).any (· < base)

/-- The number that digits of a base denote. -/
def ofDigits (base : Nat) (cs : List Char) : Nat :=
  cs.foldl (fun n c => n * base + (digitOf? c).getD 0) 0

/-- At most so many digits of a base at the front of a text, as a number, and the rest. -/
def takeDigits (base most : Nat) (cs : List Char) : Nat × List Char :=
  let ds := (spanDigits base (cs.take most)).1
  (ofDigits base ds, cs.drop ds.length)

/-- The digit of a value. -/
def digitChars (capital : Bool) (n : Nat) : Char :=
  if n < 10 then Char.ofNat (48 + n) else Char.ofNat ((if capital then 55 else 87) + n)

/-- The digits of a number in a base, in front of others; `fuel` bounds their count. -/
def digitsFrom (capital : Bool) (base : Nat) : (fuel n : Nat) → List Char → List Char
  | 0, _, later => later
  | fuel + 1, n, later =>
    let here := digitChars capital (n % base) :: later
    if n < base then here else digitsFrom capital base fuel (n / base) here

/-- A number in a base from two to thirty-six. -/
def inBase (capital : Bool) (base n : Nat) : List Char := digitsFrom capital base (n.log2 + 1) n []

/-- The blanks that may stand before a number. -/
def isNumberSpace (c : Char) : Bool := c == ' ' || (9 ≤ c.toNat && c.toNat ≤ 13)

/-- The sign at the front of a text, and the rest. -/
def takeSign : List Char → Bool × List Char
  | '-' :: rest => (true, rest)
  | '+' :: rest => (false, rest)
  | cs => (false, cs)

/-- The base that a number without its sign says it is in, and its digits. -/
def baseOf : List Char → Nat × List Char
  | '0' :: 'x' :: c :: rest =>
    if (digitOf? c).any (· < 16) then (16, c :: rest) else (8, '0' :: 'x' :: c :: rest)
  | '0' :: 'X' :: c :: rest =>
    if (digitOf? c).any (· < 16) then (16, c :: rest) else (8, '0' :: 'X' :: c :: rest)
  | '0' :: rest => (8, '0' :: rest)
  | cs => (10, cs)

/-- The integer at the front of a text, in the base that it says it is in, and the rest. Without
digits there is none. -/
def takeInteger? (cs : List Char) : Option (Int × List Char) :=
  let (negative, behind) := takeSign (cs.dropWhile isNumberSpace)
  let (base, digits) := baseOf behind
  let (ds, rest) := spanDigits base digits
  if ds.isEmpty then none
  else
    let n := ofDigits base ds
    some (if negative then -(n : Int) else n, rest)

/-- The decimal integer at the front of a text, and the rest. -/
def takeDecimal? (cs : List Char) : Option (Int × List Char) :=
  let (negative, behind) := takeSign (cs.dropWhile isNumberSpace)
  let (ds, rest) := behind.span Char.isDigit
  if ds.isEmpty then none
  else some (if negative then -(ofDecimal ds : Int) else ofDecimal ds, rest)

/-- The integer that a text is: a decimal one with blanks around it. -/
def decimalText? (s : String) : Option Int :=
  match takeDecimal? s.toList with
  | some (n, rest) => if rest.all isNumberSpace then some n else none
  | none => none

/-- The number that a text of nothing but digits is. -/
def natText? (s : String) : Option Nat :=
  if s.toList.all Char.isDigit ∧ s ≠ "" then some (ofDecimal s.toList) else none

/-- A number as a string. -/
def natText (n : Nat) : String := number n

/-- A text with characters in front of it up to a width. -/
def padLeft (width : Nat) (c : Char) (cs : List Char) : List Char :=
  List.replicate (width - cs.length) c ++ cs

/-- A text with blanks behind it up to a width. -/
def padRight (width : Nat) (cs : List Char) : List Char :=
  cs ++ List.replicate (width - cs.length) ' '

end Runbook.Shell
