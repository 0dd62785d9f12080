/-!
# `Text/Numeral` — decimal digits and numerals

Numbers are written in the ten ASCII digits, without a sign or a leading zero, and padded with
zeros where a format asks for a width. `ofDecimal` reads what `decimal` writes.

The number in a step heading may be written with the digits of any script, and so may the number in
a task id that somebody typed into a tasks file. The digits of one script are ten consecutive code
points, so the table holds the zero of each. A number is never *computed* from such digits: that
they are digits is all that counts. Scripts are added to the standard as time goes by. Headings know
the digits of its version 14, and task ids those of version 16.
-/

set_option autoImplicit false

namespace Runbook.Text

/-! ## Digits of every script -/

/-- The zero of each script that has decimal digits of its own. -/
def digitZeros : List Nat :=
  [0x0030, 0x0660, 0x06F0, 0x07C0, 0x0966, 0x09E6, 0x0A66, 0x0AE6, 0x0B66, 0x0BE6, 0x0C66, 0x0CE6,
   0x0D66, 0x0DE6, 0x0E50, 0x0ED0, 0x0F20, 0x1040, 0x1090, 0x17E0, 0x1810, 0x1946, 0x19D0, 0x1A80,
   0x1A90, 0x1B50, 0x1BB0, 0x1C40, 0x1C50, 0xA620, 0xA8D0, 0xA900, 0xA9D0, 0xA9F0, 0xAA50, 0xABF0,
   0xFF10, 0x104A0, 0x10D30, 0x11066, 0x110F0, 0x11136, 0x111D0, 0x112F0, 0x11450, 0x114D0, 0x11650,
   0x116C0, 0x11730, 0x118E0, 0x11950, 0x11C50, 0x11D50, 0x11DA0, 0x16A60, 0x16AC0, 0x16B50,
   0x1D7CE, 0x1D7D8, 0x1D7E2, 0x1D7EC, 0x1D7F6, 0x1E140, 0x1E2F0, 0x1E950, 0x1FBF0]

/-- A decimal digit of some script. -/
def isDigit (c : Char) : Bool :=
  digitZeros.any fun start => start ≤ c.toNat && c.toNat ≤ start + 9

/-- The zeros of the scripts that came with the versions 15 and 16. -/
def newerDigitZeros : List Nat :=
  [0x10D40, 0x116D0, 0x116DA, 0x11BF0, 0x11F50, 0x16130, 0x16D70, 0x1CCF0, 0x1E4F0, 0x1E5F1]

/-- A decimal digit of some script, the newer ones included. -/
def isIdDigit (c : Char) : Bool :=
  isDigit c || newerDigitZeros.any fun start => start ≤ c.toNat && c.toNat ≤ start + 9

/-- The ten digits of the Latin script are digits. -/
theorem isDigit_of_ascii (c : Char) (h : c.isDigit = true) : isDigit c = true := by
  have hb : 48 ≤ c.toNat ∧ c.toNat ≤ 57 := by
    simp only [Char.isDigit, Bool.and_eq_true, decide_eq_true_eq] at h
    exact ⟨h.1, h.2⟩
  refine List.any_eq_true.2 ⟨0x0030, by simp [digitZeros], ?_⟩
  simpa using hb

theorem isIdDigit_of_isDigit (c : Char) (h : isDigit c = true) : isIdDigit c = true := by
  simp [isIdDigit, h]

/-! ## Numerals -/

/-- The character of a digit. -/
def digitChar (d : Nat) : Char := Char.ofNat (48 + d)

/-- The value of a digit's character. -/
def digitValue (c : Char) : Nat := c.toNat - 48

/-- The first number that is too large for a signed word of 64 bits. -/
def wordBound : Nat := 9223372036854775808

/-- The decimal numeral of a number. -/
def decimal (n : Nat) : List Char :=
  if n < 10 then [digitChar n] else decimal (n / 10) ++ [digitChar (n % 10)]

/-- The decimal numeral of a number, with zeros in front up to a width. -/
def padded (width n : Nat) : List Char :=
  List.replicate (width - (decimal n).length) '0' ++ decimal n

/-- The number that a numeral denotes. -/
def ofDecimal (cs : List Char) : Nat := cs.foldl (fun value c => value * 10 + digitValue c) 0

/-- An integer's numeral, with a minus sign when it is negative. -/
def signed (n : Int) : List Char :=
  if n < 0 then '-' :: decimal n.natAbs else decimal n.natAbs

/-- A number as a string. -/
def number (n : Nat) : String := String.ofList (decimal n)

/-! ## Reading what was written -/

theorem digitValue_digitChar (d : Nat) (h : d < 10) : digitValue (digitChar d) = d := by
  have : d = 0 ∨ d = 1 ∨ d = 2 ∨ d = 3 ∨ d = 4 ∨ d = 5 ∨ d = 6 ∨ d = 7 ∨ d = 8 ∨ d = 9 := by
    omega
  rcases this with h | h | h | h | h | h | h | h | h | h <;> subst h <;> rfl

theorem ofDecimal_append_digit (cs : List Char) (c : Char) :
    ofDecimal (cs ++ [c]) = ofDecimal cs * 10 + digitValue c := by
  simp [ofDecimal]

theorem ofDecimal_decimal (n : Nat) : ofDecimal (decimal n) = n := by
  induction n using Nat.strongRecOn with
  | ind n ih =>
    unfold decimal
    split
    · next h => simp [ofDecimal, digitValue_digitChar n h]
    · next h =>
      rw [ofDecimal_append_digit, ih (n / 10) (by omega), digitValue_digitChar _ (by omega)]
      omega

end Runbook.Text
