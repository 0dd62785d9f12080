import Runbook.Text.Numeral

/-!
# `Proofs/Text/Numeral` — the shape of decimal numerals

A numeral is a run of digits that does not begin with a zero unless it is one. With zeros in front
it has the width it was given, as long as the number is small enough, and denotes the same number;
so two numbers that are written alike are equal.
-/

set_option autoImplicit false

namespace Runbook.Text

/-! ## Digits -/

theorem isDigit_digitChar {d : Nat} (h : d < 10) : (digitChar d).isDigit = true := by
  have hall : ∀ d : Fin 10, (digitChar d).isDigit = true := by decide
  exact hall ⟨d, h⟩

theorem digitChar_ne_zero {d : Nat} (hpos : 0 < d) (h : d < 10) : digitChar d ≠ '0' := by
  have hall : ∀ d : Fin 10, 0 < d.val → digitChar d ≠ '0' := by decide
  exact hall ⟨d, h⟩ hpos

/-- A run of digits ends where its digits end. -/
theorem takeWhile_digits {ds rest : List Char} (hds : ∀ c ∈ ds, c.isDigit = true)
    (hrest : ∀ c ∈ rest.head?, c.isDigit = false) :
    (ds ++ rest).takeWhile Char.isDigit = ds := by
  rw [List.takeWhile_append_of_pos hds]
  cases rest with
  | nil => simp
  | cons c rest => simp [hrest c rfl]

theorem dropWhile_digits {ds rest : List Char} (hds : ∀ c ∈ ds, c.isDigit = true)
    (hrest : ∀ c ∈ rest.head?, c.isDigit = false) :
    (ds ++ rest).dropWhile Char.isDigit = rest := by
  rw [List.dropWhile_append_of_pos hds]
  cases rest with
  | nil => rfl
  | cons c rest => simp [hrest c rfl]

theorem isDigit_of_mem_decimal {n : Nat} {c : Char} (h : c ∈ decimal n) : c.isDigit = true := by
  induction n using Nat.strongRecOn with
  | ind n ih =>
    rw [decimal] at h
    split at h
    · next hn =>
      rw [List.mem_singleton.1 h]
      exact isDigit_digitChar hn
    · next hn =>
      rcases List.mem_append.1 h with h | h
      · exact ih (n / 10) (by omega) h
      · rw [List.mem_singleton.1 h]
        exact isDigit_digitChar (by omega)

theorem decimal_ne_nil (n : Nat) : decimal n ≠ [] := by
  rw [decimal]
  split <;> simp

/-- A numeral of a number above zero does not begin with a zero. -/
theorem head?_decimal_ne_zero {n : Nat} (h : 0 < n) : (decimal n).head? ≠ some '0' := by
  induction n using Nat.strongRecOn with
  | ind n ih =>
    rw [decimal]
    split
    · next hn =>
      intro hc
      exact digitChar_ne_zero h hn (Option.some.inj hc)
    · next hn =>
      have hhead := ih (n / 10) (by omega) (by omega)
      cases hc : decimal (n / 10) with
      | nil => exact absurd hc (decimal_ne_nil _)
      | cons c rest =>
        rw [hc] at hhead
        exact hhead

/-- The numeral of a number is its decimal digits, as the library has them. -/
theorem decimal_eq_toDigits (n : Nat) : decimal n = Nat.toDigits 10 n := by
  have hchar : ∀ d : Fin 10, digitChar d = Nat.digitChar d := by decide
  induction n using Nat.strongRecOn with
  | ind n ih =>
    rw [decimal, Nat.toDigits_eq_if (by decide)]
    split
    · next hn => exact congrArg (fun c => [c]) (hchar ⟨n, hn⟩)
    · next hn =>
      rw [ih (n / 10) (by omega)]
      exact congrArg (fun c => Nat.toDigits 10 (n / 10) ++ [c])
        (hchar ⟨n % 10, Nat.mod_lt n (by decide)⟩)

theorem length_decimal_of_lt {n : Nat} (h : n < 10) : (decimal n).length = 1 := by
  rw [decimal, if_pos h]
  rfl

theorem length_decimal_le {width n : Nat} (hw : 0 < width) (h : n < Nat.pow 10 width) :
    (decimal n).length ≤ width := by
  induction width generalizing n with
  | zero => cases hw
  | succ width ih =>
    rw [decimal]
    split
    · exact Nat.succ_le_succ (Nat.zero_le _)
    · next hn =>
      rw [List.length_append, List.length_singleton]
      refine Nat.succ_le_succ (ih ?_ ?_)
      · rcases Nat.eq_zero_or_pos width with rfl | hpos
        · exact absurd h hn
        · exact hpos
      · have hpow : Nat.pow 10 (width + 1) = Nat.pow 10 width * 10 := rfl
        rw [hpow] at h
        omega

/-! ## Zeros in front -/

theorem length_padded (width : Nat) {n : Nat} (hw : 0 < width) (h : n < Nat.pow 10 width) :
    (padded width n).length = width := by
  have hle := length_decimal_le hw h
  rw [padded, List.length_append, List.length_replicate]
  omega

theorem isDigit_of_mem_padded {width n : Nat} {c : Char} (h : c ∈ padded width n) :
    c.isDigit = true := by
  rcases List.mem_append.1 h with h | h
  · rw [List.eq_of_mem_replicate h]
    decide
  · exact isDigit_of_mem_decimal h

/-- Zeros in front change nothing. -/
theorem ofDecimal_zeros_append (zeros : Nat) (cs : List Char) :
    ofDecimal (List.replicate zeros '0' ++ cs) = ofDecimal cs := by
  induction zeros with
  | zero => rfl
  | succ zeros ih =>
    rw [List.replicate_succ, List.cons_append]
    exact ih

theorem ofDecimal_padded (width n : Nat) : ofDecimal (padded width n) = n := by
  rw [padded, ofDecimal_zeros_append, ofDecimal_decimal]

theorem padded_inj {width m n : Nat} (h : padded width m = padded width n) : m = n := by
  rw [← ofDecimal_padded width m, h, ofDecimal_padded]

end Runbook.Text
