import Runbook.Datum.Json
import Runbook.Proofs.Text.Numeral

/-!
# `Proofs/Json/Scalar` — strings, names and integers that were written

The writer has one way of putting a character into a string, and the reader takes many. What is
shown here is that each written character is taken back as itself, whatever follows it, and so each
string, in either layout: short escapes, escapes with four digits, pairs of them for characters
beyond the first 65,536, and characters as they stand.

An integer ends where its digits end, so what follows it must not look like more of a number
(`Ends`). The names and the strings end by themselves.
-/

set_option autoImplicit false

namespace Runbook.Json

open Runbook.Text

/-! ## Hexadecimal digits -/

theorem hexValue?_hexDigit {d : Nat} (h : d < 16) : hexValue? (Utf8.hexDigit d) = some d := by
  have hall : ∀ d : Fin 16, hexValue? (Utf8.hexDigit d) = some d.val := by decide
  exact hall ⟨d, h⟩

theorem hex4_hexQuad {n : Nat} (h : n < 0x10000) (rest : List Char) :
    hex4 (hexQuad n ++ rest) = some (n, rest) := by
  have hvalue : ((n / 4096 * 16 + n / 256 % 16) * 16 + n / 16 % 16) * 16 + n % 16 = n := by omega
  simp only [hexQuad, List.map_cons, List.map_nil, List.cons_append, List.nil_append, hex4,
    hexValue?_hexDigit (show n / 4096 < 16 by omega),
    hexValue?_hexDigit (show n / 256 % 16 < 16 by omega),
    hexValue?_hexDigit (show n / 16 % 16 < 16 by omega),
    hexValue?_hexDigit (show n % 16 < 16 by omega), hvalue]

theorem hexEscape_hexQuad {c : Char} (h : c.toNat < 0x10000) (rest : List Char) :
    hexEscape (hexQuad c.toNat ++ rest) = some (c, rest) := by
  have hvalid : c.toNat < 0xD800 ∨ 0xDFFF < c.toNat ∧ c.toNat < 0x110000 := c.valid
  unfold hexEscape
  rw [hex4_hexQuad h]
  dsimp only
  rw [if_neg (by omega), if_neg (by omega), Char.ofNat_toNat]

/-- Two halves make one character. -/
theorem hexEscape_pair {high low : Nat} (hhigh : 0xD800 ≤ high ∧ high < 0xDC00)
    (hlow : 0xDC00 ≤ low ∧ low < 0xE000) (rest : List Char) :
    hexEscape (hexQuad high ++ (writeHex low ++ rest)) =
      some (Char.ofNat (0x10000 + (high - 0xD800) * 0x400 + (low - 0xDC00)), rest) := by
  have hafter : after? "\\u".toList (writeHex low ++ rest) = some (hexQuad low ++ rest) :=
    after?_eq_some_iff.2 rfl
  unfold hexEscape
  rw [hex4_hexQuad (by omega)]
  dsimp only
  rw [if_pos hhigh, hafter]
  dsimp only
  rw [hex4_hexQuad (by omega)]
  dsimp only
  rw [if_pos hlow]

/-- The halves that a character beyond the first 65,536 is written as. -/
theorem ofNat_halves {c : Char} (h : 0x10000 ≤ c.toNat) :
    Char.ofNat (0x10000 + (0xD800 + (c.toNat - 0x10000) / 0x400 - 0xD800) * 0x400 +
      (0xDC00 + (c.toNat - 0x10000) % 0x400 - 0xDC00)) = c := by
  rw [Nat.add_sub_cancel_left, Nat.add_sub_cancel_left, Nat.add_assoc, Nat.mul_comm,
    Nat.div_add_mod, Nat.add_sub_cancel' h, Char.ofNat_toNat]

/-! ## Strings -/

theorem stringRest_escape {rest more : List Char} {c : Char} (h : escape rest = some (c, more)) :
    stringRest ('\\' :: rest) = (stringRest more).map fun p => (c :: p.1, p.2) := by
  rw [stringRest, if_neg (by decide), if_pos rfl]
  split
  · next d more' hd =>
    rw [h] at hd
    obtain ⟨rfl, rfl⟩ := Prod.mk.inj (Option.some.inj hd)
    rfl
  · next hd =>
    rw [h] at hd
    cases hd

theorem stringRest_plain {c : Char} {rest : List Char} (hq : c ≠ '"') (hb : c ≠ '\\')
    (hc : 0x20 ≤ c.toNat) :
    stringRest (c :: rest) = (stringRest rest).map fun p => (c :: p.1, p.2) := by
  rw [stringRest, if_neg hq, if_neg hb, if_neg (by omega)]

theorem eq_ofNat {c : Char} {n : Nat} (h : c.toNat = n) : c = Char.ofNat n := by
  rw [← h, Char.ofNat_toNat]

theorem writeHex_append (n : Nat) (rest : List Char) :
    writeHex n ++ rest = '\\' :: 'u' :: (hexQuad n ++ rest) := rfl

theorem escape_u (rest : List Char) : escape ('u' :: rest) = hexEscape rest := rfl

/-- An escape with four digits is taken back as the character it was made for. -/
theorem stringRest_writeHex {c : Char} (h : c.toNat < 0x10000) (rest : List Char) :
    stringRest (writeHex c.toNat ++ rest) = (stringRest rest).map fun p => (c :: p.1, p.2) := by
  rw [writeHex_append]
  exact stringRest_escape ((escape_u _).trans (hexEscape_hexQuad h rest))

/-- Two escapes with four digits are taken back as one character. -/
theorem stringRest_writeHex_pair {c : Char} (h : 0x10000 ≤ c.toNat) (rest : List Char) :
    stringRest (writeHex (0xD800 + (c.toNat - 0x10000) / 0x400) ++
        writeHex (0xDC00 + (c.toNat - 0x10000) % 0x400) ++ rest) =
      (stringRest rest).map fun p => (c :: p.1, p.2) := by
  have hvalid : c.toNat < 0xD800 ∨ 0xDFFF < c.toNat ∧ c.toNat < 0x110000 := c.valid
  have hhigh : 0xD800 + (c.toNat - 0x10000) / 0x400 < 0xDC00 := by omega
  have hlow : 0xDC00 + (c.toNat - 0x10000) % 0x400 < 0xE000 := by omega
  have hpair := hexEscape_pair ⟨Nat.le_add_right _ _, hhigh⟩ ⟨Nat.le_add_right _ _, hlow⟩ rest
  rw [ofNat_halves h] at hpair
  rw [List.append_assoc, writeHex_append]
  exact stringRest_escape ((escape_u _).trans hpair)

theorem stringRest_writeChar (layout : Layout) (c : Char) (rest : List Char) :
    stringRest (writeChar layout c ++ rest) =
      (stringRest rest).map fun p => (c :: p.1, p.2) := by
  unfold writeChar
  dsimp only
  split
  · next h =>
    subst h
    exact stringRest_escape rfl
  · next hq =>
    split
    · next h =>
      subst h
      exact stringRest_escape rfl
    · next hb =>
      split
      · next h => exact eq_ofNat h ▸ stringRest_escape rfl
      split
      · next h => exact eq_ofNat h ▸ stringRest_escape rfl
      split
      · next h => exact eq_ofNat h ▸ stringRest_escape rfl
      split
      · next h => exact eq_ofNat h ▸ stringRest_escape rfl
      split
      · next h => exact eq_ofNat h ▸ stringRest_escape rfl
      split
      · next h => exact stringRest_writeHex (by omega) rest
      · next hc =>
        split
        · split
          · next h => exact stringRest_writeHex h rest
          · next h =>
            exact stringRest_writeHex_pair (Nat.le_of_not_lt h) rest
        · exact stringRest_plain hq hb (Nat.le_of_not_lt hc)

theorem stringRest_flatMap (layout : Layout) (cs rest : List Char) :
    stringRest (cs.flatMap (writeChar layout) ++ '"' :: rest) = some (cs, rest) := by
  induction cs with
  | nil =>
    rw [List.flatMap_nil, List.nil_append, stringRest, if_pos rfl]
  | cons c cs ih =>
    rw [List.flatMap_cons, List.append_assoc, stringRest_writeChar, ih]
    rfl

/-- A string is taken back as itself. -/
theorem string_writeString (layout : Layout) (s : String) (rest : List Char) :
    string (writeString layout s ++ rest) = some (s, rest) := by
  have hstring : writeString layout s ++ rest =
      '"' :: (s.toList.flatMap (writeChar layout) ++ '"' :: rest) := by
    simp [writeString]
  rw [hstring, string, stringRest_flatMap, Option.map_some]
  dsimp only
  rw [String.ofList_toList]

/-! ## Integers -/

/-- A text that does not go on with a number. -/
def Ends (rest : List Char) : Prop :=
  ∀ c ∈ rest.head?, c.isDigit = false ∧ c ≠ '.' ∧ c ≠ 'e' ∧ c ≠ 'E'

theorem ends_nil : Ends [] := fun _ h => nomatch h

theorem ends_cons {c : Char} (h : c.isDigit = false ∧ c ≠ '.' ∧ c ≠ 'e' ∧ c ≠ 'E')
    (rest : List Char) : Ends (c :: rest) := by
  intro d hd
  obtain rfl : c = d := by simpa using hd
  exact h

theorem digits_decimal (n : Nat) {rest : List Char} (h : Ends rest) :
    digits (decimal n ++ rest) = some (decimal n, rest) := by
  have hall : ∀ c ∈ decimal n, c.isDigit = true := fun _ => isDigit_of_mem_decimal
  have hend : ∀ c ∈ rest.head?, c.isDigit = false := fun c hc => (h c hc).1
  unfold digits
  rw [takeWhile_digits hall hend, dropWhile_digits hall hend,
    if_neg (by simpa using decimal_ne_nil n)]

theorem fraction_of_ends {rest : List Char} (h : Ends rest) : fraction rest = some (none, rest) := by
  cases rest with
  | nil => rfl
  | cons c rest =>
    unfold fraction
    split
    · next heq =>
      obtain ⟨rfl, -⟩ := List.cons.inj heq
      exact absurd rfl (h '.' rfl).2.1
    · rfl

theorem exponent_of_ends {rest : List Char} (h : Ends rest) : exponent rest = some (none, rest) := by
  cases rest with
  | nil => rfl
  | cons c rest =>
    obtain ⟨-, -, he, hE⟩ := h c rfl
    unfold exponent
    dsimp only
    rw [if_neg (not_or.2 ⟨he, hE⟩)]

theorem numeral_decimal {negative : Bool} {n : Nat} {rest : List Char} (h : Ends rest)
    (hlen : isTooLong negative (decimal n) = false) :
    numeral negative (decimal n ++ rest) =
      some (.integer (if negative then -(n : Int) else n), rest) := by
  have hzero : ((decimal n).head? == some '0' && 1 < (decimal n).length) = false := by
    rcases Nat.lt_or_ge n 10 with hn | hn
    · simp [length_decimal_of_lt hn]
    · simp [head?_decimal_ne_zero (show 0 < n by omega)]
  unfold numeral
  rw [digits_decimal n h]
  dsimp only
  rw [hzero, hlen, fraction_of_ends h]
  simp only [Bool.false_eq_true, if_false, exponent_of_ends h, Option.map_some, assemble,
    ofDecimal_decimal]

/-- A numeral begins with no name. -/
theorem after?_decimal {c : Char} (hc : c.isDigit = false) (lead : List Char) (n : Nat)
    (rest : List Char) : after? (c :: lead) (decimal n ++ rest) = none := by
  cases hd : decimal n with
  | nil => exact absurd hd (decimal_ne_nil n)
  | cons d ds =>
    have hdigit := isDigit_of_mem_decimal (hd ▸ List.mem_cons_self (a := d) (l := ds))
    rw [List.cons_append, after?, if_neg]
    rintro rfl
    rw [hc] at hdigit
    cases hdigit

theorem unsigned_decimal {negative : Bool} {n : Nat} {rest : List Char} (h : Ends rest)
    (hlen : isTooLong negative (decimal n) = false) :
    unsigned negative (decimal n ++ rest) =
      some (.integer (if negative then -(n : Int) else n), rest) := by
  have hname : after? "Infinity".toList (decimal n ++ rest) = none :=
    after?_decimal (c := 'I') (by decide) _ n rest
  unfold unsigned
  rw [hname]
  exact numeral_decimal h hlen

/-- A numeral does not begin with a sign. -/
theorem number_decimal_append (n : Nat) (rest : List Char) :
    number (decimal n ++ rest) = unsigned false (decimal n ++ rest) := by
  have hname : after? "NaN".toList (decimal n ++ rest) = none :=
    after?_decimal (c := 'N') (by decide) _ n rest
  unfold number
  split
  · next more heq =>
    have hsign := after?_decimal (c := '-') (by decide) [] n rest
    rw [heq, after?, if_pos rfl] at hsign
    cases hsign
  · rw [hname]

/-- An integer whose numeral is not too long to be read. -/
def isShort (n : Int) : Bool := !isTooLong (n < 0) (decimal n.natAbs)

theorem number_signed {n : Int} {rest : List Char} (h : Ends rest) (hn : isShort n = true) :
    number (signed n ++ rest) = some (.integer n, rest) := by
  have hlen : isTooLong (n < 0) (decimal n.natAbs) = false := by simpa [isShort] using hn
  unfold signed
  split
  · next hneg =>
    rw [decide_eq_true hneg] at hlen
    have habs : -(n.natAbs : Int) = n := by omega
    rw [List.cons_append, number, unsigned_decimal h hlen, if_pos rfl, habs]
  · next hpos =>
    rw [decide_eq_false hpos] at hlen
    have habs : (n.natAbs : Int) = n := by omega
    rw [number_decimal_append, unsigned_decimal h hlen, if_neg (by simp), habs]

/-! ## Scalars -/

theorem scalar_writeString (layout : Layout) (s : String) (rest : List Char) :
    scalar (writeString layout s ++ rest) = some (.text s, rest) := by
  unfold scalar
  rw [string_writeString]

theorem scalar_bool (b : Bool) (rest : List Char) :
    scalar ((if b then "true" else "false").toList ++ rest) = some (.bool b, rest) := by
  cases b <;> rfl

theorem scalar_null (rest : List Char) :
    scalar ("null".toList ++ rest) = some (.null, rest) := rfl

theorem string_of_ne {c : Char} (h : c ≠ '"') (rest : List Char) : string (c :: rest) = none := by
  unfold string
  split
  · next heq => exact absurd (List.cons.inj heq).1 h
  · rfl

theorem word_of_ne {name : String} {c l : Char} (hname : name.toList.head? = some l) (h : l ≠ c)
    (d : Datum) (rest : List Char) : word name d (c :: rest) = none := by
  unfold word
  cases hl : name.toList with
  | nil => simp [hl] at hname
  | cons k lead =>
    obtain rfl : k = l := by simpa [hl] using hname
    rw [after?, if_neg h]
    rfl

/-- The first character of an integer's numeral. -/
theorem signed_eq_cons (n : Int) :
    ∃ c cs, signed n = c :: cs ∧ (c.isDigit = true ∨ c = '-') := by
  unfold signed
  split
  · exact ⟨_, _, rfl, .inr rfl⟩
  · cases hd : decimal n.natAbs with
    | nil => exact absurd hd (decimal_ne_nil _)
    | cons c cs =>
      exact ⟨c, cs, rfl, .inl (isDigit_of_mem_decimal (hd ▸ List.mem_cons_self))⟩

theorem scalar_signed {n : Int} {rest : List Char} (h : Ends rest) (hn : isShort n = true) :
    scalar (signed n ++ rest) = some (.number (.integer n), rest) := by
  have hnumber := number_signed h hn
  obtain ⟨c, cs, hcons, hc⟩ := signed_eq_cons n
  have hne : ∀ l : Char, l.isDigit = false → l ≠ '-' → l ≠ c := by
    rintro l hdigit hsign rfl
    rcases hc with hc | hc
    · rw [hdigit] at hc
      cases hc
    · exact hsign hc
  rw [hcons, List.cons_append] at hnumber ⊢
  unfold scalar
  rw [string_of_ne (hne '"' (by decide) (by decide)).symm,
    word_of_ne (l := 't') (by decide) (hne _ (by decide) (by decide)),
    word_of_ne (l := 'f') (by decide) (hne _ (by decide) (by decide)),
    word_of_ne (l := 'n') (by decide) (hne _ (by decide) (by decide)), hnumber]
  rfl

end Runbook.Json
