import Runbook.Text.Utf8

/-!
# `Proofs/Text/Utf8` — bytes that were written are read back

`decode` goes from byte to byte and `encode` from character to character, and they share no table:
the reader narrows the second byte of some characters, the writer computes it. Here they meet. The
bytes of a character, whatever follows them, are one step of the reader (`next_encodeChar`), and so
the bytes of a text are read back as the text. A step of the reader that gives a character has taken
the bytes of that character and no others (`encodeChar_of_next`), and so nothing else is read as the
text.
-/

set_option autoImplicit false

namespace Runbook.Text.Utf8

/-! ## One byte -/

theorem continuation_last (value seen : Nat) (b : UInt8) (rest : Bytes) {low high : Nat}
    (h : low ≤ b.toNat ∧ b.toNat ≤ high) :
    continuation value seen 1 low high (b :: rest) =
      .char (Char.ofNat (value * 64 + b.toNat % 64)) rest := by
  rw [continuation, if_pos h, continuation]

theorem continuation_more (value seen owed : Nat) (b : UInt8) (rest : Bytes) {low high : Nat}
    (h : low ≤ b.toNat ∧ b.toNat ≤ high) :
    continuation value seen (owed + 1) low high (b :: rest) =
      continuation (value * 64 + b.toNat % 64) (seen + 1) owed 0x80 0xBF rest := by
  rw [continuation, if_pos h]

theorem toNat_ofNat {n : Nat} (h : n < 256) : (UInt8.ofNat n).toNat = n := by
  rw [UInt8.toNat_ofNat']
  exact Nat.mod_eq_of_lt h

/-! ## One character -/

/-- The numbers that characters have. -/
theorem toNat_bounds (c : Char) : c.toNat < 0xD800 ∨ 0xDFFF < c.toNat ∧ c.toNat < 0x110000 :=
  c.valid

theorem next_one {c : Char} (h : c.toNat < 0x80) (rest : Bytes) :
    next (UInt8.ofNat c.toNat) rest = .char c rest := by
  unfold next
  rw [toNat_ofNat (by omega)]
  dsimp only
  rw [if_pos h, Char.ofNat_toNat]

theorem next_two {c : Char} (hlow : 0x80 ≤ c.toNat) (hhigh : c.toNat < 0x800) (rest : Bytes) :
    next (UInt8.ofNat (0xC0 + c.toNat / 64)) (UInt8.ofNat (0x80 + c.toNat % 64) :: rest) =
      .char c rest := by
  have hvalue : (0xC0 + c.toNat / 64) % 32 * 64 + (0x80 + c.toNat % 64) % 64 = c.toNat := by omega
  unfold next
  rw [toNat_ofNat (by omega)]
  dsimp only
  rw [if_neg (by omega), if_neg (by omega), if_pos (by omega),
    continuation_last _ _ _ _ (by rw [toNat_ofNat (by omega)]; omega), toNat_ofNat (by omega),
    hvalue, Char.ofNat_toNat]

theorem next_three {c : Char} (hlow : 0x800 ≤ c.toNat) (hhigh : c.toNat < 0x10000)
    (rest : Bytes) :
    next (UInt8.ofNat (0xE0 + c.toNat / 4096))
        (UInt8.ofNat (0x80 + c.toNat / 64 % 64) :: UInt8.ofNat (0x80 + c.toNat % 64) :: rest) =
      .char c rest := by
  have hvalid := toNat_bounds c
  have hvalue : ((0xE0 + c.toNat / 4096) % 16 * 64 + (0x80 + c.toNat / 64 % 64) % 64) * 64 +
      (0x80 + c.toNat % 64) % 64 = c.toNat := by omega
  unfold next
  rw [toNat_ofNat (by omega)]
  dsimp only
  rw [if_neg (by omega), if_neg (by omega), if_neg (by omega), if_pos (by omega),
    continuation_more _ _ _ _ _
      (by rw [toNat_ofNat (by omega)]; constructor <;> split <;> omega),
    toNat_ofNat (by omega), continuation_last _ _ _ _ (by rw [toNat_ofNat (by omega)]; omega),
    toNat_ofNat (by omega), hvalue, Char.ofNat_toNat]

theorem next_four {c : Char} (hlow : 0x10000 ≤ c.toNat) (rest : Bytes) :
    next (UInt8.ofNat (0xF0 + c.toNat / 262144))
        (UInt8.ofNat (0x80 + c.toNat / 4096 % 64) :: UInt8.ofNat (0x80 + c.toNat / 64 % 64) ::
          UInt8.ofNat (0x80 + c.toNat % 64) :: rest) =
      .char c rest := by
  have hvalid := toNat_bounds c
  have hvalue : (((0xF0 + c.toNat / 262144) % 8 * 64 + (0x80 + c.toNat / 4096 % 64) % 64) * 64 +
      (0x80 + c.toNat / 64 % 64) % 64) * 64 + (0x80 + c.toNat % 64) % 64 = c.toNat := by omega
  unfold next
  rw [toNat_ofNat (by omega)]
  dsimp only
  rw [if_neg (by omega), if_neg (by omega), if_neg (by omega), if_neg (by omega),
    if_pos (by omega),
    continuation_more _ _ _ _ _
      (by rw [toNat_ofNat (by omega)]; constructor <;> split <;> omega),
    toNat_ofNat (by omega), continuation_more _ _ _ _ _ (by rw [toNat_ofNat (by omega)]; omega),
    toNat_ofNat (by omega), continuation_last _ _ _ _ (by rw [toNat_ofNat (by omega)]; omega),
    toNat_ofNat (by omega), hvalue, Char.ofNat_toNat]

/-- The bytes of a character are one step, whatever follows. -/
theorem next_encodeChar (c : Char) (rest : Bytes) :
    ∃ b more, encodeChar c ++ rest = b :: more ∧ next b more = .char c rest := by
  unfold encodeChar
  dsimp only
  split
  · next h => exact ⟨_, _, rfl, next_one h rest⟩
  · next h₁ =>
    split
    · next h => exact ⟨_, _, rfl, next_two (by omega) h rest⟩
    · next h₂ =>
      split
      · next h => exact ⟨_, _, rfl, next_three (by omega) h rest⟩
      · next h => exact ⟨_, _, rfl, next_four (by omega) rest⟩

/-! ## One character back -/

/-- The bytes that the rest of a character was read off. -/
theorem exists_of_continuation {value seen owed low high : Nat} {bytes more : Bytes} {c : Char}
    (h : continuation value seen (owed + 1) low high bytes = .char c more) :
    ∃ b rest, bytes = b :: rest ∧ (low ≤ b.toNat ∧ b.toNat ≤ high) ∧
      continuation (value * 64 + b.toNat % 64) (seen + 1) owed 0x80 0xBF rest = .char c more := by
  cases bytes with
  | nil => cases h
  | cons b rest =>
    rw [continuation] at h
    split at h
    · next hb => exact ⟨b, rest, rfl, hb, h⟩
    · cases h

theorem ofNat_eq {n : Nat} {b : UInt8} (h : n = b.toNat) : UInt8.ofNat n = b := by
  rw [h, UInt8.ofNat_toNat]

theorem toNat_charOfNat {n : Nat} (h : n < 0xD800 ∨ 0xDFFF < n ∧ n < 0x110000) :
    (Char.ofNat n).toNat = n := by
  have hvalid : n.isValidChar := h
  rw [Char.ofNat, dif_pos hvalid]
  rfl

theorem encodeChar_one {b : UInt8} (h : b.toNat < 0x80) :
    encodeChar (Char.ofNat b.toNat) = [b] := by
  unfold encodeChar
  rw [toNat_charOfNat (by omega)]
  dsimp only
  rw [if_pos h, ofNat_eq rfl]

theorem encodeChar_two {b₁ b₂ : UInt8} (h₁ : 0xC2 ≤ b₁.toNat ∧ b₁.toNat < 0xE0)
    (h₂ : 0x80 ≤ b₂.toNat ∧ b₂.toNat ≤ 0xBF) :
    encodeChar (Char.ofNat (b₁.toNat % 32 * 64 + b₂.toNat % 64)) = [b₁, b₂] := by
  unfold encodeChar
  rw [toNat_charOfNat (by omega)]
  dsimp only
  rw [if_neg (by omega), if_pos (by omega), ofNat_eq (b := b₁) (by omega),
    ofNat_eq (b := b₂) (by omega)]

/-- The second byte is narrowed where the character would be shorter, or a surrogate. -/
theorem encodeChar_three {b₁ b₂ b₃ : UInt8} (h₁ : 0xE0 ≤ b₁.toNat ∧ b₁.toNat < 0xF0)
    (hlow : (if b₁.toNat = 0xE0 then 0xA0 else 0x80) ≤ b₂.toNat)
    (hhigh : b₂.toNat ≤ if b₁.toNat = 0xED then 0x9F else 0xBF)
    (h₃ : 0x80 ≤ b₃.toNat ∧ b₃.toNat ≤ 0xBF) :
    encodeChar (Char.ofNat ((b₁.toNat % 16 * 64 + b₂.toNat % 64) * 64 + b₃.toNat % 64)) =
      [b₁, b₂, b₃] := by
  have h₂ : (0x80 ≤ b₂.toNat ∧ b₂.toNat ≤ 0xBF) ∧ (b₁.toNat = 0xE0 → 0xA0 ≤ b₂.toNat) ∧
      (b₁.toNat = 0xED → b₂.toNat ≤ 0x9F) := by
    split at hlow <;> split at hhigh <;> omega
  clear hlow hhigh
  unfold encodeChar
  rw [toNat_charOfNat (by omega)]
  dsimp only
  rw [if_neg (by omega), if_neg (by omega), if_pos (by omega), ofNat_eq (b := b₁) (by omega),
    ofNat_eq (b := b₂) (by omega), ofNat_eq (b := b₃) (by omega)]

/-- The second byte is narrowed where the character would be shorter, or beyond the last. -/
theorem encodeChar_four {b₁ b₂ b₃ b₄ : UInt8} (h₁ : 0xF0 ≤ b₁.toNat ∧ b₁.toNat < 0xF5)
    (hlow : (if b₁.toNat = 0xF0 then 0x90 else 0x80) ≤ b₂.toNat)
    (hhigh : b₂.toNat ≤ if b₁.toNat = 0xF4 then 0x8F else 0xBF)
    (h₃ : 0x80 ≤ b₃.toNat ∧ b₃.toNat ≤ 0xBF) (h₄ : 0x80 ≤ b₄.toNat ∧ b₄.toNat ≤ 0xBF) :
    encodeChar (Char.ofNat (((b₁.toNat % 8 * 64 + b₂.toNat % 64) * 64 + b₃.toNat % 64) * 64 +
      b₄.toNat % 64)) = [b₁, b₂, b₃, b₄] := by
  have h₂ : (0x80 ≤ b₂.toNat ∧ b₂.toNat ≤ 0xBF) ∧ (b₁.toNat = 0xF0 → 0x90 ≤ b₂.toNat) ∧
      (b₁.toNat = 0xF4 → b₂.toNat ≤ 0x8F) := by
    split at hlow <;> split at hhigh <;> omega
  clear hlow hhigh
  unfold encodeChar
  rw [toNat_charOfNat (by omega)]
  dsimp only
  rw [if_neg (by omega), if_neg (by omega), if_neg (by omega), ofNat_eq (b := b₁) (by omega),
    ofNat_eq (b := b₂) (by omega), ofNat_eq (b := b₃) (by omega), ofNat_eq (b := b₄) (by omega)]

/-- A character that was read is spelled by the bytes it was read off. -/
theorem encodeChar_of_next {b : UInt8} {rest more : Bytes} {c : Char}
    (h : next b rest = .char c more) : b :: rest = encodeChar c ++ more := by
  unfold next at h
  dsimp only at h
  split at h
  · next hone =>
    obtain ⟨rfl, rfl⟩ := Next.char.inj h
    rw [encodeChar_one hone]
    rfl
  split at h
  · cases h
  split at h
  · obtain ⟨b₂, rest, rfl, h₂, h⟩ := exists_of_continuation h
    obtain ⟨rfl, rfl⟩ := Next.char.inj h
    rw [encodeChar_two (by omega) h₂]
    rfl
  split at h
  · obtain ⟨b₂, rest, rfl, ⟨hlow, hhigh⟩, h⟩ := exists_of_continuation h
    obtain ⟨b₃, rest, rfl, h₃, h⟩ := exists_of_continuation h
    obtain ⟨rfl, rfl⟩ := Next.char.inj h
    rw [encodeChar_three (by omega) hlow hhigh h₃]
    rfl
  split at h
  · obtain ⟨b₂, rest, rfl, ⟨hlow, hhigh⟩, h⟩ := exists_of_continuation h
    obtain ⟨b₃, rest, rfl, h₃, h⟩ := exists_of_continuation h
    obtain ⟨b₄, rest, rfl, h₄, h⟩ := exists_of_continuation h
    obtain ⟨rfl, rfl⟩ := Next.char.inj h
    rw [encodeChar_four (by omega) hlow hhigh h₃ h₄]
    rfl
  · cases h

/-! ## Texts -/

theorem decodeAt_cons {position : Nat} {b : UInt8} {rest more : Bytes} {c : Char}
    (h : next b rest = .char c more) :
    decodeAt position (b :: rest) =
      (decodeAt (position + (encodeChar c).length) more).map (c :: ·) := by
  rw [decodeAt]
  split
  · next d more' hd =>
    rw [h] at hd
    obtain ⟨rfl, rfl⟩ := Next.char.inj hd
    rfl
  · next hd =>
    rw [h] at hd
    cases hd

theorem decodeAt_encode (position : Nat) (cs : List Char) :
    decodeAt position (encode cs) = .ok cs := by
  induction cs generalizing position with
  | nil =>
    rw [encode, List.flatMap_nil, decodeAt]
  | cons c cs ih =>
    obtain ⟨b, more, hbytes, hnext⟩ := next_encodeChar c (encode cs)
    have hcons : encode (c :: cs) = b :: more := hbytes
    rw [hcons, decodeAt_cons hnext, ih]
    rfl

/-- The bytes of a text spell the text. -/
theorem decode_encode (cs : List Char) : decode (encode cs) = .ok cs := decodeAt_encode 0 cs

theorem encode_of_decodeAt {position : Nat} {bytes : Bytes} {cs : List Char}
    (h : decodeAt position bytes = .ok cs) : encode cs = bytes := by
  fun_induction decodeAt position bytes generalizing cs with
  | case1 position =>
    cases h
    rfl
  | case2 position b rest c more hnext hle ih =>
    cases hmore : decodeAt (position + (encodeChar c).length) more with
    | error fault =>
      rw [hmore] at h
      cases h
    | ok ds =>
      rw [hmore] at h
      cases h
      rw [encodeChar_of_next hnext, ← ih hmore]
      rfl
  | case3 position b rest run reason more hnext => cases h

/-- Bytes are read as a text exactly if they spell it. -/
theorem decode_eq_ok_iff {bytes : Bytes} {cs : List Char} :
    decode bytes = .ok cs ↔ encode cs = bytes := by
  constructor
  · exact encode_of_decodeAt
  · rintro rfl
    exact decode_encode cs

end Runbook.Text.Utf8
