/-!
# `Text/Utf8` — text as bytes

Documents, the tasks file and the output of commands are bytes, and all are UTF-8. A document that
is not UTF-8 is refused with the place and the kind of its first fault; the output of a command is
read leniently, with one replacement character for each faulty run.

Both readers stand on `next`, which takes one character or one faulty run off the front. A faulty
run is the longest start of the text that still begins some character, or the one byte that begins
none.
-/

set_option autoImplicit false

namespace Runbook.Text.Utf8

/-- A file's contents. -/
abbrev Bytes := List UInt8

/-- The bytes of one character. -/
def encodeChar (c : Char) : Bytes :=
  let n := c.toNat
  if n < 0x80 then [UInt8.ofNat n]
  else if n < 0x800 then [UInt8.ofNat (0xC0 + n / 64), UInt8.ofNat (0x80 + n % 64)]
  else if n < 0x10000 then
    [UInt8.ofNat (0xE0 + n / 4096), UInt8.ofNat (0x80 + n / 64 % 64), UInt8.ofNat (0x80 + n % 64)]
  else
    [UInt8.ofNat (0xF0 + n / 262144), UInt8.ofNat (0x80 + n / 4096 % 64),
      UInt8.ofNat (0x80 + n / 64 % 64), UInt8.ofNat (0x80 + n % 64)]

/-- The bytes of a text. -/
def encode (cs : List Char) : Bytes := cs.flatMap encodeChar

/-- `encode` on strings. -/
def ofString (s : String) : Bytes := encode s.toList

/-- What is wrong with a faulty run. -/
inductive Reason where
  /-- No character begins with this byte. -/
  | badStart
  /-- The byte after the run cannot follow it. -/
  | badContinuation
  /-- The text ends inside a character. -/
  | unfinished
  deriving DecidableEq, Repr

/-- The first fault of a text: where it begins, its first byte, how many bytes it has, and why. -/
structure Fault where
  position : Nat
  byte : UInt8
  run : Nat
  reason : Reason
  deriving DecidableEq, Repr

/-- One step of reading. -/
inductive Next where
  /-- A character, and what follows it. -/
  | char (c : Char) (rest : Bytes)
  /-- A faulty run of `run` bytes, and what follows it. -/
  | fault (run : Nat) (reason : Reason) (rest : Bytes)

/-- The rest of a character: `owed` more bytes, the first of them between `low` and `high`, the
others between 80 and BF. `value` is what the bytes read so far amount to and `seen` their count. -/
def continuation (value seen : Nat) : (owed low high : Nat) → Bytes → Next
  | 0, _, _, rest => .char (Char.ofNat value) rest
  | _ + 1, _, _, [] => .fault seen .unfinished []
  | owed + 1, low, high, b :: rest =>
    if low ≤ b.toNat ∧ b.toNat ≤ high then
      continuation (value * 64 + b.toNat % 64) (seen + 1) owed 0x80 0xBF rest
    else .fault seen .badContinuation (b :: rest)

/-- The character or the faulty run that begins with byte `b`. The second byte is narrowed where
the full range would spell a character twice, a surrogate, or a number beyond the last character. -/
def next (b : UInt8) (rest : Bytes) : Next :=
  let n := b.toNat
  if n < 0x80 then .char (Char.ofNat n) rest
  else if n < 0xC2 then .fault 1 .badStart rest
  else if n < 0xE0 then continuation (n % 32) 1 1 0x80 0xBF rest
  else if n < 0xF0 then
    continuation (n % 16) 1 2 (if n = 0xE0 then 0xA0 else 0x80) (if n = 0xED then 0x9F else 0xBF)
      rest
  else if n < 0xF5 then
    continuation (n % 8) 1 3 (if n = 0xF0 then 0x90 else 0x80) (if n = 0xF4 then 0x8F else 0xBF)
      rest
  else .fault 1 .badStart rest

/-- What is left after a step. -/
def Next.rest : Next → Bytes
  | .char _ rest => rest
  | .fault _ _ rest => rest

theorem length_rest_continuation (value seen : Nat) :
    ∀ (owed low high : Nat) (bytes : Bytes),
      (continuation value seen owed low high bytes).rest.length ≤ bytes.length := by
  intro owed low high bytes
  induction owed generalizing value seen low high bytes with
  | zero => simp [continuation, Next.rest]
  | succ owed ih =>
    cases bytes with
    | nil => simp [continuation, Next.rest]
    | cons b rest =>
      unfold continuation
      split
      · have := ih (value * 64 + b.toNat % 64) (seen + 1) 0x80 0xBF rest
        simp only [List.length_cons]
        omega
      · simp [Next.rest]

/-- Every step takes something. -/
theorem length_rest_next (b : UInt8) (rest : Bytes) :
    (next b rest).rest.length ≤ rest.length := by
  unfold next
  simp only
  split
  · simp [Next.rest]
  split
  · simp [Next.rest]
  split
  · exact length_rest_continuation ..
  split
  · exact length_rest_continuation ..
  split
  · exact length_rest_continuation ..
  · simp [Next.rest]

/-- The text that bytes spell, or their first fault; `position` counts the bytes before them. -/
def decodeAt (position : Nat) : Bytes → Except Fault (List Char)
  | [] => .ok []
  | b :: rest =>
    match h : next b rest with
    | .char c more =>
      have : more.length ≤ rest.length := by
        have := length_rest_next b rest
        rwa [h] at this
      (decodeAt (position + (encodeChar c).length) more).map (c :: ·)
    | .fault run reason _ => .error { position, byte := b, run, reason }
  termination_by bytes => bytes.length

/-- The text that bytes spell, or their first fault. -/
def decode (bytes : Bytes) : Except Fault (List Char) := decodeAt 0 bytes

/-- The text that bytes spell, with U+FFFD in the place of each faulty run. -/
def decodeLossy : Bytes → List Char
  | [] => []
  | b :: rest =>
    match h : next b rest with
    | .char c more =>
      have : more.length ≤ rest.length := by
        have := length_rest_next b rest
        rwa [h] at this
      c :: decodeLossy more
    | .fault _ _ more =>
      have : more.length ≤ rest.length := by
        have := length_rest_next b rest
        rwa [h] at this
      Char.ofNat 0xFFFD :: decodeLossy more
  termination_by bytes => bytes.length

/-! ## Telling a fault -/

/-- The text of a reason. -/
def Reason.text : Reason → String
  | .badStart => "invalid start byte"
  | .badContinuation => "invalid continuation byte"
  | .unfinished => "unexpected end of data"

/-- A hexadecimal digit, in lower case. -/
def hexDigit (n : Nat) : Char := if n < 10 then Char.ofNat (48 + n) else Char.ofNat (87 + n)

/-- The words for a fault. A run of one byte is named by the byte, a longer one by its extent. -/
def Fault.message (f : Fault) : String :=
  let n := f.byte.toNat
  let what :=
    if f.run = 1 then
      "byte 0x" ++ String.ofList [hexDigit (n / 16), hexDigit (n % 16)] ++
        " in position " ++ toString f.position
    else
      "bytes in position " ++ toString f.position ++ "-" ++ toString (f.position + f.run - 1)
  "'utf-8' codec can't decode " ++ what ++ ": " ++ f.reason.text

end Runbook.Text.Utf8
