import Runbook.Shell.Text.Numeral
import Runbook.Text.Utf8

/-!
# `Shell/Text/Raw` — text that may hold any bytes

Commands pass bytes to each other, and most of the time these bytes are text. Inside the shell they
are kept as text throughout: a byte that belongs to no character stands as a character of its own,
taken from the end of the last private plane. `ofBytes` and `toBytes` turn one into the other, and
nothing is lost on the way from bytes to bytes.
-/

set_option autoImplicit false

namespace Runbook.Shell.Raw

open Runbook.Text Runbook.Text.Utf8

/-- The number of the character that stands for a byte zero. -/
def plane : Nat := 0x10FF00

/-- The character that stands for a byte which is no part of a character. -/
def char (b : UInt8) : Char := Char.ofNat (plane + b.toNat)

/-- The byte that a character stands for. -/
def byte? (c : Char) : Option UInt8 :=
  if plane + 0x80 ≤ c.toNat ∧ c.toNat < plane + 0x100 then some (UInt8.ofNat (c.toNat - plane))
  else none

/-- The text that bytes amount to. -/
def ofBytes : Bytes → List Char
  | [] => []
  | b :: rest =>
    match h : next b rest with
    | .char c more =>
      have : more.length ≤ rest.length := by
        have := length_rest_next b rest
        rwa [h] at this
      c :: ofBytes more
    | .fault run _ more =>
      have : more.length ≤ rest.length := by
        have := length_rest_next b rest
        rwa [h] at this
      ((b :: rest).take run).map char ++ ofBytes more
  termination_by bytes => bytes.length

/-- The bytes of a character. -/
def bytesOfChar (c : Char) : Bytes :=
  match byte? c with
  | some b => [b]
  | none => encodeChar c

/-- The bytes of a text. -/
def toBytes (cs : List Char) : Bytes := cs.flatMap bytesOfChar

/-- The number of bytes of a text. -/
def size (cs : List Char) : Nat := cs.foldl (fun n c => n + (bytesOfChar c).length) 0

/-- A text whose stray bytes are put together to characters where they spell some. -/
def joined (cs : List Char) : List Char :=
  if cs.all fun c => (byte? c).isNone then cs else ofBytes (toBytes cs)

/-- The bytes of a text, each as a character. -/
def split (cs : List Char) : List Char :=
  (toBytes cs).map fun b => if b.toNat < 0x80 then Char.ofNat b.toNat else char b

/-- `ofBytes` on strings. -/
def stringOfBytes (bytes : Bytes) : String := String.ofList (ofBytes bytes)

/-- `toBytes` on strings. -/
def bytesOfString (s : String) : Bytes := toBytes s.toList

end Runbook.Shell.Raw

/-!
## Escapes with a backslash

A backslash and what follows it stand for a character, or a byte, that is hard to write. Which
escapes there are depends on where they occur.
-/

namespace Runbook.Shell

/-- Where escapes occur. -/
inductive EscapeStyle where
  /-- Between quotes behind a dollar sign. -/
  | quote
  /-- In what is printed as it is; octal digits follow a zero. -/
  | line
  /-- In an argument of a format. -/
  | argument
  /-- In a format. -/
  | format
  deriving DecidableEq, Repr

/-- What an escape amounts to. -/
inductive Escaped where
  | text (cs : List Char)
  /-- Nothing is printed any more. -/
  | stop
  /-- Digits are missing behind a letter. -/
  | missing (letter : Char)

/-- The byte of a number, as a character. -/
def byteChar (n : Nat) : Char :=
  let b := n % 256
  if b < 128 then Char.ofNat b else Raw.char (UInt8.ofNat b)

/-- The character of a code point; without one, the bytes of the usual pattern. -/
def codePoint (n : Nat) : List Char :=
  if n < 0xD800 ∨ (0xE000 ≤ n ∧ n < 0x110000) then [Char.ofNat n]
  else if n < 0x10000 then
    [byteChar (0xE0 + n / 4096), byteChar (0x80 + n / 64 % 64), byteChar (0x80 + n % 64)]
  else
    [byteChar (0xF0 + n / 262144 % 8), byteChar (0x80 + n / 4096 % 64),
      byteChar (0x80 + n / 64 % 64), byteChar (0x80 + n % 64)]

/-- An escape with a letter and digits of base sixteen. -/
def takeHex (letter : Char) (most : Nat) (put : Nat → List Char) (cs : List Char) :
    Escaped × List Char :=
  match spanDigits 16 (cs.take most) with
  | ([], _) => (.missing letter, cs)
  | (ds, _) => (.text (put (ofDigits 16 ds)), cs.drop ds.length)

/-- An escape with octal digits. -/
def takeOctal (most : Nat) (cs : List Char) : Escaped × List Char :=
  let (n, rest) := takeDigits 8 most cs
  (.text [byteChar n], rest)

/-- What an escape stands for whose backslash has been read, and what is behind it. `rich` is the
larger set of escapes. -/
def takeEscape (rich : Bool) (style : EscapeStyle) : List Char → Escaped × List Char
  | [] => (.text ['\\'], [])
  | c :: rest =>
    let one (n : Nat) : Escaped × List Char := (.text [Char.ofNat n], rest)
    let plain : Escaped × List Char := (.text ['\\', c], rest)
    match c with
    | 'a' => one 7
    | 'b' => one 8
    | 'f' => one 12
    | 'n' => one 10
    | 'r' => one 13
    | 't' => one 9
    | 'v' => one 11
    | '\\' => one 92
    | 'e' | 'E' => if rich then one 27 else plain
    | '\'' =>
      if rich ∧ (style = .quote ∨ style = .format ∨ style = .argument) then one 39 else plain
    | '"' => if rich ∧ (style = .quote ∨ style = .format) then one 34 else plain
    | '?' => if rich ∧ (style = .quote ∨ style = .format) then one 63 else plain
    | 'c' =>
      match style, rest with
      | .line, _ | .argument, _ => (.stop, [])
      | .quote, '\\' :: '\\' :: more => (.text [Char.ofNat 28], more)
      | .quote, d :: more =>
        (.text [if d = '?' then Char.ofNat 127 else Char.ofNat (d.toUpper.toNat % 32)], more)
      | _, _ => plain
    | '0' =>
      match style with
      | .line | .argument => takeOctal 3 rest
      | .quote | .format => takeOctal 3 (c :: rest)
    | 'x' =>
      if !rich then plain
      else
        match style, rest with
        | .quote, '\x7b' :: more =>
          match spanDigits 16 more with
          | ([], _) => plain
          | (ds, behind) =>
            (.text [byteChar (ofDigits 16 ds)], if behind.head? = some '\x7d' then behind.tail
              else behind)
        | _, _ => takeHex 'x' 2 (fun n => [byteChar n]) rest
    | 'u' => if rich then takeHex 'u' 4 codePoint rest else plain
    | 'U' => if rich then takeHex 'U' 8 codePoint rest else plain
    | _ =>
      if '1' ≤ c ∧ c ≤ '7' ∧ (style ≠ .line ∨ !rich) then takeOctal 3 (c :: rest) else plain

/-- A text with its escapes replaced, whether nothing may be printed any more, and the letters
behind which digits are missing. -/
def unescape (rich : Bool) (style : EscapeStyle) : (fuel : Nat) → (done : List Char) →
    (faults : List Char) → List Char → List Char × Bool × List Char
  | 0, done, faults, _ => (done.reverse, false, faults.reverse)
  | _ + 1, done, faults, [] => (done.reverse, false, faults.reverse)
  | fuel + 1, done, faults, c :: rest =>
    if c = '\\' then
      match takeEscape rich style rest with
      | (.text cs, more) => unescape rich style fuel (cs.reverse ++ done) faults more
      | (.stop, _) => (done.reverse, true, faults.reverse)
      | (.missing l, more) => unescape rich style fuel (l :: '\\' :: done) (l :: faults) more
    else unescape rich style fuel (c :: done) faults rest

/-- A text between quotes behind a dollar sign. It ends at a character zero. -/
def unescapeQuote (cs : List Char) : List Char :=
  Raw.joined ((unescape true .quote (cs.length + 1) [] [] cs).1.takeWhile (·.toNat != 0))

end Runbook.Shell
