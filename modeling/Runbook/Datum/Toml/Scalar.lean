import Runbook.Datum.Json
import Runbook.Time.Basic

/-!
# `Datum/Toml/Scalar` — strings, numbers and moments

Every reader here takes a value off the front of a text. Strings are in double quotes, with escapes,
or in single quotes, without any; three quotes make a string that may go on over lines. Digits of
numbers may be grouped by single underscores. Dates and times are recognised and have to exist, but
only that there is one is kept.

A decimal integer may have 4300 digits and no more. Where one has more, the reading ends at once and
not as it does where a text is malformed (`Refusal`). Integers in other bases and numbers with a point
or an exponent may be of any length.
-/

set_option autoImplicit false

namespace Runbook.Toml

open Runbook.Text

/-! ## What is not read -/

/-- Why a text is not read. -/
inductive Refusal where
  /-- It is not TOML. -/
  | malformed
  /-- A decimal integer has more digits than one may have. -/
  | overlong
  deriving DecidableEq, Repr

/-- Something that has to be there. -/
def required {α : Type} : Option α → Except Refusal α
  | some a => .ok a
  | none => .error .malformed

/-! ## Blanks and comments -/

/-- The blanks of a line. -/
def isSpace (c : Char) : Bool := c == ' ' || c == '\t'

/-- The text behind its leading blanks. -/
def skipSpace (cs : List Char) : List Char := cs.dropWhile isSpace

/-- The control characters that may not stand in strings and comments; a tab may. -/
def isControl (c : Char) : Bool := (c.toNat < 32 && c != '\t') || c.toNat == 127

/-- The text behind a comment, if it begins with one: the end of its line. -/
def skipComment : List Char → Option (List Char)
  | '#' :: rest =>
    if (rest.takeWhile (· != '\n')).any isControl then none else some (rest.dropWhile (· != '\n'))
  | cs => some cs

/-! ## Strings -/

/-- So many hexadecimal digits. -/
def hexDigits : (count : Nat) → (value : Nat) → List Char → Option (Nat × List Char)
  | 0, value, rest => some (value, rest)
  | _ + 1, _, [] => none
  | count + 1, value, c :: rest =>
    match Json.hexValue? c with
    | some digit => hexDigits count (value * 16 + digit) rest
    | none => none

/-- The character with a number, if there is one. -/
def charOf? (n : Nat) : Option Char := if n.isValidChar then some (Char.ofNat n) else none

/-- The character that an escape stands for; the text begins behind the backslash. -/
def escape : List Char → Option (Char × List Char)
  | 'b' :: rest => some (Char.ofNat 8, rest)
  | 't' :: rest => some ('\t', rest)
  | 'n' :: rest => some ('\n', rest)
  | 'f' :: rest => some (Char.ofNat 12, rest)
  | 'r' :: rest => some ('\r', rest)
  | '"' :: rest => some ('"', rest)
  | '\\' :: rest => some ('\\', rest)
  | 'u' :: rest => do
    let (n, rest) ← hexDigits 4 0 rest
    let c ← charOf? n
    pure (c, rest)
  | 'U' :: rest => do
    let (n, rest) ← hexDigits 8 0 rest
    let c ← charOf? n
    pure (c, rest)
  | _ => none

/-- A backslash at the end of a line takes the line's end and the blanks and line ends behind it out
of the string; the text begins behind the backslash. -/
def joinLines? (cs : List Char) : Option (List Char) :=
  match skipSpace cs with
  | '\n' :: rest => some (rest.dropWhile fun c => isSpace c || c == '\n')
  | [] => if cs.isEmpty then none else some []
  | _ => none

/-- The rest of a string in double quotes, behind its opening quotes. `fuel` bounds its length. -/
def quotedRest (multiline : Bool) : (fuel : Nat) → List Char → Option (List Char × List Char)
  | 0, _ => none
  | _ + 1, [] => none
  | fuel + 1, c :: rest =>
    if c = '"' then
      if multiline then
        match rest with
        | '"' :: '"' :: final => some ([], final)
        | _ => (quotedRest multiline fuel rest).map fun (s, final) => ('"' :: s, final)
      else some ([], rest)
    else if c = '\\' then
      match (if multiline then joinLines? rest else none) with
      | some more => quotedRest multiline fuel more
      | none =>
        match escape rest with
        | some (d, more) => (quotedRest multiline fuel more).map fun (s, final) => (d :: s, final)
        | none => none
    else if isControl c && !(multiline && c == '\n') then none
    else (quotedRest multiline fuel rest).map fun (s, final) => (c :: s, final)

/-- The rest of a string in single quotes, up to the quotes `close`. -/
def literalRest (multiline : Bool) (close : List Char) :
    List Char → Option (List Char × List Char)
  | [] => none
  | c :: rest =>
    match after? close (c :: rest) with
    | some final => some ([], final)
    | none =>
      if isControl c && !(multiline && c == '\n') then none
      else (literalRest multiline close rest).map fun (s, final) => (c :: s, final)

/-- The quotes that follow the closing ones of a string over lines: up to two belong to it. -/
def extraQuotes (quote : Char) (s rest : List Char) : List Char × List Char :=
  let count := min 2 (rest.takeWhile (· == quote)).length
  (s ++ List.replicate count quote, rest.drop count)

/-- The text behind the line end that may follow opening quotes. -/
def dropNewline : List Char → List Char
  | '\n' :: rest => rest
  | cs => cs

/-- A string on one line. -/
def shortString : List Char → Option (List Char × List Char)
  | '"' :: rest => quotedRest false (rest.length + 1) rest
  | '\'' :: rest => literalRest false ['\''] rest
  | _ => none

/-- A string. -/
def string : List Char → Option (List Char × List Char)
  | '"' :: '"' :: '"' :: rest =>
    (quotedRest true (rest.length + 1) (dropNewline rest)).map fun (s, final) =>
      extraQuotes '"' s final
  | '\'' :: '\'' :: '\'' :: rest =>
    (literalRest true ['\'', '\'', '\''] (dropNewline rest)).map fun (s, final) =>
      extraQuotes '\'' s final
  | cs => shortString cs

/-! ## Numbers -/

/-- Digits behind a digit, single underscores between them left out. -/
def moreDigits (p : Char → Bool) : List Char → List Char × List Char
  | '_' :: c :: rest =>
    if p c then
      let (ds, final) := moreDigits p rest
      (c :: ds, final)
    else ([], '_' :: c :: rest)
  | c :: rest =>
    if p c then
      let (ds, final) := moreDigits p rest
      (c :: ds, final)
    else ([], c :: rest)
  | [] => ([], [])

/-- Digits, at least one. -/
def digits (p : Char → Bool) : List Char → Option (List Char × List Char)
  | c :: rest =>
    if p c then
      let (ds, final) := moreDigits p rest
      some (c :: ds, final)
    else none
  | [] => none

/-- The digits of a base that is a power of two. -/
def isDigitOf (base : Nat) (c : Char) : Bool := (Json.hexValue? c).any (· < base)

/-- An integer in a base other than ten; the text begins behind the zero and the base's letter. -/
def basedInteger (base : Nat) (cs : List Char) : Option (Number × List Char) :=
  (digits (isDigitOf base) cs).map fun (ds, rest) =>
    let value := ds.foldl (fun n c => n * base + (Json.hexValue? c).getD 0) 0
    (.integer (value : Nat), rest)

/-- The whole part of a decimal number: no zero stands before other digits. -/
def wholePart : List Char → Option (List Char × List Char)
  | '0' :: rest => some (['0'], rest)
  | cs => digits Char.isDigit cs

/-- The digits behind a point, if there are any. -/
def fraction : List Char → Option (List Char) × List Char
  | '.' :: rest =>
    match digits Char.isDigit rest with
    | some (ds, final) => (some ds, final)
    | none => (none, '.' :: rest)
  | rest => (none, rest)

/-- An integer with a sign or without. -/
def signedDigits : List Char → Option (Int × List Char)
  | '-' :: rest => (digits Char.isDigit rest).map fun (ds, final) => (-(ofDecimal ds : Int), final)
  | '+' :: rest => (digits Char.isDigit rest).map fun (ds, final) => ((ofDecimal ds : Int), final)
  | rest => (digits Char.isDigit rest).map fun (ds, final) => ((ofDecimal ds : Int), final)

/-- The exponent of a number, if it has one. -/
def exponent (cs : List Char) : Option Int × List Char :=
  match cs with
  | c :: rest =>
    if c = 'e' ∨ c = 'E' then
      match signedDigits rest with
      | some (n, final) => (some n, final)
      | none => (none, cs)
    else (none, cs)
  | [] => (none, [])

/-- A decimal number behind its sign. -/
def decimalNumber (negative : Bool) (cs : List Char) : Option (Number × List Char) := do
  let (whole, rest) ← wholePart cs
  let (point, rest) := fraction rest
  let (power, rest) := exponent rest
  pure (Json.assemble negative whole point power, rest)

/-- A number that is no number, behind its sign. -/
def specialNumber (negative : Bool) (cs : List Char) : Option (Number × List Char) :=
  match after? "inf".toList cs, after? "nan".toList cs with
  | some rest, _ => some (.infinity negative, rest)
  | _, some rest => some (.nan, rest)
  | none, none => none

/-- A number behind its sign. -/
def unsignedNumber (negative : Bool) (cs : List Char) : Option (Number × List Char) :=
  decimalNumber negative cs <|> specialNumber negative cs

/-- An integer in a base other than ten, if the text begins with one. -/
def prefixedNumber : List Char → Option (Number × List Char)
  | '0' :: 'x' :: rest => basedInteger 16 rest
  | '0' :: 'o' :: rest => basedInteger 8 rest
  | '0' :: 'b' :: rest => basedInteger 2 rest
  | _ => none

/-- A number. -/
def number : List Char → Option (Number × List Char)
  | '-' :: rest => unsignedNumber true rest
  | '+' :: rest => unsignedNumber false rest
  | cs => prefixedNumber cs <|> unsignedNumber false cs

/-- The most digits that a decimal integer may have. -/
def maxDigits : Nat := 4300

/-- The text behind the sign that it may begin with. -/
def unsigned : List Char → List Char
  | '-' :: rest | '+' :: rest => rest
  | cs => cs

/-- The text begins with a decimal integer that has too many digits. -/
def isOverlong (cs : List Char) : Bool :=
  match wholePart (unsigned cs) with
  | some (whole, rest) =>
    let (point, rest) := fraction rest
    let (power, _) := exponent rest
    maxDigits < whole.length && point.isNone && power.isNone
  | none => false

/-! ## Moments -/

/-- So many digits, as a number. -/
def fixedDigits (count : Nat) (cs : List Char) : Option (Nat × List Char) :=
  let ds := cs.take count
  if ds.length = count ∧ ds.all Char.isDigit then some (ofDecimal ds, cs.drop count) else none

/-- Two digits of a number within bounds. -/
def twoDigits (low high : Nat) (cs : List Char) : Option (Nat × List Char) := do
  let (n, rest) ← fixedDigits 2 cs
  if low ≤ n ∧ n ≤ high then some (n, rest) else none

/-- What follows the time of day that a text begins with. -/
def afterClock (cs : List Char) : Option (List Char) := do
  let (_, cs) ← twoDigits 0 23 cs
  let cs ← after? [':'] cs
  let (_, cs) ← twoDigits 0 59 cs
  let cs ← after? [':'] cs
  let (_, cs) ← twoDigits 0 59 cs
  match cs with
  | '.' :: rest =>
    if (rest.takeWhile Char.isDigit).isEmpty then some cs else some (rest.dropWhile Char.isDigit)
  | _ => some cs

/-- What follows the offset that a text may begin with. -/
def afterOffset (cs : List Char) : List Char :=
  match cs with
  | c :: rest =>
    if c = 'Z' ∨ c = 'z' then rest
    else if c = '+' ∨ c = '-' then
      (do
        let (_, rest) ← twoDigits 0 23 rest
        let rest ← after? [':'] rest
        let (_, rest) ← twoDigits 0 59 rest
        pure rest : Option (List Char)).getD cs
    else cs
  | [] => []

/-- What follows the time that may stand behind a date. -/
def afterTime (cs : List Char) : List Char :=
  match cs with
  | c :: rest =>
    if c = 'T' ∨ c = 't' ∨ c = ' ' then ((afterClock rest).map afterOffset).getD cs else cs
  | [] => []

/-- The numbers of the date that a text begins with. -/
def date (cs : List Char) : Option ((Nat × Nat × Nat) × List Char) := do
  let (year, cs) ← fixedDigits 4 cs
  let cs ← after? ['-'] cs
  let (month, cs) ← twoDigits 1 12 cs
  let cs ← after? ['-'] cs
  let (day, cs) ← twoDigits 1 31 cs
  pure ((year, month, day), cs)

/-! ## Scalars -/

/-- A date, a time or a number. -/
def numeric (cs : List Char) : Except Refusal (Datum × List Char) :=
  match date cs with
  | some ((year, month, day), rest) =>
    required ((Time.Date.of? year month day).map fun _ => (.moment, afterTime rest))
  | none =>
    match afterClock cs with
    | some rest => .ok (.moment, rest)
    | none =>
      if isOverlong cs then .error .overlong
      else required ((number cs).map fun (n, rest) => (.number n, rest))

/-- A value that holds no others. -/
def scalar (cs : List Char) : Except Refusal (Datum × List Char) :=
  match cs with
  | '"' :: _ | '\'' :: _ =>
    required ((string cs).map fun (s, rest) => (.text (String.ofList s), rest))
  | _ =>
    match after? "true".toList cs, after? "false".toList cs with
    | some rest, _ => .ok (.bool true, rest)
    | none, some rest => .ok (.bool false, rest)
    | none, none => numeric cs

end Runbook.Toml
