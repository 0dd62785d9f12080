import Runbook.Shell.Text.Class
import Runbook.Shell.Text.Numeral
import Runbook.Shell.Text.Raw

/-!
# `Shell/Text/Quote` — texts quoted for reading back and for messages

A shell prints a value so that it can be read back: in single quotes, with backslashes, in double
quotes, or, where it holds characters that are not printed, with escapes. Programs print the names
of files in their messages in much the same manner.
-/

set_option autoImplicit false

namespace Runbook.Shell

/-- Three octal digits of a byte. -/
def octal3 (n : Nat) : List Char := padLeft 3 '0' (inBase false 8 n)

/-- A character with an escape of its own, by the letter of the escape. -/
def escapeLetter? (c : Char) : Option Char :=
  match c.toNat with
  | 7 => some 'a'
  | 8 => some 'b'
  | 9 => some 't'
  | 10 => some 'n'
  | 11 => some 'v'
  | 12 => some 'f'
  | 13 => some 'r'
  | _ => none

/-- A character between escaping quotes. -/
def escapedChar (c : Char) : List Char :=
  if c.toNat = 27 then ['\\', 'E']
  else if c = '\\' ∨ c = '\'' then ['\\', c]
  else
    match escapeLetter? c with
    | some l => ['\\', l]
    | none =>
      if isPrinting c then [c] else (Raw.bytesOfChar c).flatMap fun b => '\\' :: octal3 b.toNat

/-- A text between escaping quotes. -/
def escapeQuoted (s : String) : String :=
  String.ofList ('$' :: '\'' :: s.toList.flatMap escapedChar ++ ['\''])

/-- A text that holds characters which are not printed. -/
def needsEscapes (s : String) : Bool := s.toList.any fun c => !isPrinting c

/-- A text between single quotes; a single quote in it stands outside, behind a backslash. -/
def singleQuoted (s : String) : String :=
  if s = "'" then "\\'"
  else
    String.ofList
      ('\'' :: s.toList.flatMap (fun c => if c = '\'' then "'\\''".toList else [c]) ++ ['\''])

/-- A text in quotes that can be read back. -/
def reusable (s : String) : String :=
  if s = "" then "''" else if needsEscapes s then escapeQuoted s else singleQuoted s

/-- Characters that mean something to the shell wherever they stand. -/
def specialEverywhere : List Char := " \t\n!\"$&'()*,;<>?[\\]^\x60\x7b|\x7d".toList

/-- The characters of a text with backslashes where they are needed; `last` is the one before. -/
def backslashedFrom : (last : Option Char) → List Char → List Char
  | _, [] => []
  | last, c :: rest =>
    let special :=
      specialEverywhere.contains c || (c == '#' && last.isNone) ||
        (c == '~' && (last.isNone || last == some ':' || last == some '='))
    (if special then ['\\', c] else [c]) ++ backslashedFrom (some c) rest

/-- A text with backslashes, that can be read back. -/
def backslashed (s : String) : String :=
  if s = "" then "''"
  else if needsEscapes s then escapeQuoted s
  else String.ofList (backslashedFrom none s.toList)

/-- A text between double quotes. -/
def doubleQuoted (s : String) : String :=
  if needsEscapes s then escapeQuoted s
  else
    String.ofList
      ('"' :: s.toList.flatMap (fun c =>
        if ['"', '$', '\\', '\x60'].contains c then ['\\', c] else [c]) ++ ['"'])

/-- A text that means itself to the shell without quotes. -/
def isPlainWord (s : String) : Bool :=
  s ≠ "" && (backslashedFrom none (s.toList.filter (· != ','))).length ==
    (s.toList.filter (· != ',')).length && !needsEscapes s

/-- A value as a list of all variables has it. -/
def listedValue (s : String) : String :=
  if s = "" then "" else if isPlainWord s then s
  else if needsEscapes s then escapeQuoted s else singleQuoted s

/-! ## Names in messages -/

/-- The runs of a text whose members agree in a property, with what they agree in. -/
def runsBy (p : Char → Bool) : List Char → List (Bool × List Char)
  | [] => []
  | c :: rest =>
    match runsBy p rest with
    | (b, run) :: more => if p c = b then (b, c :: run) :: more else (p c, [c]) :: (b, run) :: more
    | [] => [(p c, [c])]

/-- The name of a file in quotes, as programs tell it. -/
def fileQuoted (s : String) : String :=
  let cs := s.toList
  if cs.contains '\'' && !needsEscapes s && !cs.any (['"', '$', '\\', '\x60'].contains ·) then
    "\"" ++ s ++ "\""
  else if needsEscapes s then
    String.ofList <| (runsBy isPrinting cs).zipIdx.flatMap fun ((printing, run), n) =>
      if printing then
        '\'' :: run.flatMap (fun c => if c = '\'' then "'\\''".toList else [c]) ++ ['\'']
      else
        (if n = 0 then ['\'', '\''] else []) ++ '$' :: '\'' :: run.flatMap escapedChar ++ ['\'']
  else
    String.ofList
      ('\'' :: s.toList.flatMap (fun c => if c = '\'' then "'\\''".toList else [c]) ++ ['\''])

/-- Characters that make the name of a file be put in quotes. -/
def isFileSpecial (first : Bool) (c : Char) : Bool :=
  " !\"$&'()*;<=>?[\\^\x60|".toList.contains c || !isPrinting c ||
    (first && (c == '#' || c == '~'))

/-- The name of a file, in quotes where they are needed. -/
def fileName (s : String) : String :=
  match s.toList with
  | [] => "''"
  | c :: rest =>
    if isFileSpecial true c || rest.any (isFileSpecial false) || s == "\x7b" || s == "\x7d" then
      fileQuoted s
    else s

/-- The name of a file in front of a message: a colon in it needs quotes as well. -/
def fileTitle (s : String) : String :=
  if s.toList.contains ':' then fileQuoted s else fileName s

/-- A text in the quotes that print has for it. -/
def curlyQuoted (s : String) : String :=
  let shown := s.toList.flatMap fun c =>
    if c = '’' then ['\\', c] else if c = '\'' then [c] else escapedChar c
  "‘" ++ String.ofList shown ++ "’"

end Runbook.Shell
