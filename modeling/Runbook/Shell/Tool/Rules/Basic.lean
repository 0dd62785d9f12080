import Runbook.Shell.Regex.Read
import Runbook.Shell.Text.Class
import Runbook.Shell.Text.Raw
import Runbook.Shell.Text.Real

/-!
# `Shell/Tool/Rules` — programs of rules

A program of rules goes through records, usually lines, and does the actions of each rule whose
pattern fits the record. Actions are written in a small language with numbers, texts and tables.
-/

set_option autoImplicit false

namespace Runbook.Shell.Rules

/-- A comparison of two values. -/
inductive Order where
  | less
  | atMost
  | same
  | other
  | more
  | atLeast
  deriving DecidableEq, Repr

/-- Where a single record is taken from. -/
inductive Origin where
  /-- The records that the rules go through. -/
  | main
  | file
  | command
  deriving DecidableEq, Repr

/-- An expression. -/
inductive Expr where
  | number (x : Float)
  | text (cs : List Char)
  /-- A regular expression in writing, which is looked for in the record when it stands alone. -/
  | regex (source : List Char)
  | name (n : String)
  | field (index : Expr)
  | element (table : String) (keys : List Expr)
  /-- A value is given to a place, perhaps by way of an operation on what is there. -/
  | assign (op : Option Char) (place value : Expr)
  | choose (condition yes no : Expr)
  | or_ (a b : Expr)
  | and_ (a b : Expr)
  | not_ (a : Expr)
  | negated (a : Expr)
  | plus (a : Expr)
  | arithmetic (op : Char) (a b : Expr)
  | joined (a b : Expr)
  | compared (order : Order) (a b : Expr)
  /-- A regular expression is found in a text, or it is not. -/
  | found (negated : Bool) (text pattern : Expr)
  /-- A table has a key. -/
  | among (keys : List Expr) (table : String)
  /-- A number is changed by one; `before` tells whether the new value or the old one counts. -/
  | step (before up : Bool) (place : Expr)
  | call (function : String) (args : List Expr)
  | builtin (function : String) (args : List Expr)
  /-- The next record of an origin is taken, and kept as the record or in a place. -/
  | take (origin : Origin) (source place : Option Expr)
  /-- Several expressions in brackets. -/
  | group (es : List Expr)

instance : Inhabited Expr := ⟨.number 0⟩

namespace Expr

/-- What can be given a value. -/
def isPlace : Expr → Bool
  | .name _ | .field _ | .element _ _ => true
  | _ => false

end Expr

/-- Where output goes. -/
inductive Way where
  | file
  | append
  | command
  deriving DecidableEq, Repr

/-- A statement. -/
inductive Stmt where
  | expr (e : Expr)
  /-- Values are printed, in a format if the first of them is one. -/
  | print (formatted : Bool) (es : List Expr) (way : Option (Way × Expr))
  | block (body : List Stmt)
  | either (condition : Expr) (yes : Stmt) (no : Option Stmt)
  | while_ (condition : Expr) (body : Stmt)
  | until_ (body : Stmt) (condition : Expr)
  | repeat_ (first : Option Stmt) (condition : Option Expr) (step : Option Stmt) (body : Stmt)
  | each (key table : String) (body : Stmt)
  | delete (table : String) (keys : List Expr)
  | break_
  | continue_
  /-- The next record, or the next file, is gone on with. -/
  | next (file : Bool)
  | exit (status : Option Expr)
  | return_ (value : Option Expr)

instance : Inhabited Stmt := ⟨.block []⟩

/-- When the action of a rule is done. -/
inductive When where
  | start
  | finish
  | always
  | fits (pattern : Expr)
  /-- From a record that fits one pattern to the next that fits another. -/
  | range (first last : Expr)

/-- A rule. -/
structure Rule where
  condition : When
  /-- Without an action the record is printed. -/
  action : Option Stmt

/-- A function that a program defines. -/
structure Function where
  name : String
  parameters : List String
  body : Stmt

/-- A program. -/
structure Program where
  rules : List Rule := []
  functions : List Function := []

/-!
## The words of a program of rules

The text of a program is taken apart into tokens, each with the line on which it stands. A text that
is no token becomes a fault in its place, which is told only if the reader gets that far.
-/

/-- A token. -/
inductive Token where
  | newline
  | number (x : Float) (written : String)
  | text (cs : List Char) (written : String)
  | regex (source : List Char)
  | name (n : String) (beforeBracket : Bool)
  /-- A function of the language itself. -/
  | builtin (n : String)
  | word (w : String)
  | symbol (s : String)
  /-- What is wrong here, and on which lines further faults follow. -/
  | fault (message : String) (more : List (Nat × String))
  /-- A character that begins no token. -/
  | stray (c : Char)
  | final

/-- The words that have a meaning in the language. -/
def reserved : List String :=
  ["BEGIN", "END", "break", "continue", "delete", "do", "else", "exit", "for", "function", "getline",
    "if", "in", "next", "nextfile", "print", "printf", "return", "while"]

/-- The functions of the language itself, with the least and the greatest number of arguments. -/
def builtins : List (String × Nat × Nat) :=
  [("index", 2, 2), ("substr", 2, 3), ("split", 2, 3), ("length", 0, 1), ("match", 2, 2),
    ("sub", 2, 3), ("gsub", 2, 3), ("sprintf", 1, 255), ("sin", 1, 1), ("cos", 1, 1),
    ("atan2", 2, 2), ("exp", 1, 1), ("log", 1, 1), ("sqrt", 1, 1), ("int", 1, 1), ("rand", 0, 0),
    ("srand", 0, 1), ("toupper", 1, 1), ("tolower", 1, 1), ("close", 1, 1), ("system", 1, 1),
    ("fflush", 0, 1), ("strftime", 0, 3), ("mktime", 1, 2), ("systime", 0, 0)]

/-- The signs, longer ones first. -/
def symbols : List String :=
  ["**=", "&&", "||", "++", "--", "+=", "-=", "*=", "/=", "%=", "^=", "==", "<=", ">=", "!=", "!~",
    ">>", "\x7b", "\x7d", "(", ")", "[", "]", ";", ",", "+", "-", "*", "/", "%", "^", "!", "<", ">",
    "|", "?", ":", "~", "$", "="]

namespace Token

/-- How a token is named in a message. -/
def shown : Token → String
  | .newline => "end of line"
  | .number _ written | .text _ written => written
  | .regex source => "/" ++ String.ofList (Raw.joined source) ++ "/"
  | .name n _ | .builtin n | .word n | .symbol n => n
  | .fault m _ => m
  | .stray c => String.singleton c
  | .final => "end of file"

/-- A slash behind a token divides; elsewhere it begins a regular expression. -/
def endsValue : Token → Bool
  | .number .. | .text .. | .regex _ | .name .. | .builtin _ => true
  | .symbol s => [")", "]", "$", "++", "--"].contains s
  | _ => false

end Token

/-! ## Escapes -/

/-- The character of a letter behind a backslash. -/
def letterEscape? : Char → Option Char
  | 'n' => some '\n'
  | 't' => some '\t'
  | 'r' => some '\r'
  | 'f' => some (Char.ofNat 12)
  | 'v' => some (Char.ofNat 11)
  | 'a' => some (Char.ofNat 7)
  | 'b' => some (Char.ofNat 8)
  | _ => none

/-- A byte as a character. -/
def byteChar (n : Nat) : Char :=
  if n % 256 < 128 then Char.ofNat (n % 256) else Raw.char (UInt8.ofNat (n % 256))

/-- A number behind a backslash, if one is there: its byte and the rest. -/
def numberEscape? (cs : List Char) : Option (Char × List Char) :=
  let (octal, rest) := takeDigits 8 3 cs
  if rest.length < cs.length then some (byteChar octal, rest)
  else
    match cs with
    | 'x' :: more =>
      let (n, rest) := takeDigits 16 2 more
      if rest.length < more.length then some (byteChar n, rest) else none
    | _ => none

/-- A text whose escapes are replaced; `fuel` bounds its length. Unknown ones stay as they are. -/
def unescaped : (fuel : Nat) → List Char → List Char
  | 0, cs => cs
  | _ + 1, [] => []
  | fuel + 1, '\\' :: c :: rest =>
    match numberEscape? (c :: rest), letterEscape? c with
    | some (b, rest), _ => b :: unescaped fuel rest
    | none, some d => d :: unescaped fuel rest
    | none, none =>
      if c = '"' ∨ c = '\\' then c :: unescaped fuel rest
      else if c = '\n' then unescaped fuel rest
      else '\\' :: c :: unescaped fuel rest
  | fuel + 1, c :: rest => c :: unescaped fuel rest

/-- The text of a value that is given on a command line. -/
def withEscapes (cs : List Char) : List Char := unescaped (cs.length + 1) cs

/-! ## Scanning -/

/-- Where scanning stands. -/
structure Scan where
  line : Nat := 1
  braces : Nat := 0
  brackets : Nat := 0
  /-- The token before. -/
  latest : Token := .newline
  /-- The tokens so far with their lines, the latest first. -/
  done : List (Token × Nat) := []

namespace Scan

/-- Another token. -/
def put (s : Scan) (t : Token) : Scan := { s with latest := t, done := (t, s.line) :: s.done }

/-- A fault, behind which nothing is read. -/
def fail (s : Scan) (message : String) (more : List (Nat × String) := []) : Scan :=
  s.put (.fault message more)

end Scan

/-- A text between quotes: what stands before the second one, and the rest behind it. -/
def takeQuoted : (done : List Char) → List Char → Option (List Char × List Char)
  | done, '"' :: rest => some (done.reverse, rest)
  | done, '\\' :: c :: rest => takeQuoted (c :: '\\' :: done) rest
  | _, '\n' :: _ => none
  | done, c :: rest => takeQuoted (c :: done) rest
  | _, [] => none

/-- A regular expression up to its slash, and the rest behind it. A slash inside a set ends nothing.
-/
def takePattern : (inSet : Option Nat) → (done : List Char) → List Char →
    Option (List Char × List Char)
  | _, _, [] => none
  | _, _, '\n' :: _ => none
  | set?, done, '\\' :: c :: rest =>
    if c = '/' then takePattern (set?.map (· + 1)) ('/' :: done) rest
    else takePattern (set?.map (· + 1)) (c :: '\\' :: done) rest
  | none, done, '/' :: rest => some (done.reverse, rest)
  | none, done, '[' :: '^' :: rest => takePattern (some 0) ('^' :: '[' :: done) rest
  | none, done, '[' :: rest => takePattern (some 0) ('[' :: done) rest
  | some 0, done, ']' :: rest => takePattern (some 1) (']' :: done) rest
  | some _, done, ']' :: rest => takePattern none (']' :: done) rest
  | set?, done, c :: rest => takePattern (set?.map (· + 1)) (c :: done) rest

/-- How the beginning of something is shown that has no end. -/
def runaway (what : String) (cs : List Char) : String :=
  "runaway " ++ what ++ " " ++ String.ofList (Raw.joined ((cs.takeWhile (· != '\n')).take 10)) ++ " ..."

/-- The sign at the front of a text, and the rest. -/
def takeSymbol? (cs : List Char) : Option (String × List Char) :=
  (symbols.find? fun s => (s.toList).isPrefixOf cs).map fun s => (s, cs.drop s.length)

/-- The tokens of a text; `fuel` bounds their number. -/
def scanFrom (s : Scan) : (fuel : Nat) → List Char → Scan
  | 0, _ => s
  | fuel + 1, cs =>
    match cs with
    | [] =>
      if 0 < s.braces then s.fail "missing \x7d near end of file" else s.put .final
    | ' ' :: rest | '\t' :: rest | '\r' :: rest => scanFrom s fuel rest
    | '\\' :: '\n' :: rest => scanFrom { s with line := s.line + 1 } fuel rest
    | '#' :: rest => scanFrom s fuel (rest.dropWhile (· != '\n'))
    | '\n' :: rest =>
      if 0 < s.brackets then
        s.fail "missing ) near end of line"
          (if 0 < s.braces ∧ rest.isEmpty then [(s.line + 1, "missing \x7d near end of file")] else [])
      else scanFrom { s.put .newline with line := s.line + 1 } fuel rest
    | '"' :: rest =>
      match takeQuoted [] rest with
      | some (inside, rest) =>
        scanFrom (s.put (.text (withEscapes inside) (String.ofList (Raw.joined inside)))) fuel rest
      | none => s.fail (runaway "string constant" cs)
    | c :: rest =>
      if c = '/' ∧ !s.latest.endsValue then
        match takePattern none [] rest with
        | some (source, rest) => scanFrom (s.put (.regex source)) fuel rest
        | none => s.fail (runaway "regular expression" cs)
      else if c.isDigit ∨ (c = '.' ∧ (rest.head?).any Char.isDigit) then
        -- Numbers in a program are decimal.
        match Real.takePointed? 10 cs with
        | some (n, places, rest) =>
          let (power, rest) := Real.takeExponent 'e' rest
          let (top, bottom) := Real.scaled 10 n 1 (power - places)
          let written := String.ofList (cs.take (cs.length - rest.length))
          scanFrom (s.put (.number (Real.finite false top bottom).toFloat written)) fuel rest
        | none => s.fail "syntax error"
      else if isNameStart c then
        let (n, rest) := cs.span isNameRest
        let n := String.ofList n
        let t : Token :=
          if reserved.contains n then .word n
          else if builtins.any (·.1 == n) then .builtin n
          else .name n (rest.head? == some '(')
        scanFrom (s.put t) fuel rest
      else
        match takeSymbol? cs with
        | none => s.put (.stray c)
        | some (sign, rest) =>
          match sign with
          | "\x7b" => scanFrom { s.put (.symbol sign) with braces := s.braces + 1 } fuel rest
          | "\x7d" =>
            if 0 < s.brackets then s.fail "missing ) near \x7d"
            else if s.braces = 0 then
              s.fail "extra '\x7d'"
                (if rest = ['\n'] then [(s.line, "syntax error at or near end of line")] else [])
            else scanFrom { s.put (.symbol sign) with braces := s.braces - 1 } fuel rest
          | "(" => scanFrom { s.put (.symbol sign) with brackets := s.brackets + 1 } fuel rest
          | ")" =>
            if s.brackets = 0 then s.fail "extra ')'"
            else scanFrom { s.put (.symbol sign) with brackets := s.brackets - 1 } fuel rest
          | "**=" => s.fail "syntax error at or near *"
          | _ => scanFrom (s.put (.symbol sign)) fuel rest

/-- The tokens of a program, with their lines. -/
def tokens (cs : List Char) : List (Token × Nat) :=
  let cs := cs ++ ['\n']
  (scanFrom {} (cs.length + 1) cs).done.reverse

/-!
## Regular expressions in programs of rules

Regular expressions are written in the extended way, but without intervals: braces stand for
themselves. Escapes for characters are known everywhere, and a fault is told together with the text
in which it is.
-/

/-- The escapes of a regular expression that are not known to its reader, and its braces escaped. -/
def plainEscapes : (fuel : Nat) → List Char → List Char
  | 0, cs => cs
  | _ + 1, [] => []
  | fuel + 1, '\\' :: c :: rest =>
    if c = '/' ∨ c = '"' then c :: plainEscapes fuel rest
    else
      match numberEscape? (c :: rest), letterEscape? c with
      | some (b, rest), _ =>
        if "\\^.[]$()|*+?\x7b\x7d".toList.contains b then '\\' :: b :: plainEscapes fuel rest
        else b :: plainEscapes fuel rest
      | none, some d => d :: plainEscapes fuel rest
      | none, none => '\\' :: c :: plainEscapes fuel rest
  | fuel + 1, c :: rest =>
    if c = '\x7b' ∨ c = '\x7d' then '\\' :: c :: plainEscapes fuel rest
    else c :: plainEscapes fuel rest

/-- How regular expressions are written in programs of rules. -/
def patternStyle : Regex.Style :=
  { extended := true, lenient := false, looseClose := false, looseBrace := true, escapedSets := true
    wordEscapes := false }

/-- The words for a fault in a regular expression. -/
def patternFault : Regex.Fault → String
  | .openGroup => "missing ')'"
  | .closedGroup => "missing '('"
  | .nothingBefore => "missing operand"
  | .openSet | .bareSet | .badClass | .classOutside => "bad class -- [], [^] or ["
  | .badRange => "bad class -- [], [^] or ["
  | _ => "bad repetition"

/-- The regular expression that a text spells. -/
def readPattern (cs : List Char) : Except String Regex :=
  match Regex.read patternStyle (String.ofList (plainEscapes (cs.length + 1) cs)) with
  | .ok (r, _) => .ok r
  | .error fault =>
    .error ("regular expression compile failed (" ++ patternFault fault ++ ")\n" ++
      String.ofList (Raw.joined cs))

end Runbook.Shell.Rules
