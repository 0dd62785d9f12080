import Runbook.Shell.Script.Basic
import Runbook.Shell.Text.Class

/-!
# `Shell/Script/Cursor` — a place in the text of a script

A script is read from front to back, one complete command at a time. The cursor holds what is left,
with the number of the line. A token is looked at without being taken.
-/

set_option autoImplicit false

namespace Runbook.Shell

/-- What may be next in a script. -/
inductive Token where
  | finish
  | newline
  | operator (text : String)
  | redirection (text : String)
  | reserved (text : String)
  | word (text : String)
  deriving DecidableEq, Repr

/-- What is wrong with a script, and on which line. -/
inductive ScriptFault where
  | unexpected (line : Nat) (token : Token) (expected : Option String)
  /-- The text ends before a mark that has to come. -/
  | unmatched (line : Nat) (mark : Char)
  | stated (line : Nat) (text : String)
  /-- A condition between double brackets is wrong at a token. -/
  | condition (line : Nat) (text near : String)
  /-- A fault in commands inside a word. -/
  | inside (fault : ScriptFault)
  /-- A fault in a list of values for an array. -/
  | inElements (fault : ScriptFault)
  deriving Repr

/-- The line that is given up because of a fault, if reading goes on behind it. -/
def ScriptFault.lineGivenUp? : ScriptFault → Option Nat
  | .inElements (.unexpected line _ _) => some line
  | .inside f => f.lineGivenUp?
  | _ => none

/-- What is left of a script. -/
structure Cursor where
  dialect : Dialect
  rest : List Char
  line : Nat := 1
  /-- Lines that have been read ahead, and that end with the present line. -/
  skipped : Nat := 0
  /-- The text is that of commands inside a word, whose lines are counted as they would be printed:
  every part of a compound command has lines of its own. -/
  inWord : Bool := false
  /-- The number of the line so counted. -/
  printed : Nat := 0
  /-- Patterns with alternatives are read as one word. -/
  alternatives : Bool := false
  /-- Texts of here-documents that the end of the script cut short: the lines on which they start
  and end, and the mark they should have ended with. -/
  unended : List (Nat × Nat × String) := []
  /-- The texts that stand for words where a command begins. -/
  aliases : List (String × String) := []
  /-- The words that their texts have taken the place of, each with the number of characters behind
  its text. None is replaced again inside its own text. -/
  replaced : List (String × Nat) := []
  /-- The number of characters behind a text that ends in a blank: the word there may be replaced
  too. -/
  following : Option Nat := none

/-- Reading from a cursor. -/
abbrev Reading := StateT Cursor (Except ScriptFault)

namespace Cursor

/-- Text without so many lines at its front. -/
def withoutLines : (count : Nat) → List Char → List Char
  | 0, cs => cs
  | n + 1, cs => withoutLines n ((cs.dropWhile (· != '\n')).drop 1)

/-- The place behind a line. -/
def behindLine (c : Cursor) (line : Nat) : Cursor :=
  { c with rest := withoutLines (line + 1 - c.line) c.rest, line := line + 1, skipped := 0 }

/-- A character that ends a word. -/
def endsWord (c : Char) : Bool :=
  c == ' ' || c == '\t' || c == '\n' || c == ';' || c == '&' || c == '|' || c == '<' || c == '>' ||
    c == '(' || c == ')'

/-- The words that have a meaning where a command may begin. -/
def reservedWords : Dialect → List String
  | .plain => ["!", "case", "do", "done", "elif", "else", "esac", "fi", "for", "if", "in", "then",
      "until", "while", "\x7b", "\x7d"]
  | .rich => ["!", "case", "coproc", "do", "done", "elif", "else", "esac", "fi", "for", "function",
      "if", "in", "select", "then", "time", "until", "while", "\x7b", "\x7d", "[[", "]]"]

/-- The signs between commands, the longest first. -/
def signs : Dialect → List String
  | .plain => ["&&", "||", ";;", "&", "|", ";", "(", ")"]
  | .rich => [";;&", "&&", "||", ";;", ";&", "|&", "&", "|", ";", "(", ")"]

/-- The signs of redirections, the longest first. -/
def arrows : Dialect → List String
  | .plain => ["<<-", "<<", "<&", "<>", "<", ">>", ">&", ">|", ">"]
  | .rich => ["<<<", "<<-", "<<", "<&", "<>", "<", "&>>", "&>", ">>", ">&", ">|", ">"]

/-- The first of some signs that a text begins with. -/
def signAt? (signs : List String) (cs : List Char) : Option String :=
  signs.find? fun s => s.toList.isPrefixOf cs

/-- What is behind blanks and a comment, and the number of line ends passed over. -/
def afterBlanks : (lines : Nat) → List Char → Nat × List Char
  | lines, ' ' :: rest | lines, '\t' :: rest => afterBlanks lines rest
  | lines, '\\' :: '\n' :: rest => afterBlanks (lines + 1) rest
  | lines, '#' :: rest => (lines, rest.dropWhile (· != '\n'))
  | lines, cs => (lines, cs)

/-- The characters of a word as far as nothing in it is quoted or replaced. -/
def wordStart (cs : List Char) : List Char :=
  cs.takeWhile fun c => !endsWord c && c != '\x60' && c != '\'' && c != '"'

/-- What is next, behind blanks. -/
def tokenOf (d : Dialect) (cs : List Char) : Token :=
  match cs with
  | [] => .finish
  | '\n' :: _ => .newline
  | _ =>
    match signAt? (arrows d) cs with
    | some s => .redirection s
    | none =>
      match signAt? (signs d) cs with
      | some s => .operator s
      | none =>
        let w := String.ofList (wordStart cs)
        let isWhole := (cs.drop w.length).head?.all endsWord
        if isWhole && (reservedWords d).contains w then .reserved w else .word w

end Cursor

namespace Reading

/-- Takes so many characters. -/
def take (count : Nat) : Reading (List Char) := do
  let c ← get
  let taken := c.rest.take count
  let ends := taken.countP (· == '\n')
  set { c with
    rest := c.rest.drop count
    line := c.line + ends + (if 0 < ends then c.skipped else 0)
    printed := c.printed + ends
    skipped := if 0 < ends then 0 else c.skipped }
  pure taken

/-- Takes a line end between commands. -/
def takeNewline : Reading Unit := do
  let c ← get
  set { c with rest := c.rest.drop 1, line := c.line + 1 + c.skipped, skipped := 0 }

/-- What is printed goes on some lines below. -/
def printLines (count : Nat) : Reading Unit :=
  modify fun c => { c with printed := c.printed + count }

/-- The number of the present line, for a command that begins here. -/
def lineNumber : Reading Nat := do
  let c ← get
  pure (if c.inWord then c.printed else c.line)

/-- Takes blanks and a comment. -/
def blanks : Reading Unit := do
  let c ← get
  let (lines, rest) := Cursor.afterBlanks 0 c.rest
  set { c with
    rest := rest
    line := c.line + lines + (if 0 < lines then c.skipped else 0)
    skipped := if 0 < lines then 0 else c.skipped }

/-- What is next, behind blanks, which are taken. -/
def token : Reading Token := do
  blanks
  let c ← get
  pure (Cursor.tokenOf c.dialect c.rest)

/-- Takes line ends, blanks and comments; `fuel` bounds their number. -/
def newlinesFrom : (fuel : Nat) → Reading Unit
  | 0 => pure ()
  | fuel + 1 => do
    match ← token with
    | .newline =>
      takeNewline
      newlinesFrom fuel
    | _ => pure ()

/-- How much longer a script becomes at most when words in it are replaced by texts. -/
def maxReplaced : Nat := 100000

/-- The number of characters left, which bounds what is still to be read. -/
def room : Reading Nat := do
  let c ← get
  pure (c.rest.length + 1 + if c.aliases.isEmpty then 0 else maxReplaced)

/-- Takes line ends, blanks and comments. -/
def newlines : Reading Unit := do newlinesFrom (← room)

/-- The text is wrong at what is next. -/
def unexpected {α : Type} (expected : Option String) : Reading α := do
  let t ← token
  throw (.unexpected (← get).line t expected)

/-- Takes a sign that has to be next. -/
def sign (text : String) : Reading Unit := do
  match ← token with
  | .operator s => if s = text then discard (take s.length) else unexpected (some text)
  | _ => unexpected (some text)

/-- Takes a word that has to be next. -/
def reserved (text : String) : Reading Unit := do
  match ← token with
  | .reserved s => if s = text then discard (take s.length) else unexpected (some text)
  | _ => unexpected (some text)

/-- Puts texts in the place of the word that is next, as long as that has one; `fuel` bounds how
often. -/
def replaceWordFrom : (fuel : Nat) → Reading Unit
  | 0 => pure ()
  | fuel + 1 => do
    blanks
    let c ← get
    let w := String.ofList (Cursor.wordStart c.rest)
    let behind := c.rest.drop w.length
    let active := c.replaced.filter fun x => x.2 < c.rest.length
    match c.aliases.lookup w, active.lookup w with
    | some text, none =>
      if behind.head?.all Cursor.endsWord then
        let endsBlank := (text.toList.getLast?).any fun x => x == ' ' || x == '\t'
        set { c with
          rest := text.toList ++ behind
          replaced := (w, behind.length) :: active
          following := if endsBlank then some behind.length else c.following }
        replaceWordFrom fuel
    | _, _ => pure ()

/-- Puts texts in the place of the word that is next, where a command begins. -/
def replaceWord : Reading Unit := do
  let c ← get
  if !c.aliases.isEmpty then replaceWordFrom (c.aliases.length + 1)

/-- Puts texts in the place of the word that is next, if it stands behind a text that asks for it.
-/
def replaceFollowing : Reading Unit := do
  let c ← get
  match c.following with
  | some n =>
    let (_, rest) := Cursor.afterBlanks 0 c.rest
    if rest.length ≤ n then
      set { c with following := none }
      replaceWord
  | none => pure ()

/-- Another text read in the place of what is left; it begins where the cursor was before. -/
def within {α : Type} (start : Cursor) (text : List Char) (r : Reading α) : Reading α := do
  let c ← get
  set { c with
    rest := text, line := start.line, printed := start.printed, skipped := 0, replaced := []
    following := none }
  let a ← r
  modify fun inner => { c with unended := inner.unended, printed := inner.printed }
  pure a

/-- Commands inside a word, whose lines are counted anew. -/
def insideWord {α : Type} (r : Reading α) : Reading α := do
  let c ← get
  if c.dialect = .plain then r
  else
    set { c with inWord := true, printed := 0 }
    let a ← r
    modify fun inner => { inner with inWord := c.inWord, printed := c.printed + inner.printed }
    pure a

end Reading

/-! ## Marks that belong together -/

/-- What a text is looked through for. -/
inductive Enclosure where
  | paren
  /-- A substitution with a brace; the flag tells that it is between double quotes. -/
  | brace (inDouble : Bool)
  | double
  | single
  | backquote
  | bracket
  deriving DecidableEq, Repr

namespace Enclosure

/-- The mark at its end. -/
def mark : Enclosure → Char
  | .paren => ')'
  | .brace _ => '\x7d'
  | .double => '"'
  | .single => '\''
  | .backquote => '\x60'
  | .bracket => ']'

/-- How a character, and the one behind it, open another enclosure inside this one, and how many of
them do it. -/
def opens? (e : Enclosure) (c d : Char) : Option (Enclosure × Nat) :=
  let inDouble := e == .double || e == .brace true
  match e with
  | .single | .backquote => none
  | _ =>
    if c == '$' && d == '(' then some (.paren, 2)
    else if c == '$' && d == '\x7b' then some (.brace inDouble, 2)
    else if c == '\x60' then some (.backquote, 1)
    else if c == '"' && e != .double then some (.double, 1)
    else if c == '\'' && !inDouble then some (.single, 1)
    else if c == '(' && e == .paren then some (.paren, 1)
    else if c == '[' && e == .bracket then some (.bracket, 1)
    else none

/-- The characters up to the mark at the end of the first of some enclosures, which lie in each
other, and what is behind that mark; `quoted` tells that the next character is quoted. -/
def close? : (open_ : List Enclosure) → (quoted : Bool) → (skip : Nat) → (done : List Char) →
    List Char → Option (List Char × List Char)
  | [], _, _, done, cs => some (done.tail.reverse, cs)
  | _ :: _, _, _, _, [] => none
  | e :: es, quoted, skip + 1, done, c :: rest => close? (e :: es) quoted skip (c :: done) rest
  | e :: es, true, 0, done, c :: rest => close? (e :: es) false 0 (c :: done) rest
  | e :: es, false, 0, done, c :: rest =>
    if c == e.mark then close? es false 0 (c :: done) rest
    else if c == '\\' && e != .single then close? (e :: es) true 0 (c :: done) rest
    else
      match e.opens? c (rest.head?.getD ' ') with
      | some (inner, count) => close? (inner :: e :: es) false (count - 1) (c :: done) rest
      | none => close? (e :: es) false 0 (c :: done) rest

/-- What is inside an enclosure whose opening mark has been read, and what is behind it. -/
def inside? (e : Enclosure) (cs : List Char) : Option (List Char × List Char) :=
  close? [e] false 0 [] cs

end Enclosure

end Runbook.Shell
