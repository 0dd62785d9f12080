import Runbook.Shell.Script.Cursor
import Runbook.Shell.Text.Raw

/-!
# `Shell/Script/Word` — reading words

A word is read piece by piece: runs of characters, quoted parts, and what is replaced when the word
is expanded. The commands inside a word are read by the reader of commands, which is handed down.
-/

set_option autoImplicit false

namespace Runbook.Shell

/-- Where pieces are read, which decides what ends them and what quotes mean. -/
inductive Manner where
  /-- A word of a command. -/
  | word
  /-- A word that may hold parentheses and bars: a regular expression. -/
  | expression
  /-- A text up to its end, in which quotes have their meaning. -/
  | text
  /-- A text between double quotes up to its end; quotes inside are taken away. -/
  | doubleText
  /-- The text of a here-document. -/
  | document
  /-- The text of an arithmetic expression. -/
  | arithmetic
  deriving DecidableEq, Repr

namespace Manner

/-- Backslashes quote only what is special between double quotes. -/
def isDouble (m : Manner) : Bool := m == .doubleText || m == .document || m == .arithmetic

/-- What ends a word in this manner. -/
def isEnd (m : Manner) (c : Char) : Bool :=
  match m with
  | .word => Cursor.endsWord c
  | .expression => c == ' ' || c == '\t' || c == '\n'
  | _ => false

end Manner

/-- The readers that words need: of commands up to a closing parenthesis, and of pieces. -/
structure WordReader where
  commands : Reading Script
  pieces : Manner → Reading Word

namespace Reading

/-- A piece put in front of others; runs of characters are joined. -/
def joinPiece (p : Piece) (w : Word) : Word :=
  match p, w with
  | .bare [], w => w
  | .bare a, .bare b :: rest => .bare (a ++ b) :: rest
  | _, _ => p :: w

/-- Pieces in order, from the reversed list. -/
def joinPieces (reversed : List Piece) : Word :=
  reversed.foldl (fun w p => joinPiece p w) []

/-- What is inside an enclosure that has just been opened, and is taken. -/
def enclosed (e : Enclosure) : Reading (List Char) := do
  let c ← get
  match Enclosure.inside? e c.rest with
  | some (inside, rest) =>
    discard (take (c.rest.length - rest.length))
    pure inside
  | none =>
    match c.dialect, e with
    | .rich, _ => throw (.unmatched c.line e.mark)
    | .plain, .brace _ => throw (.stated c.line "Missing '\x7d'")
    | .plain, .backquote => throw (.stated c.line "EOF in backquote substitution")
    | .plain, .paren => throw (.stated c.line "Missing '))'")
    | .plain, _ => throw (.stated c.line "Unterminated quoted string")

/-! ## Parameters -/

/-- The signs that are parameters of their own. -/
def isSpecialParameter (c : Char) : Bool := "@*#?-$!".toList.contains c

/-- The name of a parameter at the front of a text, and the rest. With `braces`, a number may have
several digits. -/
def takeParameterName? (braces : Bool) : List Char → Option (String × List Char)
  | [] => none
  | c :: rest =>
    if isNameStart c then
      let (name, more) := (c :: rest).span isNameRest
      some (String.ofList name, more)
    else if c.isDigit then
      if braces then
        let (digits, more) := (c :: rest).span Char.isDigit
        some (String.ofList digits, more)
      else some (String.singleton c, rest)
    else if isSpecialParameter c then some (String.singleton c, rest)
    else none

/-- The pieces of a text inside a substitution. -/
def innerWord (r : WordReader) (m : Manner) (cs : List Char) : Reading Word := do
  within (← get) cs (r.pieces m)

/-- The characters up to a mark that stands outside of all enclosures, and those behind it, if the
mark is there. -/
def splitAtMark (inDouble : Bool) (mark : Char) : (open_ : List Enclosure) → (quoted : Bool) →
    (skip : Nat) → (done : List Char) → List Char → List Char × Option (List Char)
  | _, _, _, done, [] => (done.reverse, none)
  | es, quoted, skip + 1, done, c :: rest =>
    splitAtMark inDouble mark es quoted skip (c :: done) rest
  | es, true, 0, done, c :: rest => splitAtMark inDouble mark es false 0 (c :: done) rest
  | [], false, 0, done, c :: rest =>
    if c == mark then (done.reverse, some rest)
    else if c == '\\' then splitAtMark inDouble mark [] true 0 (c :: done) rest
    else
      match (Enclosure.brace false).opens? c (rest.head?.getD ' ') with
      | some (inner, count) =>
        splitAtMark inDouble mark [inner] false (count - 1) (c :: done) rest
      | none => splitAtMark inDouble mark [] false 0 (c :: done) rest
  | e :: es, false, 0, done, c :: rest =>
    if c == e.mark then splitAtMark inDouble mark es false 0 (c :: done) rest
    else if c == '\\' && e != .single then splitAtMark inDouble mark (e :: es) true 0 (c :: done) rest
    else
      match e.opens? c (rest.head?.getD ' ') with
      | some (inner, count) =>
        splitAtMark inDouble mark (inner :: e :: es) false (count - 1) (c :: done) rest
      | none => splitAtMark inDouble mark (e :: es) false 0 (c :: done) rest

/-- The characters of an offset up to a colon that is no part of a choice, and those behind it. -/
def splitOffset : (choices depth : Nat) → (done : List Char) → List Char →
    List Char × Option (List Char)
  | _, _, done, [] => (done.reverse, none)
  | choices, depth, done, c :: rest =>
    if c == '(' || c == '\x7b' || c == '[' then splitOffset choices (depth + 1) (c :: done) rest
    else if c == ')' || c == '\x7d' || c == ']' then
      splitOffset choices (depth - 1) (c :: done) rest
    else if c == '?' && depth == 0 then splitOffset (choices + 1) depth (c :: done) rest
    else if c == ':' && depth == 0 then
      if choices = 0 then (done.reverse, some rest)
      else splitOffset (choices - 1) depth (c :: done) rest
    else splitOffset choices depth (c :: done) rest

/-- A text between double quotes and braces without the backslashes before closing braces. -/
def withoutBraceQuotes : List Char → List Char
  | '\\' :: '\x7d' :: rest => '\x7d' :: withoutBraceQuotes rest
  | '\\' :: c :: rest => '\\' :: c :: withoutBraceQuotes rest
  | c :: rest => c :: withoutBraceQuotes rest
  | [] => []

/-- The change that the rest of a substitution asks for, behind the name of the parameter. -/
def changeOf (r : WordReader) (d : Dialect) (inDouble : Bool) (cs : List Char) :
    Reading (Option Change) := do
  let value (cs : List Char) :=
    if inDouble then innerWord r .doubleText (withoutBraceQuotes cs) else innerWord r .text cs
  let pattern (cs : List Char) := innerWord r .text cs
  match cs with
  | [] => pure (some .value)
  | ':' :: '-' :: w => pure (some (.orElse true (← value w)))
  | '-' :: w => pure (some (.orElse false (← value w)))
  | ':' :: '=' :: w => pure (some (.orSet true (← value w)))
  | '=' :: w => pure (some (.orSet false (← value w)))
  | ':' :: '?' :: w => pure (some (.orFail true (← value w)))
  | '?' :: w => pure (some (.orFail false (← value w)))
  | ':' :: '+' :: w => pure (some (.ifSet true (← value w)))
  | '+' :: w => pure (some (.ifSet false (← value w)))
  | '#' :: '#' :: w => pure (some (.dropFront true (← pattern w)))
  | '#' :: w => pure (some (.dropFront false (← pattern w)))
  | '%' :: '%' :: w => pure (some (.dropBack true (← pattern w)))
  | '%' :: w => pure (some (.dropBack false (← pattern w)))
  | _ =>
    if d = .plain then pure none
    else
      match cs with
      | ':' :: w =>
        let (offset, count) := splitOffset 0 0 [] w
        let offset ← innerWord r .arithmetic offset
        match count with
        | some count => pure (some (.cut offset (some (← innerWord r .arithmetic count))))
        | none => pure (some (.cut offset none))
      | '/' :: w =>
        let (which, w) : Replacing × List Char :=
          match w with
          | '/' :: w => (.all, w)
          | '#' :: w => (.atFront, w)
          | '%' :: w => (.atBack, w)
          | w => (.first, w)
        -- A slash at the front of the pattern is a part of it.
        let (front, w) : List Char × List Char :=
          match which, w with
          | .first, '/' :: w => (['/'], w)
          | _, w => ([], w)
        let (p, by_) := splitAtMark inDouble '/' [] false 0 [] w
        let p ← pattern (front ++ p)
        match by_ with
        | some by_ =>
          -- Between double quotes too, quotes in what is put in are taken away.
          pure (some (.replace which p (some (← innerWord r .text by_))))
        | none => pure (some (.replace which p none))
      | '^' :: '^' :: w => pure (some (.recase .upper true (← pattern w)))
      | '^' :: w => pure (some (.recase .upper false (← pattern w)))
      | ',' :: ',' :: w => pure (some (.recase .lower true (← pattern w)))
      | ',' :: w => pure (some (.recase .lower false (← pattern w)))
      | '~' :: '~' :: w => pure (some (.recase .swap true (← pattern w)))
      | '~' :: w => pure (some (.recase .swap false (← pattern w)))
      | ['@', l] =>
        if "QEPAKakUuL".toList.contains l then pure (some (.transform l)) else pure none
      | _ => pure none

/-- The index behind the name of a parameter, and the rest. -/
def takeIndex (r : WordReader) (d : Dialect) (cs : List Char) :
    Reading (Option (Option Word) × List Char) := do
  match d, cs with
  | .rich, '[' :: rest =>
    match Enclosure.inside? .bracket rest with
    | some (inside, more) => pure (some (some (← innerWord r .text inside)), more)
    | none => pure (none, cs)
  | _, _ => pure (some none, cs)

/-- The piece that the inside of a substitution with braces denotes. -/
def braced (r : WordReader) (inDouble : Bool) (inside : List Char) : Reading Piece := do
  let d := (← get).dialect
  let source := '$' :: '\x7b' :: inside ++ ['\x7d']
  let broken : Piece := .broken source
  let named (cs : List Char) (wrap : Change → Change) : Reading Piece := do
    match takeParameterName? true cs with
    | none => pure broken
    | some (name, rest) =>
      let (index, rest) ← takeIndex r d rest
      match index with
      | none => pure broken
      | some index =>
        match ← changeOf r d inDouble rest with
        | some change => pure (.parameter name index (wrap change) source)
        | none => pure broken
  match inside with
  | ['#'] => pure (.parameter "#" none .value source)
  | '#' :: rest =>
    match takeParameterName? true rest with
    | some (name, more) =>
      let (index, more) ← takeIndex r d more
      match index, more with
      | some index, [] => pure (.parameter name index .length source)
      | _, _ =>
        -- The sign is the parameter itself.
        if rest.head?.any fun c => "-=?+%:#/".toList.contains c then named inside id
        else pure broken
    | none => named inside id
  | '!' :: rest =>
    if d = .plain then named inside id
    else
      match takeParameterName? true rest with
      | none => named inside id
      | some (name, more) =>
        let (index, behind) ← takeIndex r d more
        match index, behind, more with
        | some none, _, ['@'] => pure (.parameter name none (.names true) source)
        | some none, _, ['*'] => pure (.parameter name none (.names false) source)
        | some (some [.bare ['@']]), [], _ | some (some [.bare ['*']]), [], _ =>
          pure (.parameter name (index.getD none) .keys source)
        | _, _, _ => named rest .indirect
  | _ => named inside id

/-! ## Pieces -/

/-- The text between backquotes without the backslashes that quote in it. -/
def backquoteText (inDouble : Bool) : List Char → List Char
  | '\\' :: c :: rest =>
    if c == '$' || c == '\x60' || c == '\\' || (inDouble && c == '"') then
      c :: backquoteText inDouble rest
    else '\\' :: c :: backquoteText inDouble rest
  | c :: rest => c :: backquoteText inDouble rest
  | [] => []

/-- The piece behind a dollar sign, which is still to be taken. -/
def dollar (r : WordReader) (m : Manner) : Reading Piece := do
  let c ← get
  let inDouble := m.isDouble
  match c.rest with
  | '$' :: '(' :: '(' :: rest =>
    let expression : Option (List Char × List Char) := do
      let (inside, behind) ← Enclosure.inside? .paren rest
      match behind with
      | ')' :: more => some (inside, more)
      | _ => none
    match expression with
    | some (inside, _) =>
      discard (take (inside.length + 5))
      pure (.arithmetic (← within c inside (r.pieces .arithmetic)))
    | none =>
      if (Enclosure.inside? .paren rest).isNone ∨ c.dialect = .plain then
        match c.dialect with
        | .rich => throw (.unmatched c.line ')')
        | .plain => throw (.stated c.line "Missing '))'")
      else do
        discard (take 2)
        pure (.command (← insideWord r.commands))
  | '$' :: '(' :: _ =>
    discard (take 2)
    pure (.command (← insideWord r.commands))
  | '$' :: '\x7b' :: _ =>
    discard (take 2)
    let inside ← enclosed (.brace inDouble)
    braced r inDouble inside
  | '$' :: '[' :: rest =>
    match c.dialect, Enclosure.inside? .bracket rest with
    | .rich, some (inside, _) =>
      discard (take (inside.length + 3))
      pure (.arithmetic (← innerWord r .arithmetic inside))
    | _, _ =>
      discard (take 1)
      pure (.bare ['$'])
  | '$' :: '\'' :: _ =>
    if c.dialect = .rich ∧ !inDouble then
      discard (take 2)
      -- A backslash quotes here, unlike between plain single quotes.
      let rest := (← get).rest
      let rec inside : (done : List Char) → List Char → Option (List Char)
        | _, [] => none
        | done, '\\' :: d :: more => inside (d :: '\\' :: done) more
        | done, '\'' :: _ => some done.reverse
        | done, d :: more => inside (d :: done) more
      match inside [] rest with
      | some cs =>
        discard (take (cs.length + 1))
        pure (.quoted (unescapeQuote cs))
      | none => throw (.unmatched c.line '\'')
    else
      discard (take 1)
      pure (.bare ['$'])
  | '$' :: '"' :: _ =>
    discard (take 1)
    pure (if c.dialect = .rich ∧ !inDouble then .bare [] else .bare ['$'])
  | '$' :: rest =>
    match takeParameterName? false rest with
    | some (name, _) =>
      let source ← take (name.length + 1)
      pure (.parameter name none .value source)
    | none =>
      discard (take 1)
      pure (.bare ['$'])
  | _ =>
    discard (take 1)
    pure (.bare ['$'])

/-- The piece in backquotes, whose first one is still to be taken. -/
def backquote (m : Manner) : Reading Piece := do
  let line := (← get).line
  discard (take 1)
  let inside ← enclosed .backquote
  pure (.commandText line (backquoteText m.isDouble inside))

/-- The piece between double quotes, whose first one is still to be taken. -/
def doubleQuote (r : WordReader) : Reading Piece := do
  let c ← get
  discard (take 1)
  let inside ← enclosed .double
  pure (.double (← within c inside (r.pieces .doubleText)))

/-- A sign that alternatives of a pattern may follow. -/
def isAlternation (c : Char) : Bool := c == '?' || c == '*' || c == '+' || c == '@' || c == '!'

/-- Pieces up to the end that the manner knows; `done` are those before, reversed, and `depth`
counts parentheses that are open. -/
def piecesFrom (r : WordReader) (m : Manner) : (fuel : Nat) → (depth : Nat) →
    (done : List Piece) → Reading Word
  | 0, _, done => pure (joinPieces done)
  | fuel + 1, depth, done => do
    let c ← get
    match c.rest with
    | [] => pure (joinPieces done)
    | '\\' :: '\n' :: _ =>
      discard (take 2)
      piecesFrom r m fuel depth done
    | ['\\'] =>
      discard (take 1)
      piecesFrom r m fuel depth (.bare ['\\'] :: done)
    | '\\' :: d :: _ =>
      discard (take 2)
      let keeps := m.isDouble && !(d == '$' || d == '\x60' || d == '\\' ||
        (d == '"' && m != .document))
      piecesFrom r m fuel depth
        ((if keeps then .bare ['\\', d]
          else if m.isDouble then .bare [d] else .quoted [d]) :: done)
    | '$' :: _ =>
      let p ← dollar r m
      piecesFrom r m fuel depth (p :: done)
    | '\x60' :: _ =>
      let p ← backquote m
      piecesFrom r m fuel depth (p :: done)
    | '"' :: _ =>
      match m with
      | .document =>
        discard (take 1)
        piecesFrom r m fuel depth (.bare ['"'] :: done)
      | .arithmetic =>
        discard (take 1)
        piecesFrom r m fuel depth done
      | _ =>
        let p ← doubleQuote r
        piecesFrom r m fuel depth (p :: done)
    | '\'' :: _ =>
      if m.isDouble then
        discard (take 1)
        piecesFrom r m fuel depth (.bare ['\''] :: done)
      else
        discard (take 1)
        let inside ← enclosed .single
        piecesFrom r m fuel depth (.quoted inside :: done)
    | d :: rest =>
      if (d == '<' || d == '>') && rest.head? == some '(' && c.dialect == .rich &&
          (m == .word || m == .expression) && depth == 0 then
        discard (take 2)
        let body ← insideWord r.commands
        piecesFrom r m fuel depth (.process (d == '<') body :: done)
      else if m == .expression && d == '(' then
        if depth == 0 && (Enclosure.inside? .paren rest).isNone then
          throw (.condition c.line "unexpected EOF while looking for matching \x60)'" "(")
        discard (take 1)
        piecesFrom r m fuel (depth + 1) (.bare [d] :: done)
      else if depth != 0 && d == ')' then
        discard (take 1)
        piecesFrom r m fuel (depth - 1) (.bare [d] :: done)
      else if m == .word && c.alternatives && isAlternation d && rest.head? == some '(' then
        discard (take 2)
        piecesFrom r m fuel (depth + 1) (.bare [d, '('] :: done)
      else if depth != 0 && d == '(' then
        discard (take 1)
        piecesFrom r m fuel (depth + 1) (.bare [d] :: done)
      else if depth == 0 && m.isEnd d then pure (joinPieces done)
      else
        let plain := rest.takeWhile fun e =>
          e.isAlphanum || e == '_' || e == '-' || e == '.' || e == '/' || e == ',' || e == ':'
        let run ← take (plain.length + 1)
        piecesFrom r m fuel depth (.bare run :: done)

end Reading

end Runbook.Shell
