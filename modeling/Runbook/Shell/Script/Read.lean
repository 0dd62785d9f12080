import Runbook.Shell.Script.Word

/-!
# `Shell/Script/Read` — reading commands

The grammar of commands. Commands lie in each other, so the readers of one level are given those of
the level below (`Reader`); `Reader.level` stacks them up to a depth that no script reaches. A
script is read one line at a time (`Reading.line`), because what a line does may change how the next
one is read.
-/

set_option autoImplicit false

namespace Runbook.Shell

/-- The readers of the next level. -/
structure Reader where
  words : WordReader
  /-- Commands up to what cannot begin one. -/
  list : Reading Script
  command : Reading Command
  condition : Reading Condition

namespace Reading

/-- A word, which may be empty. -/
def word (r : Reader) : Reading Word := do piecesFrom r.words .word (← room) 0 []

/-- A word and the text it is written as. -/
def wordWithSource (r : Reader) : Reading (Word × List Char) := do
  let before := (← get).rest
  let w ← word r
  let behind := (← get).rest
  pure (w, before.take (before.length - behind.length))

/-! ## Redirections -/

/-- A delimiter without the marks that quote in it. -/
def withoutQuotes : (mark : Option Char) → List Char → List Char
  | _, [] => []
  | some m, c :: rest => if c = m then withoutQuotes none rest else c :: withoutQuotes (some m) rest
  | none, '\\' :: c :: rest => c :: withoutQuotes none rest
  | none, c :: rest =>
    if c = '\'' ∨ c = '"' then withoutQuotes (some c) rest else c :: withoutQuotes none rest

/-- The lines of a here-document up to its delimiter, reversed; what is behind it; and whether the
delimiter was there. -/
def documentLines (delimiter : List Char) (strip : Bool) : (fuel : Nat) →
    (done : List (List Char)) → List Char → List (List Char) × List Char × Bool
  | 0, done, cs => (done, cs, false)
  | _ + 1, done, [] => (done, [], false)
  | fuel + 1, done, cs =>
    let (line, rest) := cs.span (· != '\n')
    let line := if strip then line.dropWhile (· == '\t') else line
    if line == delimiter then (done, rest.drop 1, true)
    else documentLines delimiter strip fuel (line :: done) (rest.drop 1)

/-- The text of a here-document whose sign has been read. It begins on the next line, and is taken
out of what is left to be read. -/
def document (r : Reader) (strip : Bool) : Reading (Word × List Char) := do
  blanks
  let (_, source) ← wordWithSource r
  if source.isEmpty then unexpected none
  let quoted := source.any fun c => c == '\'' || c == '"' || c == '\\'
  let delimiter := withoutQuotes none source
  let c ← get
  let (line, more) := splitAtMark false '\n' [] false 0 [] c.rest
  let text := more.getD []
  let (lines, rest, ended) := documentLines delimiter strip (text.length + 1) [] text
  let body := lines.reverse.flatMap fun l => l ++ ['\n']
  -- A text without a line end at its end has none as long as nothing else shows one.
  let body :=
    if !ended && text.getLast?.any (· != '\n') && rest.isEmpty then body.dropLast else body
  set { c with
    rest := line ++ (if more.isSome then '\n' :: rest else [])
    skipped := c.skipped + lines.length + (if ended then 1 else 0)
    unended := if ended then c.unended else
      c.unended ++ [(c.line, c.line + c.skipped + lines.length, String.ofList delimiter)] }
  if quoted then pure ([.quoted body], source)
  else do
    let inner ← within { c with line := c.line + 1 } body (r.words.pieces .document)
    pure ([.double inner], source)

/-- The descriptor that stands in front of the sign of a redirection, and how long it is. -/
def descriptorAt (d : Dialect) (cs : List Char) : Option (Option Nat × Option String × Nat) :=
  let digits := cs.takeWhile Char.isDigit
  let behind := cs.drop digits.length
  let isArrow (cs : List Char) : Bool := cs.head?.any fun c => c == '<' || c == '>'
  if !digits.isEmpty then
    if isArrow behind then some (some (ofDigits 10 digits), none, digits.length) else none
  else
    match d, cs with
    | .rich, '\x7b' :: rest =>
      let name := rest.takeWhile isNameRest
      match rest.drop name.length with
      | '\x7d' :: more =>
        if isName (String.ofList name) ∧ isArrow more then
          some (none, some (String.ofList name), name.length + 2)
        else none
      | _ => none
    | _, _ => some (none, none, 0)

/-- The direction that the sign of a redirection says. -/
def directionOf : (sign : String) → Direction
  | "<" => .input
  | ">" => .output false
  | ">|" => .output true
  | ">>" => .append
  | "<>" => .readWrite
  | "<&" => .share true
  | ">&" => .share false
  | "&>" => .both false
  | "&>>" => .both true
  | "<<<" => .hereLine
  | _ => .here

/-- A redirection, if one is next. -/
def redirect? (r : Reader) : Reading (Option Redirect) := do
  blanks
  let c ← get
  match descriptorAt c.dialect c.rest with
  | none => pure none
  | some (fd, holder, length) =>
    match Cursor.signAt? (Cursor.arrows c.dialect) (c.rest.drop length) with
    | none => pure none
    | some s =>
      if length = 0 ∧ c.dialect = .rich ∧ (s = "<" ∨ s = ">") ∧ (c.rest.drop 1).head? = some '(' then
        pure none
      else
        discard (take (length + s.length))
        if s = "<<" ∨ s = "<<-" then
          let (w, source) ← document r (s = "<<-")
          pure (some (.mk fd holder .here w source))
        else
          match ← token with
          | .word _ | .reserved _ =>
            let (w, source) ← wordWithSource r
            pure (some (.mk fd holder (directionOf s) w source))
          | .redirection t =>
            -- The name of a channel from commands.
            if c.dialect = .rich ∧ (t = "<" ∨ t = ">") then
              let (w, source) ← wordWithSource r
              if source.isEmpty then unexpected none
              pure (some (.mk fd holder (directionOf s) w source))
            else unexpected none
          | _ => unexpected none

/-- Redirections. -/
def redirects (r : Reader) : (fuel : Nat) → Reading (List Redirect)
  | 0 => pure []
  | fuel + 1 => do
    match ← redirect? r with
    | some x => pure (x :: (← redirects r fuel))
    | none => pure []

/-! ## Assignments -/

/-- The left side of an assignment at the front of a text: the name, the text of the index, whether
the value is added, and how many characters these are. -/
def assignmentHead? (d : Dialect) (cs : List Char) :
    Option (String × Option (List Char) × Bool × Nat) := do
  let c ← cs.head?
  if !isNameStart c then none
  let name := cs.takeWhile isNameRest
  let behind := cs.drop name.length
  let finish (index : Option (List Char)) (rest : List Char) :
      Option (String × Option (List Char) × Bool × Nat) :=
    let length := cs.length - rest.length
    match d, rest with
    | _, '=' :: _ => some (String.ofList name, index, false, length + 1)
    | .rich, '+' :: '=' :: _ => some (String.ofList name, index, true, length + 2)
    | _, _ => none
  match d, behind with
  | .rich, '[' :: rest =>
    let (inside, more) ← Enclosure.inside? .bracket rest
    finish (some inside) more
  | _, _ => finish none behind

/-- The left side of an element in a list of values. -/
def elementHead? (cs : List Char) : Option (List Char × Bool × Nat) :=
  match cs with
  | '[' :: rest => do
    let (inside, more) ← Enclosure.inside? .bracket rest
    let length := cs.length - more.length
    match more with
    | '=' :: _ => some (inside, false, length + 1)
    | '+' :: '=' :: _ => some (inside, true, length + 2)
    | _ => none
  | _ => none

/-- The elements of a list up to its closing parenthesis, which is taken. -/
def elements (r : Reader) (start : Nat) : (fuel : Nat) → Reading (List Element)
  | 0 => pure []
  | fuel + 1 => do
    newlines
    let t ← token
    let wrong : Reading (List Element) := do
      throw (.inElements (.unexpected (← get).line t none))
    match t with
    | .operator ")" =>
      discard (take 1)
      pure []
    | .finish => throw (.inElements (.unmatched start ')'))
    | .operator _ => wrong
    | _ =>
      match elementHead? (← get).rest with
      | some (index, append, length) =>
        discard (take length)
        let index ← innerWord r.words .text index
        let w ← word r
        pure (.mk (some index) append w :: (← elements r start fuel))
      | none =>
        let (w, source) ← wordWithSource r
        if source.isEmpty then wrong
        else pure (.mk none false w :: (← elements r start fuel))

/-- An assignment, if one is next. -/
def assignment? (r : Reader) : Reading (Option Assignment) := do
  let c ← get
  match assignmentHead? c.dialect c.rest with
  | none => pure none
  | some (name, index, append, length) =>
    discard (take length)
    let index ← index.mapM (innerWord r.words .text)
    if c.dialect = .rich ∧ (← get).rest.head? = some '(' then
      discard (take 1)
      let es ← elements r c.line (← room)
      pure (some (.mk name index append (.elements es)))
    else
      let w ← word r
      pure (some (.mk name index append (.word w)))

/-- The commands whose arguments may be assignments. -/
def declares (d : Dialect) (w : Word) : Bool :=
  match Piece.bareText? w with
  | some s =>
    match d with
    | .rich => ["declare", "typeset", "local", "export", "readonly"].contains s
    | .plain => ["export", "readonly", "local"].contains s
  | none => false

/-! ## Simple commands and functions -/

/-- What has been read of a simple command, each list reversed. -/
structure Parts where
  line : Option Nat := none
  assignments : List Assignment := []
  arguments : List Argument := []
  redirects : List Redirect := []

/-- The name of a function that a word may be. -/
def functionName? (source : List Char) : Option String :=
  if source.any fun c => "$\x60\"'\\".toList.contains c then none else some (String.ofList source)

/-- The body of a function, behind the parentheses. -/
def functionBody (r : Reader) (name : String) : Reading Command := do
  newlines
  let line ← lineNumber
  printLines 2
  let d : Dialect := (← get).dialect
  let isCompound : Bool ← do
    match ← token with
    | .operator "(" => pure true
    | .reserved s =>
      pure (["\x7b", "if", "while", "until", "for", "case", "select", "[["].contains s)
    | _ => pure (decide (d = .plain))
  if !isCompound then unexpected none
  let body ← r.command
  printLines 1
  pure (.define line name body)

/-- The number of the line of a simple command whose first word has been read: that of what follows
it, as far as it has to be looked at. -/
def lineBehind : Reading Nat := do
  let c ← get
  let line := if c.inWord then c.printed else c.line
  match Cursor.tokenOf c.dialect (Cursor.afterBlanks 0 c.rest).2 with
  | .newline => pure (line + c.skipped)
  | _ => pure line

/-- A simple command, or a function, from some parts on. -/
def simpleFrom (r : Reader) : (fuel : Nat) → Parts → Reading Command
  | 0, p => pure (.simple (p.line.getD 0) p.assignments.reverse p.arguments.reverse
      p.redirects.reverse)
  | fuel + 1, p => do
    let d : Dialect := (← get).dialect
    match ← redirect? r with
    | some x =>
      let line ← lineNumber
      simpleFrom r fuel { p with redirects := x :: p.redirects, line := p.line <|> some line }
    | none =>
      if p.arguments.isEmpty then replaceWord else replaceFollowing
      let t ← token
      let finish : Reading Command := do
        let line ← lineNumber
        pure (.simple (p.line.getD line) p.assignments.reverse p.arguments.reverse
          p.redirects.reverse)
      let isWord : Bool :=
        match t with
        | .word _ | .reserved _ => true
        | .redirection _ => d == .rich
        | _ => false
      if isWord then
        let first := p.arguments.isEmpty
        let declared : Bool :=
          match p.arguments.getLast? with
          | some (.word w) => declares d w
          | _ => false
        let a : Option Assignment ← if first || declared then assignment? r else pure none
        match a with
        | some a =>
          let line ← lineNumber
          let p := { p with line := p.line <|> some line }
          if first then simpleFrom r fuel { p with assignments := a :: p.assignments }
          else simpleFrom r fuel { p with arguments := .assignment a :: p.arguments }
        | none =>
          let (w, source) ← wordWithSource r
          if source.isEmpty then unexpected none
          let here ← lineNumber
          replaceFollowing
          -- A first word is looked beyond, because it may be the name of a function.
          let next ← token
          match next, functionName? source with
          | .operator "(", some name =>
            if first ∧ p.assignments.isEmpty ∧ p.redirects.isEmpty then
              discard (take 1)
              sign ")"
              if d = .plain ∧ !isName name then
                throw (.stated (← get).line "Bad function name")
              functionBody r name
            else simpleFrom r fuel { p with arguments := .word w :: p.arguments }
          | _, _ =>
            let p := { p with arguments := .word w :: p.arguments }
            if p.line.isSome then simpleFrom r fuel p
            else if d = .plain then simpleFrom r fuel { p with line := some here }
            else
              match next with
              | .word _ | .reserved _ =>
                match ← redirect? r with
                | some x =>
                  simpleFrom r fuel { p with redirects := x :: p.redirects, line := some here }
                | none =>
                  let a : Option Assignment ← if declares d w then assignment? r else pure none
                  let argument : Argument ← match a with
                    | some a => pure (Argument.assignment a)
                    | none => do pure (Argument.word (← word r))
                  let line ← lineNumber
                  simpleFrom r fuel
                    { p with arguments := argument :: p.arguments, line := some line }
              | _ =>
                let line ← lineBehind
                simpleFrom r fuel { p with line := some line }
      else finish

/-! ## Lists -/

/-- What is next can begin a command. -/
def beginsCommand (d : Dialect) : Token → Bool
  | .word _ | .redirection _ => true
  | .operator s => s == "("
  | .reserved s =>
    ["!", "case", "for", "if", "until", "while", "\x7b"].contains s ||
      (d == .rich && ["coproc", "function", "select", "time", "[[", "]]", "in"].contains s)
  | _ => false

/-- Stages of a pipeline, behind the first one. -/
def stages (r : Reader) : (fuel : Nat) → (first : Command) → Reading (List Command)
  | 0, first => pure [first]
  | fuel + 1, first => do
    match ← token with
    | .operator "|" =>
      discard (take 1)
      newlines
      let next ← r.command
      pure (first :: (← stages r fuel next))
    | .operator "|&" =>
      discard (take 2)
      newlines
      let next ← r.command
      let messages := Redirect.mk (some 2) none (.share false) [.bare ['1']] ['1']
      pure (.redirected (← lineNumber) first [messages] :: (← stages r fuel next))
    | _ => pure [first]

/-- A pipeline. -/
def pipeline (r : Reader) : (fuel : Nat) → Reading Command
  | 0 => unexpected none
  | fuel + 1 => do
    let d : Dialect := (← get).dialect
    replaceWord
    match ← token with
    | .reserved "!" =>
      discard (take 1)
      match ← token with
      | .newline | .finish | .operator ";" =>
        if d = .rich then pure (.pipeline true false []) else unexpected none
      | .reserved "!" =>
        if d = .rich then pure (.pipeline true false [← pipeline r fuel]) else unexpected none
      | _ =>
        let first ← r.command
        pure (.pipeline true false (← stages r fuel first))
    | .reserved "time" =>
      discard (take 4)
      blanks
      if ['-', 'p'].isPrefixOf (← get).rest then discard (take 2)
      match ← token with
      | .newline | .finish | .operator ";" => pure (.pipeline false true [])
      | _ => pure (.pipeline false true [← pipeline r fuel])
    | _ =>
      let first ← r.command
      match ← stages r fuel first with
      | [c] => pure c
      | cs => pure (.pipeline false false cs)

/-- Pipelines that depend on each other, behind the first one. -/
def andOr (r : Reader) : (fuel : Nat) → (first : Command) → Reading Command
  | 0, first => pure first
  | fuel + 1, first => do
    match ← token with
    | .operator "&&" =>
      discard (take 2)
      newlines
      let next ← pipeline r fuel
      andOr r fuel (.and first next)
    | .operator "||" =>
      discard (take 2)
      newlines
      let next ← pipeline r fuel
      andOr r fuel (.or first next)
    | _ => pure first

/-- One entry of a list. -/
def entry (r : Reader) : Reading Command := do
  let fuel ← room
  andOr r fuel (← pipeline r fuel)

/-- Further entries of a list, behind one. -/
def listFrom (r : Reader) : (fuel : Nat) → (last : Command) → Reading Script
  | 0, last => pure [last]
  | fuel + 1, last => do
    let d : Dialect := (← get).dialect
    let go (last : Command) : Reading Script := do
      let line := (← get).line
      newlines
      let c ← get
      if beginsCommand d (Cursor.tokenOf d c.rest) then
        if c.line != line then printLines 1
        let next ← entry r
        pure (last :: (← listFrom r fuel next))
      else pure [last]
    match ← token with
    | .operator ";" =>
      discard (take 1)
      go last
    | .operator "&" =>
      discard (take 1)
      go (.async last)
    | .newline => go last
    | _ => pure [last]

/-- A list of at least one command, up to what cannot begin another one. -/
def list (r : Reader) : Reading Script := do
  newlines
  let first ← entry r
  listFrom r (← room) first

/-- A list that may be empty. -/
def listOrNothing (r : Reader) : Reading Script := do
  newlines
  if beginsCommand (← get).dialect (← token) then list r else pure []

/-! ## Compound commands -/

/-- The commands inside a word up to the closing parenthesis, which is taken. -/
def commandsInWord (r : Reader) : Reading Script := do
  let inner : Reading Script := do
    let body ← listOrNothing r
    match ← token with
    | .operator ")" =>
      discard (take 1)
      pure body
    | .finish =>
      let c ← get
      match c.dialect with
      | .rich => throw (.unmatched c.line ')')
      | .plain => unexpected (some ")")
    | _ => unexpected (some ")")
  let c ← get
  match inner c with
  | .ok (body, after) =>
    set after
    pure body
  | .error f => throw (.inside f)

/-- The rest of a conditional command, behind its first word. -/
def branches (r : Reader) : (fuel : Nat) →
    Reading (List (Script × Script) × Script × Nat)
  | 0 => unexpected none
  | fuel + 1 => do
    let test ← r.list
    reserved "then"
    printLines 1
    let body ← r.list
    match ← token with
    | .reserved "elif" =>
      discard (take 4)
      printLines 2
      let (more, otherwise, depth) ← branches r fuel
      pure ((test, body) :: more, otherwise, depth + 1)
    | .reserved "else" =>
      discard (take 4)
      printLines 2
      let otherwise ← r.list
      reserved "fi"
      pure ([(test, body)], otherwise, 1)
    | _ =>
      reserved "fi"
      pure ([(test, body)], [], 1)

/-- The body of a loop. -/
def loopBody (r : Reader) (braces : Bool) : Reading Script := do
  match ← token with
  | .reserved "\x7b" =>
    if braces then
      discard (take 1)
      let body ← r.list
      reserved "\x7d"
      pure body
    else unexpected (some "do")
  | _ =>
    reserved "do"
    printLines 1
    let body ← r.list
    reserved "done"
    printLines 1
    pure body

/-- Words up to the end of a line or a semicolon. -/
def wordsFrom (r : Reader) : (fuel : Nat) → Reading (List Word)
  | 0 => pure []
  | fuel + 1 => do
    match ← token with
    | .word _ | .reserved _ =>
      let w ← word r
      pure (w :: (← wordsFrom r fuel))
    | .redirection _ =>
      let (w, source) ← wordWithSource r
      if source.isEmpty then unexpected none
      pure (w :: (← wordsFrom r fuel))
    | _ => pure []

/-- The words that a loop goes through, behind its variable. -/
def loopWords (r : Reader) : Reading (Option (List Word)) := do
  newlines
  match ← token with
  | .reserved "in" =>
    discard (take 2)
    let ws ← wordsFrom r (← room)
    match ← token with
    | .operator ";" =>
      discard (take 1)
      newlines
      pure (some ws)
    | .newline =>
      newlines
      pure (some ws)
    | _ => unexpected none
  | .operator ";" =>
    discard (take 1)
    newlines
    pure none
  | _ => pure none

/-- The three expressions of a counting loop. -/
def threeParts : (depth : Nat) → (done : List Char) → List Char → List (List Char)
  | _, done, [] => [done.reverse]
  | depth, done, c :: rest =>
    if c == ';' && depth == 0 then done.reverse :: threeParts 0 [] rest
    else
      threeParts (if c == '(' then depth + 1 else if c == ')' then depth - 1 else depth)
        (c :: done) rest

/-- A loop over words, or a counting one, behind its first word. -/
def forLoop (r : Reader) (line : Nat) : Reading Command := do
  blanks
  let c ← get
  match c.dialect, c.rest with
  | .rich, '(' :: '(' :: rest =>
    match Enclosure.inside? .paren rest with
    | some (inside, ')' :: _) =>
      discard (take (inside.length + 4))
      let parts ← (threeParts 0 [] inside).mapM (innerWord r.words .arithmetic)
      match parts with
      | [start, test, step] =>
        match ← token with
        | .operator ";" => discard (take 1)
        | _ => pure ()
        newlines
        printLines 1
        let body ← loopBody r true
        pure (.count line start test step body)
      | _ =>
        throw (.condition c.line "syntax error: arithmetic expression required"
          (String.ofList ("((".toList ++ inside ++ "))".toList)))
    | _ => throw (.unmatched c.line ')')
  | d, _ =>
    match ← token with
    | .word _ | .reserved _ =>
      let (_, source) ← wordWithSource r
      let name := String.ofList source
      if d = .plain ∧ !isName name then throw (.stated (← get).line "Bad for loop variable")
      let words ← loopWords r
      printLines 1
      let body ← loopBody r (d = .rich)
      pure (.each line name words body)
    | _ =>
      if d = .plain then throw (.stated (← get).line "Bad for loop variable") else unexpected none

/-- The patterns of a clause, up to the closing parenthesis, which is taken. -/
def clausePatterns (r : Reader) : (fuel : Nat) → Reading (List Word)
  | 0 => unexpected none
  | fuel + 1 => do
    match ← token with
    | .word _ | .reserved _ | .redirection _ =>
      let (w, source) ← wordWithSource r
      if source.isEmpty then unexpected (some ")")
      match ← token with
      | .operator "|" =>
        discard (take 1)
        pure (w :: (← clausePatterns r fuel))
      | _ =>
        sign ")"
        pure [w]
    | _ => unexpected (some ")")

/-- The clauses of a choice up to its end, which is taken. -/
def clauses (r : Reader) : (fuel : Nat) → Reading (List Clause)
  | 0 => unexpected none
  | fuel + 1 => do
    newlines
    match ← token with
    | .reserved "esac" =>
      discard (take 4)
      pure []
    | t =>
      if t = .operator "(" then discard (take 1)
      let patterns ← clausePatterns r (← room)
      printLines 2
      newlines
      let body ← if beginsCommand (← get).dialect (← token) then r.list else pure []
      printLines 1
      newlines
      match ← token with
      | .operator ";;" =>
        discard (take 2)
        pure (.mk patterns body false false :: (← clauses r fuel))
      | .operator ";&" =>
        discard (take 2)
        pure (.mk patterns body true false :: (← clauses r fuel))
      | .operator ";;&" =>
        discard (take 3)
        pure (.mk patterns body false true :: (← clauses r fuel))
      | _ =>
        match ← token with
        | .reserved "esac" =>
          discard (take 4)
          pure [.mk patterns body false false]
        | _ => unexpected (some ";;")

/-- A choice, behind its first word. -/
def choice (r : Reader) (line : Nat) : Reading Command := do
  match ← token with
  | .word _ | .reserved _ =>
    let w ← word r
    newlines
    reserved "in"
    let cs ← clauses r (← room)
    printLines 1
    pure (.choice line w cs)
  | _ => unexpected none

/-! ## Conditions -/

/-- The operators with one operand. -/
def unaryOperators : List String :=
  ["-a", "-b", "-c", "-d", "-e", "-f", "-g", "-h", "-k", "-n", "-o", "-p", "-r", "-s", "-t", "-u",
    "-v", "-w", "-x", "-z", "-G", "-L", "-N", "-O", "-R", "-S"]

/-- The operators with two operands. -/
def binaryOperators : List String :=
  ["==", "=", "!=", "=~", "<", ">", "-eq", "-ne", "-lt", "-le", "-gt", "-ge", "-nt", "-ot", "-ef"]

/-- The text of a token as a message about a condition names it. -/
def conditionToken (t : Token) (source : List Char) : String :=
  match t with
  | .newline => "newline"
  | .finish => "newline"
  | .operator s | .redirection s => s
  | .reserved _ | .word _ => String.ofList source

/-- A condition is wrong at what is next; `last` is the text of the word before. -/
def badCondition {α : Type} (message : String → String) (last : String) : Reading α := do
  let t ← token
  let c ← get
  let source := c.rest.takeWhile fun d => !Cursor.endsWord d
  let shown := conditionToken t source
  let near : String :=
    match t with
    | .newline | .finish => last
    | .operator s =>
      if s = "(" then
        String.ofList ('(' :: (c.rest.drop 1).takeWhile fun d => !Cursor.endsWord d)
      else if s = "&&" then "&" else if s = "||" then "|" else s
    | _ => shown
  throw (.condition c.line (message shown) near)

/-- A word of a condition. -/
def conditionWord (r : Reader) (m : Manner) (message : String → String) (last : String) :
    Reading (Word × String) := do
  let isEnd : Bool ← do
    match ← token with
    | .word _ => pure false
    | .reserved s => pure (s == "]]")
    | .redirection s =>
      let rest := (← get).rest
      pure (!((s = "<" || s = ">") && (rest.drop 1).head? == some '('))
    | .operator s => pure (!(m == .expression && s = "("))
    | _ => pure true
  if isEnd then badCondition message last
  let before := (← get).rest
  let alternatives := (← get).alternatives
  modify fun c => { c with alternatives := true }
  let w ← piecesFrom r.words m (← room) 0 []
  modify fun c => { c with alternatives := alternatives }
  let behind := (← get).rest
  pure (w, String.ofList (before.take (before.length - behind.length)))

/-- A single condition. -/
def conditionTerm (r : Reader) : (fuel : Nat) → (last : String) → Reading Condition
  | 0, last => badCondition id last
  | fuel + 1, last => do
    newlines
    match ← token with
    | .reserved "!" =>
      discard (take 1)
      pure (.not (← conditionTerm r fuel "!"))
    | .operator "(" =>
      discard (take 1)
      let inner ← r.condition
      newlines
      match ← token with
      | .operator ")" =>
        discard (take 1)
        pure (.group inner)
      | _ => badCondition (fun t => "unexpected token \x60" ++ t ++ "', expected \x60)'") ")"
    | .operator _ =>
      badCondition (fun t => "unexpected token \x60" ++ t ++ "' in conditional command") last
    | .reserved "]]" => badCondition (fun _ => "") last
    | t =>
      let isUnary : Bool :=
        match t with
        | .word s => unaryOperators.contains s
        | _ => false
      let (a, source) ← conditionWord r .word id last
      let next ← token
      let rest := (← get).rest
      let op : Option String :=
        match next with
        | .redirection s => if s = "<" ∨ s = ">" then some s else none
        | .word s =>
          let s := if binaryOperators.contains s then s else String.ofList
            (rest.takeWhile fun c => !Cursor.endsWord c)
          if binaryOperators.contains s then some s else none
        | _ => none
      match op with
      | some op =>
        if isUnary && (rest.drop op.length).head? != some ' ' then pure (.word a)
        else
          discard (take op.length)
          let (b, _) ← conditionWord r (if op = "=~" then .expression else .word)
            (fun t => "unexpected argument \x60" ++ t ++ "' to conditional binary operator") op
          pure (.binary op a b)
      | none =>
        if isUnary then
          match next with
          | .operator "&&" | .operator "||" | .operator ")" => pure (.word a)
          | _ =>
            let (b, _) ← conditionWord r .word
              (fun t => "unexpected argument \x60" ++ t ++ "' to conditional unary operator") source
            pure (.unary source b)
        else
          match next with
          | .operator "&&" | .operator "||" | .operator ")" | .reserved "]]" => pure (.word a)
          | .word _ | .reserved _ =>
            badCondition (fun _ => "conditional binary operator expected") source
          | _ =>
            badCondition
              (fun t => "unexpected token \x60" ++ t ++ "', conditional binary operator expected")
              source

/-- Conditions that have to hold together. -/
def conditionAnd (r : Reader) : (fuel : Nat) → Reading Condition
  | 0 => badCondition id ""
  | fuel + 1 => do
    let a ← conditionTerm r fuel "[["
    newlines
    match ← token with
    | .operator "&&" =>
      discard (take 2)
      pure (.and a (← conditionAnd r fuel))
    | _ => pure a

/-- Conditions of which one has to hold. -/
def conditionOr (r : Reader) : (fuel : Nat) → Reading Condition
  | 0 => badCondition id ""
  | fuel + 1 => do
    let a ← conditionAnd r fuel
    match ← token with
    | .operator "||" =>
      discard (take 2)
      pure (.or a (← conditionOr r fuel))
    | _ => pure a

/-- A condition, behind the opening brackets. -/
def conditionCommand (r : Reader) (line : Nat) : Reading Command := do
  let c ← conditionOr r (← room)
  newlines
  match ← token with
  | .reserved "]]" =>
    discard (take 2)
    pure (.condition line c)
  | .operator s =>
    badCondition (fun _ => "syntax error in conditional expression: unexpected token \x60" ++ s ++ "'")
      ""
  | .finish =>
    throw (.condition (line) "unexpected EOF while looking for \x60]]'" "")
  | _ => badCondition (fun _ => "syntax error in conditional expression") ""

/-! ## Commands -/

/-- A compound command without what is redirected for it; none if a simple one is next. -/
def compound? (r : Reader) : Reading (Option Command) := do
  let t ← token
  let line ← lineNumber
  let c ← get
  match t with
  | .operator "(" =>
    let expression : Option (List Char) :=
      match c.dialect, c.rest with
      | .rich, '(' :: '(' :: rest =>
        match Enclosure.inside? .paren rest with
        | some (inside, ')' :: _) => some inside
        | _ => none
      | _, _ => none
    match expression with
    | some inside =>
      discard (take (inside.length + 4))
      pure (some (.expression line (← innerWord r.words .arithmetic inside) inside))
    | none =>
      let unended : Bool :=
        match c.dialect, c.rest with
        | .rich, '(' :: '(' :: rest => (Enclosure.inside? .paren rest).isNone
        | _, _ => false
      if unended then throw (.unmatched c.line ')')
      discard (take 1)
      let body ← r.list
      sign ")"
      pure (some (.subshell body))
  | .reserved "\x7b" =>
    discard (take 1)
    let body ← r.list
    reserved "\x7d"
    pure (some (.group body))
  | .reserved "if" =>
    discard (take 2)
    let (cases, otherwise, depth) ← branches r (← room)
    printLines depth
    pure (some (.branch cases otherwise))
  | .reserved "while" =>
    discard (take 5)
    let test ← r.list
    pure (some (.loop false test (← loopBody r false)))
  | .reserved "until" =>
    discard (take 5)
    let test ← r.list
    pure (some (.loop true test (← loopBody r false)))
  | .reserved "for" =>
    discard (take 3)
    pure (some (← forLoop r line))
  | .reserved "case" =>
    discard (take 4)
    pure (some (← choice r line))
  | .reserved "select" =>
    discard (take 6)
    match ← token with
    | .word _ | .reserved _ =>
      let (_, source) ← wordWithSource r
      let words ← loopWords r
      printLines 1
      pure (some (.select line (String.ofList source) words (← loopBody r true)))
    | _ => unexpected none
  | .reserved "[[" =>
    discard (take 2)
    pure (some (← conditionCommand r line))
  | .reserved "function" =>
    discard (take 8)
    match ← token with
    | .word _ | .reserved _ =>
      let (_, source) ← wordWithSource r
      match ← token with
      | .operator "(" =>
        discard (take 1)
        sign ")"
      | _ => pure ()
      pure (some (← functionBody r (String.ofList source)))
    | _ => unexpected none
  | .reserved "coproc" =>
    discard (take 6)
    pure (some (.async (← r.command)))
  | .reserved s =>
    if c.dialect = .rich ∧ (s = "]]" ∨ s = "in") then pure none else unexpected none
  | .word _ | .redirection _ => pure none
  | _ => unexpected none

/-- A command. -/
def command (r : Reader) : Reading Command := do
  replaceWord
  discard token
  let line ← lineNumber
  match ← compound? r with
  | some (.define start name body) => pure (.define start name body)
  | some c =>
    match ← redirects r (← room) with
    | [] => pure c
    | rs => pure (.redirected line c rs)
  | none => simpleFrom r (← room) {}

end Reading

namespace Reader

/-- The readers of a level; nothing is read below the last one. -/
def level : (depth : Nat) → Reader
  | 0 =>
    { words := { commands := Reading.unexpected none, pieces := fun _ => pure [] }
      list := Reading.unexpected none
      command := Reading.unexpected none
      condition := Reading.unexpected none }
  | depth + 1 =>
    { words :=
        { commands := fun c => Reading.commandsInWord (level depth) c
          pieces := fun m c =>
            Reading.piecesFrom (level depth).words m (c.rest.length + 1) 0 [] c }
      list := fun c => Reading.list (level depth) c
      command := fun c => Reading.command (level depth) c
      condition := fun c => Reading.conditionOr (level depth) (c.rest.length + 1) c }

/-- How deep commands may lie in each other. -/
def maxDepth : Nat := 2000

end Reader

namespace Reading

/-- Further entries on a line, behind one. -/
def lineFrom (r : Reader) : (fuel : Nat) → (last : Command) → Reading Script
  | 0, last => pure [last]
  | fuel + 1, last => do
    let go (last : Command) : Reading Script := do
      match ← token with
      | .newline =>
        takeNewline
        pure [last]
      | .finish => pure [last]
      | _ =>
        let next ← entry r
        pure (last :: (← lineFrom r fuel next))
    match ← token with
    | .operator ";" =>
      discard (take 1)
      go last
    | .operator "&" =>
      discard (take 1)
      go (.async last)
    | .newline =>
      takeNewline
      pure [last]
    | .finish => pure [last]
    | _ => unexpected none

/-- The commands on a line; none at the end of the text. -/
def line : Reading (Option Script) := do
  let r := Reader.level Reader.maxDepth
  newlines
  match ← token with
  | .finish => pure none
  | _ =>
    let first ← entry r
    pure (some (← lineFrom r (← room) first))

/-- The pieces of a text between double quotes. -/
def doubleText : Reading Word := do
  (Reader.level Reader.maxDepth).words.pieces .doubleText

/-- The pieces of a text in an arithmetic expression. -/
def arithmeticText : Reading Word := do
  (Reader.level Reader.maxDepth).words.pieces .arithmetic

end Reading

end Runbook.Shell
