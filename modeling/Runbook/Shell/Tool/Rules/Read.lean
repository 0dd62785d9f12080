import Runbook.Shell.Tool.Rules.Basic

/-!
# `Shell/Tool/Rules/Read` — reading programs of rules

Tokens are read into rules and functions. Operators bind in levels; values that stand side by side
are joined, which binds looser than sums and tighter than comparisons. Between `print` and the end
of its statement a greater-than sign outside of brackets tells where the output goes.

The reader stops at the first fault.
-/

set_option autoImplicit false

namespace Runbook.Shell.Rules

/-- Where reading stands. -/
structure Reading where
  rest : List (Token × Nat)
  /-- The functions that the program defines, with the number of their parameters. -/
  defined : List (String × Nat) := []
  /-- All names that are defined anywhere. -/
  known : List String := []
  /-- The functions that are called, with the greatest number of arguments and the line. -/
  called : List (String × Nat × Nat) := []
  parameters : List String := []
  /-- What each name has been used as: a table or a single value. -/
  uses : List (String × Bool) := []
  loops : Nat := 0
  inFunction : Bool := false
  /-- A rule that looks at records is read. -/
  inRule : Bool := false

/-- Reads something, or tells what is wrong. -/
abbrev Reader := StateT Reading (Except (List String))

namespace Reader

/-- The next token. -/
def peek : Reader Token := do
  match (← get).rest with
  | (t, _) :: _ => pure t
  | [] => pure .final

/-- The line of the next token. -/
def line : Reader Nat := do
  match (← get).rest with
  | (_, n) :: _ => pure n
  | [] => pure 1

/-- Tells a fault on the line at hand. -/
def blame {α : Type} (message : String) : Reader α := do
  let n ← line
  throw ["line " ++ natText n ++ ": " ++ message]

/-- The next token is out of place. -/
def misplaced {α : Type} : Reader α := do
  match ← peek with
  | .fault m more =>
    let n ← line
    throw (((n, m) :: more).map fun (k, text) => "line " ++ natText k ++ ": " ++ text)
  | .stray c =>
    let n ← line
    throw [natText n ++ ": unexpected character '" ++ String.singleton c ++ "'"]
  | t => blame ("syntax error at or near " ++ t.shown)

/-- Goes on behind the next token. -/
def skip : Reader Unit := modify fun r => { r with rest := r.rest.drop 1 }

/-- The next token is a sign. -/
def sees (sign : String) : Reader Bool := do
  match ← peek with
  | .symbol s => pure (s == sign)
  | _ => pure false

/-- A regular expression that can be read, if it is told in full. -/
def checkPattern (e : Expr) : Reader Unit := do
  match e with
  | .regex cs | .text cs =>
    match readPattern cs with
    | .ok _ => pure ()
    | .error message => blame message
  | _ => pure ()

/-- The next token is a word. -/
def seesWord (word : String) : Reader Bool := do
  match ← peek with
  | .word w => pure (w == word)
  | _ => pure false

/-- Goes on behind a sign that has to be there. -/
def expect (sign : String) : Reader Unit := do
  if ← sees sign then skip else misplaced

/-- Goes on behind line ends. -/
def skipLines : Reader Unit := modify fun r =>
  { r with rest := r.rest.dropWhile fun (t, _) => match t with
    | .newline => true
    | _ => false }

/-- Goes on behind line ends and semicolons. -/
def skipEnds : Reader Unit := modify fun r =>
  { r with rest := r.rest.dropWhile fun (t, _) => match t with
    | .newline | .symbol ";" => true
    | _ => false }

/-- Notes what a name is used as. One name cannot be both. -/
def use (name : String) (asTable : Bool) : Reader Unit := do
  let r ← get
  if !r.parameters.contains name then
    match r.uses.lookup name with
    | some b =>
      if b != asTable then
        blame ("illegal reference to " ++ (if b then "array " else "variable ") ++ name)
    | none => set { r with uses := (name, asTable) :: r.uses }

/-- A name that has to be there. -/
def takeName : Reader String := do
  match ← peek with
  | .name n _ =>
    skip
    pure n
  | _ => misplaced

/-- The operation of a sign that gives a place a value by way of it. -/
def assignment? : Token → Option (Option Char)
  | .symbol "=" => some none
  | .symbol s =>
    match s.toList with
    | [op, '='] => if "+-*/%^".toList.contains op then some (some op) else none
    | _ => none
  | _ => none

/-- The order of a sign. -/
def orderOf? : Token → Option Order
  | .symbol "<" => some .less
  | .symbol "<=" => some .atMost
  | .symbol "==" => some .same
  | .symbol "!=" => some .other
  | .symbol ">" => some .more
  | .symbol ">=" => some .atLeast
  | _ => none

/-- A value may begin with a token that stands behind another value. -/
def beginsValue : Token → Bool
  | .number .. | .text .. | .regex _ | .name .. | .builtin _ | .word "getline" => true
  | .symbol s => ["$", "!", "(", "++", "--"].contains s
  | _ => false

/-- A statement may end at a token. -/
def endsHere : Token → Bool
  | .newline | .final => true
  | .symbol s => [";", "\x7d", ">", ">>", "|"].contains s
  | _ => false

mutual

/-- An expression. `gt` tells whether a greater-than sign compares. -/
def expr : (fuel : Nat) → (gt : Bool) → Reader Expr
  | 0, _ => misplaced
  | fuel + 1, gt => do
    let c ← binary fuel gt 1
    if ← sees "?" then
      skip
      let yes ← expr fuel gt
      expect ":"
      pure (.choose c yes (← expr fuel gt))
    else pure c

/-- Expressions with commas between them, up to a sign. -/
def list : (fuel : Nat) → (closing : String) → Reader (List Expr)
  | 0, _ => misplaced
  | fuel + 1, closing => do
    let e ← expr fuel true
    if ← sees "," then
      skip
      skipLines
      pure (e :: (← list fuel closing))
    else
      expect closing
      pure [e]

/-- Operators of a level between operands of the next one. -/
def binary : (fuel : Nat) → (gt : Bool) → (level : Nat) → Reader Expr
  | 0, _, _ => misplaced
  | fuel + 1, gt, level => do
    if 9 ≤ level then unary fuel
    else
      let a ← binary fuel gt (level + 1)
      if level = 6 ∧ a.isPlace then
        match assignment? (← peek) with
        | some op =>
          skip
          skipLines
          match a with
          | .name n => use n false
          | _ => pure ()
          pure (.assign op a (← expr fuel gt))
        | none => further fuel gt level a
      else further fuel gt level a

/-- What follows the first operand of a level. -/
def further : (fuel : Nat) → (gt : Bool) → (level : Nat) → Expr → Reader Expr
  | 0, _, _, _ => misplaced
  | fuel + 1, gt, level, a => do
    let t ← peek
    match level, t with
    | 1, .symbol "||" =>
      skip
      skipLines
      further fuel gt level (.or_ a (← binary fuel gt 2))
    | 2, .symbol "&&" =>
      skip
      skipLines
      further fuel gt level (.and_ a (← binary fuel gt 3))
    | 3, .word "in" =>
      skip
      let n ← takeName
      use n true
      let keys := match a with
        | .group es => es
        | e => [e]
      further fuel gt level (.among keys n)
    | 4, .symbol "~" =>
      skip
      let p ← binary fuel gt 5
      checkPattern p
      further fuel gt level (.found false a p)
    | 4, .symbol "!~" =>
      skip
      let p ← binary fuel gt 5
      checkPattern p
      further fuel gt level (.found true a p)
    | 5, _ =>
      match orderOf? t with
      | some o =>
        if o = .more ∧ !gt then pure a
        else
          skip
          further fuel gt level (.compared o a (← binary fuel gt 6))
      | none => pure a
    | 6, _ =>
      if beginsValue t then further fuel gt level (.joined a (← binary fuel gt 7)) else pure a
    | 7, .symbol "+" =>
      skip
      further fuel gt level (.arithmetic '+' a (← binary fuel gt 8))
    | 7, .symbol "-" =>
      skip
      further fuel gt level (.arithmetic '-' a (← binary fuel gt 8))
    | 8, .symbol "*" =>
      skip
      further fuel gt level (.arithmetic '*' a (← binary fuel gt 9))
    | 8, .symbol "/" =>
      skip
      further fuel gt level (.arithmetic '/' a (← binary fuel gt 9))
    | 8, .symbol "%" =>
      skip
      further fuel gt level (.arithmetic '%' a (← binary fuel gt 9))
    | _, _ => pure a

/-- Signs in front of a value. -/
def unary : (fuel : Nat) → Reader Expr
  | 0 => misplaced
  | fuel + 1 => do
    match ← peek with
    | .symbol "!" =>
      skip
      pure (.not_ (← unary fuel))
    | .symbol "-" =>
      skip
      pure (.negated (← unary fuel))
    | .symbol "+" =>
      skip
      pure (.plus (← unary fuel))
    | _ => piped fuel (← power fuel)

/-- Records taken from a command. -/
def piped : (fuel : Nat) → Expr → Reader Expr
  | 0, e => pure e
  | fuel + 1, e => do
    match (← get).rest with
    | (.symbol "|", _) :: (.word "getline", _) :: _ =>
      skip
      skip
      let place ← place? fuel
      piped fuel (.take .command (some e) place)
    | _ => pure e

/-- A value, perhaps raised to a power. -/
def power : (fuel : Nat) → Reader Expr
  | 0 => misplaced
  | fuel + 1 => do
    let a ← stepped fuel
    if ← sees "^" then
      skip
      pure (.arithmetic '^' a (← exponent fuel))
    else pure a

/-- An exponent, perhaps with signs in front of it. -/
def exponent : (fuel : Nat) → Reader Expr
  | 0 => misplaced
  | fuel + 1 => do
    match ← peek with
    | .symbol "!" =>
      skip
      pure (.not_ (← exponent fuel))
    | .symbol "-" =>
      skip
      pure (.negated (← exponent fuel))
    | .symbol "+" =>
      skip
      pure (.plus (← exponent fuel))
    | _ => power fuel

/-- A value, perhaps a place whose number is changed afterwards. -/
def stepped : (fuel : Nat) → Reader Expr
  | 0 => misplaced
  | fuel + 1 => do
    let a ← primary fuel
    if a.isPlace then
      if ← sees "++" then
        skip
        pure (.step false true a)
      else if ← sees "--" then
        skip
        pure (.step false false a)
      else pure a
    else pure a

/-- What stands behind a dollar sign. -/
def fieldIndex : (fuel : Nat) → Reader Expr
  | 0 => misplaced
  | fuel + 1 => do
    match ← peek with
    | .symbol "-" =>
      skip
      pure (.negated (← fieldIndex fuel))
    | .symbol "+" =>
      skip
      pure (.plus (← fieldIndex fuel))
    | .symbol "!" =>
      skip
      pure (.not_ (← fieldIndex fuel))
    | _ => primary fuel

/-- A place, if one begins here. -/
def place? : (fuel : Nat) → Reader (Option Expr)
  | 0 => misplaced
  | fuel + 1 => do
    match ← peek with
    | .symbol "$" => pure (some (← primary fuel))
    | .name _ beforeBracket => if beforeBracket then pure none else pure (some (← primary fuel))
    | _ => pure none

/-- A value without operators. -/
def primary : (fuel : Nat) → Reader Expr
  | 0 => misplaced
  | fuel + 1 => do
    match ← peek with
    | .number x _ =>
      skip
      pure (.number x)
    | .text cs _ =>
      skip
      pure (.text cs)
    | .regex source =>
      checkPattern (.regex source)
      skip
      pure (.regex source)
    | .symbol "$" =>
      skip
      pure (.field (← fieldIndex fuel))
    | .symbol "(" =>
      skip
      let es ← list fuel ")"
      if 1 < es.length then
        let t ← peek
        if !(endsHere t) && !(← seesWord "in") then misplaced
      pure (.group es)
    | .symbol "++" =>
      skip
      match ← place? fuel with
      | some p => pure (.step true true p)
      | none => misplaced
    | .symbol "--" =>
      skip
      match ← place? fuel with
      | some p => pure (.step true false p)
      | none => misplaced
    | .symbol "-" =>
      skip
      pure (.negated (← unary fuel))
    | .word "getline" =>
      skip
      let place ← place? fuel
      if ← sees "<" then
        skip
        pure (.take .file (some (← power fuel)) place)
      else pure (.take .main none place)
    | .builtin n =>
      skip
      builtin fuel n
    | .name n beforeBracket =>
      let line ← line
      skip
      if beforeBracket || ((← get).known.contains n && (← sees "(")) then
        skip
        let args ← if ← sees ")" then do skip; pure [] else list fuel ")"
        modify fun r => { r with called := (n, args.length, line) :: r.called }
        for a in args do
          match a with
          | .group [.name m] => use m false
          | _ => pure ()
        pure (.call n args)
      else if ← sees "[" then
        skip
        use n true
        pure (.element n (← list fuel "]"))
      else
        if !(← sees ",") && !(← sees ")") then use n false
        pure (.name n)
    | _ => misplaced

/-- A call of a function of the language itself. -/
def builtin : (fuel : Nat) → String → Reader Expr
  | 0, _ => misplaced
  | fuel + 1, n => do
    if ← sees "(" then
      skip
      let args ← if ← sees ")" then do skip; pure [] else list fuel ")"
      match builtins.lookup n with
      | some (least, most) =>
        if args.length < least ∨ most < args.length then
          blame ("wrong number of arguments in call to " ++ n)
      | none => pure ()
      match n, args with
      | "split", _ :: .name t :: _ => use t true
      | "match", [_, p] => checkPattern p
      | "sub", p :: _ | "gsub", p :: _ => checkPattern p
      | _, _ => pure ()
      pure (.builtin n args)
    else if n = "length" then pure (.builtin n [])
    else misplaced

end

/-! ## Statements -/

/-- The end of a simple statement. -/
def finish : Reader Unit := do
  match ← peek with
  | .symbol ";" =>
    skip
    skipLines
  | .newline => skipLines
  | .symbol "\x7d" | .final => pure ()
  | _ => misplaced

/-- Expressions behind `print`, up to the end or to where the output goes. -/
def printed (room : Nat) : (fuel : Nat) → Reader (List Expr)
  | 0 => misplaced
  | fuel + 1 => do
    let e ← expr room false
    if ← sees "," then
      skip
      skipLines
      pure (e :: (← printed room fuel))
    else pure [e]

/-- Where output goes, if it is told. -/
def wayOf (room : Nat) : Reader (Option (Way × Expr)) := do
  match ← peek with
  | .symbol ">" =>
    skip
    pure (some (.file, ← expr room true))
  | .symbol ">>" =>
    skip
    pure (some (.append, ← expr room true))
  | .symbol "|" =>
    skip
    pure (some (.command, ← expr room true))
  | _ => pure none

/-- A statement that prints. -/
def printing (room : Nat) (formatted : Bool) : Reader Stmt := do
  let es ← if endsHere (← peek) then pure [] else printed room room
  let es := match es with
    | [.group (a :: b :: more)] => a :: b :: more
    | [.group [a]] => if formatted then [a] else [.group [a]]
    | es => es
  if formatted && es.isEmpty then blame "no arguments in call to printf"
  let way ← wayOf room
  finish
  pure (.print formatted es way)

/-- A simple statement without its end, as the parts of a loop are. -/
def simple (room : Nat) : Reader Stmt := do
  pure (.expr (← expr room true))

/-- Does something inside a loop. -/
def inLoop {α : Type} (a : Reader α) : Reader α := do
  modify fun r => { r with loops := r.loops + 1 }
  let x ← a
  modify fun r => { r with loops := r.loops - 1 }
  pure x

mutual

/-- A statement. -/
def statement (room : Nat) : (fuel : Nat) → Reader Stmt
  | 0 => misplaced
  | fuel + 1 => do
    match ← peek with
    | .symbol "\x7b" =>
      let b ← block room fuel
      pure b
    | .symbol ";" =>
      skip
      skipLines
      pure (.block [])
    | .word w =>
      match w with
      | "if" =>
        skip
        expect "("
        let c ← expr room true
        expect ")"
        skipLines
        let yes ← statement room fuel
        if ← seesWord "else" then
          skip
          skipLines
          pure (.either c yes (some (← statement room fuel)))
        else pure (.either c yes none)
      | "while" =>
        skip
        expect "("
        let c ← expr room true
        expect ")"
        if ← sees ";" then
          skip
          skipLines
          pure (.while_ c (.block []))
        else
          skipLines
          pure (.while_ c (← inLoop (statement room fuel)))
      | "do" =>
        skip
        skipLines
        let b ← inLoop (statement room fuel)
        if ← seesWord "while" then
          skip
          expect "("
          let c ← expr room true
          expect ")"
          finish
          pure (.until_ b c)
        else misplaced
      | "for" =>
        skip
        expect "("
        match (← get).rest with
        | (.name k _, _) :: (.word "in", _) :: (.name t _, _) :: (.symbol ")", _) :: more =>
          modify fun r => { r with rest := more }
          use k false
          use t true
          skipLines
          pure (.each k t (← inLoop (statement room fuel)))
        | _ =>
          let first ← if ← sees ";" then pure none else (do pure (some (← simple room)))
          expect ";"
          skipLines
          let c ← if ← sees ";" then pure none else (do pure (some (← expr room true)))
          expect ";"
          skipLines
          let step ← if ← sees ")" then pure none else (do pure (some (← simple room)))
          expect ")"
          if ← sees ";" then
            skip
            skipLines
            pure (.repeat_ first c step (.block []))
          else
            skipLines
            pure (.repeat_ first c step (← inLoop (statement room fuel)))
      | "print" =>
        skip
        printing room false
      | "printf" =>
        skip
        printing room true
      | "next" =>
        if !(← get).inRule && !(← get).inFunction then blame "improper use of next"
        skip
        finish
        pure (.next false)
      | "nextfile" =>
        skip
        finish
        pure (.next true)
      | "break" =>
        if (← get).loops = 0 then blame "break statement outside of loop"
        skip
        finish
        pure .break_
      | "continue" =>
        if (← get).loops = 0 then blame "continue statement outside of loop"
        skip
        finish
        pure .continue_
      | "exit" =>
        skip
        let e ← if endsHere (← peek) then pure none else (do pure (some (← expr room true)))
        finish
        pure (.exit e)
      | "return" =>
        if !(← get).inFunction then blame "return outside function body"
        skip
        let e ← if endsHere (← peek) then pure none else (do pure (some (← expr room true)))
        finish
        pure (.return_ e)
      | "delete" =>
        skip
        let n ← takeName
        use n true
        let keys ← if ← sees "[" then do skip; list room "]" else pure []
        finish
        pure (.delete n keys)
      | "getline" =>
        let e ← expr room true
        finish
        pure (.expr e)
      | _ => misplaced
    | _ =>
      let e ← expr room true
      finish
      pure (.expr e)

/-- Statements in braces. -/
def block (room : Nat) : (fuel : Nat) → Reader Stmt
  | 0 => misplaced
  | fuel + 1 => do
    expect "\x7b"
    skipLines
    let body ← statements room fuel
    expect "\x7d"
    skipEnds
    pure (.block body)

/-- Statements up to a closing brace. -/
def statements (room : Nat) : (fuel : Nat) → Reader (List Stmt)
  | 0 => misplaced
  | fuel + 1 => do
    if ← sees "\x7d" then pure []
    else
      let s ← statement room fuel
      pure (s :: (← statements room fuel))

end

/-! ## Rules -/

/-- The parameters of a function. -/
def parameters (function : String) : (fuel : Nat) → (done : List String) → Reader (List String)
  | 0, _ => misplaced
  | fuel + 1, done => do
    let n ← match ← peek with
      | .name n _ => pure n
      | _ => misplaced
    if n = function then
      let l ← line
      throw (["function parameter cannot be the function", "syntax error at or near " ++ n].map
        fun m => "line " ++ natText l ++ ": " ++ m)
    if done.contains n then blame (n ++ " is duplicated in argument list")
    skip
    if ← sees "," then
      skip
      skipLines
      parameters function fuel (n :: done)
    else
      expect ")"
      pure (n :: done).reverse

/-- A function. -/
def function (room : Nat) : Reader Function := do
  skip
  let n ← match ← peek with
    | .name n _ => pure n
    | _ => misplaced
  if ((← get).defined.lookup n).isSome then blame ("redefinition of " ++ n)
  skip
  expect "("
  let ps ← if ← sees ")" then do skip; pure [] else parameters n room []
  skipLines
  modify fun r =>
    { r with defined := (n, ps.length) :: r.defined, parameters := ps, inFunction := true }
  let body ← block room room
  modify fun r => { r with parameters := [], inFunction := false }
  pure ⟨n, ps, body⟩

/-- A rule. -/
def rule (room : Nat) : Reader Rule := do
  match ← peek with
  | .word "BEGIN" =>
    skip
    pure ⟨.start, some (← block room room)⟩
  | .word "END" =>
    skip
    pure ⟨.finish, some (← block room room)⟩
  | _ =>
    modify fun r => { r with inRule := true }
    let condition ← if ← sees "\x7b" then pure When.always else do
      let a ← expr room true
      if ← sees "," then
        skip
        skipLines
        pure (When.range a (← expr room true))
      else pure (When.fits a)
    let action ← if ← sees "\x7b" then do pure (some (← block room room)) else do
      finish
      skipEnds
      pure none
    modify fun r => { r with inRule := false }
    pure ⟨condition, action⟩

/-- The rules and functions of a program; `fuel` bounds their number. -/
def items (room : Nat) : (fuel : Nat) → Program → Reader Program
  | 0, p => pure p
  | fuel + 1, p => do
    match ← peek with
    | .final => pure p
    | .word "function" => do
      let f ← function room
      items room fuel { p with functions := p.functions ++ [f] }
    | _ => do
      let r ← rule room
      items room fuel { p with rules := p.rules ++ [r] }

end Reader

/-- The names behind the word that begins a function. -/
def definedNames : List (Token × Nat) → List String
  | (.word "function", _) :: (.name n _, l) :: rest => n :: definedNames ((.name n false, l) :: rest)
  | _ :: rest => definedNames rest
  | [] => []

/-- The program that a text spells, or what is wrong with it. -/
def readProgram (cs : List Char) : Except (List String) Program := do
  let ts := tokens cs
  let room := 30 * ts.length + 100
  let (p, r) ← ((do
    Reader.skipLines
    Reader.items room (ts.length + 1) {}) : Reader Program).run
      { rest := ts, known := definedNames ts }
  let last := (ts.getLast?.map (·.2)).getD 1
  let unknown := r.called.filter fun (n, _) => (r.defined.lookup n).isNone
  let names := (unknown.map (·.1)).eraseDups
  if !names.isEmpty then
    throw (names.map fun n => "line " ++ natText last ++ ": function " ++ n ++ " never defined")
  match r.called.reverse.find? fun (n, count, _) => (r.defined.lookup n).any (· < count) with
  | some (n, _, line) => throw ["line " ++ natText line ++ ": too many arguments in call to " ++ n]
  | none => pure ()
  pure p

end Runbook.Shell.Rules
