import Runbook.Shell.Expand.Word

/-!
# `Shell/Builtin/Test` — tests

A test asks something about files, texts or numbers. `Test.rich` and `Test.plain` read a test from
the arguments of a command, each by the rules of its dialect; `Test.condition` evaluates one between
double brackets, whose operands are words.
-/

set_option autoImplicit false

namespace Runbook.Shell.Test

/-- The node that a path leads to; streams of the process are found too. -/
def nodeOf (path : String) (follow : Bool) : Act (Option (Location × Node)) := do
  let s ← Act.shell
  pure ((← Act.disk).find s.here path follow).toOption

/-- A question about a file. -/
def file (op : Char) (path : String) : Act Bool := do
  match ← nodeOf path (op != 'h' && op != 'L') with
  | none => pure false
  | some (_, n) =>
    match op with
    | 'a' | 'e' | 'r' | 'w' | 'O' | 'G' => pure true
    | 'f' => pure n.isFile
    | 'd' => pure n.isFolder
    | 'h' | 'L' => pure n.isLink
    | 's' => pure (0 < n.size)
    | 'x' => pure (n.isFolder || n.mayRun)
    | 'p' =>
      match n.content with
      | .device (.stream k) => Act.isPipe k
      | .device .queue => pure true
      | _ => pure false
    | 'c' =>
      match n.content with
      | .device (.stream _) | .device .queue => pure false
      | .device _ => pure true
      | _ => pure false
    | 'u' => pure (n.mode / 2048 % 2 == 1)
    | 'g' => pure (n.mode / 1024 % 2 == 1)
    | 'k' => pure (n.mode / 512 % 2 == 1)
    | _ => pure false

/-- A question about two files. To the rich dialect a missing file is older than others. -/
def files (op a b : String) : Act Bool := do
  let x ← nodeOf a true
  let y ← nodeOf b true
  let rich ← Act.isRich
  match op, x, y with
  | "-nt", some (_, m), some (_, n) => pure (n.stamp < m.stamp)
  | "-nt", some _, none => pure rich
  | "-ot", some (_, m), some (_, n) => pure (m.stamp < n.stamp)
  | "-ot", none, some _ => pure rich
  | "-ef", some (_, m), some (_, n) => pure (m.serial == n.serial)
  | _, _, _ => pure false

/-- A comparison of two integers. -/
def compare (op : String) (a b : Int) : Bool :=
  match op with
  | "-eq" => a == b
  | "-ne" => a != b
  | "-lt" => a < b
  | "-le" => a ≤ b
  | "-gt" => b < a
  | "-ge" => b ≤ a
  | _ => false

/-- The comparisons of integers. -/
def comparisons : List String := ["-eq", "-ne", "-lt", "-le", "-gt", "-ge"]

/-- A variable, or an element of one, is set. -/
def isSet (e : Engine) (name : String) : Act Bool := do
  match name.toList.span (· != '[') with
  | (base, '[' :: rest) =>
    let index := String.ofList rest.dropLast
    let v ← Act.valueOf (String.ofList base)
    if index = "@" ∨ index = "*" then pure !v.elements.isEmpty
    else pure (← Act.elementAt e (String.ofList base) index).isSome
  | _ => pure (← Act.textOf? name).isSome

/-- A test with one operand. -/
def unary (e : Engine) (op : Char) (a : String) : Act Bool := do
  match op with
  | 'n' => pure (a != "")
  | 'z' => pure (a == "")
  | 't' => pure false
  | 'v' => isSet e a
  | 'o' => Act.isOn a
  | 'R' =>
    match (← Act.shell).bindings[a]? with
    | some v => pure v.reference
    | none => pure false
  | 'S' | 'b' => pure false
  | _ => file op a

/-- What cuts a test short: a message. -/
abbrev Asking := ExceptT String Act

/-- The letters of the tests with one operand. -/
def unaryLetters : Dialect → List Char
  | .rich => "abcdefghknoprstuvwxzGLNORS".toList
  | .plain => "bcdefghknprstuwxzGLOS".toList

/-- The letter of a test with one operand. -/
def unaryOf? (d : Dialect) (s : String) : Option Char :=
  match s.toList with
  | ['-', c] => if (unaryLetters d).contains c then some c else none
  | _ => none

/-- The tests with two operands. -/
def binaryOperators : Dialect → List String
  | .rich => ["=", "==", "!=", "<", ">", "-nt", "-ot", "-ef"] ++ comparisons
  | .plain => ["=", "!=", "<", ">", "-nt", "-ot", "-ef"] ++ comparisons

/-- The integer that an operand is. -/
def integer (d : Dialect) (s : String) : Asking Int :=
  match (decimalText? s).filter fun n => n.natAbs < 0x8000000000000000 with
  | some n => pure n
  | none =>
    match d with
    | .rich => throw (s ++ ": integer expression expected")
    | .plain => throw ("Illegal number: " ++ s)

/-- A test with two operands. -/
def binary (d : Dialect) (a op b : String) : Asking Bool := do
  if comparisons.contains op then
    let m ← integer d a
    let n ← integer d b
    pure (compare op m n)
  else
    match op with
    | "=" | "==" => pure (a == b)
    | "!=" => pure (a != b)
    | "<" => pure (decide (a < b))
    | ">" => pure (decide (b < a))
    | _ => liftM (files op a b)

/-! ## The rich dialect -/

/-- A test with one argument. -/
def oneArgument (a : String) : Bool := a != ""

/-- A test with two arguments. -/
def twoArguments (e : Engine) (a b : String) : Asking Bool := do
  if a = "!" then pure (b == "")
  else
    match unaryOf? .rich a with
    | some c => liftM (unary e c b)
    | none => throw (a ++ ": unary operator expected")

/-- A test with three arguments. -/
def threeArguments (e : Engine) (a b c : String) : Asking Bool := do
  if (binaryOperators .rich).contains b then binary .rich a b c
  else if b = "-a" then pure (oneArgument a && oneArgument c)
  else if b = "-o" then pure (oneArgument a || oneArgument c)
  else if a = "!" then pure !(← twoArguments e b c)
  else if a = "(" ∧ c = ")" then pure (oneArgument b)
  else throw (b ++ ": binary operator expected")

mutual

/-- Tests of which one has to hold, and what is left of the arguments. -/
def anyOf (e : Engine) : (fuel : Nat) → List String → Asking (Bool × List String)
  | 0, _ => throw "too many arguments"
  | _ + 1, [] => throw "argument expected"
  | fuel + 1, args => do
    let (x, rest) ← allOf e fuel args
    match rest with
    | "-o" :: more =>
      let (y, rest) ← anyOf e fuel more
      pure (x || y, rest)
    | _ => pure (x, rest)

/-- Tests that all have to hold. -/
def allOf (e : Engine) : (fuel : Nat) → List String → Asking (Bool × List String)
  | 0, _ => throw "too many arguments"
  | fuel + 1, args => do
    let (x, rest) ← term e fuel args
    match rest with
    | "-a" :: more =>
      let (y, rest) ← allOf e fuel more
      pure (x && y, rest)
    | _ => pure (x, rest)

/-- A single test. -/
def term (e : Engine) : (fuel : Nat) → List String → Asking (Bool × List String)
  | 0, _ => throw "too many arguments"
  | _ + 1, [] => throw "argument expected"
  | fuel + 1, "!" :: rest => do
    if rest.isEmpty then throw "argument expected"
    let (x, rest) ← term e fuel rest
    pure (!x, rest)
  | fuel + 1, "(" :: rest => do
    if rest.isEmpty then throw "argument expected"
    let (x, rest) ← anyOf e fuel rest
    match rest with
    | ")" :: more => pure (x, more)
    | [] => throw "\x60)' expected"
    | a :: _ => throw ("\x60)' expected, found " ++ a)
  | _ + 1, a :: op :: b :: rest => do
    if (binaryOperators .rich).contains op then pure (← binary .rich a op b, rest)
    else
      match unaryOf? .rich a with
      | some c => pure (← liftM (unary e c op), b :: rest)
      | none => pure (a != "", op :: b :: rest)
  | _ + 1, [a, b] => do
    match unaryOf? .rich a with
    | some c => pure (← liftM (unary e c b), [])
    | none => pure (a != "", [b])
  | _ + 1, [a] => pure (a != "", [])

end

/-- A test with any number of arguments. -/
def manyArguments (e : Engine) (args : List String) : Asking Bool := do
  let (x, rest) ← anyOf e (2 * args.length + 4) args
  match rest with
  | [] => pure x
  | a :: _ =>
    if a.startsWith "-" then throw ("syntax error: \x60" ++ a ++ "' unexpected")
    else throw "too many arguments"

/-- A test, by the number of its arguments. -/
def rich (e : Engine) (args : List String) : Asking Bool := do
  match args with
  | [] => pure false
  | [a] => pure (oneArgument a)
  | [a, b] => twoArguments e a b
  | [a, b, c] => threeArguments e a b c
  | [a, b, c, d] =>
    if a = "!" then pure !(← threeArguments e b c d)
    else if a = "(" ∧ d = ")" then twoArguments e b c
    else manyArguments e args
  | _ => manyArguments e args

/-! ## The plain dialect -/

namespace Plain

/-- What an argument is. -/
inductive Sort_ where
  | finish
  | operand
  | unary (letter : Char)
  | binary
  | not
  | and
  | or
  | open_
  | close
  deriving DecidableEq

/-- What the first of some arguments is. -/
def sortOf : List String → Sort_
  | [] => .finish
  | s :: rest =>
    match s with
    | "!" => .not
    | "-a" => .and
    | "-o" => .or
    | "(" => if rest.isEmpty then .operand else .open_
    | ")" => .close
    | _ =>
      match unaryOf? .plain s with
      | some c =>
        let isOperand : Bool :=
          match rest with
          | [] => true
          | [_] => false
          | t :: _ => (binaryOperators .plain).contains t
        if isOperand then .operand else .unary c
      | none => if (binaryOperators .plain).contains s then .binary else .operand

mutual

/-- Tests of which one has to hold; what is left begins with the last argument that was used. -/
def anyOf (e : Engine) : (fuel : Nat) → Sort_ → List String → Asking (Bool × List String)
  | 0, _, args => pure (false, args)
  | fuel + 1, k, args => do
    let (x, args) ← allOf e fuel k args
    if sortOf (args.drop 1) = .or then
      let next := args.drop 2
      let (y, args) ← anyOf e fuel (sortOf next) next
      pure (x || y, args)
    else pure (x, args)

/-- Tests that all have to hold. -/
def allOf (e : Engine) : (fuel : Nat) → Sort_ → List String → Asking (Bool × List String)
  | 0, _, args => pure (false, args)
  | fuel + 1, k, args => do
    let (x, args) ← negated e fuel k args
    if sortOf (args.drop 1) = .and then
      let next := args.drop 2
      let (y, args) ← allOf e fuel (sortOf next) next
      pure (x && y, args)
    else pure (x, args)

/-- A test, or the opposite of one. -/
def negated (e : Engine) : (fuel : Nat) → Sort_ → List String → Asking (Bool × List String)
  | 0, _, args => pure (false, args)
  | fuel + 1, k, args => do
    if k = .not then
      let next := sortOf (args.drop 1)
      let (x, args) ← negated e fuel next (if next = .finish then args else args.drop 1)
      pure (!x, args)
    else primary e fuel k args

/-- A single test. -/
def primary (e : Engine) : (fuel : Nat) → Sort_ → List String → Asking (Bool × List String)
  | 0, _, args => pure (false, args)
  | fuel + 1, k, args => do
    match k, args with
    | .finish, _ => pure (false, args)
    | .open_, _ =>
      let inside := args.drop 1
      let next := sortOf inside
      if next = .close then pure (false, inside)
      else
        let (x, left) ← anyOf e fuel next inside
        let behind := left.drop 1
        if sortOf behind = .close then pure (x, behind) else throw "closing paren expected"
    | .unary c, op :: rest =>
      match rest with
      | [] => throw (op ++ ": argument expected")
      | a :: _ =>
        if c = 't' then discard (integer .plain a)
        pure (← liftM (unary e c a), rest)
    | _, a :: rest =>
      if sortOf rest = .binary then
        match rest with
        | op :: b :: more => pure (← binary .plain a op b, b :: more)
        | op :: [] => throw (op ++ ": argument expected")
        | [] => pure (a != "", args)
      else pure (a != "", args)
    | _, [] => pure (false, args)

end

end Plain

/-- A test, by the rules of the plain dialect; `fuel` bounds how often it is negated. -/
def plain (e : Engine) : (fuel : Nat) → List String → Asking Bool
  | 0, _ => pure false
  | fuel + 1, args => do
    let finish (k : Plain.Sort_) (args : List String) : Asking Bool := do
      let (x, left) ← Plain.anyOf e (2 * args.length + 8) k args
      match left with
      | a :: _ :: _ => throw (a ++ ": unexpected operator")
      | _ => pure x
    match args with
    | [] => pure false
    | [a, op, b] =>
      if (binaryOperators .plain).contains op then finish .operand args
      else if a = "(" ∧ b = ")" then finish (Plain.sortOf [op]) [op]
      else if a = "!" then pure !(← plain e fuel [op, b])
      else finish (Plain.sortOf args) args
    | [a, b, c, d] =>
      if a = "(" ∧ d = ")" then finish (Plain.sortOf [b, c]) [b, c]
      else if a = "!" then pure !(← plain e fuel [b, c, d])
      else finish (Plain.sortOf args) args
    | _ => finish (Plain.sortOf args) args

/-- Asks, and gives the status of the answer. Faults are told by the name of the command. -/
def ask (name : String) (q : Asking Bool) : Act Nat := do
  match ← q.run with
  | .ok b => pure (if b then 0 else 1)
  | .error message =>
    Act.complain (name ++ ": " ++ message)
    pure 2

/-- The command for tests, by its name. -/
def run (e : Engine) (name : String) (args : List String) : Act Nat := do
  let d := (← Act.shell).dialect
  let asked (args : List String) : Asking Bool :=
    match d with
    | .rich => rich e args
    | .plain => plain e 4 args
  if name = "[" then
    let isClosed := args.getLast?.any fun a => a == "]" || (d == .plain && a.startsWith "]")
    if isClosed then ask name (asked args.dropLast)
    else
      Act.complain (if d = .rich then "[: missing \x60]'" else "[: missing ]")
      pure 2
  else ask name (asked args)

/-! ## Conditions between double brackets -/

/-- The value of an expression in a condition; a mistake in it makes the condition fail. -/
def computed (e : Engine) (text : String) : Act Int := do
  Act.modifyShell fun s => { s with speaker := some "[[" }
  Act.finally_ (e.compute text) (Act.modifyShell fun s => { s with speaker := none })

/-- The source of a regular expression: what is quoted stands for itself. -/
def regexSource (m : Marked) : String :=
  let rec go (inSet : Bool) : Marked → List Char
    | [] => []
    | (c, true) :: rest =>
      (if inSet then [c]
        else if "\\^$.|?*+()[]\x7b\x7d".toList.contains c then ['\\', c] else [c]) ++ go inSet rest
    | (c, false) :: rest =>
      c :: go (if c = '[' then true else if c = ']' then false else inSet) rest
  String.ofList (go false m)

/-- A text matches a regular expression, whose groups are kept. -/
def matchesRegex (text : String) (m : Marked) : Act Nat := do
  let style : Regex.Style := { extended := true, anyCase := ← Act.hasFeature "nocasematch" }
  match Regex.read style (regexSource m) with
  | .error _ =>
    pure 2
  | .ok (r, groups) =>
    let s := Subject.ofList text.toList
    match r.search? s 0 with
    | none =>
      Act.putValue "BASH_REMATCH" (.listed ∅)
      pure 1
    | some (first, last, gs) =>
      let parts := (List.range groups).map fun n =>
        String.ofList ((Regex.groupText s gs (n + 1)).getD [])
      Act.putValue "BASH_REMATCH" (Value.ofList (String.ofList (s.between first last) :: parts))
      pure 0

/-- A text as it is shown among the operands of a condition. -/
def operandText (s : String) : String := if s = "" then "''" else s

/-- A pattern as it is shown: what is quoted stands behind backslashes. -/
def patternText (m : Marked) : String :=
  operandText (String.ofList (m.flatMap fun (c, isQuoted) => if isQuoted then ['\\', c] else [c]))

/-- A condition. Each single one of it is shown once its operands are known; `inverted` tells that
it has to fail. A status of two tells a regular expression that cannot be read. -/
def condition (e : Engine) (display : String → Act Unit) : (inverted : Bool) → Condition → Act Nat
  | inverted, .word w => do
    let a ← Act.plainText e w
    tell inverted ("-n " ++ operandText a)
    pure (if a = "" then 1 else 0)
  | inverted, .not c => do
    match ← condition e display (!inverted) c with
    | 0 => pure 1
    | 1 => pure 0
    | n => pure n
  | _, .group c => condition e display false c
  | _, .and a b => do
    match ← condition e display false a with
    | 0 => condition e display false b
    | n => pure n
  | _, .or a b => do
    match ← condition e display false a with
    | 1 => condition e display false b
    | n => pure n
  | inverted, .unary op w => do
    let a ← Act.plainText e w
    tell inverted (op ++ " " ++ operandText a)
    let c := (op.toList.getLast?).getD 'n'
    pure (if ← unary e c a then 0 else 1)
  | inverted, .binary op a b => do
    let x ← Act.plainText e a
    let both (y : String) : Act Unit := tell inverted (operandText x ++ " " ++ op ++ " " ++ y)
    if op = "=" ∨ op = "==" ∨ op = "!=" then
      let b ← Act.expandTildes false b
      let p ← Act.wordPattern e b
      both (patternText p)
      let style := { ← Act.patternStyle with extended := true }
      let hit := Pattern.isMatch style p x.toList
      pure (if hit != (op = "!=") then 0 else 1)
    else if op = "=~" then
      let p ← Act.wordPattern e b
      both (operandText (regexSource p))
      matchesRegex x p
    else
      let y ← Act.plainText e b
      both (operandText y)
      if comparisons.contains op then
        match ← Act.attempt (do pure (← computed e x, ← computed e y)) with
        | .ok (m, n) => pure (if compare op m n then 0 else 1)
        | .error .abort => pure 1
        | .error f => throw f
      else
        match op with
        | "<" => pure (if x < y then 0 else 1)
        | ">" => pure (if y < x then 0 else 1)
        | _ => pure (if ← files op x y then 0 else 1)
where
  /-- Shows a single condition. -/
  tell (inverted : Bool) (text : String) : Act Unit :=
    display ("[[ " ++ (if inverted then "! " else "") ++ text ++ " ]]")

end Runbook.Shell.Test
