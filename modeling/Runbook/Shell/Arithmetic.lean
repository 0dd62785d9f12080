import Runbook.Shell.Process.Variable

/-!
# `Shell/Arithmetic` — expressions with numbers

Expressions over words of 64 bits, with variables that may be set on the way. They are evaluated
while they are read, so that what is not needed is read but has no effect. A mistake is told with
the expression and the token at which it shows.

`Arithmetic.evaluate` is for the rich dialect, in which the value of a variable may be an expression
again, and `Arithmetic.Plain.evaluate` for the plain one, in which it has to be a number.
-/

set_option autoImplicit false

namespace Runbook.Shell.Arithmetic

/-- A token of an expression. -/
inductive Sign where
  | finish
  | number
  | name
  | op (text : String)
  deriving DecidableEq, Repr

/-- The reading of an expression. -/
structure State where
  /-- All of the expression. -/
  text : List Char
  rest : List Char
  /-- The text from the latest token on. -/
  here : List Char
  current : Sign := .finish
  last : Sign := .finish
  value : Int := 0
  /-- The variable that has just been read, with its index. -/
  name : String := ""
  index : Option String := none
  /-- The operator of an assignment. -/
  assigns : String := ""
  /-- Nothing has an effect while this is positive. -/
  idle : Nat := 0

/-- Computing. -/
abbrev Calc := StateT State Act

/-- The operators that several characters spell. -/
def longOperators : List String :=
  ["<<=", ">>=", "**", "==", "!=", "<=", ">=", "&&", "||", "<<", ">>", "*=", "/=", "%=", "+=", "-=",
    "&=", "^=", "|="]

/-- A character that some operator begins with. -/
def isOperator (c : Char) : Bool := "=<>!&|^~+-*/%()?:,".toList.contains c

/-- Tells what is wrong and gives up. -/
def fault {α : Type} (message : String) : Calc α := do
  let s ← get
  let speaker ← Act.shell
  let name := match speaker.speaker with
    | some c => c ++ ": "
    | none => ""
  Act.complain (name ++ String.ofList (s.text.dropWhile isNumberSpace) ++ ": " ++ message ++
    " (error token is \"" ++ String.ofList s.here ++ "\")")
  Act.setStatus 1
  throw .abort

/-- The value of a digit in a base beyond thirty-six too. -/
def digitValue (base : Nat) (c : Char) : Nat :=
  if c.isDigit then c.toNat - 48
  else if 'a' ≤ c ∧ c ≤ 'z' then c.toNat - 87
  else if 'A' ≤ c ∧ c ≤ 'Z' then if base ≤ 36 then c.toNat - 55 else c.toNat - 29
  else if c = '@' then 62
  else 63

/-- The number that digits denote in a base. -/
def digitsIn (base : Nat) (cs : List Char) : Calc Int := do
  if cs.any fun c => c == '#' then fault "invalid number"
  else if cs.any fun c => base ≤ digitValue base c then fault "value too great for base"
  else pure (wrap (cs.foldl (fun n c => n * (base : Int) + digitValue base c) 0))

/-- The number that a token denotes. -/
def numberOf (cs : List Char) : Calc Int := do
  match cs with
  | '0' :: [] => pure 0
  | '0' :: 'x' :: rest | '0' :: 'X' :: rest => digitsIn 16 rest
  | '0' :: rest => digitsIn 8 rest
  | _ =>
    match cs.span (· != '#') with
    | (base, '#' :: digits) =>
      let b ← digitsIn 10 base
      if b < 2 ∨ 64 < b then fault "invalid arithmetic base"
      else if digits.isEmpty then fault "invalid integer constant"
      else digitsIn b.toNat digits
    | _ => digitsIn 10 cs

/-- The value of a variable. `inner` computes what it holds. -/
def variableValue (e : Engine) (inner : String → Act Int) (name : String)
    (index : Option String) : Calc Int := do
  if 0 < (← get).idle then pure 0
  else
    let text ← match index with
      | some "@" | some "*" => Act.textOf? name
      | some i => Act.elementAt e name i
      | none => Act.textOf? name
    match text with
    | none =>
      if ← Act.isOn "nounset" then
        Act.complain (name ++ ": unbound variable")
        Act.exitWith (if (← Act.shell).isSubshell then 1 else 127)
      else pure 0
    | some t => if t.toList.all isNumberSpace then pure 0 else inner t

/-- An index that is computed once and for all, where its variable has numbered elements. -/
def settledIndex (e : Engine) (name : String) (index : Option String) : Calc (Option String) := do
  match index with
  | none | some "@" | some "*" => pure index
  | some i =>
    if 0 < (← get).idle then pure index
    else
      match ← Act.valueOf name with
      | .keyed _ => pure index
      | _ => pure (some (intText (← e.compute i)))

/-- What is behind the blanks. -/
def behindBlanks (cs : List Char) : List Char := cs.dropWhile isNumberSpace

/-- The text between square brackets at the front, and what is behind them. -/
def takeBrackets? : (depth : Nat) → (done : List Char) → List Char → Option (List Char × List Char)
  | _, _, [] => none
  | depth, done, c :: rest =>
    if c = ']' then
      if depth = 0 then some (done.reverse, rest) else takeBrackets? (depth - 1) (c :: done) rest
    else takeBrackets? (if c = '[' then depth + 1 else depth) (c :: done) rest

/-- An assignment is next. -/
def isAssignment (cs : List Char) : Bool :=
  match behindBlanks cs with
  | '=' :: '=' :: _ => false
  | '=' :: _ => true
  | _ => false

/-- Reads the next token. -/
def next (e : Engine) (inner : String → Act Int) : Calc Unit := do
  let s ← get
  match behindBlanks s.rest with
  | [] => set { s with rest := [], last := s.current, current := .finish }
  | c :: rest =>
    let here := c :: rest
    set { s with rest := here, here := here }
    if isNameStart c then
      let (name, behind) := here.span isNameRest
      let (index, behind) : Option (List Char) × List Char :=
        match behind with
        | '[' :: more =>
          match takeBrackets? 0 [] more with
          | some (inside, final) => (some inside, final)
          | none => (none, behind)
        | _ => (none, behind)
      let name := String.ofList name
      let index := index.map String.ofList
      let before := s.current
      let wanted := before = .op "++x" ∨ before = .op "--x" ∨ !isAssignment behind
      let index ← if wanted then settledIndex e name index else pure index
      let value ← if wanted then variableValue e inner name index else pure 0
      modify fun s =>
        { s with rest := behind, last := before, current := .name, name, index, value }
    else if c.isDigit then
      let (digits, behind) :=
        here.span fun d => d.isAlphanum || d == '#' || d == '@' || d == '_'
      let value ← numberOf digits
      modify fun s => { s with rest := behind, last := s.current, current := .number, value }
    else
      let put (op : String) (length : Nat) : Calc Unit :=
        modify fun s =>
          { s with rest := here.drop length, last := s.current, current := .op op }
      let assign (op : String) (length : Nat) : Calc Unit :=
        modify fun s =>
          { s with
            rest := here.drop length
            last := s.current
            current := .op "op="
            assigns := op }
      let two := rest.head? == some c && (c == '+' || c == '-')
      if two && s.current == .name then put (if c == '+' then "x++" else "x--") 2
      else if two && (behindBlanks (rest.drop 1)).head?.any isNameStart then
        put (if c == '+' then "++x" else "--x") 2
      else
        match longOperators.find? fun o => o.toList.isPrefixOf here with
        | some o =>
          if o.toList.getLast? == some '=' && !(["==", "!=", "<=", ">="].contains o) then
            assign (String.ofList o.toList.dropLast) o.length
          else put o o.length
        | none =>
          if isOperator c then put (String.singleton c) 1
          else
            match s.current with
            | .number | .name | .op "x++" | .op "x--" | .op ")" =>
              fault "syntax error: invalid arithmetic operator"
            | _ => fault "syntax error: operand expected"

/-- A power, by squares; `fuel` bounds the digits of the exponent. -/
def fastPower : (fuel : Nat) → (base : Int) → (exponent : Nat) → Int
  | 0, _, _ => 1
  | fuel + 1, base, n =>
    if n = 0 then 1
    else
      let half := fastPower fuel (wrap (base * base)) (n / 2)
      if n % 2 = 1 then wrap (half * base) else half

/-- The number of truth. -/
def truth (b : Bool) : Int := if b then 1 else 0

/-- The result of an operator with two operands, where there is one. -/
def operated? (op : String) (a b : Int) : Option Int :=
  let bits (f : Nat → Nat → Nat) : Int := wrap (f (unsignedWord a) (unsignedWord b) : Nat)
  let places := (b % 64).toNat
  match op with
  | "+" => some (wrap (a + b))
  | "-" => some (wrap (a - b))
  | "*" => some (wrap (a * b))
  | "/" => if b = 0 then none else some (wrap (Int.tdiv a b))
  | "%" => if b = 0 then none else some (Int.tmod a b)
  | "<<" => some (wrap (a * (Nat.pow 2 places : Nat)))
  | ">>" => some (Int.fdiv a (Nat.pow 2 places : Nat))
  | "<" => some (truth (a < b))
  | ">" => some (truth (b < a))
  | "<=" => some (truth (a ≤ b))
  | ">=" => some (truth (b ≤ a))
  | "==" => some (truth (a = b))
  | "!=" => some (truth (a ≠ b))
  | "&" => some (bits Nat.land)
  | "^" => some (bits Nat.xor)
  | "|" => some (bits Nat.lor)
  | "&&" => some (truth (a ≠ 0 ∧ b ≠ 0))
  | "||" => some (truth (a ≠ 0 ∨ b ≠ 0))
  | _ => none

/-- The operators of a level, from those that bind the least. -/
def operatorsAt : Nat → List String
  | 0 => ["||"]
  | 1 => ["&&"]
  | 2 => ["|"]
  | 3 => ["^"]
  | 4 => ["&"]
  | 5 => ["==", "!="]
  | 6 => ["<=", ">=", "<", ">"]
  | 7 => ["<<", ">>"]
  | 8 => ["+", "-"]
  | _ => ["*", "/", "%"]

/-- The level that binds the most. -/
def lastLevel : Nat := 9

/-- Something is done without effects if a condition holds. -/
def idly {α : Type} (b : Bool) (c : Calc α) : Calc α := do
  if b then
    modify fun s => { s with idle := s.idle + 1 }
    let a ← c
    modify fun s => { s with idle := s.idle - 1 }
    pure a
  else c

/-- Sets a variable. One that must not be set ends the expression, unlike an index that means no
element. -/
def store (e : Engine) (name : String) (index : Option String) (n : Int) : Calc Unit := do
  if (← get).idle = 0 then
    if !(← Act.setText e name index false (intText n)) then
      if (← Act.variableOf? name).any (·.fixed) then
        Act.setStatus 1
        throw (Flow.abort)

/-- What has just been read counts as a number. -/
def asNumber : Calc Unit := modify fun s => { s with last := .number }

mutual

/-- Expressions with commas between them. -/
def sequence (e : Engine) (inner : String → Act Int) : (fuel : Nat) → Calc Int
  | 0 => fault "syntax error in expression"
  | fuel + 1 => do
    let a ← assignment e inner fuel
    match (← get).current with
    | .op "," =>
      next e inner
      sequence e inner fuel
    | _ => pure a

/-- An expression that may set a variable. -/
def assignment (e : Engine) (inner : String → Act Int) : (fuel : Nat) → Calc Int
  | 0 => fault "syntax error in expression"
  | fuel + 1 => do
    let a ← conditional e inner fuel
    let s ← get
    let isPlain := s.current = .op "="
    if isPlain ∨ s.current = .op "op=" then
      if s.last ≠ .name then fault "attempted assignment to non-variable"
      let op := s.assigns
      next e inner
      let at_ := (← get).here
      let b ← assignment e inner fuel
      let n ← do
        if isPlain then pure b
        else
          match operated? op a b with
          | some n => pure n
          | none =>
            if (← get).idle = 0 then
              modify fun s => { s with here := at_ }
              fault "division by 0"
            else pure 0
      store e s.name s.index n
      asNumber
      pure n
    else pure a

/-- An expression that may choose. -/
def conditional (e : Engine) (inner : String → Act Int) : (fuel : Nat) → Calc Int
  | 0 => fault "syntax error in expression"
  | fuel + 1 => do
    let c ← binary e inner fuel 0
    match (← get).current with
    | .op "?" =>
      let a ← idly (c == 0) do
        next e inner
        if (← get).current = .finish ∨ (← get).current = .op ":" then fault "expression expected"
        sequence e inner fuel
      if (← get).current ≠ .op ":" then fault "\x60:' expected for conditional expression"
      let b ← idly (c != 0) do
        next e inner
        if (← get).current = .finish then fault "expression expected"
        conditional e inner fuel
      modify fun s => { s with last := .op "?" }
      pure (if c ≠ 0 then a else b)
    | _ => pure c

/-- An expression of the operators of a level and above. -/
def binary (e : Engine) (inner : String → Act Int) : (fuel : Nat) → (level : Nat) → Calc Int
  | 0, _ => fault "syntax error in expression"
  | fuel + 1, level => do
    let a ← operand e inner fuel level
    furtherOperands e inner fuel level a

/-- An operand of the operators of a level. -/
def operand (e : Engine) (inner : String → Act Int) : (fuel : Nat) → (level : Nat) → Calc Int
  | 0, _ => fault "syntax error in expression"
  | fuel + 1, level =>
    if level = lastLevel then powers e inner fuel else binary e inner fuel (level + 1)

/-- The further operands of the operators of a level, behind one. -/
def furtherOperands (e : Engine) (inner : String → Act Int) : (fuel : Nat) → (level : Nat) →
    (a : Int) → Calc Int
  | 0, _, a => pure a
  | fuel + 1, level, a => do
    match (← get).current with
    | .op op =>
      if (operatorsAt level).contains op then
        let skips := (op == "||" && a != 0) || (op == "&&" && a == 0)
        let at_ := behindBlanks (← get).rest
        let b ← idly skips do
          next e inner
          operand e inner fuel level
        match operated? op a b with
        | some n =>
          asNumber
          furtherOperands e inner fuel level n
        | none =>
          if (← get).idle = 0 then
            modify fun s => { s with here := at_ }
            fault "division by 0"
          else furtherOperands e inner fuel level 0
      else pure a
    | _ => pure a

/-- Powers, from the right. -/
def powers (e : Engine) (inner : String → Act Int) : (fuel : Nat) → Calc Int
  | 0 => fault "syntax error in expression"
  | fuel + 1 => do
    let a ← unary e inner fuel
    match (← get).current with
    | .op "**" =>
      next e inner
      let b ← powers e inner fuel
      asNumber
      if b < 0 then fault "exponent less than 0"
      pure (fastPower 64 a b.toNat)
    | _ => pure a

/-- An operand with signs in front of it. -/
def unary (e : Engine) (inner : String → Act Int) : (fuel : Nat) → Calc Int
  | 0 => fault "syntax error in expression"
  | fuel + 1 => do
    let sign (f : Int → Int) : Calc Int := do
      next e inner
      let a ← unary e inner fuel
      asNumber
      pure (wrap (f a))
    match (← get).current with
    | .op "!" => sign fun a => truth (a = 0)
    | .op "~" => sign fun a => -a - 1
    | .op "-" => sign fun a => -a
    | .op "+" => sign id
    | _ => primary e inner fuel

/-- A number, a variable, or an expression in parentheses. -/
def primary (e : Engine) (inner : String → Act Int) : (fuel : Nat) → Calc Int
  | 0 => fault "syntax error in expression"
  | fuel + 1 => do
    let s ← get
    match s.current with
    | .op "++x" | .op "--x" =>
      next e inner
      let t ← get
      if t.current ≠ .name then
        fault "identifier expected after pre-increment or pre-decrement"
      let n := wrap (t.value + if s.current = .op "++x" then 1 else -1)
      store e t.name t.index n
      modify fun s => { s with current := .number }
      next e inner
      asNumber
      pure n
    | .op "(" =>
      next e inner
      let a ← sequence e inner fuel
      if (← get).current ≠ .op ")" then fault "missing \x60)'"
      next e inner
      pure a
    | .number =>
      next e inner
      pure s.value
    | .name =>
      next e inner
      match (← get).current with
      | .op "x++" | .op "x--" =>
        let up := (← get).current = .op "x++"
        store e s.name s.index (wrap (s.value + if up then 1 else -1))
        modify fun t => { t with current := .number }
        next e inner
        asNumber
        pure s.value
      | _ =>
        -- The name is still the one to be set by an assignment.
        modify fun t =>
          if t.current = .op "=" ∨ t.current = .op "op=" then
            { t with name := s.name, index := s.index, last := .name }
          else t
        pure s.value
    | _ => fault "syntax error: operand expected"

end

/-- The value of an expression; `levels` bounds how deep values of variables are expressions. The
expression that holds the one too deep is told. -/
def evaluate (e : Engine) : (levels : Nat) → String → Act Int
  | 0, _ => pure 0
  | levels + 1, text => do
    let cs := text.toList
    if cs.all isNumberSpace then pure 0
    else
      let inner := fun t =>
        if levels = 0 then do
          Act.complain (text ++ ": expression recursion level exceeded (error token is \"" ++ text ++
            "\")")
          Act.setStatus 1
          throw .abort
        else evaluate e levels t
      let fuel := 16 * cs.length + 64
      let work : Calc Int := do
        next e inner
        let n ← sequence e inner fuel
        if (← get).current ≠ .finish then fault "syntax error in expression"
        pure n
      let (n, _) ← work { text := cs, rest := cs, here := cs }
      pure n

/-! ## The plain dialect -/

namespace Plain

/-- The reading of an expression. -/
structure State where
  text : List Char
  rest : List Char
  idle : Nat := 0

/-- Computing. -/
abbrev Calc := StateT State Act

/-- Tells what is wrong and ends the shell. -/
def fault {α : Type} (message : String) : Calc α := do
  Act.complain ("arithmetic expression: " ++ message ++ ": \"" ++ String.ofList (← get).text ++ "\"")
  Act.exitWith 2

/-- The operators of a level, from those that bind the least; longer ones come first. -/
def operators : List String :=
  ["<<=", ">>=", "*=", "/=", "%=", "+=", "-=", "&=", "^=", "|=", "==", "!=", "<=", ">=", "<<", ">>",
    "&&", "||", "=", "<", ">", "!", "&", "|", "^", "~", "+", "-", "*", "/", "%", "(", ")", "?", ":"]

/-- The operator that is next. -/
def peek : Calc (Option String) := do
  modify fun s => { s with rest := behindBlanks s.rest }
  let cs := (← get).rest
  pure (operators.find? fun o => o.toList.isPrefixOf cs)

/-- Takes so many characters. -/
def drop (n : Nat) : Calc Unit := modify fun s => { s with rest := s.rest.drop n }

/-- The integer that the value of a variable is. -/
def integerOf (text : String) : Act Int := do
  match takeInteger? text.toList with
  | some (n, rest) =>
    if rest.all isNumberSpace then pure (max leastWord (min greatestWord n))
    else
      Act.complain ("Illegal number: " ++ text)
      Act.exitWith 2
  | none =>
    if text.toList.all isNumberSpace then pure 0
    else
      Act.complain ("Illegal number: " ++ text)
      Act.exitWith 2

/-- The same effects, unless a condition holds. -/
def idly {α : Type} (b : Bool) (c : Calc α) : Calc α := do
  if b then
    modify fun s => { s with idle := s.idle + 1 }
    let a ← c
    modify fun s => { s with idle := s.idle - 1 }
    pure a
  else c

/-- The result of an operator, which must be there. -/
def result (op : String) (a b : Int) : Calc Int := do
  match operated? op a b with
  | some n => pure n
  | none => if (← get).idle = 0 then fault "division by zero" else pure 0

mutual

/-- An expression that may set a variable. -/
def assignment (e : Engine) : (fuel : Nat) → Calc Int
  | 0 => fault "expecting primary"
  | fuel + 1 => do
    modify fun s => { s with rest := behindBlanks s.rest }
    let s ← get
    let name := s.rest.takeWhile isNameRest
    let set? : Option (String × Nat) :=
      if s.rest.head?.any isNameStart then
        let behind := behindBlanks (s.rest.drop name.length)
        let before := s.rest.length - behind.length
        match operators.find? fun o => o.toList.isPrefixOf behind with
        | some o =>
          if o = "=" then some ("", before + 1)
          else if o.toList.getLast? = some '=' ∧ !(["==", "!=", "<=", ">="].contains o) then
            some (String.ofList o.toList.dropLast, before + o.length)
          else none
        | none => none
      else none
    match set? with
    | some (op, length) =>
      drop length
      let b ← assignment e fuel
      let name := String.ofList name
      let n ← do
        if op = "" then pure b
        else
          let a ← if 0 < (← get).idle then pure 0 else integerOf (← Act.textOf name)
          result op a b
      if (← get).idle = 0 then
        Act.assignText e name (intText n)
      pure n
    | none =>
      let c ← binary e fuel 0
      match ← peek with
      | some "?" =>
        drop 1
        let a ← idly (c == 0) (assignment e fuel)
        match ← peek with
        | some ":" => drop 1
        | _ => fault "expecting ':'"
        let b ← idly (c != 0) (assignment e fuel)
        pure (if c ≠ 0 then a else b)
      | _ => pure c

/-- An expression of the operators of a level and above. -/
def binary (e : Engine) : (fuel : Nat) → (level : Nat) → Calc Int
  | 0, _ => fault "expecting primary"
  | fuel + 1, level => do
    let a ← operand e fuel level
    furtherOperands e fuel level a

/-- An operand of the operators of a level. -/
def operand (e : Engine) : (fuel : Nat) → (level : Nat) → Calc Int
  | 0, _ => fault "expecting primary"
  | fuel + 1, level => if level = lastLevel then unary e fuel else binary e fuel (level + 1)

/-- The further operands of the operators of a level, behind one. -/
def furtherOperands (e : Engine) : (fuel : Nat) → (level : Nat) → (a : Int) → Calc Int
  | 0, _, a => pure a
  | fuel + 1, level, a => do
    match ← peek with
    | some op =>
      if (operatorsAt level).contains op then
        drop op.length
        let skips := (op == "||" && a != 0) || (op == "&&" && a == 0)
        let b ← idly skips (operand e fuel level)
        let n ← result op a b
        furtherOperands e fuel level n
      else pure a
    | none => pure a

/-- An operand with signs in front of it. -/
def unary (e : Engine) : (fuel : Nat) → Calc Int
  | 0 => fault "expecting primary"
  | fuel + 1 => do
    match ← peek with
    | some "!" =>
      drop 1
      pure (truth ((← unary e fuel) = 0))
    | some "~" =>
      drop 1
      pure (-(← unary e fuel) - 1)
    | some "-" =>
      drop 1
      pure (wrap (-(← unary e fuel)))
    | some "+" =>
      drop 1
      unary e fuel
    | some "(" =>
      drop 1
      let a ← assignment e fuel
      match ← peek with
      | some ")" => drop 1
      | _ => fault "expecting ')'"
      pure a
    | _ =>
      let s ← get
      match s.rest with
      | c :: _ =>
        if c.isDigit then
          let (base, digits) := baseOf s.rest
          let (ds, behind) := spanDigits base digits
          modify fun s => { s with rest := behind }
          pure (min greatestWord (ofDigits base ds))
        else if isNameStart c then
          let (name, behind) := s.rest.span isNameRest
          modify fun s => { s with rest := behind }
          if 0 < s.idle then pure 0 else integerOf (← Act.textOf (String.ofList name))
        else fault "expecting primary"
      | [] => fault "expecting primary"

end

/-- The value of an expression. -/
def evaluate (e : Engine) (text : String) : Act Int := do
  let cs := text.toList
  let work : Calc Int := do
    let n ← assignment e (16 * cs.length + 64)
    if !(behindBlanks (← get).rest).isEmpty then fault "expecting EOF"
    pure n
  let (n, _) ← work { text := cs, rest := cs }
  pure n

end Plain

end Runbook.Shell.Arithmetic
