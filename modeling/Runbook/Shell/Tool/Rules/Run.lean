import Runbook.Shell.Tool.Rules.Read
import Runbook.Shell.Tool.Rules.State

/-!
# `Shell/Tool/Rules/Run` — doing what rules say

Expressions have values and change names, fields and tables; statements print and lead on. A
function is called with values, and with tables that it shares with its caller. `fuel` bounds how
deep expressions, statements and calls lie inside each other.
-/

set_option autoImplicit false

namespace Runbook.Shell.Rules

namespace Doing

/-- The key of values side by side. -/
def keyOf (cs : List Cell) : Doing (List Char) := do
  let between ← globalText "SUBSEP"
  let parts ← cs.mapM text
  pure (between.intercalate parts)

/-- A key of a table. -/
inductive Key where
  | number (n : Int)
  | text (s : String)

/-- The text of a key. -/
def Key.spelling : Key → String
  | .number n => intText n
  | .text s => s

/-- The key that values are. -/
def keyOfCells (cs : List Cell) : Doing Key := do
  match cs with
  | [.number x] =>
    match wholeNumber? x with
    | some n => pure (.number n)
    | none => pure (.text (String.ofList (← keyOf cs)))
  | _ => pure (.text (String.ofList (← keyOf cs)))

/-- Something that can be given a value, with its keys and indices known. -/
inductive Place where
  | name (n : String)
  | field (index : Nat)
  | element (table : Nat) (key : Key)

/-- The value of a place. A key that is not there comes to be there. -/
def read (p : Place) : Doing Cell := do
  match p with
  | .name n =>
    if n = "NF" && !(← get).locals.contains n then splitRecord
    match ← bound n with
    | .cell c => pure c
    | _ => pure .unset
  | .field i => fieldAt i
  | .element id key =>
    modifyTable id fun t => match key with
      | .number n => t.visitNumber n
      | .text s => t.visit s
    pure (((← table id).cells[key.spelling]?).getD .unset)

/-- Gives a place a value. -/
def write (p : Place) (c : Cell) : Doing Unit := do
  match p with
  | .name n =>
    if (← get).locals.contains n then bind_ n (.cell c)
    else if n = "NF" then
      splitRecord
      resize (wordOf c.toNumber).toNat
    else
      if n = "FS" then splitRecord
      match ← bound n with
      | .table _ => failHere ("cannot use " ++ n ++ " as a scalar")
      | _ => bind_ n (.cell c)
  | .field i => setField i c
  | .element id key =>
    modifyTable id fun t => match key with
      | .number n => t.insertNumber n c
      | .text s => t.insert s c

/-- The remainder of a division, which has the sign of the dividend. -/
def remainder (a b : Float) : Float :=
  if a.isNaN || b.isNaN || a.isInf || b == 0.0 then 0.0 / 0.0
  else if b.isInf then a
  else
    match Real.ofFloat a, Real.ofFloat b with
    | .finite negative n d, .finite _ m e =>
      let (x, y) := (n * e, m * d)
      (Real.finite negative (x % y) (d * e)).toFloat
    | _, _ => a

/-- An operation on numbers. -/
def compute (op : Char) (a b : Float) : Float :=
  match op with
  | '+' => a + b
  | '-' => a - b
  | '*' => a * b
  | '/' => a / b
  | '%' => remainder a b
  | _ => Float.pow a b

/-- Two values stand in an order: numbers by what they are worth, all else by its bytes. -/
def compare (o : Order) (a b : Cell) : Doing Bool := do
  match a.number?, b.number? with
  | some x, some y =>
    pure (match o with
      | .less => x < y
      | .atMost => x <= y
      | .same => x == y
      | .other => x != y
      | .more => y < x
      | .atLeast => y <= x)
  | _, _ =>
    let x := (← text a).map Char.toNat
    let y := (← text b).map Char.toNat
    pure (match o with
      | .less => decide (x < y)
      | .atMost => !decide (y < x)
      | .same => x == y
      | .other => x != y
      | .more => decide (y < x)
      | .atLeast => !decide (x < y))

/-! ## Functions of the language -/

/-- The bytes of a text from a place, so many of them if that is told. A place before the text makes
the part longer. -/
def part (cs : List Char) (start : Float) (length : Option Float) : List Char :=
  let first := wordOf start
  match length with
  | none => cs.drop (first - 1).toNat
  | some l =>
    let count := wordOf l
    if first < 1 then cs.take (count - first).toNat
    else (cs.drop (first - 1).toNat).take count.toNat

/-- Where a text occurs in another one, counted from one. -/
def placeIn (cs sought : List Char) : Nat :=
  let rec go : (place : Nat) → List Char → Nat
    | place, [] => if sought.isEmpty then place else 0
    | place, c :: rest => if sought.isPrefixOf (c :: rest) then place else go (place + 1) rest
  go 1 cs

/-- What takes the place of a match. -/
def replacement (found : List Char) : List Char → List Char
  | [] => []
  | '\\' :: '\\' :: '&' :: rest => '\\' :: found ++ replacement found rest
  | '\\' :: '&' :: rest => '&' :: replacement found rest
  | '&' :: rest => found ++ replacement found rest
  | c :: rest => c :: replacement found rest

/-- A text with matches replaced: all of them, or only the first one. `fuel` bounds their number.
An empty match right behind another match does not count. -/
def replaceFrom (r : Regex) (all : Bool) (new : List Char) (s : Subject) :
    (fuel : Nat) → (place : Nat) → (behind : Option Nat) → Nat × List Char
  | 0, place, _ => (0, s.between place s.text.size)
  | fuel + 1, place, behind =>
    match r.search? s place with
    | none => (0, s.between place s.text.size)
    | some (first, last, _) =>
      let before := s.between place first
      if first = last ∧ behind = some first then
        if first < s.text.size then
          let (n, rest) := replaceFrom r all new s fuel (first + 1) none
          (n, before ++ s.between first (first + 1) ++ rest)
        else (0, before)
      else
        let put := replacement (s.between first last) new
        if !all then (1, before ++ put ++ s.between last s.text.size)
        else if first = last then
          if first < s.text.size then
            let (n, rest) := replaceFrom r all new s fuel (first + 1) none
            (n + 1, before ++ put ++ s.between first (first + 1) ++ rest)
          else (1, before ++ put)
        else
          let (n, rest) := replaceFrom r all new s fuel last (some last)
          (n + 1, before ++ put ++ rest)

/-- Printing by a format, and the fault that ends it, if there is one. -/
def formatted (name : String) (cs : List Cell) : Doing (List Char × Option String) := do
  match cs with
  | [] => pure ([], none)
  | f :: args =>
    let form : Formatting := { name := name, format := ← text f, numbers := ← numbers }
    pure (form.all args)

/-- Ends a stream by its name. -/
def close (e : Engine) (name : String) : Doing Float := do
  let s ← get
  let reads := (s.readers.lookup name).isSome
  modify fun s => { s with readers := s.readers.filter (·.1 != name) }
  match s.sinks.find? (·.name == name) with
  | some k =>
    modify fun s => { s with sinks := s.sinks.filter (·.name != name) }
    let n ← closeSink e k
    pure (Float.ofNat n)
  | none => pure (if reads then 0.0 else -1.0)

/-- The seconds since 1970. -/
def clock : Doing Int := do
  pure ((← act Act.disk).clock / 1000000000 : Nat)

/-- The moment that a text of six numbers tells. -/
def momentOf? (cs : List Char) : Option Int :=
  let ns := (Lines.words isGap cs).map fun w => (takeDecimal? w).map (·.1)
  match ns with
  | some y :: some mo :: some d :: some h :: some mi :: some s :: _ =>
    let month := Int.fmod (mo - 1) 12
    let year := y + Int.fdiv (mo - 1) 12
    let days := Moment.daysTo year (month + 1).toNat 1 + (d - 1)
    some (days * 86400 + h * 3600 + mi * 60 + s)
  | _ => none

/-- A function of the language whose arguments are plain values. -/
def simpleCall (e : Engine) (name : String) (cs : List Cell) : Doing Cell := do
  let num (x : Float) : Doing Cell := pure (.number x)
  let whole (n : Nat) : Doing Cell := pure (.number (Float.ofNat n))
  match name, cs with
  | "index", [a, b] =>
    let a ← text a
    let b ← text b
    whole (placeIn a b)
  | "substr", [a, b] => do pure (.text (part (← text a) b.toNumber none))
  | "substr", [a, b, c] => do pure (.text (part (← text a) b.toNumber (some c.toNumber)))
  | "length", [] => do whole (← wholeRecord).length
  | "length", [a] => do whole (← text a).length
  | "sprintf", _ =>
    match ← formatted "sprintf" cs with
    | (cs, none) => pure (.text cs)
    | (_, some message) => failHere message
  | "sin", [a] => num (Float.sin a.toNumber)
  | "cos", [a] => num (Float.cos a.toNumber)
  | "atan2", [a, b] => num (Float.atan2 a.toNumber b.toNumber)
  | "exp", [a] => num (Float.exp a.toNumber)
  | "log", [a] => num (Float.log a.toNumber)
  | "sqrt", [a] => num (Float.sqrt a.toNumber)
  | "int", [a] => num (truncated a.toNumber)
  | "rand", _ => do
    let n := ((← get).random * 1103515245 + 12345) % 2147483648
    modify fun s => { s with random := n }
    num (Float.ofNat n / 2147483648.0)
  | "srand", _ => do
    let before := (← get).seed
    let seed ← match cs with
      | a :: _ => pure a.toNumber
      | [] => do pure (Float.ofInt (← clock))
    modify fun s => { s with seed := seed, random := (wordOf seed).natAbs }
    num before
  | "toupper", [a] => do pure (.text ((← text a).map Char.toUpper))
  | "tolower", [a] => do pure (.text ((← text a).map Char.toLower))
  | "close", [a] => do num (← close e (String.ofList (Raw.joined (← text a))))
  | "system", [a] =>
    let cs ← text a
    flushAll
    let n ← command e "sh" (String.ofList (Raw.joined cs)) none
    whole n
  | "fflush", _ =>
    flushAll
    num 0.0
  | "systime", _ => do num (Float.ofInt (← clock))
  | "mktime", a :: _ => do
    match momentOf? (← text a) with
    | some n => num (Float.ofInt n)
    | none => num (-1.0)
  | "strftime", _ =>
    let form ← match cs with
      | a :: _ => text a
      | [] => pure "%c".toList
    let at_ ← match cs with
      | _ :: b :: _ => pure (wordOf b.toNumber)
      | _ => clock
    pure (.text ((Moment.ofEpoch at_ 0).written (String.ofList form)).toList)
  | _, _ => pure .unset

/-! ## Input of its own -/

/-- The next record of a stream, and whether it could be read. -/
def streamRecord (name : String) (openNew : Doing (Except Errno Source)) :
    Doing (Except Unit (Option (List Char))) := do
  let source ← match (← get).readers.lookup name with
    | some s => pure (Except.ok s)
    | none => openNew
  match source with
  | .error _ => pure (.error ())
  | .ok source =>
    let keep (s : Source) : Doing Unit :=
      modify fun st => { st with readers := (name, s) :: st.readers.filter (·.1 != name) }
    match ← takeRecord (← recordEnd) source with
    | some (r, source) =>
      keep source
      pure (.ok (some r))
    | none =>
      keep { source with rest := [] }
      pure (.ok none)

/-- The greatest number of times that a loop goes round. -/
def maxRounds : Nat := 1000000000000

/-- How deep functions may call each other. -/
def maxCalls : Nat := 1000

/-! ## Expressions and statements -/

/-- What running a program needs: the engine, and the functions of the program. -/
structure Context where
  engine : Engine
  functions : Std.HashMap String Function

/-- Rounds of a loop: `again` tells whether another one begins, and `after` is done behind each. -/
def rounds (again : Doing Bool) (body after : Doing Unit) : Doing Unit := do
  for _ in [0:maxRounds] do
    let go ← again
    if !go then break
    match ← attempt body with
    | .ok () => after
    | .error .break_ => break
    | .error .continue_ => after
    | .error c => throw c

mutual

/-- The value of an expression. -/
def eval (x : Context) : (fuel : Nat) → Expr → Doing Cell
  | 0, _ => fail "program limit exceeded: eval stack size=1024"
  | fuel + 1, e => do
    match e with
    | .number n => pure (.number n)
    | .text cs => pure (.text cs)
    | .regex source =>
      let r ← pattern source
      pure (Cell.ofBool (r.occursIn (Subject.ofList (← wholeRecord))))
    | .name n => read (.name n)
    | .field _ | .element _ _ => read (← placeOf x fuel e)
    | .assign none p v =>
      let place ← placeOf x fuel p
      let c ← eval x fuel v
      write place c
      pure c
    | .assign (some op) p v =>
      let place ← placeOf x fuel p
      let c ← eval x fuel v
      let old ← read place
      let new := Cell.number (compute op old.toNumber c.toNumber)
      write place new
      pure new
    | .choose c a b =>
      let t ← eval x fuel c
      if t.isTrue then eval x fuel a else eval x fuel b
    | .or_ a b =>
      let t ← eval x fuel a
      if t.isTrue then pure (Cell.ofBool true) else do
        let u ← eval x fuel b
        pure (Cell.ofBool u.isTrue)
    | .and_ a b =>
      let t ← eval x fuel a
      if !t.isTrue then pure (Cell.ofBool false) else do
        let u ← eval x fuel b
        pure (Cell.ofBool u.isTrue)
    | .not_ a => do pure (Cell.ofBool !(← eval x fuel a).isTrue)
    | .negated a => do pure (.number (-(← eval x fuel a).toNumber))
    | .plus a => do pure (.number (← eval x fuel a).toNumber)
    | .arithmetic op a b =>
      let u ← eval x fuel a
      let v ← eval x fuel b
      pure (.number (compute op u.toNumber v.toNumber))
    | .joined a b =>
      let u ← text (← eval x fuel a)
      let v ← text (← eval x fuel b)
      pure (.text (u ++ v))
    | .compared o a b =>
      let u ← eval x fuel a
      let v ← eval x fuel b
      pure (Cell.ofBool (← compare o u v))
    | .found isNegated a p =>
      let u ← text (← eval x fuel a)
      let r ← patternOf x fuel p
      pure (Cell.ofBool (r.occursIn (Subject.ofList u) != isNegated))
    | .among keys t =>
      let cs ← keys.mapM (eval x fuel)
      let key ← keyOfCells cs
      let id ← tableOf t
      pure (Cell.ofBool ((← table id).cells.contains key.spelling))
    | .step before up p =>
      let place ← placeOf x fuel p
      let old := (← read place).toNumber
      let new := if up then old + 1.0 else old - 1.0
      write place (.number new)
      pure (.number (if before then new else old))
    | .group es =>
      match es with
      | [e] => eval x fuel e
      | es => do
        let cs ← es.mapM (eval x fuel)
        pure (.text (← keyOf cs))
    | .call n args => callFunction x fuel n args
    | .builtin n args => callBuiltin x fuel n args
    | .take origin source place =>
      let name ← match source with
        | some s => do pure (String.ofList (Raw.joined (← text (← eval x fuel s))))
        | none => pure ""
      let place ← match place with
        | some p => do pure (some (← placeOf x fuel p))
        | none => pure none
      let keep (r : List Char) : Doing Unit := do
        match place with
        | some p => write p (.input r)
        | none => setRecord r
      match origin with
      | .main =>
        match ← mainRecord maxOperands with
        | some r =>
          keep r
          pure (.number 1.0)
        | none => pure (.number 0.0)
      | .file =>
        match ← streamRecord name (openSource name) with
        | .ok (some r) =>
          keep r
          pure (.number 1.0)
        | .ok none => pure (.number 0.0)
        | .error () => pure (.number (-1.0))
      | .command =>
        let run : Doing (Except Errno Source) := do
          flushAll
          let (out, _) ← act (Act.captured x.engine
            (runLast x.engine ["/bin/sh", "-c", name]))
          pure (.ok ⟨Raw.split out.toList, false⟩)
        match ← streamRecord name run with
        | .ok (some r) =>
          keep r
          pure (.number 1.0)
        | _ => pure (.number 0.0)

/-- The place that an expression stands for. -/
def placeOf (x : Context) : (fuel : Nat) → Expr → Doing Place
  | 0, _ => fail "program limit exceeded: eval stack size=1024"
  | fuel + 1, e => do
    match e with
    | .name n => pure (.name n)
    | .element t keys =>
      let cs ← keys.mapM (eval x fuel)
      let key ← keyOfCells cs
      pure (.element (← tableOf t) key)
    | .field i =>
      let n := wordOf (← eval x fuel i).toNumber
      if n < 0 then failHere ("negative field index $" ++ intText n)
      else pure (.field n.toNat)
    | .group [e] => placeOf x fuel e
    | _ => failHere "no place"

/-- The regular expression that an expression is or spells. -/
def patternOf (x : Context) : (fuel : Nat) → Expr → Doing Regex
  | 0, _ => fail "program limit exceeded: eval stack size=1024"
  | fuel + 1, e => do
    match e with
    | .regex source => pattern source
    | .group [e] => patternOf x fuel e
    | e => pattern (← text (← eval x fuel e))

/-- A call of a function of the language. -/
def callBuiltin (x : Context) : (fuel : Nat) → String → List Expr → Doing Cell
  | 0, _, _ => fail "program limit exceeded: eval stack size=1024"
  | fuel + 1, n, args => do
    match n, args with
    | "length", [.name t] =>
      match ← bound t with
      | .table id => pure (.number (Float.ofNat (← table id).cells.size))
      | _ => simpleCall x.engine n [← eval x fuel (.name t)]
    | "match", [a, p] =>
      let cs ← text (← eval x fuel a)
      let r ← patternOf x fuel p
      let (start, length) : Float × Float := match r.search? (Subject.ofList cs) 0 with
        | some (first, last, _) => (Float.ofNat (first + 1), Float.ofNat (last - first))
        | none => (0.0, -1.0)
      setGlobal "RSTART" (.number start)
      setGlobal "RLENGTH" (.number length)
      pure (.number start)
    | "split", a :: .name t :: more =>
      let cs ← text (← eval x fuel a)
      let how ← match more with
        | [] => splitter (← globalText "FS")
        | .regex source :: _ => do
          let r ← pattern source
          pure (.pattern r)
        | e :: _ => splitter (← text (← eval x fuel e))
      let parts := splitText how cs
      let id ← tableOf t
      modifyTable id fun _ =>
        (parts.zipIdx 1).foldl (fun t (cs, i) => t.insertNumber i (.input cs)) {}
      pure (.number (Float.ofNat parts.length))
    | _, p :: new :: more =>
      if n = "sub" || n = "gsub" then
        let r ← patternOf x fuel p
        let put ← text (← eval x fuel new)
        let target := more.headD (.field (.number 0.0))
        let place ← match target with
          | .name _ | .field _ | .element _ _ | .group _ => do pure (some (← placeOf x fuel target))
          | _ => pure none
        let old ← text (← match place with
          | some p => read p
          | none => eval x fuel target)
        let subject := Subject.ofList old
        let (count, result) := replaceFrom r (n == "gsub") put subject (old.length + 2) 0 none
        if 0 < count then
          match place with
          | some p => write p (.text result)
          | none => pure ()
        pure (.number (Float.ofNat count))
      else simpleCall x.engine n (← args.mapM (eval x fuel))
    | _, _ => simpleCall x.engine n (← args.mapM (eval x fuel))

/-- A call of a function of the program. -/
def callFunction (x : Context) : (fuel : Nat) → String → List Expr → Doing Cell
  | 0, _, _ => fail "program limit exceeded: eval stack size=1024"
  | fuel + 1, n, args => do
    match x.functions[n]? with
    | none => pure .unset
    | some f =>
      let bounds ← args.mapM fun a => do
        match a with
        | .name m =>
          if m = "NF" then splitRecord
          match ← bound m with
          | .table id => pure (Bound.table id)
          | .open_ id => pure (Bound.open_ id)
          | .cell .unset =>
            let id ← freshTable
            bind_ m (.open_ id)
            pure (Bound.open_ id)
          | .cell c => pure (Bound.cell c)
        | a => do pure (Bound.cell (← eval x fuel a))
      let s ← get
      if maxCalls ≤ s.depth then fail "program limit exceeded: eval stack size=1024"
      let locals : Std.HashMap String Bound :=
        (f.parameters.zipIdx).foldl (fun m (p, i) => m.insert p (bounds.getD i (.cell .unset))) ∅
      set { s with locals := locals, depth := s.depth + 1 }
      let r ← attempt (exec x fuel f.body)
      modify fun t => { t with locals := s.locals, depth := s.depth }
      match r with
      | .ok () => pure .unset
      | .error (.return_ c) => pure c
      | .error c => throw c

/-- Does what a statement says. -/
def exec (x : Context) : (fuel : Nat) → Stmt → Doing Unit
  | 0, _ => fail "program limit exceeded: eval stack size=1024"
  | fuel + 1, s => do
    match s with
    | .expr e => discard (eval x fuel e)
    | .print isFormat es way =>
      let (cs, fault) : List Char × Option String ←
        if es.isEmpty && !isFormat then do
          pure ((← wholeRecord) ++ (← globalText "ORS"), none)
        else do
          let cells ← es.mapM (eval x fuel)
          if isFormat then formatted "printf" cells
          else
            let ofmt ← globalText "OFMT"
            let between ← globalText "OFS"
            let ending ← globalText "ORS"
            pure (between.intercalate (cells.map (Cell.toText ofmt)) ++ ending, none)
      match way with
      | none => print cs
      | some (w, target) =>
        let name ← text (← eval x fuel target)
        printTo w (String.ofList (Raw.joined name)) cs
      match fault with
      | some message => failHere message
      | none => pure ()
    | .block body => body.forM (exec x fuel)
    | .either c yes no =>
      let t ← eval x fuel c
      if t.isTrue then exec x fuel yes
      else
        match no with
        | some s => exec x fuel s
        | none => pure ()
    | .while_ c body =>
      rounds (do pure (← eval x fuel c).isTrue) (exec x fuel body) (pure ())
    | .until_ body c =>
      match ← attempt (exec x fuel body) with
      | .ok () | .error .continue_ =>
        rounds (do pure (← eval x fuel c).isTrue) (exec x fuel body) (pure ())
      | .error .break_ => pure ()
      | .error cut => throw cut
    | .repeat_ first c step body =>
      match first with
      | some s => exec x fuel s
      | none => pure ()
      rounds
        (match c with
          | some c => do pure (← eval x fuel c).isTrue
          | none => pure true)
        (exec x fuel body)
        (match step with
          | some s => exec x fuel s
          | none => pure ())
    | .each k t body =>
      let id ← tableOf t
      modifyTable id Table.spell
      let keys := (← table id).keys
      for key in keys do
        write (.name k) (.text key.toList)
        match ← attempt (exec x fuel body) with
        | .ok () | .error .continue_ => pure ()
        | .error .break_ => break
        | .error cut => throw cut
    | .delete t keys =>
      let id ← tableOf t
      if keys.isEmpty then modifyTable id fun _ => {}
      else
        let cs ← keys.mapM (eval x fuel)
        let key ← keyOfCells cs
        modifyTable id fun t => t.erase key.spelling
    | .break_ => throw .break_
    | .continue_ => throw .continue_
    | .next file => throw (.next file)
    | .exit e =>
      match e with
      | some e =>
        let n := wordOf (← eval x fuel e).toNumber
        modify fun s => { s with status := (n % 256).toNat }
      | none => pure ()
      throw .exit
    | .return_ e =>
      let c ← match e with
        | some e => eval x fuel e
        | none => pure .unset
      throw (.return_ c)

end

/-! ## Programs -/

/-- How deep expressions, statements and calls may lie inside each other. -/
def maxNesting : Nat := 100000

/-- The action of a rule. -/
def act_ (x : Context) (r : Rule) : Doing Unit := do
  match r.action with
  | some s => exec x maxNesting s
  | none => do print ((← wholeRecord) ++ (← globalText "ORS"))

/-- The rule of a number fits the record at hand. -/
def fits (x : Context) (index : Nat) (r : Rule) : Doing Bool := do
  match r.condition with
  | .start | .finish => pure false
  | .always => pure true
  | .fits p => do pure (← eval x maxNesting p).isTrue
  | .range a b =>
    let isOpen := (← get).ranges.contains index
    let begins ← if isOpen then pure true else do pure (← eval x maxNesting a).isTrue
    if !begins then pure false
    else
      let ends := (← eval x maxNesting b).isTrue
      modify fun s =>
        { s with ranges := (if ends then [] else [index]) ++ s.ranges.filter (· != index) }
      pure true

/-- Goes through the records. -/
def records (x : Context) (rules : List (Nat × Rule)) : Doing Unit := do
  for _ in [0:maxRounds] do
    match ← mainRecord maxOperands with
    | none => break
    | some r =>
      setRecord r
      let round : Doing Unit := rules.forM fun (i, rule) => do
        if ← fits x i rule then act_ x rule
      match ← attempt round with
      | .ok () => pure ()
      | .error (.next false) => pure ()
      | .error (.next true) => modify fun s => { s with main := none }
      | .error cut => throw cut

/-- Runs a program. -/
def run (x : Context) (p : Program) : Doing Unit := do
  let all := p.rules.zipIdx.map fun (r, i) => (i, r)
  let starts := all.filter fun (_, r) => r.condition matches .start
  let ends := all.filter fun (_, r) => r.condition matches .finish
  let others := all.filter fun (_, r) => !(r.condition matches .start) && !(r.condition matches .finish)
  let work : Doing Unit := do
    starts.forM fun (_, r) => act_ x r
    if !others.isEmpty || !ends.isEmpty then records x others
  let finish : Doing Unit := ends.forM fun (_, r) => act_ x r
  match ← attempt work with
  | .ok () => finish
  | .error .exit => if others.isEmpty && ends.isEmpty then pure () else finish
  | .error cut => throw cut

/-- Ends everything that is open; own output goes last. -/
def finishAll (e : Engine) : Doing Unit := do
  let sinks := (← get).sinks
  modify fun s => { s with sinks := [] }
  for k in sinks do
    if k.way != .command then discard (closeSink e k)
  for k in sinks do
    if k.way == .command then discard (command e "/bin/sh" k.name (some k.held))
  flush

end Doing

end Runbook.Shell.Rules
