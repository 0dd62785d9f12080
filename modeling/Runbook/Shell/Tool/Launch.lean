import Runbook.Shell.Builtin.Signal
import Runbook.Shell.Tool.Flags
import Runbook.Shell.Text.Real

/-!
# `Shell/Tool/Launch` — programs that run another program

Another program is run with other variables, or under a limit of time. One that cannot be run is
told, and the status tells whether it was not found.

Time passes only when somebody sleeps, so a program is given up when it sleeps too long.
-/

set_option autoImplicit false

namespace Runbook.Shell.Launch

/-- The status for a program that cannot be run. -/
def statusOf : Errno → Nat
  | .noEntry | .notFolder => 127
  | _ => 126

/-- Runs a program; one that cannot be run is told by the function given. -/
def start (e : Engine) (words : List String) (blame : Errno → Act Unit) : Act Nat := do
  match ← e.program words with
  | .ok n => pure n
  | .error err =>
    blame err
    pure (statusOf err)

/-! ## Variables -/

/-- Words in a text, with quotes and escapes. -/
def splitWords : (fuel : Nat) → (quote : Option Char) → (here : Option (List Char)) → List Char →
    List String
  | 0, _, _, _ => []
  | _ + 1, _, here, [] => (here.map fun cs => String.ofList cs.reverse).toList
  | fuel + 1, some q, here, c :: rest =>
    if c = q then splitWords fuel none here rest
    else
      match c, q, rest with
      | '\\', '"', d :: more => splitWords fuel (some q) (some (d :: here.getD [])) more
      | _, _, _ => splitWords fuel (some q) (some (c :: here.getD [])) rest
  | fuel + 1, none, here, c :: rest =>
    if c = ' ' ∨ c = '\t' ∨ c = '\n' then
      (here.map fun cs => String.ofList cs.reverse).toList ++ splitWords fuel none none rest
    else if c = '\'' ∨ c = '"' then splitWords fuel (some c) (some (here.getD [])) rest
    else
      match c, rest with
      | '\\', d :: more =>
        let x : List Char := match d with
          | 'n' => ['\n']
          | 't' => ['\t']
          | '_' => [' ']
          | d => [d]
        splitWords fuel none (some (x ++ here.getD [])) more
      | _, _ => splitWords fuel none (some (c :: here.getD [])) rest

/-- A variable in a list of them gets a value, in its place or at the end. -/
def withValue (all : List (String × String)) (n t : String) : List (String × String) :=
  if all.any (·.1 == n) then all.map fun (m, v) => if m == n then (m, t) else (m, v)
  else all ++ [(n, t)]

/-- Makes a list of variables the one that is passed on. -/
def passOn (all : List (String × String)) : Act Unit :=
  Act.modifyShell fun s =>
    let own := s.bindings.toList.filter fun (_, v) => !v.exported
    let passed := all.map fun (n, t) => (n, { value := .text t, exported := true : Variable })
    let path : List (String × Variable) :=
      if all.any (·.1 == "PATH") then [] else [("PATH", { value := .text "/bin:/usr/bin" })]
    { s with
      environment := some all
      bindings := Std.HashMap.ofList (own.filter (·.1 != "PATH") ++ path ++ passed) }

/-- The flags of `env`. -/
def envFlags : Flags :=
  { letters := "iu:C:S:0v", inFront := true
    long := [("ignore-environment", .nothing, "i"), ("unset", .value, "u"),
      ("chdir", .value, "C"), ("split-string", .value, "S"), ("null", .nothing, "0"),
      ("debug", .nothing, "v"), ("block-signal", .maybe, "block"),
      ("default-signal", .maybe, "default"), ("ignore-signal", .maybe, "ignore"),
      ("list-signal-handling", .nothing, "list"), ("help", .nothing, "help")] }

/-- The options of `env`, with those that a split text holds. -/
def envParse (words : List String) : Except String Parsed := do
  let p ← envFlags.parse words
  match p.last? "S" with
  | some text =>
    let inner ← envFlags.parse (splitWords (text.length + 1) none none text.toList ++ p.operands)
    .ok { options := p.options ++ inner.options, operands := inner.operands }
  | none => .ok p

/-- The program `env`. -/
def env : Tool := fun e c => do
  match envParse c.args with
  | .error text => c.refuse 125 text
  | .ok p =>
    let (dash, operands) : Bool × List String := match p.operands with
      | "-" :: rest => (true, rest)
      | os => (false, os)
    let mut all ← if p.has "i" || dash then pure [] else Environment.all
    let mut shown : List String := if p.has "i" || dash then ["cleaning environ"] else []
    for u in p.all "u" do
      if u = "" || u.toList.contains '=' then
        c.blame ("cannot unset " ++ curlyQuoted u ++ ": Invalid argument")
        return 125
      shown := shown ++ ["unset:    " ++ u]
      all := all.filter (·.1 != u)
    let settings := operands.takeWhile (·.toList.contains '=')
    let words := operands.drop settings.length
    for o in settings do
      let (n, t) := o.toList.span (· != '=')
      shown := shown ++ ["setenv:   " ++ o]
      all := withValue all (String.ofList n) (String.ofList (t.drop 1))
    if words.isEmpty then
      if p.has "C" then return ← c.refuse 125 "must specify command with --chdir (-C)"
      let ending := if p.has "0" then "\x00" else "\n"
      Act.print (String.join (all.map fun (n, t) => n ++ "=" ++ t ++ ending))
      pure 0
    else if p.has "0" then c.refuse 125 "cannot specify --null (-0) with command"
    else
      let before ← Act.shell
      passOn all
      match p.last? "C" with
      | some path =>
        match (← Act.disk).find before.here path with
        | .ok (l, n) =>
          if n.isFolder then Act.modifyShell fun s => { s with here := l }
          else
            Act.modifyShell fun _ => before
            c.blame ("cannot change directory to " ++ fileQuoted path ++ ": Not a directory")
            return 125
        | .error err =>
          Act.modifyShell fun _ => before
          c.blame ("cannot change directory to " ++ fileQuoted path ++ ": " ++ err.text)
          return 125
      | none => pure ()
      if p.has "v" then
        let name := words.headD ""
        Act.tell (String.join (shown.map (· ++ "\n")) ++ "executing: " ++ name ++ "\n" ++
          String.join (words.zipIdx.map fun (w, i) =>
            "   arg[" ++ natText i ++ "]= " ++ curlyQuoted w ++ "\n"))
      let status ← start e words fun err => do
        let name := words.headD ""
        c.blame (curlyQuoted name ++ ": " ++ err.text)
        if err = .noEntry && name.toList.any (fun x => x == ' ' || x == '\t' || x == '\n') then
          c.blame "use -[v]S to pass options in shebang lines"
      Act.modifyShell fun _ => before
      pure status

/-! ## Time -/

/-- A time in writing as nanoseconds; nothing for an endless one. -/
def duration? (text : String) : Option (Option Nat) :=
  match Real.take? text.toList with
  | some (.finite false num den, rest) =>
    let unit : Option Nat := match rest with
      | [] | ['s'] => some 1
      | ['m'] => some 60
      | ['h'] => some 3600
      | ['d'] => some 86400
      | _ => none
    unit.map fun u => some (num * u * 1000000000 / den)
  | some (.infinite false, rest) => if rest.isEmpty || rest == ['s'] then some none else none
  | _ => none

/-- Lets time pass, in which processes beside may come to their ends. Work that is to be given up
before is cut short. -/
def pass (e : Engine) (time : Option Nat) : Act Unit := do
  let w := (← get).world
  let clock := w.disk.clock
  match time with
  | some t => Act.runUntil e (min (clock + t) (w.deadline.getD (clock + t))) w.pending
  | none => Act.runPending e 0 Act.maxPending
  match time, w.deadline with
  | some t, some limit =>
    if limit < clock + t then
      Act.modifyDisk fun d => { d with clock := limit }
      throw .starved
    else Act.modifyDisk fun d => { d with clock := clock + t }
  | some t, none => Act.modifyDisk fun d => { d with clock := clock + t }
  | none, some limit =>
    Act.modifyDisk fun d => { d with clock := limit }
    throw .starved
  | none, none => throw .starved

/-- The program `sleep`. -/
def sleep : Tool := fun e c =>
  c.withFlags { letters := "", long := [("help", .nothing, "help")] } 1 fun p => do
    if p.operands.isEmpty then return ← c.refuse 1 "missing operand"
    let mut bad := false
    let mut total : Option Nat := some 0
    for o in p.operands do
      match duration? o with
      | some t => total := total.bind fun x => t.map (x + ·)
      | none =>
        c.blame ("invalid time interval " ++ curlyQuoted o)
        bad := true
    if bad then
      c.hint
      return 1
    pass e total
    pure 0

/-- The flags of `timeout`. -/
def timeoutFlags : Flags :=
  { letters := "k:s:v", inFront := true
    long := [("foreground", .nothing, "f"), ("kill-after", .value, "k"),
      ("preserve-status", .nothing, "p"), ("signal", .value, "s"), ("verbose", .nothing, "v")] }

/-- The program `timeout`. -/
def timeout : Tool := fun e c =>
  c.withFlags timeoutFlags 125 fun p => do
    let signal := (p.last? "s").getD "TERM"
    match Signal.of? .rich signal with
    | none => c.refuse 125 (curlyQuoted signal ++ ": invalid signal")
    | some (n, signalName) =>
      match p.operands with
      | [] | [_] =>
        c.hint
        pure 125
      | time :: words =>
        match duration? time with
        | none => c.refuse 125 ("invalid time interval " ++ curlyQuoted time)
        | some limit =>
          let w := (← get).world
          let ending := match limit with
            | some 0 | none => none
            | some t => some (w.disk.clock + t)
          let mine := match w.deadline, ending with
            | some old, some new => new < old
            | none, some _ => true
            | _, none => false
          if mine then Act.modifyWorld fun w => { w with deadline := ending }
          let before ← Act.shell
          let r ← Act.attempt (e.program words)
          Act.modifyShell fun _ => before
          Act.modifyWorld fun v => { v with deadline := w.deadline }
          match r with
          | .ok (.ok status) => pure status
          | .ok (.error err) =>
            c.blame ("failed to run command " ++ curlyQuoted (words.headD "") ++ ": " ++ err.text)
            pure (statusOf err)
          | .error .starved =>
            if mine && ending == some (← get).world.disk.clock then
              if p.has "v" then
                c.blame ("sending signal " ++ signalName ++ " to command " ++
                  curlyQuoted (words.headD ""))
              if n = 9 then throw (.killed 9)
              pure (if p.has "p" then 128 + n else 124)
            else throw .starved
          | .error f => throw f

/-! ## Circumstances -/

/-- The program `nohup`. -/
def nohup : Tool := fun e c =>
  c.withFlags { letters := "", inFront := true, long := [("help", .nothing, "help")] } 125 fun p => do
    if p.operands.isEmpty then return ← c.refuse 125 "missing operand"
    start e p.operands fun err =>
      c.blame ("failed to run command " ++ fileQuoted (p.operands.headD "") ++ ": " ++ err.text)

/-- The program `setsid`. -/
def setsid : Tool := fun e c =>
  c.withFlags { letters := "cfw", inFront := true
                long := [("ctty", .nothing, "c"), ("fork", .nothing, "f"), ("wait", .nothing, "w")] }
    1 fun p => do
    if p.operands.isEmpty then return ← c.refuse 1 "no command specified"
    start e p.operands fun err =>
      c.blame ("failed to execute " ++ p.operands.headD "" ++ ": " ++ err.text)

/-- The program `stdbuf`. -/
def stdbuf : Tool := fun e c =>
  c.withFlags { letters := "i:o:e:", inFront := true
                long := [("input", .value, "i"), ("output", .value, "o"), ("error", .value, "e")] }
    125 fun p => do
    for (_, v) in p.options do
      let v := v.getD ""
      if v != "L" && (v.toList.dropWhile Char.isDigit).length == v.length then
        c.blame ("invalid mode " ++ curlyQuoted v)
        return 125
    if p.operands.isEmpty then return ← c.refuse 125 "missing operand"
    if p.options.isEmpty then return ← c.refuse 125 "you must specify a buffering mode option"
    start e p.operands fun err =>
      c.blame ("failed to run command " ++ curlyQuoted (p.operands.headD "") ++ ": " ++ err.text)

/-- The name of the variable that keeps how nice a process is. -/
def niceName : String := " nice"

/-- The program `nice`. -/
def nice : Tool := fun e c => do
  -- A number behind a dash is an adjustment too.
  let args := match c.args with
    | a :: rest =>
      match a.toList with
      | '-' :: ds =>
        if !ds.isEmpty && ds.all Char.isDigit then ("-n" ++ String.ofList ds) :: rest else a :: rest
      | _ => a :: rest
    | [] => []
  Call.withFlags { c with args := args }
    { letters := "n:", inFront := true, long := [("adjustment", .value, "n")] } 125 fun p => do
    let now := (decimalText? (← Act.textOf niceName)).getD 0
    let change := p.last? "n"
    match (change.map decimalText?).getD (some 10) with
    | none =>
      c.blame ("invalid adjustment " ++ curlyQuoted (change.getD ""))
      pure 125
    | some n =>
      match p.operands with
      | [] =>
        if change.isSome then c.refuse 125 "a command must be given with an adjustment"
        else
          Act.print (intText now ++ "\n")
          pure 0
      | words =>
        let before ← Act.shell
        let new := max (-20) (min 19 (now + n))
        Act.putVariable niceName { value := .text (intText new) }
        let status ← start e words fun err =>
          c.blame (curlyQuoted (words.headD "") ++ ": " ++ err.text)
        Act.modifyShell fun _ => before
        pure status

end Runbook.Shell.Launch
