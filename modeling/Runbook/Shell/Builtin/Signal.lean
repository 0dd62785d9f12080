import Runbook.Shell.Builtin.Job
import Runbook.Shell.Text.Quote

/-!
# `Shell/Builtin/Signal` — signals and processes beside

`trap` sets what is run at a signal or at the end, `kill` sends signals, and `wait` waits for
processes that run beside.
-/

set_option autoImplicit false

namespace Runbook.Shell.Signal

/-- The signals by their numbers. -/
def names : List String :=
  ["EXIT", "HUP", "INT", "QUIT", "ILL", "TRAP", "ABRT", "BUS", "FPE", "KILL", "USR1", "SEGV", "USR2",
    "PIPE", "ALRM", "TERM", "STKFLT", "CHLD", "CONT", "STOP", "TSTP", "TTIN", "TTOU", "URG", "XCPU",
    "XFSZ", "VTALRM", "PROF", "WINCH", "IO", "PWR", "SYS"]

/-- The number and the name of a signal that a text means. -/
def of? (d : Dialect) (text : String) : Option (Nat × String) :=
  match natText? text with
  | some n => (names[n]?).map fun s => (n, s)
  | none =>
    let upper := if d = .rich then String.ofList (text.toList.map Char.toUpper) else text
    let short :=
      if upper.startsWith "SIG" ∧ d = .rich then String.ofList (upper.toList.drop 3) else upper
    match names.findIdx? (· == short) with
    | some n => some (n, short)
    | none =>
      if d = .rich ∧ ["DEBUG", "ERR", "RETURN"].contains short then some (100, short) else none

/-- The list of all signals. -/
def table : String :=
  let entries := (names.zipIdx.drop 1).map fun (s, n) =>
    String.ofList (padLeft 2 ' ' (natText n).toList) ++ ") SIG" ++ s
  let rec lines : (fuel : Nat) → List String → String
    | 0, _ => ""
    | _ + 1, [] => ""
    | fuel + 1, xs => "\t".intercalate (xs.take 5) ++ "\n" ++ lines fuel (xs.drop 5)
  lines 20 entries

/-- What is set for a signal, as a command. -/
def shownTrap (d : Dialect) (name text : String) : String :=
  let full := if d = .rich ∧ !(["EXIT", "DEBUG", "ERR", "RETURN"].contains name) then "SIG" ++ name
    else name
  "trap -- " ++ singleQuoted text ++ " " ++ full ++ "\n"

/-- The command `trap`. -/
def trap (args : List String) : Act Nat := do
  let s ← Act.shell
  let d := s.dialect
  let args := if args.head? = some "--" then args.drop 1 else args
  let order (traps : List (String × String)) : List (String × String) :=
    traps.mergeSort fun a b =>
      decide ((names.findIdx? (· == a.1)).getD 100 ≤ (names.findIdx? (· == b.1)).getD 100)
  let bad (text : String) : Act Unit := do
    match d with
    | .rich => Act.complain ("trap: " ++ text ++ ": invalid signal specification")
    | .plain => Act.tell ("trap: " ++ text ++ ": bad trap\n")
  let setAll (action : Option String) (signals : List String) : Act Nat := do
    let mut status := 0
    for t in signals do
      match of? d t with
      | some (_, name) =>
        Act.modifyShell fun s =>
          let rest := s.traps.filter (·.1 != name)
          { s with traps := match action with
            | some text => (name, text) :: rest
            | none => rest }
      | none =>
        bad t
        status := 1
    pure status
  match args with
  | [] =>
    Act.print (String.join ((order s.traps).map fun (n, t) => shownTrap d n t))
    pure 0
  | "-l" :: _ =>
    if d = .rich then
      Act.print table
      pure 0
    else
      Act.complain "trap: Illegal option -l"
      Act.exitWith 2
  | "-p" :: rest =>
    if d = .rich then
      let wanted := rest.filterMap fun t => (of? d t).map (·.2)
      let shown := (order s.traps).filter fun (n, _) => rest.isEmpty || wanted.contains n
      Act.print (String.join (shown.map fun (n, t) => shownTrap d n t))
      pure 0
    else
      Act.complain "trap: Illegal option -p"
      Act.exitWith 2
  | [one] =>
    if (of? d one).isSome then setAll none [one]
    else if d = .rich then
      if one = "-" then
        Act.modifyShell fun s => { s with traps := [] }
        pure 0
      else
        Act.tell "trap: usage: trap [-lp] [[arg] signal_spec ...]\n"
        pure 2
    else setAll none [one]
  | "-" :: signals => setAll none signals
  | action :: signals =>
    if (natText? action).isSome then setAll none args else setAll (some action) signals

/-- Takes a process beside away before it begins. -/
def cancel (number signal : Nat) : Act Unit :=
  Act.modifyWorld fun w =>
    { w with
      pending := w.pending.filter (·.number != number)
      ended := (number, 128 + signal) :: w.ended }

/-- Signals that do not end a process; some of them hold it up for a while. -/
def harmless : List String :=
  ["CHLD", "CONT", "STOP", "TSTP", "TTIN", "TTOU", "URG", "WINCH"]

/-- Sends a signal to a process. -/
def send (e : Engine) (name : String) (number : Nat) (target : String) : Act Nat := do
  let s ← Act.shell
  let d := s.dialect
  let process : Except String Nat ←
    match target.toList with
    | '%' :: _ =>
      -- Without control of jobs, those of the plain dialect are not groups that signals reach.
      let job ← Jobs.find target
      pure (job.map fun j => if d = .plain then 0xFFFFFFFF else j.process)
    | cs =>
      let digits := match cs with
        | '-' :: n => n
        | cs => cs
      pure (match natText? (String.ofList digits), d with
        | some n, _ => .ok n
        | none, .rich => .error (target ++ ": arguments must be process or job IDs")
        | none, .plain => .error ("Illegal number: " ++ target))
  match process with
  | .error text =>
    Act.complain ("kill: " ++ text)
    pure (if d = .rich then 1 else 2)
  | .ok p =>
    let w := (← get).world
    if p = 1000 ∨ p = s.number ∨ p = 0 then
      if number ≠ 0 then Act.signal e name number
      pure 0
    else if w.pending.any (·.number == p) then
      if number ≠ 0 ∧ !harmless.contains name then cancel p number
      pure 0
    else if (s.numbered.find? (·.process == p)).any (!·.awaited) ∧
        (w.ended.lookup p).any (128 < ·) then pure 0
    else
      match d with
      | .rich => Act.complain ("kill: (" ++ natText p ++ ") - No such process")
      | .plain => Act.complain "kill: No such process\n"
      pure 1

/-- The command `kill`. -/
def kill (e : Engine) (args : List String) : Act Nat := do
  let d := (← Act.shell).dialect
  let sendAll (name : String) (number : Nat) (targets : List String) : Act Nat := do
    if targets.isEmpty then usage d
    else
      let mut status := 1
      for t in targets do
        let n ← send e name number t
        if n = 0 then status := 0 else if status ≠ 0 then status := n
      pure status
  let bad (text : String) : Act Nat := do
    match d with
    | .rich =>
      Act.complain ("kill: " ++ text ++ ": invalid signal specification")
      pure 1
    | .plain =>
      Act.complain ("kill: invalid signal number or name: " ++ text)
      pure 2
  match args with
  | [] => usage d
  | "-l" :: rest | "-L" :: rest =>
    if rest.isEmpty then
      match d with
      | .rich => Act.print table
      | .plain => Act.print ("0\n" ++ String.join ((names.drop 1).map (· ++ "\n")))
      pure 0
    else
      let mut status := 0
      for t in rest do
        match natText? t, d with
        | some n, _ =>
          match names[if n > 128 then n - 128 else n]?, d with
          | some "EXIT", .plain | none, .plain =>
            Act.complain ("kill: invalid signal number or exit status: " ++ t)
            status := 2
          | some s, _ => Act.print (s ++ "\n")
          | none, .rich => status ← bad t
        | none, .plain =>
          Act.complain ("kill: Illegal number: " ++ t)
          status := 2
        | none, .rich =>
          match of? d t with
          | some (n, _) => Act.print (natText n ++ "\n")
          | none => status ← bad t
        if d = .plain then return status
      pure status
  | ["-s"] =>
    match d with
    | .rich =>
      Act.complain "kill: -s: option requires an argument"
      pure 1
    | .plain =>
      Act.complain "kill: No arg for -s option"
      pure 2
  | "-n" :: name :: rest =>
    match d, of? .rich name with
    | .plain, _ =>
      Act.complain "kill: Illegal option -n"
      pure 2
    | .rich, some (n, s) => sendAll s n rest
    | .rich, none => bad name
  | "-s" :: name :: rest =>
    match of? .rich name with
    | some (n, s) => sendAll s n rest
    | none => bad name
  | "--" :: rest => sendAll "TERM" 15 rest
  | a :: rest =>
    match a.toList with
    | '-' :: c :: more =>
      match of? .rich (String.ofList (c :: more)) with
      | some (n, s) => sendAll s n (if rest.head? = some "--" then rest.drop 1 else rest)
      | none =>
        match d with
        | .rich => bad (String.ofList (c :: more))
        | .plain =>
          Act.complain ("kill: Illegal option -" ++ String.singleton c)
          pure 2
    | _ => sendAll "TERM" 15 args
where
  /-- Tells how the command is used. -/
  usage (d : Dialect) : Act Nat := do
    match d with
    | .rich =>
      Act.tell ("kill: usage: kill [-s sigspec | -n signum | -sigspec] pid | jobspec ... or " ++
        "kill -l [sigspec]\n")
    | .plain =>
      Act.complain ("kill: Usage: kill [-s sigspec | -signum | -sigspec] [pid | job]... or\n" ++
        "kill -l [exitstatus]")
    pure 2

/-- Waits for a process beside, and gives its status; or tells what is wrong, with another one. -/
def waitFor (e : Engine) (target : String) : Act (Except (String × Nat) Nat) := do
  let s ← Act.shell
  let process : Except (String × Nat) Nat ←
    if target.startsWith "%" then
      match ← Jobs.find target, s.dialect with
      | .ok j, _ => pure (.ok j.process)
      | .error text, .rich => pure (.error (text, 127))
      | .error text, .plain => pure (.error (text, 2))
    else
      pure (match natText? target, s.dialect with
        | some n, .rich =>
          if s.jobs.contains n then .ok n
          else .error ("pid " ++ target ++ " is not a child of this shell", 127)
        | some n, .plain => if s.jobs.contains n then .ok n else .error ("", 127)
        | none, .rich => .error ("\x60" ++ target ++ "': not a pid or valid job spec", 1)
        | none, .plain => .error ("Illegal number: " ++ target, 2))
  match process with
  | .error fault => pure (.error fault)
  | .ok p =>
    if ((← get).world.ended.lookup p).isNone then Act.runPending e 0 Act.maxPending
    let status := ((← get).world.ended.lookup p).getD 127
    let isNew := (s.numbered.find? (·.process == p)).any (!·.awaited)
    Jobs.setAwaited (·.process == p)
    if s.dialect = .plain ∧ isNew ∧ 128 < status then
      let text := Jobs.endText status
      if text != "" && !text.startsWith "Done" then Act.tell (text ++ "\n")
    pure (.ok status)

/-- The command `wait`. -/
def wait (e : Engine) (args : List String) : Act Nat := do
  let d := (← Act.shell).dialect
  let (flags, targets) := args.span fun a => a.startsWith "-" && a != "--" && 1 < a.length
  let targets := if targets.head? = some "--" then targets.drop 1 else targets
  let letters := flags.flatMap fun a => a.toList.drop 1
  let allowed := if d = .rich then "fnp".toList else []
  match letters.find? fun c => !allowed.contains c with
  | some c =>
    match d with
    | .rich =>
      Act.complain ("wait: -" ++ String.singleton c ++ ": invalid option")
      Act.tell "wait: usage: wait [-fn] [-p var] [id ...]\n"
    | .plain => Act.complain ("wait: Illegal option -" ++ String.singleton c)
    pure 2
  | none =>
    if targets.isEmpty then
      Act.runPending e 0 Act.maxPending
      if letters.contains 'n' then
        match (← get).world.ended with
        | (_, n) :: _ => pure n
        | [] => pure 127
      else
        Jobs.setAwaited fun _ => true
        Act.modifyShell fun s => { s with jobs := s.jobs.take 1 }
        pure 0
    else
      let mut status := 0
      for t in targets do
        match ← waitFor e t with
        | .ok n => status := n
        | .error (text, n) =>
          if text != "" then Act.complain ("wait: " ++ text)
          if n = 1 ∨ n = 2 then return n
          status := n
      pure status

end Runbook.Shell.Signal
