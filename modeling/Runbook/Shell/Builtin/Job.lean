import Runbook.Shell.Process.Child
import Runbook.Shell.Script.Source

/-!
# `Shell/Builtin/Job` — commands that run beside

A command that was begun beside goes by a number of its own until it has ended. `jobs` lists such
commands, and `disown` makes the shell forget some.
-/

set_option autoImplicit false

namespace Runbook.Shell.Jobs

/-- A job has not ended. -/
def isRunning (w : World) (j : Job) : Bool := w.pending.any (·.number == j.process)

/-- The jobs, the latest first. The rich dialect forgets those that have ended. -/
def known : Act (List Job) := do
  let m ← get
  pure (match m.shell.dialect with
    | .rich => m.shell.numbered.filter (isRunning m.world)
    | .plain => m.shell.numbered)

/-- The jobs that may be named. The rich dialect notices later that a signal has ended one. -/
def named : Act (List Job) := do
  let m ← get
  let isEnded (j : Job) : Bool :=
    !isRunning m.world j && (j.awaited || (m.world.ended.lookup j.process).all (· ≤ 128))
  pure (match m.shell.dialect with
    | .rich => m.shell.numbered.filter (!isEnded ·)
    | .plain => m.shell.numbered)

/-- Keeps jobs only. -/
def keep (jobs : List Job) : Act Unit := Act.modifyShell fun s => { s with numbered := jobs }

/-- The first number that no job has, at and behind one; those that have been waited for do not need
theirs. -/
def freePlace (w : World) (jobs : List Job) : (fuel : Nat) → Nat → Nat
  | 0, k => k
  | fuel + 1, k =>
    match jobs.find? (·.place == k) with
    | some j => if j.awaited ∧ !isRunning w j then k else freePlace w jobs fuel (k + 1)
    | none => k

/-- A new job for a process. -/
def add (process : Nat) (c : Command) : Act Unit := do
  let m ← get
  let jobs ← known
  let place := match m.shell.dialect with
    | .rich => (jobs.map (·.place)).foldl max 0 + 1
    | .plain => freePlace m.world jobs (jobs.length + 1) 1
  keep ({ place := place, process := process, command := c } :: jobs.filter (·.place != place))

/-- Jobs have been waited for. -/
def setAwaited (which : Job → Bool) : Act Unit :=
  Act.modifyShell fun s =>
    { s with numbered := s.numbered.map fun j => if which j then { j with awaited := true } else j }

/-- The text of the command of a job. -/
def Job.text (j : Job) : String :=
  match j.command with
  | .pipeline true false [c] => c.source
  | .pipeline true t cs => (Command.pipeline false t cs).source
  | c => c.source

/-- The job that a text behind a percent sign means, or what to tell. -/
def find (spec : String) : Act (Except String Job) := do
  let d := (← Act.shell).dialect
  let jobs ← named
  let none_ : String := match d with
    | .rich => spec ++ ": no such job"
    | .plain => "No such job: " ++ spec
  let given (j : Option Job) (text : String) : Except String Job :=
    match j with
    | some j => .ok j
    | none => .error (match d with
      | .rich => none_
      | .plain => text)
  pure (match spec.toList.drop 1 with
    | [] | ['%'] | ['+'] => given jobs.head? "No current job"
    | ['-'] =>
      match d with
      | .rich => given (jobs[1]?.or jobs.head?) ""
      | .plain => given jobs[1]? "No previous job"
    | cs =>
      match natText? (String.ofList cs), d with
      | some n, _ => given (jobs.find? (·.place == n)) none_
      | none, .plain => .error none_
      | none, .rich =>
        match cs with
        | '?' :: part =>
          given (jobs.find? fun j => ((Job.text j).splitOn (String.ofList part)).length != 1) none_
        | _ => given (jobs.find? fun j => (Job.text j).startsWith (String.ofList cs)) none_)

/-- What a signal that ended a process is called. -/
def endText (status : Nat) : String :=
  match status with
  | 0 => "Done"
  | 129 => "Hangup"
  | 130 => ""
  | 131 => "Quit"
  | 134 => "Aborted"
  | 137 => "Killed"
  | 138 => "User defined signal 1"
  | 140 => "User defined signal 2"
  | 142 => "Alarm clock"
  | 143 => "Terminated"
  | n => "Done(" ++ natText n ++ ")"

/-- How a job is listed; `wordy` adds the number of the process. -/
def line (d : Dialect) (w : World) (jobs : List Job) (wordy : Bool) (j : Job) : String :=
  let isPlace (k : Nat) : Bool := (jobs[k]?).any (·.place == j.place)
  let mark := if isPlace 0 then "+" else if isPlace 1 then "-" else " "
  let process := if wordy then natText j.process ++ " " else ""
  let number := "[" ++ natText j.place ++ "]"
  match d with
  | .rich =>
    number ++ mark ++ (if wordy then " " else "  ") ++ process ++
      String.ofList (padRight 24 "Running".toList) ++ Job.text j ++ " &\n"
  | .plain =>
    let state := match w.ended.lookup j.process with
      | some n => endText n
      | none => "Running"
    let stages := match j.command with
      | .pipeline _ _ cs => cs.length
      | _ => 1
    String.ofList (padRight 33 (number ++ " " ++ mark ++ " " ++ process ++ state).toList) ++
      String.join (List.replicate (stages - 1) " | ") ++ "\n"

/-- Lists jobs. Those that are listed after their end are forgotten. -/
def list (letters : List Char) (shown : List Job) : Act Unit := do
  let m ← get
  let d := m.shell.dialect
  for j in (if d = .rich then shown.reverse else shown) do
    if letters.contains 'p' then Act.print (natText j.process ++ "\n")
    else
      let jobs ← known
      Act.print (line d m.world jobs (letters.contains 'l') j)
      if !isRunning m.world j then keep (jobs.filter (·.place != j.place))

/-- The command `jobs`. -/
def jobs (args : List String) : Act Nat := do
  let d := (← Act.shell).dialect
  let (flags, specs) := args.span fun a => a.startsWith "-" && a != "--" && 1 < a.length
  let specs := if specs.head? = some "--" then specs.drop 1 else specs
  let letters := flags.flatMap fun a => a.toList.drop 1
  let allowed := if d = .rich then "lnprsx".toList else "lp".toList
  match letters.find? fun c => !allowed.contains c with
  | some c =>
    match d with
    | .rich =>
      Act.complain ("jobs: -" ++ String.singleton c ++ ": invalid option")
      Act.tell "jobs: usage: jobs [-lnprs] [jobspec ...] or jobs -x command [args]\n"
    | .plain => Act.complain ("jobs: Illegal option -" ++ String.singleton c)
    pure 2
  | none =>
    if letters.contains 's' || letters.contains 'x' then pure 0
    else if specs.isEmpty then
      list letters (← known)
      pure 0
    else
      let mut status := 0
      for spec in specs do
        match ← find spec with
        | .ok j => list letters [j]
        | .error text =>
          Act.complain ("jobs: " ++ text)
          status := if d = .rich then 1 else 2
          if d = .plain then return 2
      pure status

/-- The command `disown`. -/
def disown (args : List String) : Act Nat := do
  let (flags, specs) := args.span fun a => a.startsWith "-" && a != "--" && 1 < a.length
  let all ← known
  if flags.any (fun a => a.toList.contains 'a' || a.toList.contains 'r') && specs.isEmpty then
    keep []
    pure 0
  else if specs.isEmpty then
    match all with
    | _ :: rest =>
      keep rest
      pure 0
    | [] =>
      Act.complain "disown: current: no such job"
      pure 1
  else
    let mut status := 0
    for spec in specs do
      let job : Option Job ←
        if spec.startsWith "%" then pure (← find spec).toOption
        else pure ((natText? spec).bind fun n => all.find? (·.process == n))
      match job with
      | some j => keep ((← known).filter (·.place != j.place))
      | none =>
        Act.complain ("disown: " ++ spec ++ ": no such job")
        status := 1
    pure status

/-- The commands `fg` and `bg`, which need a terminal. -/
def resume (name : String) (args : List String) : Act Nat := do
  match (← Act.shell).dialect with
  | .rich =>
    Act.complain (name ++ ": no job control")
    pure 1
  | .plain =>
    let spec := args.head?
    match ← find (spec.getD "%") with
    | .ok _ =>
      Act.complain (name ++ ": job " ++ spec.getD "(null)" ++ " not created under job control")
    | .error text => Act.complain (name ++ ": " ++ text)
    pure 2

end Runbook.Shell.Jobs
