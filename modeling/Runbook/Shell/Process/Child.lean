import Runbook.Shell.Process.Variable

/-!
# `Shell/Process/Child` — processes started by a shell

A child gets a copy of what its shell knows, and shares the files and the channels with it. Whatever
cuts it short, it ends with a status.
-/

set_option autoImplicit false

namespace Runbook.Shell.Act

/-- The status with which a process ends after its actions. A channel that has not been filled far
enough is passed on. -/
def endOf (r : Except Flow Unit) : Act Nat := do
  match r with
  | .ok () => pure (← shell).status
  | .error .exit | .error .back | .error (.leave _) | .error (.again _) => pure (← shell).status
  | .error .abort => pure (← shell).status
  | .error (.killed n) => pure (128 + n)
  | .error .starved => throw .starved

/-- Does something a level deeper, as commands that are shown tell. -/
def deeper (a : Act Unit) : Act Unit := do
  let before := (← shell).level
  modifyShell fun s => { s with level := before + 1 }
  finally_ a (modifyShell fun s => { s with level := before })

/-- Runs what has been set to be run at the end. -/
def runExitTrap (e : Engine) : Act Unit := do
  let s ← shell
  match s.traps.lookup "EXIT" with
  | some text =>
    modifyShell fun s => { s with traps := s.traps.filter (·.1 != "EXIT") }
    let status := s.status
    match ← attempt (e.script 1 text) with
    | .ok () => setStatus status
    | .error .exit => pure ()
    | .error (.killed n) => throw (.killed n)
    | .error .starved => throw .starved
    | .error _ => pure ()
  | none => pure ()

/-- Does something as a child, and gives the status with which the child ends. -/
def asChild (e : Engine) (a : Act Unit) : Act Nat := do
  let whole : Act Unit := do
    match ← attempt a with
    | .ok () => pure ()
    | .error f =>
      let status ← endOf (.error f)
      setStatus status
      match f with
      | .killed n => throw (.killed n)
      | _ => pure ()
    runExitTrap e
  endOf (← attempt whole)

/-- Runs the last command of a process. If that is a simple one, or ends in a simple one, its
program takes the place of the shell. -/
def runFinal (e : Engine) (c : Command) : Act Unit := do
  let mayYield := match c with
    | .simple _ _ _ [] | .and _ (.simple _ _ _ []) | .or _ (.simple _ _ _ []) => true
    | _ => false
  if mayYield then
    modifyShell fun s => { s with yields := s.dialect = .rich }
  e.run c

/-- Runs commands one after another, the last ones of a process. -/
def runAll (e : Engine) : Script → Act Unit
  | [] => pure ()
  | [c] => runFinal e c
  | c :: rest => do
    e.run c
    runAll e rest

/-- The program of the command at hand takes the place of the shell; what comes behind it does not.
-/
def takeYield : Act Bool := do
  let yields := (← shell).yields
  if yields then modifyShell fun s => { s with yields := false }
  pure yields

/-- A program takes the place of the shell, which is then one shell less deep. -/
def stepDown : Act Unit := do
  let depth := ((← textOf? "SHLVL").bind decimalText?).getD 1
  putVariable "SHLVL" { value := .text (intText (max 0 (depth - 1))), exported := true }

/-- Runs a process beside, which is no longer waiting, and keeps its status. -/
def runBeside (e : Engine) (p : Pending) : Act Unit := do
  let before ← shell
  modifyShell fun _ => p.shell
  let status ← attempt (asChild e (runFinal e p.command))
  modifyShell fun _ => before
  match status with
  | .ok n => modifyWorld fun w => { w with ended := (p.number, n) :: w.ended }
  | .error f => throw f

/-- Runs the processes beside that have not begun yet, the oldest first; `fuel` bounds their number.
Those that were there before some others are left alone. -/
def runPending (e : Engine) (kept : Nat) : (fuel : Nat) → Act Unit
  | 0 => pure ()
  | fuel + 1 => do
    let all := (← get).world.pending
    match all.drop kept with
    | [] => pure ()
    | p :: rest =>
      modifyWorld fun w => { w with pending := all.take kept ++ rest }
      runBeside e p
      runPending e kept fuel

/-- Lets processes beside write to the queues among some paths that are about to be read, if
nothing waits there. -/
def fillQueues (e : Engine) (paths : List String) : Act Unit := do
  let w := (← get).world
  if !w.pending.isEmpty then
    let here := (← shell).here
    let isDry (path : String) : Bool :=
      match w.disk.find here path with
      | .ok (_, n) => n.isQueue && w.disk.waiting.getD n.serial "" == ""
      | .error _ => false
    if paths.any isDry then runPending e 0 w.pending.length

/-- Runs those of some processes beside that end before a time comes; the others are as before. -/
def runUntil (e : Engine) (limit : Nat) (ps : List Pending) : Act Unit :=
  ps.forM fun p => do
    let m ← get
    if m.world.pending.any (·.number == p.number) then
      let clock := m.world.disk.clock
      modifyWorld fun w =>
        { w with pending := w.pending.filter (·.number != p.number), deadline := some limit }
      match ← attempt (runBeside e p) with
      | .ok () =>
        modifyWorld fun w =>
          { w with deadline := m.world.deadline, disk := { w.disk with clock := clock } }
      | .error _ => set m

/-- The greatest number of processes beside. -/
def maxPending : Nat := 100000

/-- What a child knows of its shell. -/
def childOf (s : Interpreter) (number : Nat) : Interpreter :=
  { s with
    traps := s.traps.filter (·.2 == "")
    isSubshell := true
    depth := s.depth + 1
    jobs := []
    numbered := if s.dialect = .rich then s.numbered else []
    substitutions := []
    loops := if s.dialect = .rich then 0 else s.loops
    number := number }

/-- The number of a new process. -/
def newProcess : Act Nat := do
  let n := (← get).world.processes + 1
  modifyWorld fun w => { w with processes := n }
  pure n

/-- Does something in a child, and gives the status with which the child ends. What runs beside the
child is waited for. -/
def isolated (e : Engine) (a : Act Unit) : Act Nat := do
  let before ← shell
  let kept := (← get).world.pending.length
  let number ← newProcess
  modifyShell fun s => childOf s number
  let status ← attempt do
    let n ← asChild e a
    runPending e kept maxPending
    pure n
  modifyShell fun s => { before with seed := s.seed + 1 }
  match status with
  | .ok n => pure n
  | .error f => throw f

/-- A signal reaches the shell: what has been set for it is run, or the shell is ended. -/
def signal (e : Engine) (name : String) (number : Nat) : Act Unit := do
  match (← shell).traps.lookup name with
  | some "" => pure ()
  | some text =>
    let status := (← shell).status
    deeper (e.script 1 text)
    setStatus status
  | none => if ["CHLD", "URG", "WINCH", "CONT"].contains name then pure () else throw (.killed number)

/-- What a child writes to its output, and the status with which it ends. -/
def captured (e : Engine) (a : Act Unit) : Act (String × Nat) := do
  let id ← newChannel (.output "" none false)
  let status ← isolated e do
    setDescriptor 1 id
    a
  let text := match (← get).world.channels[id]? with
    | some (.output s _ _) => s
    | _ => ""
  modifyWorld fun w => { w with channels := w.channels.erase id }
  pure (text, status)

end Runbook.Shell.Act
