import Runbook.Shell.Builtin.Lookup
import Runbook.Shell.Builtin.Option
import Runbook.Shell.Disk.Basic
import Runbook.Shell.Script.Read
import Runbook.Shell.Tool.Basic

/-!
# `Shell/Run/Program` — shells and programs that are started

A program that is started knows what it has been passed on, and a shell some more.
-/

set_option autoImplicit false

/-!
## New shells

A shell that is started by another process knows the variables that are passed on to it, and those
that it sets itself.
-/

namespace Runbook.Shell

/-- The folders that are searched for programs if nobody says which. -/
def defaultPath : String := "/usr/local/sbin:/usr/local/bin:/usr/sbin:/usr/bin:/sbin:/bin"

/-- The variables of a new shell, called by a name in a folder, that gets some passed on. -/
def startVariables (d : Dialect) (called : String) (disk : Disk) (here : Location)
    (passed : List (String × String)) : Std.HashMap String Variable :=
  let own (value : String) : Variable := { value := .text value }
  let path := if called.startsWith "/" then called else "/usr/bin/bash"
  let start : Std.HashMap String Variable :=
    match d with
    | .plain =>
      Std.HashMap.ofList [("IFS", own " \t\n"), ("OPTIND", own "1"), ("PS1", own "# "),
        ("PS2", own "> "), ("PS4", own "+ "), ("PATH", own defaultPath), ("PPID", own "999")]
    | .rich =>
      Std.HashMap.ofList [("BASH", own path), ("BASH_VERSION", own "5.2.15(1)-release"),
        ("BASH_VERSINFO",
          { value := Value.ofList ["5", "2", "15", "1", "release", "x86_64-pc-linux-gnu"]
            fixed := true }),
        ("BASH_LOADABLES_PATH",
          own "/usr/local/lib/bash:/usr/lib/bash:/opt/local/lib/bash:/usr/pkg/lib/bash:/opt/pkg/lib/bash:."),
        ("DIRSTACK", { value := .listed ∅ }), ("GROUPS", { value := .listed ∅ }),
        ("EUID", { value := .text "0", fixed := true, integer := true }),
        ("UID", { value := .text "0", fixed := true, integer := true }),
        ("PPID", { value := .text "999", fixed := true, integer := true }),
        ("HOSTNAME", own "localhost"), ("HOSTTYPE", own "x86_64"), ("IFS", own " \t\n"),
        ("MACHTYPE", own "x86_64-pc-linux-gnu"), ("OPTERR", own "1"), ("OPTIND", own "1"),
        ("OSTYPE", own "linux-gnu"), ("PATH", own defaultPath), ("PS4", own "+ "),
        ("SHELL", own "/bin/bash"), ("TERM", own "dumb"),
        ("_", own called),
        ("OLDPWD", { exported := true })]
  let all := passed.foldl (fun vars (n, t) =>
    if isName n then vars.insert n { value := .text t, exported := true } else vars) start
  let all := if d = .plain then all.insert "OPTIND" (own "1") else all
  let all := all.insert "IFS" (own " \t\n")
  let folder :=
    match all["PWD"]?.bind (·.value.scalar?) with
    | some p =>
      if p.startsWith "/" ∧ (disk.resolve [] p).toOption = some here then p else Disk.pathOf here
    | none => Disk.pathOf here
  let all := all.insert "PWD" { value := .text folder, exported := true }
  match d with
  | .plain => all
  | .rich =>
    let depth := (all["SHLVL"]?.bind (·.value.scalar?)).bind decimalText?
    let all := all.insert "SHLVL"
      { value := .text (intText (depth.getD 0 + 1)), exported := true }
    match all["OLDPWD"]? with
    | some { value := .text o, .. } =>
      if ((disk.find here o).toOption.any (·.2.isFolder)) then all
      else all.insert "OLDPWD" { exported := true }
    | _ => all

/-- The functions that are passed on to a new shell. -/
def startFunctions (d : Dialect) (passed : List (String × String)) :
    Std.HashMap String Defined :=
  if d = .plain then ∅
  else
    passed.foldl (fun all (key, text) =>
      match Environment.functionOf? key text with
      | some name =>
        let c : Cursor := { dialect := d, rest := (name ++ " " ++ text ++ "\n").toList }
        match Reading.line c with
        | .ok (some [.define _ _ body], _) =>
          all.insert name { body := body, line := 1, base := 0, title := "environment", exported := true }
        | _ => all
      | none => all) ∅

/-- A new shell in the place of one, which passes variables on to it. -/
def Interpreter.started (s : Interpreter) (d : Dialect) (disk : Disk) (called name : String)
    (arguments : List String) (passed : List (String × String)) : Interpreter :=
  { dialect := d
    name := name
    bindings := startVariables d called disk s.here passed
    functions := startFunctions d passed
    arguments := arguments
    options := Options.initial d
    features := Options.initialFeatures
    here := s.here
    descriptors := s.descriptors
    traps := s.traps.filter (·.2 == "")
    number := s.number
    mask := s.mask }

end Runbook.Shell

/-!
## Running program files

A program file is a tool of the system, or a script: one whose first line names an interpreter is
handed to that, and any other one is run by a new shell of the dialect at hand.
-/

namespace Runbook.Shell.Program

/-- Why a program file is not run. -/
inductive Refusal where
  | system (err : Errno)
  /-- The interpreter that the file names is not there. -/
  | noInterpreter
  /-- The file is no text. -/
  | binary
  deriving DecidableEq, Repr

/-- What a program file is. -/
inductive Runnable where
  | tool (name : String)
  | interpreted (path : String) (argument : Option String)
  | script (text : String)

/-- What the text of a program file is. -/
def runnableOf (text : String) : Except Refusal Runnable :=
  match Disk.toolOf? text with
  | some tool => .ok (.tool tool)
  | none =>
    match text.toList with
    | '#' :: '!' :: rest =>
      let line := (rest.takeWhile (· != '\n')).dropWhile fun c => c == ' ' || c == '\t'
      let (path, more) := line.span fun c => c != ' ' && c != '\t'
      let argument := String.ofList (more.dropWhile fun c => c == ' ' || c == '\t')
      .ok (.interpreted (String.ofList path) (if argument = "" then none else some argument))
    | cs =>
      if (cs.takeWhile (· != '\n')).any (·.toNat == 0) then .error .binary else .ok (.script text)

/-- What the file that a path leads to is. -/
def load (path : String) : Act (Except Refusal Runnable) := do
  match (← Act.disk).find (← Act.shell).here path with
  | .error err => pure (.error (.system err))
  | .ok (_, n) =>
    match n.content with
    | .file text => pure (if n.mayRun then runnableOf text else .error (.system .denied))
    | .folder _ => pure (.error (.system .isFolder))
    | _ => pure (.error (.system .denied))

/-- Runs a new shell in the place of the one at work, as a process of its own. -/
def runShell (e : Engine) (d : Dialect) (called name : String) (args : List String)
    (prepare : Interpreter → Interpreter) (text : String) : Act Nat :=
  Act.isolated e do
    let passed ← Environment.all
    let disk ← Act.disk
    Act.modifyShell fun s =>
      let new := prepare (s.started d disk called name args passed)
      { new with isSubshell := new.origin != "-c" }
    e.script 1 text

/-- Runs a tool. A text that it could not write makes it fail. -/
def runTool (e : Engine) (tool : Tool) (c : Call) : Act Nat := do
  Act.modifyWorld fun w => { w with fault := none }
  match ← Act.attempt (tool e c) with
  | .ok n =>
    match (← get).world.fault with
    | some err =>
      if n = 0 then
        c.blame ("write error: " ++ err.text)
        pure 1
      else pure n
    | none => pure n
  | .error (.killed n) => pure (128 + n)
  | .error .starved => throw .starved
  | .error _ => pure (← Act.shell).status

/-- Runs the program file at a path, called by the first of some words with the others as arguments;
`fuel` bounds how often an interpreter has an interpreter. -/
def runFile (e : Engine) (tool? : String → Option Tool) : (fuel : Nat) → (path : String) →
    (words : List String) → Act (Except Refusal Nat)
  | 0, _, _ => pure (.error (.system .tooManyLinks))
  | fuel + 1, path, words => do
    let args := words.drop 1
    match ← load path with
    | .error r => pure (.error r)
    | .ok (.tool tool) =>
      match tool? tool with
      | some t => pure (.ok (← runTool e t ⟨words.head?.getD path, args⟩))
      | none => pure (.ok 0)
    | .ok (.interpreted interpreter argument) =>
      match ← runFile e tool? fuel interpreter (interpreter :: argument.toList ++ path :: args) with
      | .ok n => pure (.ok n)
      | .error _ => pure (.error .noInterpreter)
    | .ok (.script text) =>
      let d := (← Act.shell).dialect
      pure (.ok (← runShell e d path path args (fun s => { s with origin := "", home := path }) text))

/-- How deep interpreters may lie in each other. -/
def maxInterpreters : Nat := 5

/-- Why a program cannot be run, as the operating system tells it. -/
def Refusal.errno : Refusal → Errno
  | .system .isFolder => .denied
  | .system err => err
  | .noInterpreter => .noEntry
  | .binary => .badFormat

/-- Runs a program given by its words, and gives the status with which it ends, or tells why it is
not run. -/
def run (e : Engine) (tool? : String → Option Tool) (words : List String) :
    Act (Except Errno Nat) := do
  match words with
  | [] => pure (.ok 0)
  | name :: _ =>
    let path ← if name.toList.contains '/' then pure (some name) else Lookup.program? name
    match path with
    | none => pure (.error .noEntry)
    | some path =>
      match ← runFile e tool? maxInterpreters path words with
      | .ok n => pure (.ok n)
      | .error r => pure (.error r.errno)

end Runbook.Shell.Program
