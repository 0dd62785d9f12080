import Runbook.Shell.Disk.Basic
import Runbook.Shell.Script.Basic
import Std.Data.TreeMap

/-!
# `Shell/Process` — a shell at work

What commands act on: the files, the channels that processes read and write, and what a shell knows
of its own (`Interpreter`): variables, functions, options, descriptors. The files and the channels are
shared by all processes (`World`); a process that is started by another one gets a copy of the rest.

An action (`Act`) changes all this, and may be cut short (`Flow`): by leaving a loop, a function or
the shell, by a signal, or because a channel has not been filled far enough.
-/

set_option autoImplicit false

namespace Runbook.Shell

/-- Where bytes come from or go to. Processes that share a channel share the place in it. -/
inductive Channel where
  /-- A text is read; `cut` tells that more of it would come. -/
  | input (rest : List Char) (cut : Bool)
  /-- What is written is collected, up to an amount if there is one; `beyond` tells that more was to
  be written. -/
  | output (text : String) (room : Option Nat) (beyond : Bool)
  /-- A file, read and written at an offset; `ahead` is what is behind the offset, as of a time. -/
  | file (file : Handle) (offset : Nat) (reads writes append : Bool)
    (ahead : Option (Nat × List Char))
  | device (device : Device)
  /-- A queue with a serial. -/
  | queue (serial : Nat)

/-- The value of a variable. -/
inductive Value where
  | none
  | text (s : String)
  /-- Elements by number. -/
  | listed (elements : Std.TreeMap Nat String)
  /-- Elements by key, the latest first. -/
  | keyed (elements : List (String × String))

instance : Inhabited Value := ⟨.none⟩

/-- A variable and its attributes. -/
structure Variable where
  value : Value := .none
  exported : Bool := false
  fixed : Bool := false
  integer : Bool := false
  lower : Bool := false
  upper : Bool := false
  /-- The value is the name of the variable that is meant. -/
  reference : Bool := false

instance : Inhabited Variable := ⟨{}⟩

/-- A call of a function. -/
structure Frame where
  name : String
  /-- The arguments of the caller. -/
  arguments : List String
  /-- The variables that come back after the call. -/
  saved : List (String × Option Variable) := []
  /-- The line of the call. -/
  line : Nat := 0

/-- A function. -/
structure Defined where
  body : Command
  /-- The line on which the body begins. -/
  line : Nat
  /-- What the numbers of its lines are counted from. -/
  base : Nat
  /-- What messages name when it is at work. -/
  title : String
  /-- It is passed on to other shells. -/
  exported : Bool := false
  /-- It cannot be defined anew. -/
  fixed : Bool := false

/-- Where a program was found, and how often it was asked for. -/
structure Sighting where
  path : String
  hits : Nat := 0

/-- A command that was begun beside, under a number of its own. -/
structure Job where
  place : Nat
  process : Nat
  command : Command
  /-- It has been waited for. -/
  awaited : Bool := false

/-- What a shell knows of its own. -/
structure Interpreter where
  dialect : Dialect
  /-- The name it was started by. -/
  name : String
  line : Nat := 0
  /-- What the line numbers of the commands at hand are counted from. -/
  base : Nat := 0
  bindings : Std.HashMap String Variable := ∅
  frames : List Frame := []
  functions : Std.HashMap String Defined := ∅
  /-- What messages name in the place of the shell. -/
  title : Option String := none
  /-- What messages name when functions of the script are at work. -/
  home : String := "environment"
  arguments : List String := []
  status : Nat := 0
  /-- The statuses of the commands of the latest pipeline that had several. -/
  stages : List Nat := []
  /-- The options that are on. -/
  options : List String := []
  /-- The further options of the rich dialect that are on. -/
  features : List String := []
  here : Location := []
  descriptors : List (Nat × Nat) := []
  /-- What is run at signals and at the end. -/
  traps : List (String × String) := []
  /-- The processes that run beside, the latest first. -/
  jobs : List Nat := []
  /-- Those of them that go by numbers of their own, the latest first. -/
  numbered : List Job := []
  /-- Descriptors of channels from or to the commands in words, the latest first, with the channels
  and the commands that read them when the command at work has ended. -/
  substitutions : List (Nat × Option (Nat × Script)) := []
  number : Nat := 1000
  /-- The permissions that new files do not get. -/
  mask : Nat := 0o022
  /-- The folders that were left for others. -/
  stack : List String := []
  loops : Nat := 0
  /-- How many files of commands are being read. -/
  sourcing : Nat := 0
  /-- Failures do not end the shell at present. -/
  lenient : Bool := false
  depth : Nat := 0
  /-- The status of the latest command inside a word. -/
  inWord : Option Nat := none
  /-- The command whose messages are told, beside the line. -/
  speaker : Option String := none
  /-- Whose text is read, as messages about mistakes in it tell. -/
  origin : String := "-c"
  /-- How deep the commands at work lie inside words and texts of other commands. -/
  level : Nat := 0
  /-- Commands of the shell that are not found. -/
  disabled : List String := []
  isSubshell : Bool := false
  aliases : List (String × String) := []
  /-- The programs that have been found, the latest first, and the list of folders in which they
  have been looked for. -/
  found : List (String × Sighting) := []
  searched : String := ""
  /-- What is passed on to programs, if that is not what the variables say. -/
  environment : Option (List (String × String)) := none
  /-- The variables that the command at work was given, the latest first. -/
  given : List String := []
  /-- The program of the command that comes next takes the place of the shell. -/
  yields : Bool := false
  /-- Where options are read next, inside an argument. -/
  optionPlace : Nat := 1
  seed : Nat := 1

/-- A command that runs beside, not yet begun, in a shell of its own. -/
structure Pending where
  number : Nat
  shell : Interpreter
  command : Command

/-- What all processes share. -/
structure World where
  disk : Disk
  channels : Std.HashMap Nat Channel := ∅
  /-- A number that no channel has yet. -/
  fresh : Nat := 0
  /-- The number of the latest process. -/
  processes : Nat := 1000
  pending : List Pending := []
  /-- The statuses of processes that ran beside. -/
  ended : List (Nat × Nat) := []
  /-- Why the latest text that could not be written was not. -/
  fault : Option Errno := none
  /-- The time at which the work at hand is to be given up. -/
  deadline : Option Nat := none

/-- All that commands act on. -/
structure Machine where
  world : World
  shell : Interpreter

/-- Why an action is cut short. -/
inductive Flow where
  | leave (loops : Nat)
  | again (loops : Nat)
  /-- A function is left. -/
  | back
  /-- The shell is left. -/
  | exit
  /-- The rest of the line is given up. -/
  | abort
  | killed (signal : Nat)
  /-- A channel was read to its end, but more would come. -/
  | starved
  deriving DecidableEq, Repr

/-- Something done on a machine. -/
abbrev Act := ExceptT Flow (StateM Machine)

/-- Characters of an expanded word. -/
inductive Bit where
  /-- A character; a quoted one stands for itself, and one from a substitution may end a field. -/
  | char (c : Char) (quoted splits : Bool)
  /-- Something quoted was here, though it may be empty. -/
  | hold
  /-- A field ends here. -/
  | gap
  deriving Repr, DecidableEq

/-- What the parts of a shell need of each other. -/
structure Engine where
  run : Command → Act Unit
  /-- Runs the text of a script that begins at a line. -/
  script : (line : Nat) → String → Act Unit
  /-- Expands a word; between double quotes nothing is split. -/
  expand : (inDouble : Bool) → Word → Act (List Bit)
  /-- Computes an expression. -/
  compute : String → Act Int
  /-- Runs a program given by its words, and gives the status with which it ends, or tells why it is
  not run. -/
  program : List String → Act (Except Errno Nat)

namespace Act

/-- The shell. -/
def shell : Act Interpreter := do pure (← get).shell

/-- Changes the shell. -/
def modifyShell (f : Interpreter → Interpreter) : Act Unit := modify fun m => { m with shell := f m.shell }

/-- Changes what all share. -/
def modifyWorld (f : World → World) : Act Unit := modify fun m => { m with world := f m.world }

/-- The files. -/
def disk : Act Disk := do pure (← get).world.disk

/-- Changes the files. -/
def modifyDisk (f : Disk → Disk) : Act Unit :=
  modify fun m => { m with world := { m.world with disk := f m.world.disk } }

/-- Does something on a line of the script, after which the line is as before. -/
def atLine {α : Type} (line : Nat) (a : Act α) : Act α := do
  let before := (← shell).line
  modifyShell fun s => { s with line := s.base + line }
  match a (← get) with
  | (.ok x, m) =>
    set { m with shell := { m.shell with line := before } }
    pure x
  | (.error f, m) =>
    set { m with shell := { m.shell with line := before } }
    throw f

/-- Sets the status of the latest command. -/
def setStatus (n : Nat) : Act Unit :=
  modifyShell fun s => { s with status := n % 256, stages := [] }

/-- An option is on. -/
def isOn (option : String) : Act Bool := do pure ((← shell).options.contains option)

/-- A further option is on. -/
def hasFeature (feature : String) : Act Bool := do pure ((← shell).features.contains feature)

/-- The shell speaks the rich dialect. -/
def isRich : Act Bool := do pure ((← shell).dialect == .rich)

/-- An action whose flow is looked at. -/
def attempt {α : Type} (a : Act α) : Act (Except Flow α) :=
  fun m =>
    match a m with
    | (r, m) => (.ok r, m)

/-- An action after which something else is done in any case. -/
def finally_ {α : Type} (a : Act α) (after : Act Unit) : Act α := do
  match ← attempt a with
  | .ok x =>
    after
    pure x
  | .error f =>
    after
    throw f

end Act

end Runbook.Shell
