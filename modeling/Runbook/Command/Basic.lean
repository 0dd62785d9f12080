import Runbook.Loop.Basic
import Runbook.Text.Shown

/-!
# `Command` — running a loop's command

A command is run by a shell, within a time. How the process ended (`Ending`) decides what the loop
gets: the output of a process that ended well, or else a reason. The process itself is not part of
this part: a `Runner` is made from anything that says how requests end.
-/

set_option autoImplicit false

namespace Runbook.Command

open Runbook.Text

/-- The shell that runs commands unless another is set. -/
def defaultShell : String := "/bin/bash"

/-- The seconds that a command has unless others are set. -/
def defaultTimeout : Int := 120

/-- A process that is asked for. -/
structure Request where
  command : String
  shell : String
  /-- The time it has, in seconds. -/
  timeout : Int
  deriving DecidableEq, Repr

/-- How a process ended. -/
inductive Ending where
  | exited (status : Int) (output errors : String)
  | timedOut
  | notStarted (reason : String)
  deriving DecidableEq, Repr

/-- The time that a command has. A time of zero counts as none set. -/
def timeoutOf (timeout : Option Int) : Int :=
  match timeout with
  | some t => if t = 0 then defaultTimeout else t
  | none => defaultTimeout

/-- An integer as a string. -/
def integer (n : Int) : String := String.ofList (signed n)

/-- What a process that was asked for gives. -/
def Ending.outcome (timeout : Int) : Ending → Except String String
  | .exited status output errors =>
    if status = 0 then .ok output
    else
      .error ("Command exited with status " ++ integer status ++
        (if trimmed errors = "" then "" else ": " ++ trimmed errors))
  | .timedOut => .error ("Command timed out after " ++ integer timeout ++ " seconds")
  | .notStarted reason => .error ("Command could not be started: " ++ reason)

/-- The request for a command. -/
def request (shell : Option String) (timeout : Option Int) (command : String) : Request :=
  { command, shell := shell.getD defaultShell, timeout := timeoutOf timeout }

/-- A runner on top of something that runs processes. -/
def runner {m : Type → Type} [Monad m] [Telling m] (execute : Request → m Ending)
    (shell : Option String) (timeout : Option Int) : Runner m := fun command => do
  let asked := request shell timeout command
  Telling.tell (.running command)
  let ending ← execute asked
  pure (ending.outcome asked.timeout)

/-! ## Reasons of the operating system -/

/-- A text in single quotes, or in double ones if it holds a single quote and no double one. What
cannot be shown is escaped. -/
def inQuotes (s : String) : String :=
  let quote := if s.toList.contains '\'' && !s.toList.contains '"' then '"' else '\''
  String.ofList (quote :: s.toList.flatMap (fun c =>
    if c = quote ∨ c = '\\' then ['\\', c]
    else if c = '\n' then ['\\', 'n']
    else if c = '\r' then ['\\', 'r']
    else if c = '\t' then ['\\', 't']
    else if isShown c then [c]
    else numberEscape c) ++ [quote])

/-- An error of the operating system: its number, its text, and the file it is about. -/
def osError (number : Int) (text : String) (file : Option String) : String :=
  "[Errno " ++ integer number ++ "] " ++ text ++
    (match file with
    | some name => ": " ++ inQuotes name
    | none => "")

end Runbook.Command
