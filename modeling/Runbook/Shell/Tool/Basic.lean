import Runbook.Shell.Process.Child
import Runbook.Shell.Script.Source
import Runbook.Shell.Text.Quote

/-!
# `Shell/Tool` — programs

A program is called by a name with arguments (`Call`), reads and writes through the descriptors that
it is given, and ends with a status. Programs that run other commands do so through the engine.

Filters handle what their input has to give at present, and ask for more only then: a producer that
never ends is no obstacle to a consumer that has had enough.
-/

set_option autoImplicit false

namespace Runbook.Shell

/-- How a program was called. -/
structure Call where
  name : String
  args : List String

/-- What a program does; it gives the status with which it ends. -/
abbrev Tool := Engine → Call → Act Nat

namespace Call

/-- Tells something in the name of the program. -/
def blame (c : Call) (text : String) : Act Unit := Act.tell (c.name ++ ": " ++ text ++ "\n")

/-- Tells where more is told about the program. -/
def hint (c : Call) : Act Unit :=
  Act.tell ("Try '" ++ c.name ++ " --help' for more information.\n")

/-- Tells that the program was called in a wrong way. -/
def refuse (c : Call) (status : Nat) (text : String) : Act Nat := do
  c.blame text
  c.hint
  pure status

end Call

namespace Environment

/-- The place of a name in the table of variables of the plain dialect. -/
def plainPlace (name : String) : Nat :=
  let bytes := (Raw.bytesOfString name).map (·.toNat)
  bytes.foldl (· + ·) ((bytes.head?.getD 0) * 16) % 39

/-- Names that are in the table from the start come before others. -/
def isEarly (name : String) : Bool := ["PATH", "HOME", "LANG", "PWD"].contains name

/-- What a function is called among the variables that are passed on. -/
def functionKey (name : String) : String := "BASH_FUNC_" ++ name ++ "%%"

/-- The function that a variable passes on. -/
def functionOf? (key text : String) : Option String :=
  if key.startsWith "BASH_FUNC_" ∧ key.endsWith "%%" ∧ text.startsWith "() \x7b" then
    some ((key.drop 10).dropEnd 2).toString
  else none

/-- The variables that are passed on, with their values, in the order of the shell's table. -/
def all : Act (List (String × String)) := do
  let s ← Act.shell
  if let some given := s.environment then return given
  let passed := s.bindings.toList.filterMap fun (n, v) =>
    if v.exported then v.value.scalar?.map fun t => (n, t) else none
  match s.dialect with
  | .rich =>
    let (last, rest) := passed.partition fun p => p.1 == "_"
    let (own, others) := rest.partition fun p => s.given.contains p.1
    let own := s.given.filterMap fun n => own.find? (·.1 == n)
    let sorted := others.mergeSort fun a b => decide (a.1 ≤ b.1)
    let functions := s.functions.toList.filter fun (_, f) => f.exported
    let functions := functions.mergeSort fun a b => decide (a.1 ≤ b.1)
    pure (inTableOrder 4 own ++ inKeyOrder sorted ++
      functions.map (fun (n, f) => (functionKey n, f.body.passedSource)) ++ last)
  | .plain =>
    let key (n : String) : Nat := plainPlace n * 2 + (if isEarly n then 0 else 1)
    let sorted := passed.mergeSort fun a b => decide (a.1 ≤ b.1)
    pure (sorted.mergeSort fun a b => decide (key a.1 ≤ key b.1))

end Environment

/-- Runs a program as the last thing that a process does. It is told by the status alone if it
cannot be run. -/
def runLast (e : Engine) (words : List String) : Act Unit := do
  match ← e.program words with
  | .ok n => Act.setStatus n
  | .error .noEntry => Act.setStatus 127
  | .error _ => Act.setStatus 126

end Runbook.Shell
