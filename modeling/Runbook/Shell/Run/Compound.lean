import Runbook.Shell.Run.Simple
import Runbook.Shell.Script.Source

/-!
# `Shell/Run/Compound` — commands made of others

Pipelines, choices and loops.
-/

set_option autoImplicit false

/-!
## Commands that read what others write

The commands of a pipeline are run one after another, each in a process of its own. A command that
writes is given room for some output; if the commands that read have enough with that, it is ended
as the system ends writers that nobody reads from any more. If they ask for more, all is done again
from the start with more room.
-/

namespace Runbook.Shell.Pipeline

/-- The amounts of room that a command that writes is given, one after another. -/
def rooms : List Nat := [65536, 1048576, 16777216]

/-- Runs a command that writes to others, reading from a channel, with some room. It gives what was
written, whether more was to be written, and the status. -/
def produce (e : Engine) (input : Option Nat) (c : Command) (room : Nat) :
    Act (String × Bool × Nat) := do
  let id ← Act.newChannel (.output "" (some room) false)
  let status ← Act.isolated e do
    match input with
    | some i => Act.setDescriptor 0 i
    | none => pure ()
    Act.setDescriptor 1 id
    e.run c
  let (text, beyond) := match (← get).world.channels[id]? with
    | some (.output t _ beyond) => (t, beyond)
    | _ => ("", false)
  Act.modifyWorld fun w => { w with channels := w.channels.erase id }
  pure (text, beyond, status)

/-- Lets a producer write with more and more room until a consumer has enough. -/
def feed {α : Type} (producer : Nat → Act (String × Bool × Nat))
    (consumer : String → Bool → Nat → Act α) : (rooms : List Nat) → Act α
  | [] => throw .starved
  | room :: more => fun m =>
    match producer room m with
    | (.error f, after) => (.error f, after)
    | (.ok (text, beyond, status), after) =>
      match consumer text beyond status after with
      | (.error .starved, later) =>
        if beyond then feed producer consumer more m else (.error .starved, later)
      | result => result

/-- Runs the commands of a pipeline, the first one reading from a channel, and gives their
statuses. -/
def stages (e : Engine) : (input : Option Nat) → List Command → Act (List Nat)
  | _, [] => pure []
  | input, [last] => do
    let feedIt : Act Unit := do
      match input with
      | some i => Act.setDescriptor 0 i
      | none => pure ()
    if (← Act.isRich) && (← Act.hasFeature "lastpipe") then
      let before := (← Act.shell).descriptors
      feedIt
      Act.finally_ (e.run last) (Act.modifyShell fun s => { s with descriptors := before })
      pure [(← Act.shell).status]
    else
      let status ← Act.isolated e do
        feedIt
        e.run last
      pure [status]
  | input, c :: rest =>
    feed (produce e input c) (fun text beyond status => do
      let id ← Act.newChannel (.input (Raw.joined text.toList) beyond)
      let statuses ← stages e (some id) rest
      Act.modifyWorld fun w => { w with channels := w.channels.erase id }
      pure (status :: statuses)) rooms

/-- The status of a pipeline whose commands had some statuses. -/
def statusOf (fails : Bool) (statuses : List Nat) : Nat :=
  if fails then (statuses.reverse.find? (· != 0)).getD 0 else statuses.getLast?.getD 0

/-- Tells how long a command took. -/
def tellTime : Act Unit := do
  if ← Act.isRich then
    match ← Act.textOf? "TIMEFORMAT" with
    | some "" => pure ()
    | some f =>
      let rec go : (fuel : Nat) → List Char → List Char
        | 0, cs => cs
        | _ + 1, [] => []
        | fuel + 1, '%' :: '%' :: rest => '%' :: go fuel rest
        | fuel + 1, '%' :: rest =>
          let (flags, more) := rest.span fun c => c.isDigit || c == 'l'
          let places := ((flags.find? Char.isDigit).map fun c => c.toNat - 48).getD 3
          let number := "0" ++ (if places = 0 then "" else "." ++ String.ofList (List.replicate places '0'))
          let text := if flags.contains 'l' then "0m" ++ number ++ "s" else number
          match more with
          | 'P' :: after => "0.00".toList ++ go fuel after
          | _ :: after => text.toList ++ go fuel after
          | [] => []
        | fuel + 1, c :: rest => c :: go fuel rest
      Act.tell (String.ofList (go (f.length + 1) f.toList) ++ "\n")
    | none => Act.tell "\nreal\t0m0.000s\nuser\t0m0.000s\nsys\t0m0.000s\n"

/-- Runs a pipeline. -/
def run (e : Engine) (negated timed : Bool) (cs : List Command) : Act Unit := do
  let work : Act Unit := do
    match cs with
    | [] => Act.setStatus 0
    | [c] => e.run c
    | _ =>
      let statuses ← stages e none cs
      let fails ← Act.isOn "pipefail"
      Act.setStatus (statusOf fails statuses)
      Act.modifyShell fun s => { s with stages := statuses }
  if negated then
    Simple.leniently work
    Act.modifyShell fun s => { s with status := if s.status = 0 then 1 else 0 }
  else
    work
    if 1 < cs.length then Simple.settle e
  if timed then tellTime

end Runbook.Shell.Pipeline

/-!
## Compound commands

Choices and loops. A loop goes on for a great number of times at most (`maxTurns`); a script that
asks for more does not end in time.
-/

namespace Runbook.Shell.Compound

/-- How often a loop may go round. -/
def maxTurns : Nat := 20000000

/-- What a loop does after its body, or its test. -/
inductive Turn where
  | next
  | stop
  deriving DecidableEq

/-- Does the body of a loop. Flow that is meant for an outer loop goes on there. -/
def turn (body : Act Unit) : Act Turn := fun m =>
  match body m with
  | (.ok (), m) => (.ok .next, m)
  | (.error (.leave n), m) => if n ≤ 1 then (.ok .stop, m) else (.error (.leave (n - 1)), m)
  | (.error (.again n), m) => if n ≤ 1 then (.ok .next, m) else (.error (.again (n - 1)), m)
  | (.error f, m) => (.error f, m)

/-- Does a loop, which commands that leave loops know of. -/
def asLoop (a : Act Unit) : Act Unit := do
  Act.modifyShell fun s => { s with loops := s.loops + 1 }
  Act.finally_ a (Act.modifyShell fun s => { s with loops := s.loops - 1 })

/-- A loop that goes on as long as a test says so; `last` is the status of the latest body. -/
def whileFrom (test : Act Bool) (body : Act Unit) : (fuel : Nat) → (last : Nat) → Act Unit
  | 0, _ => throw .starved
  | fuel + 1, last => do
    match ← turn (do if !(← test) then throw (.leave 0)) with
    | .stop => Act.setStatus last
    | .next =>
      match ← turn body with
      | .stop => pure ()
      | .next => whileFrom test body fuel (← Act.shell).status

/-- A loop over values. -/
def overValues (set : String → Act Unit) (body : Act Unit) : List String → Act Unit
  | [] => pure ()
  | v :: rest => do
    set v
    match ← turn body with
    | .stop => pure ()
    | .next => overValues set body rest

/-- The values of a loop: those of its words, or else the arguments. -/
def valuesOf (e : Engine) : Option (List Word) → Act (List String)
  | some ws => Act.allFields e ws
  | none => do pure (← Act.shell).arguments

/-- The words of a loop as they are shown. -/
def headText (keyword name : String) (words : Option (List Word)) : String :=
  match words with
  | some ws =>
    keyword ++ " " ++ name ++ " in " ++ " ".intercalate (ws.map Piece.source)
  | none => keyword ++ " " ++ name ++ " in \"$@\""

/-- The command `for` over values. -/
def each (e : Engine) (line : Nat) (name : String) (words : Option (List Word)) (body : Script) :
    Act Unit := Act.atLine line do
  if !isName name then
    Act.complain ("\x60" ++ name ++ "': not a valid identifier")
    Act.setStatus 1
  else
    let values ← valuesOf e words
    let shown := (← Act.isRich) && (← Act.isOn "xtrace")
    Act.setStatus 0
    let set (v : String) : Act Unit := do
      Simple.beforeCommand e
      if shown then Trace.text e fun _ => headText "for" name words
      if !(← Act.setText e name none false v) then Act.giveUp
    asLoop (overValues set (body.forM e.run) values)

/-- Shows the text of an arithmetic expression of a command. -/
def showExpression (e : Engine) (text : String) : Act Unit :=
  Trace.text e fun _ => "(( " ++ text ++ " ))"

/-- The value of an arithmetic expression of a command, and whether there is a mistake in it, which
only makes the command fail. -/
def computed (e : Engine) (line : Nat) (text : String) : Act (Option Int) := Act.atLine line do
  showExpression e text
  Act.modifyShell fun s => { s with speaker := some "((" }
  let r ← Act.attempt (e.compute text)
  Act.modifyShell fun s => { s with speaker := none }
  match r with
  | .ok n => pure (some n)
  | .error .abort => pure none
  | .error f => throw f

/-- The command `for` with expressions. -/
def count (e : Engine) (line : Nat) (start test step : Word) (body : Script) : Act Unit := do
  let isEmpty (w : Word) : Bool := w.all fun
    | .bare cs => cs.all isNumberSpace
    | _ => false
  let value (w : Word) : Act (Option Int) :=
    if isEmpty w then do
      showExpression e "1"
      pure (some 1)
    else do
      let text ← Act.wordText e w
      computed e line (String.ofList (text.toList.dropWhile isNumberSpace))
  let rec turns : (fuel : Nat) → Act Unit
    | 0 => throw .starved
    | fuel + 1 => do
      match ← value test with
      | none => Act.setStatus 1
      | some 0 => pure ()
      | some _ =>
        match ← turn (body.forM e.run) with
        | .stop => pure ()
        | .next =>
          let status := (← Act.shell).status
          match ← value step with
          | none => Act.setStatus 1
          | some _ =>
            Act.modifyShell fun s => { s with status := status }
            turns fuel
  match ← value start with
  | none => Act.setStatus 1
  | some _ =>
    Act.setStatus 0
    asLoop (turns maxTurns)

/-! ## Choosing by hand -/

/-- Tabs and spaces from one column to another. -/
def indent : (fuel : Nat) → (column target : Nat) → String
  | 0, _, _ => ""
  | fuel + 1, column, target =>
    if target ≤ column then ""
    else if column / 8 < target / 8 then
      "\t" ++ indent fuel (column + 8 - column % 8) target
    else " " ++ indent fuel (column + 1) target

/-- Values with numbers, in columns. -/
def menu (values : List String) : String :=
  let count := values.length
  let widest := values.foldl (fun n v => max n v.length) 0
  let digits := (natText count).length
  let width := widest + digits + 4
  let columns := max 1 (80 / width)
  let rows := (count + columns - 1) / columns
  let columns := (count + rows - 1) / max 1 rows
  let rows := if rows = 1 then columns else rows
  let firstDigits := (natText rows).length
  let row (r : Nat) : String :=
    let cells := (values.zipIdx.filter fun p => p.2 % rows == r)
    let rec go : (fuel : Nat) → (position : Nat) → List (String × Nat) → String
      | 0, _, _ => ""
      | _ + 1, _, [] => ""
      | fuel + 1, position, (v, n) :: rest =>
        let places := if position = 0 then firstDigits else digits
        let text := String.ofList (padLeft places ' ' (natText (n + 1)).toList) ++ ") " ++ v
        text ++ (if rest.isEmpty then "" else
          indent 200 (position + v.length + places + 2) (position + width) ++
            go fuel (position + width) rest)
    go (cells.length + 1) 0 cells ++ "\n"
  String.join ((List.range rows).map row)

/-- The command `select`. -/
def select (e : Engine) (line : Nat) (name : String) (words : Option (List Word)) (body : Script) :
    Act Unit := Act.atLine line do
  if !isName name then
    Act.complain ("\x60" ++ name ++ "': not a valid identifier")
    Act.setStatus 1
  else
    let values ← valuesOf e words
    Trace.text e fun _ => headText "select" name words
    Act.setStatus 0
    let rec turns : (fuel : Nat) → (shows : Bool) → Act Unit
      | 0, _ => throw .starved
      | fuel + 1, shows => do
        if shows then Act.tell (menu values)
        Act.tell ((← Act.textOf? "PS3").getD "#? ")
        match ← Act.readLine 0 '\n' with
        | .ok (cs, ended) =>
          if cs.isEmpty && !ended then
            Act.print "\n"
            Act.setStatus 1
          else if cs.isEmpty then turns fuel true
          else
            Act.putText "REPLY" (String.ofList cs)
            let blank (c : Char) : Bool := c == ' ' || c == '\t'
            let trimmed := ((cs.dropWhile blank).reverse.dropWhile blank).reverse
            let chosen := (natText? (String.ofList trimmed)).bind fun n =>
              if n = 0 then none else values[n - 1]?
            if !(← Act.setText e name none false (chosen.getD "")) then Act.giveUp
            match ← turn (body.forM e.run) with
            | .stop => pure ()
            | .next => turns fuel ((← Act.textOf "REPLY") == "")
        | .error _ =>
          Act.print "\n"
          Act.setStatus 1
    if values.isEmpty then pure () else asLoop (turns maxTurns true)

/-! ## Choices -/

/-- The command `if`. -/
def branch (e : Engine) (otherwise : Script) : List (Script × Script) → Act Unit
  | [] =>
    if otherwise.isEmpty then Act.setStatus 0 else otherwise.forM e.run
  | (test, body) :: rest => do
    Simple.leniently (test.forM e.run)
    if (← Act.shell).status = 0 then body.forM e.run else branch e otherwise rest

/-- One of some patterns matches a text. -/
def hits (e : Engine) (text : List Char) : List Word → Act Bool
  | [] => pure false
  | w :: rest => do
    let w ← Act.expandTildes false w
    let p ← Act.wordPattern e w
    if Pattern.isMatch (← Act.patternStyle) p text then pure true else hits e text rest

/-- The clauses of a choice for a text; with `enters`, the first one is entered without a test. -/
def clauses (e : Engine) (text : List Char) : (enters : Bool) → List Clause → Act Unit
  | _, [] => pure ()
  | enters, .mk patterns body goOn tryOn :: rest => do
    let hit ← if enters then pure true else hits e text patterns
    if hit then
      Act.setStatus 0
      body.forM e.run
      if goOn then clauses e text true rest
      else if tryOn then clauses e text false rest
    else clauses e text false rest

/-- The command `case`. -/
def choice (e : Engine) (line : Nat) (word : Word) (cs : List Clause) : Act Unit :=
    Act.atLine line do
  if ← Act.isRich then Trace.text e fun _ => "case " ++ Piece.source word ++ " in"
  let text ← Act.plainText e word
  Act.setStatus 0
  clauses e text.toList false cs

/-! ## Tests -/

/-- A condition between double brackets. -/
def condition (e : Engine) (line : Nat) (c : Condition) : Act Unit := Act.atLine line do
  Simple.beforeCommand e
  Act.setStatus (← Test.condition e (fun text => Trace.text e fun _ => text) false c)
  Simple.settle e

/-- An arithmetic expression as a command. -/
def expression (e : Engine) (line : Nat) (inside : Word) : Act Unit := do
  let text ← Act.atLine line (Act.wordText e inside)
  match ← computed e line text with
  | some n => Act.setStatus (if n = 0 then 1 else 0)
  | none => Act.setStatus 1
  Simple.settle e

end Runbook.Shell.Compound
