import Runbook.Shell.Expand.Assign
import Runbook.Shell.Expand.Word
import Runbook.Shell.Run.Invoke
import Runbook.Shell.Script.Read
import Runbook.Shell.Script.Source
import Runbook.Shell.Text.Quote

/-!
# `Shell/Run/Simple` — simple commands

A simple command is run once its descriptors have been redirected, and with the option `xtrace` it is
shown before.
-/

set_option autoImplicit false

/-!
## Redirections

A redirection makes a descriptor stand for another channel: a file that is opened, a text, or what
another descriptor stands for. Redirections are done one after another, until one of them fails.
-/

namespace Runbook.Shell.Redirection

/-- A descriptor from 10 on that stands for nothing. -/
def freeDescriptor : Act Nat := do
  let taken := (← Act.shell).descriptors.map (·.1)
  pure (((List.range 246).map (· + 10)).find? (fun n => !taken.contains n) |>.getD 255)

/-- Tells that a file cannot be opened. -/
def complainOpening (creates : Bool) (path : String) (err : Errno) : Act Unit := do
  if ← Act.isRich then
    let text := if err = .present then "cannot overwrite existing file" else err.text
    Act.complain (path ++ ": " ++ text)
  else
    let text :=
      if err = .noEntry ∨ err = .notFolder then
        if creates then "Directory nonexistent" else "No such file"
      else err.text
    Act.complain ((if creates then "cannot create " else "cannot open ") ++ path ++ ": " ++ text)

/-- How a file is opened for a direction. -/
def opening (protects : Bool) : Direction → Act.Opening
  | .input | .here | .hereLine => { reads := true }
  | .output force =>
    { writes := true, create := true, truncate := true, exclusive := protects && !force }
  | .append | .both true => { writes := true, create := true, append := true }
  | .both false | .share _ =>
    { writes := true, create := true, truncate := true, exclusive := protects }
  | .readWrite => { reads := true, writes := true, create := true }

/-- The file that a word names; none if it does not name one file. -/
def path? (e : Engine) (w : Word) : Act (Option String) := do
  if ← Act.isRich then
    match ← Act.fields e w with
    | [p] => pure (some p)
    | _ => pure none
  else pure (some (← Act.plainText e w))

/-- Opens a file for a direction, and gives the number of its channel, if that goes well. -/
def openFor (e : Engine) (direction : Direction) (target : Word) (source : List Char) :
    Act (Option Nat) := do
  match ← path? e target with
  | none =>
    Act.complain (String.ofList source ++ ": ambiguous redirect")
    pure none
  | some path =>
    let o := opening (← Act.isOn "noclobber") direction
    if o.reads && !o.writes then Act.fillQueues e [path]
    match ← Act.openPath path o with
    | .ok id => pure (some id)
    | .error err =>
      complainOpening o.create path err
      pure none

/-- Does one redirection. It is false if that fails, which is told. -/
def one (e : Engine) : Redirect → Act Bool
  | .mk descriptor holder direction target source => do
    let reads := match direction with
      | .input | .here | .hereLine | .readWrite | .share true => true
      | _ => false
    let fd ←
      match holder with
      | some _ => freeDescriptor
      | none => pure (descriptor.getD (if reads then 0 else 1))
    let keep : Act Unit := do
      match holder with
      | some name => Act.putText name (natText fd)
      | none => pure ()
    let put (id : Option Nat) : Act Bool := do
      match id with
      | some id =>
        Act.setDescriptor fd id
        keep
        pure true
      | none => pure false
    match direction with
    | .here =>
      let text ← Act.plainText e target
      put (some (← Act.newChannel (.input text.toList false)))
    | .hereLine =>
      let text ← Act.assignedText e target
      put (some (← Act.newChannel (.input (text.toList ++ ['\n']) false)))
    | .both _ =>
      match ← openFor e direction target source with
      | some id =>
        Act.setDescriptor 1 id
        Act.setDescriptor 2 id
        pure true
      | none => pure false
    | .share _ =>
      let text ← Act.plainText e target
      let (digits, moves) :=
        match text.toList.reverse with
        | '-' :: rest => (String.ofList rest.reverse, true)
        | _ => (text, false)
      if text = "-" then
        match holder with
        | some name =>
          let n := (natText? (← Act.textOf name)).getD 255
          Act.closeDescriptor n
        | none => Act.closeDescriptor fd
        pure true
      else
        match natText? digits, ← Act.isRich with
        | some n, rich =>
          if moves && !rich then
            Act.complain "Syntax error: Bad fd number"
            Act.exitWith 2
          else
            match ← Act.channelOf? n with
            | some id =>
              if moves && n ≠ fd then Act.closeDescriptor n
              put (some id)
            | none =>
              let shown := String.ofList source
              Act.complain ((if rich ∧ shown.startsWith "$" then shown else natText n) ++
                ": Bad file descriptor")
              pure false
        | none, true =>
          if descriptor.isNone && !reads && holder.isNone then
            match ← openFor e (.both false) target source with
            | some id =>
              Act.setDescriptor 1 id
              Act.setDescriptor 2 id
              pure true
            | none => pure false
          else
            Act.complain (String.ofList source ++ ": ambiguous redirect")
            pure false
        | none, false =>
          Act.complain "Syntax error: Bad fd number"
          Act.exitWith 2
    | _ => put (← openFor e direction target source)

/-- Does redirections, up to the first one that fails. It is false if one does. -/
def all (e : Engine) : List Redirect → Act Bool
  | [] => pure true
  | r :: rest => do
    if ← one e r then all e rest else pure false

/-- Does something with redirections, which are undone. If one fails, something else is done. -/
def around (e : Engine) (rs : List Redirect) (failed : Act Unit) (body : Act Unit) : Act Unit := do
  if rs.isEmpty then body
  else
    let before := (← Act.shell).descriptors
    let back : Act Unit := Act.modifyShell fun s => { s with descriptors := before }
    match ← Act.attempt (all e rs) with
    | .ok true => Act.finally_ body back
    | .ok false =>
      back
      failed
    | .error f =>
      back
      throw f

end Runbook.Shell.Redirection

/-!
## Commands shown before they are run

With the option `xtrace`, each simple command is written to the messages once its words are
expanded, behind a mark that is itself a word to be expanded.
-/

namespace Runbook.Shell.Trace

/-- A word as it is shown: in quotes if it holds something that means more than itself. -/
def shown (d : Dialect) (s : String) : String :=
  match d with
  | .plain => s
  | .rich =>
    let special : List Char := " \t\n'\"\\|&;()<>!\x7b\x7d*[]?^$\x60".toList
    let rec metas : (last : Option Char) → List Char → Bool
      | _, [] => false
      | last, c :: rest =>
        special.contains c || (c == '#' && last.isNone) ||
          (c == '~' && (last.isNone || last == some '=' || last == some ':')) ||
          metas (some c) rest
    if s = "" then "''"
    else if metas none s.toList then singleQuoted s
    else if needsEscapes s then escapeQuoted s
    else s

/-- The mark in front of what is shown. -/
def mark (e : Engine) : Act String := do
  let s ← Act.shell
  let source := (← Act.textOf? "PS4").getD "+ "
  let cursor : Cursor := { dialect := s.dialect, rest := source.toList }
  let text ←
    match Reading.doubleText cursor with
    | .ok (w, _) => do
      -- Commands in the mark are not shown.
      Act.modifyShell fun s => { s with options := s.options.filter (· != "xtrace") }
      let bits ← Act.finally_ (e.expand true w)
        (Act.modifyShell fun t => { t with options := s.options, status := s.status })
      pure (Bit.textOf bits)
    | .error _ => pure source
  match s.dialect, text.toList with
  | .rich, c :: rest => pure (String.ofList (List.replicate s.level c ++ c :: rest))
  | _, cs => pure (String.ofList cs)

/-- Shows a text, if commands are shown. -/
def text (e : Engine) (t : Unit → String) : Act Unit := do
  if ← Act.isOn "xtrace" then
    let m ← mark e
    Act.tell (m ++ t () ++ "\n")

/-- Shows the words of a command. -/
def words (e : Engine) (ws : List String) : Act Unit := do
  let d := (← Act.shell).dialect
  text e fun _ => " ".intercalate (ws.map (shown d))

/-- Shows an assignment; `target` is its left side, and `value` the text of its value. -/
def assignment (e : Engine) (target : String) (append : Bool) (value : String) : Act Unit :=
  text e fun _ => target ++ (if append then "+=" else "=") ++ value

/-- The text of a value that is assigned. -/
def valueText (s : String) : String := if s = "" then "" else shown .rich s

/-- The left side of an assignment, as it was written. -/
def targetText (name : String) (index : Option Word) : String :=
  match index with
  | some i => name ++ "[" ++ Piece.source i ++ "]"
  | none => name

/-- Elements of a list of values as they were written. -/
def elementsText (es : List Element) : String :=
  let one : Element → String
    | .mk (some i) append w =>
      "[" ++ Piece.source i ++ "]" ++ (if append then "+=" else "=") ++ Piece.source w
    | .mk none _ w => Piece.source w
  "(" ++ " ".intercalate (es.map one) ++ ")"

/-- Elements of a list of values, once they are known. -/
def itemsText (xs : List Item) : String :=
  let one (x : Item) : String :=
    match x.index with
    | some i => "[" ++ singleQuoted i ++ "]" ++ (if x.append then "+=" else "=") ++ singleQuoted x.text
    | none => singleQuoted x.text
  "(" ++ " ".intercalate (xs.map one) ++ ")"

/-- Shows a command with its arguments. Lists of values among them are shown in front of it. -/
def command (e : Engine) (gs : List Given) : Act Unit := do
  for g in gs do
    match g with
    | .assignment name _ append (.items xs) => assignment e name append (itemsText xs)
    | _ => pure ()
  let one : Given → String
    | .assignment name _ _ (.items _) => name
    | g => g.toText
  words e (gs.map one)

end Runbook.Shell.Trace

/-!
## Simple commands

A simple command is assignments, words and redirections. Without words its assignments stay; with
words they hold while the command runs. What a failure leads to (`settle`) is the same for all
commands whose failure counts.
-/

namespace Runbook.Shell.Simple

/-- What a failure of the latest command leads to: what has been set to be run at failures is run,
and the shell ends if it has been told so. -/
def settle (e : Engine) : Act Unit := do
  let s ← Act.shell
  if s.status ≠ 0 ∧ !s.lenient then
    match s.traps.lookup "ERR" with
    | some text =>
      if s.frames.isEmpty ∨ s.options.contains "errtrace" then
        let others := s.traps.filter (·.1 != "ERR")
        Act.modifyShell fun t => { t with traps := others }
        Act.deeper (e.script s.line text)
        Act.modifyShell fun t =>
          { t with status := s.status, stages := s.stages, traps := ("ERR", text) :: t.traps }
    | none => pure ()
    if s.options.contains "errexit" then throw .exit

/-- Does something whose failures do not count. -/
def leniently (a : Act Unit) : Act Unit := do
  let before := (← Act.shell).lenient
  Act.modifyShell fun s => { s with lenient := true }
  Act.finally_ a (Act.modifyShell fun s => { s with lenient := before })

/-- Runs what has been set to be run before each command. -/
def beforeCommand (e : Engine) : Act Unit := do
  let s ← Act.shell
  match s.traps.lookup "DEBUG" with
  | some text =>
    if s.dialect = .rich ∧ (s.frames.isEmpty ∨ s.options.contains "functrace") then
      Act.modifyShell fun t => { t with traps := t.traps.filter (·.1 != "DEBUG") }
      leniently (Act.deeper (e.script s.line text))
      Act.modifyShell fun t =>
        { t with status := s.status, stages := s.stages, traps := ("DEBUG", text) :: t.traps }
  | none => pure ()

/-- Does an assignment without a command. It is false if the variable must not be set. -/
def assign (e : Engine) : Assignment → Act Bool
  | .mk name index append value => do
    let display (text : String) : Act Unit := do
      if ← Act.isRich then Trace.assignment e (Trace.targetText name index) append text
    match value with
    | .elements es => display (Trace.elementsText es)
    | .word _ => pure ()
    let v ← Act.assignable e (← Act.isKeyed name) value
    match v with
    | .text t => display (Trace.valueText t)
    | .items _ => pure ()
    let i ← index.mapM (Act.indexText e)
    Act.storeValue e name i append v

/-- Does the assignments in front of a command, which other programs are told, and gives the
variables as they were. A list of values counts as a text there. -/
def assignFor (e : Engine) : List Assignment → Act (List (String × Option Variable))
  | [] => pure []
  | .mk name (some index) _ _ :: rest => do
    Act.complain ("\x60" ++ Trace.targetText name (some index) ++ "': not a valid identifier")
    assignFor e rest
  | .mk name none append value :: rest => do
    let w := match value with
      | .word w => w
      | .elements es => Act.elementsWord es
    let v := Assignable.text (← Act.assignedText e w)
    let before := (← Act.shell).bindings[name]?
    let ok ← Act.storeValue e name none append v
    if !ok then
      if !(← Act.isRich) then Act.giveUp
      assignFor e rest
    else
      Act.modifyShell fun s =>
        { s with bindings := s.bindings.modify name fun v => { v with exported := true } }
      if ← Act.isRich then Trace.assignment e name false (Trace.valueText (← Act.textOf name))
      let others ← assignFor e rest
      pure (others.filter (·.1 != name) ++ [(name, before)])

/-- Shows a simple command of the plain dialect. -/
def tracePlain (e : Engine) (assignments : List Assignment) (words : List String) : Act Unit := do
  if ← Act.isOn "xtrace" then
    let texts ← assignments.mapM fun
      | .mk name _ _ _ => do pure (name ++ "=" ++ (← Act.textOf name))
    Trace.words e (texts ++ words)

/-- Assignments without a command. -/
def assignAll (e : Engine) (assignments : List Assignment) (redirects : List Redirect) :
    Act Unit := do
  let rich ← Act.isRich
  let before := (← Act.shell).descriptors
  let ready ← if rich then pure true else Redirection.all e redirects
  if !ready then
    Act.modifyShell fun s => { s with descriptors := before }
    Act.setStatus 2
  else
    for a in assignments do
      if !(← assign e a) then Act.giveUp
    if !rich then
      if !assignments.isEmpty then tracePlain e assignments []
    let ok ← if rich then Redirection.all e redirects else pure true
    Act.modifyShell fun s => { s with descriptors := before }
    let inWord := (← Act.shell).inWord
    Act.setStatus (if ok then inWord.getD 0 else 1)

/-- The programs whose operands are not read. -/
def notReading : List String :=
  ["basename", "chgrp", "chmod", "chown", "dirname", "find", "ln", "ls", "mkfifo", "mknod", "mv",
    "readlink", "realpath", "rm", "stat", "tee", "touch", "unlink"]

/-- Runs a command that has words. -/
def runWords (e : Engine) (tool? : String → Option Tool) (assignments : List Assignment)
    (redirects : List Redirect) (yields : Bool) (gs : List Given) : Act Unit := do
  let s ← Act.shell
  let rich := s.dialect = .rich
  let name := (gs.head?.map Given.toText).getD ""
  let special := !rich && Lookup.specials.contains name
  let isFunction := s.functions.contains name && !special
  let isBuiltin := name != "command" && (Lookup.builtins s.dialect).contains name
  let yields := yields && !isFunction && !isBuiltin && s.traps.isEmpty
  if !isFunction && (!isBuiltin || name == "." || name == "source") && !notReading.contains name then
    Act.fillQueues e ((gs.drop 1).map Given.toText)
  let given := (assignments.map fun
    | .mk n _ _ _ => n).reverse
  let invoke : Act Unit := do
    if yields then Act.modifyShell fun s => { s with yields := true }
    Act.modifyShell fun s => { s with given := given ++ s.given }
    Act.finally_ (Invoke.run e tool? (gs.length + 1) {} gs)
      (Act.modifyShell fun t => { t with given := s.given, yields := false })
  if name = "exec" ∧ !isFunction then
    -- The redirections of this command stay.
    if gs.length = 1 then
      discard (assignFor e assignments)
      Trace.command e gs
      if ← Redirection.all e redirects then Act.setStatus 0
      else if rich then Act.setStatus 1
      else Act.exitWith 2
    else
      Redirection.around e redirects
        (do if rich then Act.exitWith 1 else Act.exitWith 2)
        (do
          let saved ← assignFor e assignments
          Trace.command e gs
          invoke
          Act.restore saved)
  else
    let failed : Act Unit := do
      if special then Act.exitWith 2 else Act.setStatus (if rich then 1 else 2)
    if rich then
      let saved ← assignFor e assignments
      Trace.command e gs
      match name, gs with
      | "export", _ | "readonly", _ =>
        for g in gs.drop 1 do
          match g with
          | .assignment n none a (.text v) => Trace.assignment e n a (Trace.valueText v)
          | _ => pure ()
      | _, _ => pure ()
      Act.finally_ (Redirection.around e redirects failed invoke) (Act.restore saved)
    else
      Redirection.around e redirects failed do
        let saved ← assignFor e assignments
        tracePlain e assignments (gs.map Given.toText)
        if special then invoke else Act.finally_ invoke (Act.restore saved)

/-- Runs a simple command on a line. -/
def run (e : Engine) (tool? : String → Option Tool) (line : Nat) (assignments : List Assignment)
    (arguments : List Argument) (redirects : List Redirect) : Act Unit := Act.atLine line do
  let yields ← Act.takeYield
  Act.modifyShell fun s => { s with inWord := none }
  beforeCommand e
  let kept := (← Act.shell).substitutions.length
  let gs ← Act.given e arguments
  let isExec := match gs with
    | g :: _ => g.toText == "exec"
    | [] => false
  let body : Act Unit :=
    if gs.isEmpty then assignAll e assignments redirects
    else runWords e tool? assignments redirects yields gs
  Act.finally_ body (if isExec then pure () else Act.endSubstitutions e kept)
  if ← Act.isRich then
    match gs.getLast? with
    | some g => Act.putVariable "_" { value := .text g.toText }
    | none => pure ()
  settle e

end Runbook.Shell.Simple
