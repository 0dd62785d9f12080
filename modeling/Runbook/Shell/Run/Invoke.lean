import Runbook.Shell.Builtin.Declare
import Runbook.Shell.Builtin.Folder
import Runbook.Shell.Builtin.Input
import Runbook.Shell.Builtin.Signal
import Runbook.Shell.Builtin.Test
import Runbook.Shell.Run.Control
import Runbook.Shell.Run.Program

/-!
# `Shell/Run/Invoke` — commands given by words

The first word of a command names a function, a command of the shell, or a program. Which of these
is looked for, and in what order, depends on the dialect and on what asks for the command.
-/

set_option autoImplicit false

namespace Runbook.Shell.Invoke

/-- What a word may name. -/
structure Among where
  functions : Bool := true
  builtins : Bool := true
  programs : Bool := true

/-! ## Functions -/

/-- How many calls of functions may lie in each other in the plain dialect. -/
def maxCalls : Nat := 1000

/-- Calls a function. -/
def callFunction (e : Engine) (name : String) (f : Defined) (args : List String) : Act Unit := do
  let before ← Act.shell
  if before.dialect = .plain ∧ maxCalls ≤ before.frames.length then
    Act.complain ("Maximum function recursion depth (" ++ natText maxCalls ++ ") reached")
    Act.exitWith 2
  Act.modifyShell fun s =>
    { s with
      frames := { name := name, arguments := s.arguments, line := s.line } :: s.frames
      arguments := args
      base := f.base
      line := if s.dialect = .rich then f.line else s.line
      title := some f.title
      loops := 0
      traps := s.traps.filter (·.1 != "RETURN") }
  let r ← Act.attempt (e.run f.body)
  match r with
  | .ok () | .error .back =>
    match (← Act.shell).traps.lookup "RETURN" with
    | some text =>
      let status := (← Act.shell).status
      Act.deeper (e.script before.line text)
      Act.setStatus status
    | none => pure ()
  | _ => pure ()
  match (← Act.shell).frames with
  | frame :: _ => Act.restore frame.saved
  | [] => pure ()
  Act.modifyShell fun s =>
    { s with
      frames := before.frames
      arguments := before.arguments
      base := before.base
      title := before.title
      loops := before.loops
      line := before.line
      traps := s.traps ++ before.traps.filter fun t =>
        t.1 == "RETURN" && (s.traps.lookup "RETURN").isNone }
  match r with
  | .ok () | .error .back => pure ()
  | .error f => throw f

/-! ## Texts and files of commands -/

/-- Runs a text of commands in the name of a command of the shell. -/
def runText (e : Engine) (origin : String) (title : Option String) (line : Nat) (text : String) :
    Act Unit := do
  let before ← Act.shell
  Act.modifyShell fun s =>
    { s with
      origin := origin
      title := title <|> s.title
      speaker := if s.dialect = .plain then some origin else s.speaker }
  Act.finally_ (Act.deeper (e.script line text)) <| Act.modifyShell fun s =>
    { s with
      origin := before.origin, title := before.title, speaker := before.speaker
      line := before.line }

/-- The command `eval`. -/
def eval (e : Engine) (args : List String) : Act Nat := do
  let s ← Act.shell
  match s.dialect, args with
  | .rich, a :: rest =>
    let options := a.startsWith "-" && a != "-" && a != "--"
    if options then
      Control.badOption "eval" ((a.toList.drop 1).head?.getD '-') "eval [arg ...]"
    else
      let args := if a = "--" then rest else args
      Act.setStatus 0
      match ← Act.attempt (runText e "eval" none s.line (" ".intercalate args)) with
      | .ok () | .error .abort => pure (← Act.shell).status
      | .error f => throw f
  | .plain, _ :: _ =>
    Act.setStatus 0
    runText e "eval" none 1 (" ".intercalate args)
    pure (← Act.shell).status
  | _, [] => pure 0

/-- The file of commands that a name means: its path. -/
def sourcePath? (name : String) : Act (Option String) := do
  let s ← Act.shell
  let d ← Act.disk
  if name.toList.contains '/' then pure (if d.exists? s.here name then some name else none)
  else
    let isFile (path : String) : Bool :=
      (d.find s.here path).toOption.any fun (_, n) => !n.isFolder
    let found := ((← Lookup.folders).map fun f => Lookup.inFolder f name).find? isFile
    match found with
    | some p => pure (some p)
    | none => pure (if s.dialect = .rich ∧ d.exists? s.here name then some name else none)

/-- The commands `.` and `source`. -/
def source (e : Engine) (command : String) (args : List String) : Act Nat := do
  let s ← Act.shell
  let rich := s.dialect = .rich
  let usage := command ++ " filename [arguments]"
  match args with
  | [] =>
    if rich then
      Act.complain (command ++ ": filename argument required")
      Act.tell (command ++ ": usage: " ++ usage ++ "\n")
      pure 2
    else pure 0
  | a :: rest =>
    if a.startsWith "-" ∧ a ≠ "-" ∧ a ≠ "--" then
      let n ← Control.badOption command ((a.toList.drop 1).head?.getD '-') usage
      if rich then pure n else Act.exitWith 2
    else
      let (name, given) := if a = "--" then (rest.head?.getD "", rest.drop 1) else (a, rest)
      match ← sourcePath? name with
      | none =>
        if rich then
          Act.complain (name ++ ": No such file or directory")
          pure 1
        else
          if name.toList.contains '/' then
            Act.complain (".: cannot open " ++ name ++ ": No such file")
          else Act.complain (".: " ++ name ++ ": not found")
          Act.exitWith 2
      | some path =>
        match ← Act.readPath path with
        | .error err =>
          if rich then
            Act.complain (command ++ ": " ++ name ++ ": " ++
              (if err = .isFolder then "is a directory" else err.text))
            pure 1
          else if err = .isFolder then pure 0
          else
            Act.complain (".: cannot open " ++ name ++ ": " ++ err.text)
            Act.exitWith 2
        | .ok cs =>
          let before := s.arguments
          let changes := rich && !given.isEmpty
          Act.modifyShell fun s =>
            { s with
              sourcing := s.sourcing + 1
              arguments := if changes then given else s.arguments
              status := 0 }
          let origin := if rich then "" else name
          let title := if rich then some name else none
          let r ← Act.attempt (runText e origin title 1 (String.ofList cs))
          Act.modifyShell fun s =>
            { s with
              sourcing := s.sourcing - 1
              arguments := if changes then before else s.arguments }
          match r with
          | .ok () | .error .back => pure (← Act.shell).status
          | .error f => throw f

/-! ## Commands of the shell -/

/-- The commands of the shell that take words and do not run other commands. -/
def builtin? (e : Engine) (d : Dialect) (name : String) (args : List Given) : Option (Act Nat) :=
  let words := args.map Given.toText
  match name with
  | ":" | "true" => some (pure 0)
  | "false" => some (pure 1)
  | "echo" => some (Print.echo words)
  | "printf" => some (Print.printf e words)
  | "test" | "[" => some (Test.run e name words)
  | "cd" | "chdir" => some (Folder.cd words)
  | "pwd" => some (Folder.pwd words)
  | "read" => some (Input.read e words)
  | "export" | "readonly" | "local" =>
    some (match d with
      | .rich => Declare.rich e name args
      | .plain => Declare.plain e name args)
  | "declare" | "typeset" => some (Declare.rich e name args)
  | "unset" => some (Declare.unset e words)
  | "let" => some (Declare.letCommand e words)
  | "set" => some (Options.set words)
  | "shopt" => some (Options.shopt words)
  | "shift" => some (Options.shift words)
  | "getopts" => some (Options.getopts e words)
  | "mapfile" | "readarray" => some (Input.mapfile name words)
  | "dirs" => some (Folder.dirs words)
  | "pushd" => some (Folder.pushd words)
  | "popd" => some (Folder.popd words)
  | "type" => some (Lookup.type_ words)
  | "hash" => some (Lookup.hash words)
  | "trap" => some (Signal.trap words)
  | "kill" => some (Signal.kill e words)
  | "wait" => some (Signal.wait e words)
  | "exit" => some (Control.exit words)
  | "return" => some (Control.return_ words)
  | "break" => some (Control.leaveLoops name .leave words)
  | "continue" => some (Control.leaveLoops name .again words)
  | "alias" => some (Control.alias_ words)
  | "unalias" => some (Control.unalias words)
  | "umask" => some (Control.umask words)
  | "ulimit" => some (Control.ulimit words)
  | "enable" => some (Control.enable words)
  | "caller" => some (Control.caller words)
  | "compgen" => some (Control.compgen words)
  | "times" =>
    some do
      let zero := if d = .rich then "0m0.000s" else "0m0.000000s"
      Act.print (zero ++ " " ++ zero ++ "\n" ++ zero ++ " " ++ zero ++ "\n")
      pure 0
  | "jobs" => some (Jobs.jobs words)
  | "fg" | "bg" => some (Jobs.resume name words)
  | "disown" => some (Jobs.disown words)
  | "history" | "fc" | "complete" | "bind" => some (pure 0)
  | "logout" =>
    some do
      Act.complain "logout: not login shell: use \x60exit'"
      pure 1
  | "suspend" =>
    some do
      Act.complain "suspend: cannot suspend: no job control"
      pure 1
  | "compopt" =>
    some do
      Act.complain "compopt: not currently executing completion function"
      pure 1
  | "help" =>
    some do
      match words.filter fun w => !w.startsWith "-" with
      | [] => pure 0
      | w :: _ =>
        if (Lookup.builtins .rich).contains w then
          Act.print (w ++ ": " ++ w ++ "\n")
          pure 0
        else
          Act.complain ("help: no help topics match \x60" ++ w ++
            "'.  Try \x60help help' or \x60man -k " ++ w ++ "' or \x60info " ++ w ++ "'.")
          pure 1
  | _ => none

/-- Runs a command of the shell, whose messages name it themselves. -/
def runBuiltin (a : Act Nat) : Act Unit := do
  let s ← Act.shell
  match s.dialect, s.speaker with
  | .plain, some speaker =>
    Act.modifyShell fun s => { s with speaker := none }
    let n ← Act.finally_ a (Act.modifyShell fun s => { s with speaker := some speaker })
    Act.setStatus n
  | _, _ => Act.setStatus (← a)

/-! ## Programs -/

/-- Tells why a command is not run as a program, and sets the status. -/
def complainRefusal (name path : String) (r : Program.Refusal) : Act Unit := do
  let rich ← Act.isRich
  let (text, status) : String × Nat :=
    match r with
    | .system .noEntry => (if rich then "No such file or directory" else "not found", 127)
    | .system .notFolder => (if rich then "Not a directory" else "not found", 127)
    | .system .isFolder => (if rich then "Is a directory" else "Permission denied", 126)
    | .system err => (err.text, 126)
    | .noInterpreter =>
      (if rich then "cannot execute: required file not found" else "not found", 127)
    | .binary =>
      (if rich then "cannot execute binary file: Exec format error" else "Exec format error", 126)
  -- What is not a folder is found out only when the program is to be run.
  let status := if rich ∧ r = .system .notFolder then 126 else status
  let shown := if rich then path else name
  Act.complain (shown ++ ": " ++ text)
  Act.setStatus status

/-- Runs a command as a program, or tells that there is none. -/
def runProgram (e : Engine) (tool? : String → Option Tool) (words : List String) : Act Unit := do
  match words with
  | [] => Act.setStatus 0
  | name :: _ =>
    let rich ← Act.isRich
    let notFound : Act Unit := do
      match (← Act.shell).functions["command_not_found_handle"]?, rich with
      | some f, true =>
        let n ← Act.isolated e (callFunction e "command_not_found_handle" f words)
        Act.setStatus n
      | _, _ =>
        let shown := if needsEscapes name then escapeQuoted name else name
        let noPath := ((← Act.textOf? "PATH").getD "") == ""
        if rich then
          Act.complain ((if name = "" then "" else shown) ++
            (if noPath then ": No such file or directory" else ": command not found"))
        else if name = "" then Act.complain ": Permission denied"
        else Act.complain (name ++ ": not found")
        Act.setStatus (if name = "" ∧ !rich then 126 else 127)
    match ← Lookup.toRun? name with
    | none => notFound
    | some path =>
      -- A program is told the path that it was found by.
      let before := (← Act.shell).bindings["_"]?
      if rich then Act.putVariable "_" { value := .text path, exported := true }
      if ← Act.takeYield then Act.stepDown
      let r ← Program.runFile e tool? Program.maxInterpreters path words
      if rich then Act.restore [("_", before)]
      match r with
      | .ok n => Act.setStatus n
      | .error r => complainRefusal name path r

/-- The command `exec` with a command behind it: a program takes the place of the shell. -/
def exec (e : Engine) (tool? : String → Option Tool) (args : List String) : Act Unit := do
  let rich ← Act.isRich
  let rec go : (fuel : Nat) → (title : Option String) → (clean : Bool) → List String → Act Unit
    | 0, _, _, _ => pure ()
    | fuel + 1, title, clean, args => do
      match args with
      | [] => Act.setStatus 0
      | a :: rest =>
        if rich ∧ a = "--" then run title clean rest
        else if rich ∧ a.startsWith "-" ∧ a ≠ "-" then
          match a.toList.drop 1, rest with
          | ['a'], t :: more => go fuel (some t) clean more
          | letters, _ =>
            match letters.find? fun c => !"cl".toList.contains c with
            | some c =>
              let n ← Control.badOption "exec" c
                "exec [-cl] [-a name] [command [argument ...]] [redirection ...]"
              Act.setStatus n
            | none => go fuel title (clean || letters.contains 'c') rest
        else run title clean args
  go (args.length + 1) none false args
where
  /-- Runs the program. -/
  run (title : Option String) (clean : Bool) (words : List String) : Act Unit := do
    let rich ← Act.isRich
    match words with
    | [] => Act.setStatus 0
    | name :: rest =>
      let path ← if name.toList.contains '/' then pure (some name) else Lookup.program? name
      let leave (status : Nat) : Act Unit := do
        Act.modifyShell fun s => { s with traps := s.traps.filter (·.2 == "") }
        Act.exitWith status
      let refuse (text : String) (status : Nat) : Act Unit := do
        Act.complain ("exec: " ++ text)
        if rich ∧ (← Act.hasFeature "execfail") then Act.setStatus status
        else Act.exitWith status
      match path with
      | none => refuse (name ++ ": not found") 127
      | some path =>
        if clean then
          Act.modifyShell fun s =>
            { s with bindings := s.bindings.map fun _ v => { v with exported := false } }
        if rich ∧ !(← Act.shell).isSubshell then Act.stepDown
        match ← Program.runFile e tool? Program.maxInterpreters path
            (title.getD name :: rest) with
        | .ok n => leave n
        | .error (.system .noEntry) | .error (.system .notFolder) =>
          if rich then
            Act.complain (path ++ ": No such file or directory")
            Act.exitWith 127
          else refuse (name ++ ": not found") 127
        | .error r =>
          if rich then
            let here ← Folder.current
            let full := if path.startsWith "/" then path else Folder.simplified ((if here = "/" then "" else here) ++ "/" ++ path)
            complainRefusal full full r
            let text := match r with
              | .system err => err.text
              | _ => "Exec format error"
            refuse (full ++ ": cannot execute: " ++ text) 126
          else
            let text := match r with
              | .system .isFolder => "Permission denied"
              | .system err => err.text
              | _ => "Exec format error"
            refuse (name ++ ": " ++ text) 126

/-! ## What a word names -/

/-- The options of `command`: whether it is asked what names mean, in many words or in few, and what
is left; or the letter that is none. -/
def commandOptions : (asks : Option Bool) → List String →
    Except Char (Option Bool × List String)
  | asks, a :: rest =>
    match a.toList with
    | ['-', '-'] => .ok (asks, rest)
    | '-' :: c :: cs =>
      match (c :: cs).find? fun x => !"pvV".toList.contains x with
      | some x => .error x
      | none =>
        let asks := (c :: cs).foldl (fun asks x =>
          if x = 'v' then some false else if x = 'V' then some true else asks) asks
        commandOptions asks rest
    | _ => .ok (asks, a :: rest)
  | asks, [] => .ok (asks, [])

/-- Runs a command given by words; `fuel` bounds how many of the words only say how the others are
to be understood. -/
def run (e : Engine) (tool? : String → Option Tool) : (fuel : Nat) → Among → List Given → Act Unit
  | 0, _, _ => pure ()
  | _ + 1, _, [] => Act.setStatus 0
  | fuel + 1, among, g :: args => do
    let name := g.toText
    let s ← Act.shell
    let words := args.map Given.toText
    let asFunction : Act Bool := do
      if !among.functions then pure false
      else
        match s.functions[name]? with
        | some f =>
          callFunction e name f words
          pure true
        | none => pure false
    let asBuiltin : Act Bool := do
      if !among.builtins || s.disabled.contains name ||
          !(Lookup.builtins s.dialect).contains name then pure false
      else
        match name with
        | "eval" => Act.setStatus (← eval e words)
        | "." | "source" => Act.setStatus (← source e name words)
        | "exec" => exec e tool? words
        | "command" =>
          match commandOptions none words with
          | .error c =>
            let n ← Control.badOption "command" c "command [-pVv] command [arg ...]"
            Act.setStatus n
          | .ok (some wordy, names) => runBuiltin (Lookup.command wordy names)
          | .ok (none, rest) =>
            let rest := args.drop (args.length - rest.length)
            if s.dialect = .rich then
              run e tool? fuel { among with functions := false } rest
            else
              -- A command that would end the shell by its failure does not do so here.
              match rest.head?.map Given.toText with
              | some inner =>
                if Lookup.specials.contains inner ∧
                    !(["exit", "return", "break", "continue", "eval", "exec", "."].contains inner) then
                  match ← Act.attempt (run e tool? fuel { among with functions := false } rest) with
                  | .error .exit => pure ()
                  | .ok () => pure ()
                  | .error f => throw f
                else run e tool? fuel { among with functions := false } rest
              | none => Act.setStatus 0
        | "builtin" =>
          match args with
          | [] => Act.setStatus 0
          | h :: _ =>
            if (Lookup.builtins s.dialect).contains h.toText then
              run e tool? fuel { functions := false, programs := false } args
            else
              Act.complain ("builtin: " ++ h.toText ++ ": not a shell builtin")
              Act.setStatus 1
        | _ =>
          match builtin? e s.dialect name args with
          | some a => runBuiltin a
          | none => Act.setStatus 0
        pure true
    let special := s.dialect = .plain ∧ Lookup.specials.contains name
    let done ←
      if special then
        if ← asBuiltin then pure true else asFunction
      else if ← asFunction then pure true
      else asBuiltin
    if !done ∧ among.programs then runProgram e tool? (name :: words)

end Runbook.Shell.Invoke
