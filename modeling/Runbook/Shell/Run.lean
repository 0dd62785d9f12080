import Runbook.Command.Basic
import Runbook.Shell.Arithmetic
import Runbook.Shell.Run.Compound
import Runbook.Shell.Tool.About
import Runbook.Shell.Tool.Archive.Command
import Runbook.Shell.Tool.Batch
import Runbook.Shell.Tool.Blocks
import Runbook.Shell.Tool.Characters
import Runbook.Shell.Tool.Concordance.Basic
import Runbook.Shell.Tool.Count
import Runbook.Shell.Tool.Date
import Runbook.Shell.Tool.Deflate.Command
import Runbook.Shell.Tool.Difference.Command
import Runbook.Shell.Tool.Digest.Command
import Runbook.Shell.Tool.Dump
import Runbook.Shell.Tool.Edit.Run
import Runbook.Shell.Tool.Encode
import Runbook.Shell.Tool.Fields
import Runbook.Shell.Tool.Find
import Runbook.Shell.Tool.Launch
import Runbook.Shell.Tool.Listing
import Runbook.Shell.Tool.Make
import Runbook.Shell.Tool.Number
import Runbook.Shell.Tool.Options
import Runbook.Shell.Tool.Order
import Runbook.Shell.Tool.Page.Command
import Runbook.Shell.Tool.Paragraph
import Runbook.Shell.Tool.Rules.Command
import Runbook.Shell.Tool.Say
import Runbook.Shell.Tool.Scale
import Runbook.Shell.Tool.Search
import Runbook.Shell.Tool.Shell
import Runbook.Shell.Tool.Show
import Runbook.Shell.Tool.Split
import Runbook.Shell.Tool.Transfer
import Runbook.Shell.Tool.Usage

/-!
# `Shell` — commands of loops as a shell runs them

A command is the text of a script, which a shell runs in a folder. `execute` gives how the process
ended and the files as it left them. The shell is found by its path, as any program; a program that
is no shell is run with the arguments that a shell would have got.
-/

set_option autoImplicit false

/-!
## Texts of commands

A text is read one complete command at a time, each of which is run before more is read. A mistake
in the text ends it: what stands before has been done already.
-/

namespace Runbook.Shell.Script

/-! ### Mistakes -/

/-- A token as the plain dialect names it. -/
def plainToken : Token → String
  | .finish => "end of file"
  | .newline => "newline"
  | .word _ => "word"
  | .redirection _ => "redirection"
  | .operator s | .reserved s => "\"" ++ s ++ "\""

/-- A token as the rich dialect names it. -/
def richToken : Token → String
  | .finish => "end of file"
  | .newline => "newline"
  | .word s | .redirection s | .operator s | .reserved s => s

/-- What the plain dialect tells about a mistake, and on which line. -/
def plainFault : ScriptFault → Nat × String
  | .unexpected line token expected =>
    (line, "Syntax error: " ++ plainToken token ++ " unexpected" ++
      (match expected with
        | some x => " (expecting \"" ++ x ++ "\")"
        | none => ""))
  | .unmatched line _ => (line, "Syntax error: Unterminated quoted string")
  | .stated line text => (line, "Syntax error: " ++ text)
  | .condition line text _ => (line, "Syntax error: " ++ text)
  | .inside f => plainFault f
  | .inElements f => plainFault f

/-- What the rich dialect tells about a mistake, by lines with their numbers, and the status.
`sourceLine` gives the lines of the text, and `finish` is the number of the line at its end. -/
def richFault (sourceLine : Nat → String) (finish : Nat) : ScriptFault → List (Nat × String) × Nat
  | .unexpected line token _ =>
    match token with
    | .finish => ([(finish, "syntax error: unexpected end of file")], 2)
    | t =>
      ([(line, "syntax error near unexpected token \x60" ++ richToken t ++ "'"),
        (line, "\x60" ++ sourceLine line ++ "'")], 2)
  | .unmatched line mark =>
    ([(line, "unexpected EOF while looking for matching \x60" ++ String.singleton mark ++ "'")], 2)
  | .stated line text => ([(line, text)], 2)
  | .condition line text near =>
    if text.startsWith "unexpected EOF" then
      ([(line, text), (finish, if near = "(" then
          "unexpected argument to conditional binary operator"
        else "syntax error: unexpected end of file")], 2)
    else if near.startsWith "((" then
      ([(line, text), (line, "syntax error: \x60" ++ near ++ "'")], 2)
    else
      ([(line, text), (line, "syntax error near \x60" ++ near ++ "'"),
        (line, "\x60" ++ sourceLine line ++ "'")], 2)
  | .inside f =>
    match f with
    | .unmatched line mark => richFault sourceLine finish (.unmatched line mark)
    | .inElements f => ((richFault sourceLine finish f).1, 1)
    | .unexpected line .finish e => richFault sourceLine finish (.unexpected line .finish e)
    | f => ((richFault sourceLine finish f).1, 127)
  | .inElements f => ((richFault sourceLine finish f).1, 1)

/-- Tells a mistake in a text that begins at a line, and gives up the text. -/
def report (start : Nat) (text : String) (fault : ScriptFault) : Act Unit := do
  let s ← Act.shell
  match s.dialect with
  | .plain =>
    let (line, message) := plainFault fault
    Act.modifyShell fun s => { s with line := line }
    Act.complain message
    Act.exitWith 2
  | .rich =>
    let lines := (text.toList.splitOn '\n').map String.ofList
    let count := if text.endsWith "\n" then lines.length - 1 else lines.length
    let sourceLine (n : Nat) : String := lines.getD (n - start) ""
    let (messages, status) := richFault sourceLine (start + count) fault
    let origin := if s.origin = "" then "" else s.origin ++ ": "
    for (line, message) in messages do
      Act.tell (s.title.getD s.name ++ ": " ++ origin ++ "line " ++ natText line ++ ": " ++
        message ++ "\n")
    Act.setStatus status

/-- Warns of texts that the end of the script cut short. -/
def warn (unended : List (Nat × Nat × String)) : Act Unit := do
  if ← Act.isRich then
    let s ← Act.shell
    for (start, finish, mark) in unended do
      Act.tell (s.title.getD s.name ++ ": line " ++ natText finish ++
        ": warning: here-document at line " ++ natText start ++
        " delimited by end-of-file (wanted \x60" ++ mark ++ "')\n")

/-! ### Running -/

/-- Runs the commands of a line, which may be the last one of the process. What gives up the line
goes on behind it. -/
def runLine (e : Engine) (isLast : Bool) (body : List Command) : Act Unit := do
  match ← Act.attempt (if isLast then Act.runAll e body else body.forM e.run) with
  | .ok () => pure ()
  | .error .abort =>
    if (← Act.shell).isSubshell && 0 < (← Act.shell).depth then throw .abort
  | .error f => throw f

/-- Reads and runs what is left of a text; `fuel` bounds the number of commands. -/
def runFrom (e : Engine) (start : Nat) (text : String) : (fuel : Nat) → Cursor → Act Unit
  | 0, _ => pure ()
  | fuel + 1, c => do
    let s ← Act.shell
    let replaces := s.dialect = .plain ∨ s.features.contains "expand_aliases"
    let c := { c with
      alternatives := s.features.contains "extglob", unended := []
      aliases := if replaces then s.aliases else [] }
    match Reading.line c with
    | .error f =>
      report start text f
      match f.lineGivenUp? with
      | some line => runFrom e start text fuel (c.behindLine line)
      | none => pure ()
    | .ok (body, after) =>
      if s.options.contains "verbose" then
        Act.tell (String.ofList (c.rest.take (c.rest.length - after.rest.length)))
      warn after.unended
      match body with
      | none => pure ()
      | some body =>
        let last := if c.rest.length = after.rest.length then after.line else after.line - 1
        Act.modifyShell fun s => { s with line := last }
        if !s.options.contains "noexec" then
          let isLast := after.rest.isEmpty && (s.origin == "-c" || s.origin == "command substitution")
          runLine e isLast body
        runFrom e start text fuel after

/-- Runs a text of commands whose first line has a number. -/
def run (e : Engine) (line : Nat) (text : String) : Act Unit := do
  let s ← Act.shell
  let base := s.base
  Act.modifyShell fun s => { s with base := 0 }
  let cs := text.toList
  let cs := if s.dialect = .rich ∧ !text.endsWith "\n" then cs ++ ['\n'] else cs
  Act.finally_
    (runFrom e line text (cs.length + 1) { dialect := s.dialect, rest := cs, line := line })
    (Act.modifyShell fun s => { s with base := base })

end Runbook.Shell.Script

/-!
## The programs by their names
-/

namespace Runbook.Shell

/-- The programs, by their names. -/
def tools : List (String × Tool) :=
  [("bash", ShellTool.run .rich), ("dash", ShellTool.run .plain),
    ("cat", Show.cat), ("tac", Show.tac), ("rev", Show.rev), ("nl", Show.nl), ("head", Show.head),
    ("tail", Show.tail), ("tee", Show.tee),
    ("tr", Characters.tr), ("expand", Characters.expand), ("unexpand", Characters.unexpand),
    ("fold", Characters.fold),
    ("cut", Fields.cut), ("paste", Fields.paste), ("comm", Fields.comm), ("join", Fields.join),
    ("sort", Order.sort), ("uniq", Order.uniq), ("tsort", Order.tsort), ("shuf", Order.shuf),
    ("wc", Count.wc), ("seq", Number.seq), ("expr", Number.expr), ("factor", Number.factor),
    ("echo", Say.echo), ("printf", Say.printf), ("yes", Say.yes), ("true", Say.ends 0),
    ("false", Say.ends 1), ("test", Say.test), ("[", Say.test), ("basename", Say.basename),
    ("dirname", Say.dirname), ("pwd", Say.pwd), ("printenv", Say.printenv),
    ("which.debianutils", Say.which), ("whoami", Say.fact "root"), ("hostname", Say.fact "localhost"),
    ("arch", Say.fact "x86_64"), ("id", Say.id), ("groups", Say.groups), ("uname", Say.uname),
    ("tty", Say.tty), ("nproc", Say.nproc), ("logname", Say.logname),
    ("mkdir", Make.mkdir), ("rmdir", Make.rmdir), ("touch", Make.touch), ("ln", Make.ln),
    ("link", Make.link), ("unlink", Make.unlink), ("truncate", Make.truncate),
    ("mktemp", Make.mktemp), ("getopt", Options.getopt), ("du", Usage.du),
    ("pathchk", Portable.pathchk), ("mkfifo", Queue.mkfifo), ("mknod", Queue.mknod),
    ("fmt", Paragraph.fmt), ("pr", Page.pr), ("ptx", Concordance.ptx),
    ("gzip", Deflate.gzip []), ("gunzip", Deflate.gzip ["-d"]), ("zcat", Deflate.gzip ["-cd"]),
    ("tar", Archive.tar), ("uncompress", Deflate.gzip ["-d"]),
    ("rm", Remove.rm), ("cp", Transfer.cp), ("mv", Transfer.mv),
    ("install", Transfer.install), ("chmod", Permission.chmod), ("chown", Permission.chown),
    ("chgrp", Permission.chown), ("date", Date.date), ("readlink", Place.readlink),
    ("realpath", Place.realpath), ("stat", Place.stat), ("ls", Listing.ls {}),
    ("dir", Listing.ls { layout := .down, quoting := .escapes }),
    ("grep", Search.grep .basic), ("egrep", Search.grep .extended), ("fgrep", Search.grep .fixed),
    ("sed", Edit.sed), ("awk", Rules.awk), ("mawk", Rules.awk),
    ("env", Launch.env), ("sleep", Launch.sleep), ("timeout", Launch.timeout),
    ("nohup", Launch.nohup), ("setsid", Launch.setsid), ("stdbuf", Launch.stdbuf),
    ("diff", Difference.diff), ("cmp", Difference.cmp),
    ("find", Find.find),
    ("dd", Blocks.dd), ("split", Split.split), ("numfmt", Scale.numfmt), ("nice", Launch.nice), ("xargs", Batch.xargs),
    ("od", Dump.od), ("sum", Digest.sum), ("cksum", Digest.cksum),
    ("base64", Encode.run (some .base64)), ("base32", Encode.run (some .base32)),
    ("basenc", Encode.run none),
    ("vdir", Listing.ls { layout := .long, quoting := .escapes })] ++ Digest.digestTools

/-- The tool of a name. -/
def tool? (name : String) : Option Tool := (tools.lookup name).map (About.telling name)

end Runbook.Shell

/-!
## Commands

What each form of command does.
-/

namespace Runbook.Shell.Command

/-- Begins a command that nobody waits for. Its input is empty. -/
def begin (c : Command) : Act Unit := do
  let number ← Act.newProcess
  let input ← Act.newChannel (.device .null)
  let s ← Act.shell
  let child := Act.childOf s number
  let child :=
    { child with
      descriptors := (0, input) :: child.descriptors.filter (·.1 != 0)
      numbered := []
      lenient := false }
  Act.modifyWorld fun w => { w with pending := w.pending ++ [⟨number, child, c⟩] }
  Act.modifyShell fun s => { s with jobs := number :: s.jobs }
  Jobs.add number c
  Act.setStatus 0

/-- Runs a command. -/
def run (e : Engine) (tool? : String → Option Tool) : Command → Act Unit
  | .simple line assignments arguments redirects =>
    Simple.run e tool? line assignments arguments redirects
  | .pipeline negated timed stages => Pipeline.run e negated timed stages
  | .and a b => do
    let yields ← Act.takeYield
    Simple.leniently (e.run a)
    if (← Act.shell).status = 0 then if yields then Act.runFinal e b else e.run b
  | .or a b => do
    let yields ← Act.takeYield
    Simple.leniently (e.run a)
    if (← Act.shell).status ≠ 0 then if yields then Act.runFinal e b else e.run b
  | .async c => begin c
  | .group body => body.forM e.run
  | .subshell body => do
    let status ← Act.isolated e do
      Jobs.keep []
      Act.runAll e body
    Act.setStatus status
    Simple.settle e
  | .branch cases otherwise => Compound.branch e otherwise cases
  | .loop whileFails test body => do
    let holds : Act Bool := do
      Simple.leniently (test.forM e.run)
      pure (((← Act.shell).status == 0) != whileFails)
    Compound.asLoop (Compound.whileFrom holds (body.forM e.run) Compound.maxTurns 0)
  | .each line name words body => Compound.each e line name words body
  | .count line start test step body => Compound.count e line start test step body
  | .select line name words body => Compound.select e line name words body
  | .choice line word clauses => Compound.choice e line word clauses
  | .condition line c => Compound.condition e line c
  | .expression line inside _ => Compound.expression e line inside
  | .define line name body => do
    let before := (← Act.shell).functions[name]?
    if before.any (·.fixed) then
      Act.complain (name ++ ": readonly function")
      Act.setStatus 1
    else
      Act.modifyShell fun s =>
        { s with
          functions := s.functions.insert name
            { body := body, line := s.base + line, base := s.base, title := s.title.getD s.home
              exported := before.any (·.exported) } }
      Act.setStatus 0
  | .redirected line c redirects => do
    if !(← Act.isRich) then Act.modifyShell fun s => { s with line := line }
    let kept := (← Act.shell).substitutions.length
    let failed : Act Unit := do
      Act.setStatus (if ← Act.isRich then 1 else 2)
      Simple.settle e
    Act.finally_ (Redirection.around e redirects failed (e.run c)) (Act.endSubstitutions e kept)

end Runbook.Shell.Command

/-! ## The text of a command -/

namespace Runbook.Shell

/-- The parts of a shell, each of which uses those of the level below. -/
def engine : (level : Nat) → Engine
  | 0 =>
    { run := fun _ => throw (.killed 11)
      script := fun _ _ => throw (.killed 11)
      expand := fun _ _ => throw (.killed 11)
      compute := fun _ => throw (.killed 11)
      program := fun _ => throw (.killed 11) }
  | level + 1 =>
    { run := fun c => do
        if !(← Act.isOn "noexec") then Command.run (engine level) tool? c
      script := fun line text => Script.run (engine level) line text
      expand := fun inDouble w => Act.wordBits (engine level) inDouble w
      compute := fun text => do
        if ← Act.isRich then Arithmetic.evaluate (engine level) 1024 text
        else Arithmetic.Plain.evaluate (engine level) text
      program := fun words => Program.run (engine level) tool? words }

/-- How deep commands may lie in each other. -/
def maxLevels : Nat := 20000

/-- A text as it is shown: decoded, with its line ends unified. -/
def streamText (text : String) : String :=
  let bytes := Raw.bytesOfString text
  String.ofList (Text.unifyNewlines (Text.Utf8.decodeLossy bytes))

/-- What is passed on to the process. -/
def environment : List (String × String) :=
  [("PATH", defaultPath), ("HOME", "/root"), ("LANG", "C.UTF-8")]

/-- A machine with some files, and a process in a folder that has not begun yet. Its input is
empty. -/
def Machine.initial (tree : File.Tree) (folder : File.Path) : Machine :=
  let disk := (Disk.system.withTree tree).withFolders folder.names
  let here := folder.names
  let shell : Interpreter := { dialect := .plain, name := "", here := here }
  let channels : Std.HashMap Nat Channel :=
    Std.HashMap.ofList [(0, .device .null), (1, .output "" none false), (2, .output "" none false)]
  { world := { disk := disk, channels := channels, fresh := 3 }
    shell :=
      { shell with
        descriptors := [(0, 0), (1, 1), (2, 2)]
        bindings := Std.HashMap.ofList (environment.map fun (n, t) =>
          (n, { value := .text t, exported := true })) } }

/-- Runs a shell, or another program, as the process that was asked for; the status is negative if a
signal ended it. -/
def mainProcess (e : Engine) (path : String) (asked : Command.Request) :
    Act (Except Program.Refusal Int) := do
  match ← Program.load path with
  | .error r => pure (.error r)
  | .ok (.tool name) =>
    let dialect : Option Dialect := match name with
      | "bash" => some .rich
      | "dash" => some .plain
      | _ => none
    match dialect with
    | some d =>
      let disk ← Act.disk
      Act.modifyShell fun s =>
        { s.started d disk path path [] environment with number := 1000 }
      let whole : Act Unit := do
        match ← Act.attempt (e.script 1 asked.command) with
        | .ok () => pure ()
        | .error (.killed n) => throw (.killed n)
        | .error .starved => throw .starved
        | .error _ => pure ()
        Act.runExitTrap e
      match ← Act.attempt whole with
      | .error (.killed n) =>
        Act.runPending e 0 Act.maxPending
        pure (.ok (-(n : Int)))
      | .error .starved => throw .starved
      | _ =>
        let status := (← Act.shell).status
        Act.endSubstitutions e 0
        Act.runPending e 0 Act.maxPending
        pure (.ok (status : Int))
    | none =>
      match ← Program.runFile e tool? Program.maxInterpreters path [path, "-c", asked.command] with
      | .ok n => pure (.ok (n : Int))
      | .error r => pure (.error r)
  | .ok _ =>
    match ← Program.runFile e tool? Program.maxInterpreters path [path, "-c", asked.command] with
    | .ok n => pure (.ok (n : Int))
    | .error r => pure (.error r)

/-- How a process that is asked for ends, in a folder among some files, and the files below the
folder afterwards. -/
def execute (tree : File.Tree) (folder : File.Path) (asked : Command.Request) :
    Command.Ending × File.Tree :=
  let e := engine maxLevels
  let m := Machine.initial tree folder
  let path :=
    if asked.shell.toList.contains '/' then some asked.shell
    else
      (defaultPath.splitOn ":").findSome? fun f =>
        let p := f ++ "/" ++ asked.shell
        if (m.world.disk.find [] p).toOption.any (·.2.isFile) then some p else none
  match path with
  | none => (.notStarted (Command.osError 2 "No such file or directory" asked.shell), tree)
  | some path =>
    match mainProcess e path asked m with
    | (.error _, after) => (.timedOut, after.world.disk.toTree Disk.system tree)
    | (.ok (.error r), _) =>
      let err : Errno := match r with
        | .system .isFolder => .denied
        | .system err => err
        | .noInterpreter => .noEntry
        | .binary => .badFormat
      (.notStarted (Command.osError err.number err.text asked.shell), tree)
    | (.ok (.ok status), after) =>
      let textOf (id : Nat) : String :=
        match after.world.channels[id]? with
        | some (.output t _ _) => t
        | _ => ""
      (.exited status (streamText (textOf 1)) (streamText (textOf 2)),
        after.world.disk.toTree Disk.system tree)

end Runbook.Shell
