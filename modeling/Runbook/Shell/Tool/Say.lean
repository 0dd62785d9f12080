import Runbook.Shell.Builtin.Folder
import Runbook.Shell.Builtin.Lookup
import Runbook.Shell.Builtin.Print
import Runbook.Shell.Builtin.Test
import Runbook.Shell.Tool.Flags

/-!
# `Shell/Tool/Say` — programs that tell what they are given or what they know

`echo`, `printf`, `yes`, `true`, `false`, `test`, `basename`, `dirname`, `pwd`, `printenv`, `which`,
and those that tell about the user and the system.
-/

set_option autoImplicit false

namespace Runbook.Shell.Say

/-! ## Texts -/

/-- The program `echo`. -/
def echo : Tool := fun _ c => do
  Act.print (Print.echoText .rich c.args)
  pure 0

/-- The program `printf`. -/
def printf : Tool := fun _ c => do
  let words := if c.args.head? = some "--" then c.args.drop 1 else c.args
  match words with
  | [] => c.refuse 1 "missing operand"
  | format :: rest =>
    let failed ← Print.formatted .program Act.print c.blame format rest
    if !rest.isEmpty && !(printFormat .program format ["", ""]).1.any (fun x =>
        match x with
        | .fault _ => true
        | _ => false) &&
        (printFormat .program format ["x"]).1.length == (printFormat .program format []).1.length &&
        !((format.splitOn "%%").any fun s => s.toList.contains '%') then
      c.blame ("warning: ignoring excess arguments, starting with " ++
        curlyQuoted (rest.head?.getD ""))
    pure (if failed then 1 else 0)

/-- How much text without end is written at a time. -/
def endless : Nat := 1048576

/-- The program `yes`, which goes on until nobody reads any more. -/
def yes : Tool := fun _ c => do
  match ({ letters := "", long := [("help", .nothing, "h")] } : Flags).parse c.args with
  | .error text => c.refuse 1 text
  | .ok p =>
    let words := if p.operands.isEmpty then ["y"] else p.operands
    let line := " ".intercalate words ++ "\n"
    let block := String.join (List.replicate (endless / line.length + 1) line)
    let rec go : Nat → Act Unit
      | 0 => pure ()
      | fuel + 1 => do
        Act.print block
        if (← get).world.fault.isNone then go fuel
    go 64
    match (← get).world.fault with
    | some err =>
      Act.modifyWorld fun w => { w with fault := none }
      c.blame ("standard output: " ++ err.text)
      pure 1
    | none => throw Flow.starved

/-- The programs `true` and `false`. -/
def ends (status : Nat) : Tool := fun _ _ => pure status

/-- The programs `test` and `[`. -/
def test : Tool := fun e c => do
  let told (q : Test.Asking Bool) : Act Nat := do
    match ← q.run with
    | .ok b => pure (if b then 0 else 1)
    | .error message =>
      c.blame message
      pure 2
  if c.name.endsWith "[" then
    if c.args.getLast? = some "]" then told (Test.rich e c.args.dropLast)
    else
      c.blame "missing ‘]’"
      pure 2
  else told (Test.rich e c.args)

/-! ## Paths -/

/-- A path without slashes at its end. -/
def withoutSlashes (cs : List Char) : List Char :=
  (cs.reverse.dropWhile (· == '/')).reverse

/-- The last name of a path. -/
def lastName (path : String) : String :=
  let cs := withoutSlashes path.toList
  if cs.isEmpty then (if path = "" then "" else "/")
  else String.ofList (cs.reverse.takeWhile (· != '/')).reverse

/-- A name without something at its end, unless it is all of the name. -/
def withoutEnd (ending name : String) : String :=
  if name != ending && name.endsWith ending then
    String.ofList (name.toList.take (name.length - ending.length))
  else name

/-- What a path is in. -/
def parent (path : String) : String :=
  let cs := withoutSlashes path.toList
  if cs.isEmpty then (if path = "" then "." else "/")
  else
    let front := cs.reverse.dropWhile (· != '/')
    if front.isEmpty then "."
    else
      let kept := withoutSlashes front.reverse
      if kept.isEmpty then "/" else String.ofList kept

/-- The program `basename`. -/
def basename : Tool := fun _ c =>
  c.withFlags
    { letters := "as:z", inFront := true
      long := [("multiple", .nothing, "a"), ("suffix", .value, "s"), ("zero", .nothing, "z")] }
    1 fun p => do
    let ending := if p.has "z" then "\x00" else "\n"
    let several := p.has "a" || p.has "s"
    match p.operands with
    | [] => c.refuse 1 "missing operand"
    | first :: rest =>
      if several then
        let suffix := (p.last? "s").getD ""
        for o in p.operands do
          Act.print (withoutEnd suffix (lastName o) ++ ending)
        pure 0
      else
        match rest with
        | [] =>
          Act.print (lastName first ++ ending)
          pure 0
        | [suffix] =>
          Act.print (withoutEnd suffix (lastName first) ++ ending)
          pure 0
        | _ :: extra :: _ => c.refuse 1 ("extra operand " ++ curlyQuoted extra)

/-- The program `dirname`. -/
def dirname : Tool := fun _ c =>
  c.withFlags { letters := "z", long := [("zero", .nothing, "z")] } 1 fun p => do
    if p.operands.isEmpty then c.refuse 1 "missing operand"
    else
      for o in p.operands do
        Act.print (parent o ++ (if p.has "z" then "\x00" else "\n"))
      pure 0

/-- The program `pwd`. -/
def pwd : Tool := fun _ c =>
  c.withFlags
    { letters := "LP", long := [("logical", .nothing, "L"), ("physical", .nothing, "P")] } 1 fun p => do
    let s ← Act.shell
    let real := Disk.pathOf s.here
    let logical ← Act.textOf "PWD"
    let here :=
      if p.lastOf? ["L", "P"] == some "L" && logical.startsWith "/" &&
          ((← Act.disk).resolve [] logical).toOption == some s.here then logical
      else real
    if !p.operands.isEmpty then c.blame "ignoring non-option arguments"
    Act.print (here ++ "\n")
    pure 0

/-! ## What is known -/

/-- The program `printenv`. -/
def printenv : Tool := fun _ c =>
  c.withFlags { letters := "0", inFront := true, long := [("null", .nothing, "0")] } 2 fun p => do
    let ending := if p.has "0" then "\x00" else "\n"
    let all ← Environment.all
    if p.operands.isEmpty then
      Act.print (String.join (all.map fun (n, t) => n ++ "=" ++ t ++ ending))
      pure 0
    else
      let mut missing := false
      for o in p.operands do
        match all.lookup o with
        | some t => Act.print (t ++ ending)
        | none => missing := true
      pure (if missing then 1 else 0)

/-- The program `which`. -/
def which : Tool := fun _ c => do
  match ({ letters := "as", inFront := true } : Flags).parse c.args with
  | .error text =>
    let letter := String.ofList ((text.toList.dropWhile (· != '\'')).drop 1 |>.take 1)
    Act.tell ("Illegal option -" ++ letter ++ "\n")
    Act.print "Usage: /usr/bin/which [-as] args\n"
    pure 2
  | .ok p =>
    let mut missing := p.operands.isEmpty
    for name in p.operands do
      let found ← Lookup.programs name
      if found.isEmpty then missing := true
      if !p.has "s" then
        for path in (if p.has "a" then found else found.take 1) do
          Act.print (path ++ "\n")
    pure (if missing then 1 else 0)

/-- A program that tells one thing and takes no operands. -/
def fact (text : String) : Tool := fun _ c =>
  c.withFlags { letters := "", long := Flags.common } 1 fun p => do
    match p.operands with
    | o :: _ => c.refuse 1 ("extra operand " ++ curlyQuoted o)
    | [] =>
      Act.print (text ++ "\n")
      pure 0

/-- The program `id`. -/
def id : Tool := fun _ c =>
  c.withFlags
    { letters := "agGnruzZ"
      long := [("user", .nothing, "u"), ("group", .nothing, "g"), ("groups", .nothing, "G"),
        ("name", .nothing, "n"), ("real", .nothing, "r"), ("zero", .nothing, "z")] }
    1 fun p => do
    match p.operands.find? fun o => o != "root" && o != "0" with
    | some o =>
      c.blame (curlyQuoted o ++ ": no such user")
      pure 1
    | none =>
      if p.has "u" || p.has "g" || p.has "G" then
        Act.print (if p.has "n" then "root\n" else "0\n")
        pure 0
      else if p.has "n" || p.has "r" then
        c.blame "printing only names or real IDs requires -u, -g, or -G"
        pure 1
      else
        Act.print "uid=0(root) gid=0(root) groups=0(root)\n"
        pure 0

/-- The program `groups`. -/
def groups : Tool := fun _ c => c.withFlags { letters := "", long := Flags.common } 1 fun p => do
  if p.operands.isEmpty then
    Act.print "root\n"
    pure 0
  else
    let mut ok := true
    for o in p.operands do
      if o = "root" then Act.print "root : root\n"
      else
        c.blame (curlyQuoted o ++ ": no such user")
        ok := false
    pure (if ok then 0 else 1)

/-- The parts that `uname` tells, by their letters. -/
def systemParts : List (Char × String) :=
  [('s', "Linux"), ('n', "localhost"), ('r', "6.8.0"), ('v', "#1 SMP"), ('m', "x86_64"),
    ('o', "GNU/Linux")]

/-- The program `uname`. -/
def uname : Tool := fun _ c =>
  c.withFlags
    { letters := "asnrvmpio"
      long := [("all", .nothing, "a"), ("kernel-name", .nothing, "s"), ("sysname", .nothing, "s"),
        ("nodename", .nothing, "n"), ("kernel-release", .nothing, "r"), ("release", .nothing, "r"),
        ("kernel-version", .nothing, "v"), ("machine", .nothing, "m"),
        ("processor", .nothing, "p"), ("hardware-platform", .nothing, "i"),
        ("operating-system", .nothing, "o")] }
    1 fun p => do
    match p.operands with
    | o :: _ => c.refuse 1 ("extra operand " ++ curlyQuoted o)
    | [] =>
      let wanted (x : Char) : Bool :=
        p.has "a" || p.has (String.singleton x) || (p.options.isEmpty && x == 's') ||
          (x == 'm' && (p.has "p" || p.has "i"))
      let parts := systemParts.filterMap fun (x, text) => if wanted x then some text else none
      Act.print (" ".intercalate parts ++ "\n")
      pure 0

/-- The program `tty`: the input is no terminal. -/
def tty : Tool := fun _ c =>
  c.withFlags
    { letters := "s", long := [("silent", .nothing, "s"), ("quiet", .nothing, "s")] } 2 fun p => do
    match p.operands with
    | o :: _ => c.refuse 2 ("extra operand " ++ curlyQuoted o)
    | [] =>
      if !p.has "s" then Act.print "not a tty\n"
      pure 1

/-- The program `nproc`. -/
def nproc : Tool := fun _ c =>
  c.withFlags { letters := "", long := [("all", .nothing, "a"), ("ignore", .value, "i")] } 1 fun _ => do
    Act.print "4\n"
    pure 0

/-- The program `logname`: nobody has logged in. -/
def logname : Tool := fun _ c => c.withFlags { letters := "", long := Flags.common } 1 fun p => do
  match p.operands with
  | o :: _ => c.refuse 1 ("extra operand " ++ curlyQuoted o)
  | [] =>
    c.blame "no login name"
    pure 1

end Runbook.Shell.Say
