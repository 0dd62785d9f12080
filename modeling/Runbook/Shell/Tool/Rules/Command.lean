import Runbook.Shell.Tool.Rules.Run

/-!
# `Shell/Tool/Rules/Command` — calling programs of rules

`awk` is called with the text of a program or with files that hold it, values for names, and the
operands whose records the rules go through.
-/

set_option autoImplicit false

namespace Runbook.Shell.Rules

/-- How `awk` is used. -/
def usage : String :=
  "Usage: mawk [Options] [Program] [file ...]\n\nProgram:\n" ++
  "    The -f option value is the name of a file containing program text.\n" ++
  "    If no -f option is given, a \"--\" ends option processing; the following\n" ++
  "    parameters are the program text.\n\nOptions:\n" ++
  "    -f program-file  Program  text is read from file instead of from the\n" ++
  "                     command-line.  Multiple -f options are accepted.\n" ++
  "    -F value         sets the field separator, FS, to value.\n" ++
  "    -v var=value     assigns value to program variable var.\n" ++
  "    --               unambiguous end of options.\n\n" ++
  "    Implementation-specific options are prefixed with \"-W\".  They can be\n" ++
  "    abbreviated:\n\n" ++
  "    -W version       show version information and exit.\n" ++
  "    -W compat        pre-POSIX 2001.\n" ++
  "    -W dump          show assembler-like listing of program and exit.\n" ++
  "    -W help          show this message and exit.\n" ++
  "    -W interactive   set unbuffered output, line-buffered input.\n" ++
  "    -W exec file     use file as program as well as last option.\n" ++
  "    -W posix         stricter POSIX checking.\n" ++
  "    -W random=number set initial random seed.\n" ++
  "    -W sprintf=number adjust size of sprintf buffer.\n" ++
  "    -W usage         show this message and exit.\n"

/-- What a call asks for. -/
structure Asked where
  /-- The files that hold the program. -/
  files : List String := []
  /-- Values for names, as they were given. -/
  values : List (String × List Char) := []
  separator : Option (List Char) := none
  operands : List String := []

/-- What a call comes to besides running a program. -/
inductive Outcome where
  | wrong (message : String)
  /-- Something is told about the program itself. -/
  | about (text : String)
  | asked (a : Asked)

/-- What the words of a call ask for; `fuel` bounds their number. -/
def askedFrom : (fuel : Nat) → Asked → List String → Outcome
  | 0, a, ws => .asked { a with operands := ws }
  | _ + 1, a, [] => .asked a
  | fuel + 1, a, w :: rest =>
    match w.toList with
    | ['-', '-'] => .asked { a with operands := rest }
    | ['-'] => .asked { a with operands := w :: rest }
    | '-' :: c :: joined =>
      let value : Option (String × List String) :=
        if joined.isEmpty then rest.head?.map fun v => (v, rest.drop 1)
        else some (String.ofList joined, rest)
      match c, value with
      | 'f', some (v, rest) => askedFrom fuel { a with files := a.files ++ [v] } rest
      | 'F', some (v, rest) => askedFrom fuel { a with separator := some v.toList } rest
      | 'v', some (v, rest) =>
        match Doing.assignment? v.toList with
        | some (n, x) => askedFrom fuel { a with values := a.values ++ [(n, x)] } rest
        | none => .wrong ("improper assignment: -v " ++ v)
      | 'W', some (v, rest) =>
        if "version".startsWith v then .about "mawk 1.3.4 20200120\n"
        else if "help".startsWith v || "usage".startsWith v then .about usage
        else askedFrom fuel a rest
      | '-', _ =>
        if w = "--version" then .about "mawk 1.3.4 20200120\n"
        else if w = "--help" || w = "--usage" then .about usage
        else .wrong ("not an option: " ++ w)
      | _, none =>
        if "fFvW".toList.contains c then
          .wrong ("option -" ++ String.singleton c ++ " lacks argument")
        else .wrong ("not an option: " ++ w)
      | _, _ => .wrong ("not an option: " ++ w)
    | _ => .asked { a with operands := w :: rest }

/-- The table of the environment. -/
def environmentTable : Act Table := do
  let all ← Environment.all
  pure (all.foldl (fun t (n, v) => t.insert n (.input (Raw.split v.toList))) {})

/-- Runs a program on operands, and gives the status with which it ends. -/
def execute (e : Engine) (c : Call) (a : Asked) (p : Program) (operands : List String) : Act Nat := do
  let environment ← environmentTable
  let operandTable : Table := ((c.name :: operands).zipIdx).foldl
    (fun t (o, i) => t.insertNumber i (.input (Raw.split o.toList))) {}
  let text (s : String) : Bound := .cell (.text s.toList)
  let zero : Bound := .cell (.number 0.0)
  let globals : List (String × Bound) :=
    [("NR", zero), ("FNR", zero), ("NF", zero), ("FS", text " "), ("OFS", text " "),
      ("RS", text "\n"), ("ORS", text "\n"), ("SUBSEP", text "\x1c"), ("CONVFMT", text "%.6g"),
      ("OFMT", text "%.6g"), ("FILENAME", .cell .unset), ("RSTART", zero),
      ("RLENGTH", .cell (.number (-1.0))),
      ("ARGC", .cell (.number (Float.ofNat (operands.length + 1)))),
      ("ENVIRON", .table 0), ("ARGV", .table 1)]
  let start : State :=
    { globals := Std.HashMap.ofList globals, tables := Std.HashMap.ofList [(0, environment), (1, operandTable)]
      fresh := 2 }
  let x : Doing.Context :=
    { engine := e, functions := Std.HashMap.ofList (p.functions.map fun f => (f.name, f)) }
  let whole : Doing Unit := do
    match a.separator with
    | some cs => Doing.setGlobal "FS" (.text (withEscapes (Raw.split cs)))
    | none => pure ()
    for (n, v) in a.values do
      Doing.assignGlobal n (Raw.split v)
    Doing.run x p
  let finish : Doing Unit := Doing.finishAll e
  let (r, s) ← StateT.run (ExceptT.run whole) start
  match r with
  | .error (.fatal message) =>
    c.blame message
    discard (StateT.run (ExceptT.run finish) s)
    pure 2
  | _ =>
    discard (StateT.run (ExceptT.run finish) s)
    pure s.status

/-- Goes through records and does what rules say. -/
def awk (e : Engine) (c : Call) : Act Nat := do
  if c.args.isEmpty then
    Act.tell usage
    return 0
  match askedFrom (c.args.length + 1) {} c.args with
  | .wrong message =>
    c.blame message
    pure 2
  | .about text =>
    Act.print text
    pure 0
  | .asked a =>
    let mut texts : List (List Char) := []
    for f in a.files do
      match ← Call.whole f with
      | .ok cs => texts := texts ++ [cs]
      | .error err =>
        c.blame ("cannot open \"" ++ f ++ "\" (" ++ err.text ++ ")")
        return 2
    let (text, operands) : Option (List Char) × List String :=
      if a.files.isEmpty then (a.operands.head?.map String.toList, a.operands.drop 1)
      else (some (['\n'].intercalate texts), a.operands)
    match text with
    | none => pure 0
    | some cs =>
      match readProgram (Raw.split cs) with
      | .error messages =>
        for m in messages do
          c.blame m
        pure 2
      | .ok p => execute e c a p operands

end Runbook.Shell.Rules
