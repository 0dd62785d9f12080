import Runbook.Shell.Run.Program

/-!
# `Shell/Tool/Shell` — shells as programs

A shell is called with the text of a script, with the name of a file that holds one, or with a
script as its input.
-/

set_option autoImplicit false

namespace Runbook.Shell.ShellTool

/-- What a shell was called for. -/
structure Asked where
  /-- The script is an argument, or the input. -/
  isText : Bool := false
  isInput : Bool := false
  on : List String := []
  off : List String := []
  features : List String := []

/-- How the shell of the rich dialect is used. -/
def usage (name : String) : String :=
  "Usage:\t" ++ name ++ " [GNU long option] [option] ...\n\t" ++ name ++
    " [GNU long option] [option] script-file ...\n" ++
  "GNU long options:\n\t--debug\n\t--debugger\n\t--dump-po-strings\n\t--dump-strings\n\t--help\n" ++
  "\t--init-file\n\t--login\n\t--noediting\n\t--noprofile\n\t--norc\n\t--posix\n\t--pretty-print\n" ++
  "\t--rcfile\n\t--restricted\n\t--verbose\n\t--version\n" ++
  "Shell options:\n\t-ilrsD or -c command or -O shopt_option\t\t(invocation only)\n" ++
  "\t-abefhkmnptuvxBCEHPT or -o option\n"

/-- The options of a call, and what is left; or what to tell about a wrong one. -/
def options (d : Dialect) : (fuel : Nat) → Asked → List String →
    Except String (Asked × List String)
  | 0, a, ws => .ok (a, ws)
  | _ + 1, a, [] => .ok (a, [])
  | fuel + 1, a, w :: rest =>
    match w.toList with
    | ['-'] | ['-', '-'] => .ok (a, rest)
    | '-' :: '-' :: _ =>
      if d = .plain then .error "Illegal option --"
      else if ["--norc", "--noprofile", "--posix", "--login", "--noediting"].contains w then
        options d fuel a rest
      else if w = "--verbose" then options d fuel { a with on := "verbose" :: a.on } rest
      else .error (w ++ ": invalid option")
    | sign :: c :: cs =>
      if sign = '-' ∨ sign = '+' then
        let rec letters : List Char → Asked → List String → Except String (Asked × List String)
          | [], a, rest => .ok (a, rest)
          | c :: cs, a, rest =>
            match c, rest with
            | 'c', _ => letters cs { a with isText := true } rest
            | 's', _ => letters cs { a with isInput := true } rest
            | 'o', name :: more =>
              if (Options.names d).any (·.1 == name) then
                letters cs (if sign = '-' then { a with on := name :: a.on }
                  else { a with off := name :: a.off }) more
              else if d = .plain then .error ("Illegal option -o " ++ name)
              else .error (name ++ ": invalid option name")
            | 'O', name :: more =>
              if d = .rich then letters cs { a with features := name :: a.features } more
              else .error "Illegal option -O"
            | c, rest =>
              if "il".toList.contains c ∨ (d = .rich ∧ c = 'r') then letters cs a rest
              else
                match (Options.names d).find? fun o => o.2 == some c with
                | some (name, _) =>
                  letters cs (if sign = '-' then { a with on := name :: a.on }
                    else { a with off := name :: a.off }) rest
                | none =>
                  .error (match d with
                    | .plain => "Illegal option " ++ String.ofList [sign, c]
                    | .rich => String.ofList [sign, c] ++ ": invalid option")
        match letters (c :: cs) a rest with
        | .ok (a, rest) => options d fuel a rest
        | .error m => .error m
      else .ok (a, w :: rest)
    | _ => .ok (a, w :: rest)

/-- A shell as a program. -/
def run (d : Dialect) : Tool := fun e c => do
  let complain (text : String) : Act Unit :=
    Act.tell (c.name ++ (if d = .plain then ": 0: " else ": ") ++ text ++ "\n")
  if d = .rich ∧ c.args.head? = some "--version" then
    Act.print "GNU bash, version 5.2.15(1)-release (x86_64-pc-linux-gnu)\n"
    return 0
  match options d (c.args.length + 1) {} c.args with
  | .error text =>
    complain text
    if d = .rich ∧ text.endsWith ": invalid option" then Act.tell (usage c.name)
    pure 2
  | .ok (a, rest) =>
    let prepare (origin home : String) (s : Interpreter) : Interpreter :=
      { s with
        origin := origin
        home := home
        options := (s.options.filter fun o => !a.off.contains o) ++ a.on
        features := s.features ++ a.features }
    if a.isText then
      match rest with
      | [] =>
        complain (if d = .plain then "-c requires an argument" else "-c: option requires an argument")
        pure 2
      | text :: more =>
        Program.runShell e d c.name (more.head?.getD c.name) (more.drop 1) (prepare "-c" "environment") text
    else
      match a.isInput, rest with
      | false, file :: args =>
        match ← Act.readPath file with
        | .ok cs =>
          if (cs.takeWhile (· != '\n')).any (·.toNat == 0) ∧ d = .rich then
            Act.tell (file ++ ": " ++ file ++ ": cannot execute binary file\n")
            pure 126
          else Program.runShell e d c.name file args (prepare "" file) (String.ofList cs)
        | .error err =>
          match d with
          | .plain =>
            complain ("cannot open " ++ file ++ ": " ++
              (if err = .noEntry ∨ err = .notFolder then "No such file" else err.text))
            pure 2
          | .rich =>
            if err = .isFolder then
              Act.tell (file ++ ": " ++ file ++ ": Is a directory\n")
              pure 126
            else
              complain (file ++ ": " ++ err.text)
              pure (if err = .noEntry then 127 else 126)
      | _, args =>
        match ← Act.readAll 0 with
        | .ok cs => Program.runShell e d c.name c.name args (prepare "" "main") (String.ofList cs)
        | .error _ => pure 0

end Runbook.Shell.ShellTool
