import Runbook.Shell.Script.Cursor
import Runbook.Shell.Script.Source
import Runbook.Shell.Process.Variable

/-!
# `Shell/Builtin/Lookup` — what a name of a command means

A name may be a word of the language, a function, a command of the shell, or a program in one of the
folders that are searched.
-/

set_option autoImplicit false

namespace Runbook.Shell.Lookup

/-- The commands of the shell. -/
def builtins : Dialect → List String
  | .rich => [".", ":", "[", "alias", "bg", "bind", "break", "builtin", "caller", "cd", "command",
      "compgen", "complete", "compopt", "continue", "declare", "dirs", "disown", "echo", "enable",
      "eval", "exec", "exit", "export", "false", "fc", "fg", "getopts", "hash", "help", "history",
      "jobs", "kill", "let", "local", "logout", "mapfile", "popd", "printf", "pushd", "pwd", "read",
      "readarray", "readonly", "return", "set", "shift", "shopt", "source", "suspend", "test",
      "times", "trap", "true", "type", "typeset", "ulimit", "umask", "unalias", "unset", "wait"]
  | .plain => [".", ":", "[", "alias", "bg", "break", "cd", "chdir", "command", "continue", "echo",
      "eval", "exec", "exit", "export", "false", "fg", "getopts", "hash", "jobs", "kill", "local",
      "printf", "pwd", "read", "readonly", "return", "set", "shift", "test", "times", "trap",
      "true", "type", "ulimit", "umask", "unalias", "unset", "wait"]

/-- The commands whose failure ends a shell of the plain dialect. -/
def specials : List String :=
  [".", ":", "break", "continue", "eval", "exec", "exit", "export", "readonly", "return", "set",
    "shift", "times", "trap", "unset"]

/-- A program file that a path leads to. -/
def isProgram (path : String) : Act Bool := do
  match (← Act.disk).find (← Act.shell).here path with
  | .ok (_, n) => pure (n.isFile && n.mayRun)
  | .error _ => pure false

/-- The folders that are searched for programs. -/
def folders : Act (List String) := do
  match ← Act.textOf? "PATH" with
  | some p => pure (p.splitOn ":")
  | none => pure ["/usr/local/sbin", "/usr/local/bin", "/usr/sbin", "/usr/bin", "/sbin", "/bin"]

/-- A name in a folder that is searched. -/
def inFolder (folder name : String) : String :=
  if folder = "" then "./" ++ name else if folder.endsWith "/" then folder ++ name
  else folder ++ "/" ++ name

/-- The programs of a name in the folders that are searched. -/
def programs (name : String) : Act (List String) := do
  if name.toList.contains '/' then
    pure (if ← isProgram name then [name] else [])
  else if name = "" then pure []
  else
    let mut found := []
    for f in ← folders do
      let path := inFolder f name
      if ← isProgram path then found := found ++ [path]
    pure found

/-- The first program of a name in the folders that are searched. -/
def program? (name : String) : Act (Option String) := do
  if name.toList.contains '/' then
    pure (if ← isProgram name then some name else none)
  else if name = "" then pure none
  else
    let rec go : List String → Act (Option String)
      | [] => pure none
      | f :: rest => do
        let path := inFolder f name
        if ← isProgram path then pure (some path) else go rest
    go (← folders)

/-- The programs that have been found. They are forgotten when other folders are to be searched. -/
def found : Act (List (String × Sighting)) := do
  let s ← Act.shell
  pure (if (← Act.textOf "PATH") = s.searched then s.found else [])

/-- Changes the programs that have been found. -/
def setFound (xs : List (String × Sighting)) : Act Unit := do
  let path ← Act.textOf "PATH"
  Act.modifyShell fun s => { s with found := xs, searched := path }

/-- Counts that a program was asked for, if it has been found before. -/
def count (name : String) : Act Unit := do
  let known ← found
  if (known.lookup name).isSome then
    setFound (known.map fun (n, x) => (n, if n == name then { x with hits := x.hits + 1 } else x))

/-- The program to run for a name, which is kept in mind. -/
def toRun? (name : String) : Act (Option String) := do
  if name.toList.contains '/' then pure (some name)
  else
    match (← found).lookup name with
    | some x =>
      count name
      pure (some x.path)
    | none =>
      match ← program? name with
      | some path =>
        setFound ((name, { path := path, hits := 1 }) :: (← found))
        pure (some path)
      | none => pure none

/-- What a name means. -/
inductive Meaning where
  | alias (text : String)
  | keyword
  | function
  | builtin
  | program (path : String)
  /-- A program that has been found before. -/
  | known (path : String)

/-- All that a name means, the first one being what is run. -/
def meanings (name : String) (onlyPrograms : Bool) : Act (List Meaning) := do
  let s ← Act.shell
  let files := ((← found).lookup name).toList.map (fun x => Meaning.known x.path) ++
    (← programs name).map Meaning.program
  if onlyPrograms then pure files
  else
    let named :=
      (match s.aliases.lookup name with
        | some t =>
          if s.dialect = .plain ∨ s.features.contains "expand_aliases" then [Meaning.alias t] else []
        | none => []) ++
      (if (Cursor.reservedWords s.dialect).contains name then [Meaning.keyword] else []) ++
      (if s.functions.contains name then [Meaning.function] else []) ++
      (if (builtins s.dialect).contains name then [Meaning.builtin] else [])
    pure (named ++ files)

/-- What a name means, in words. -/
def described (d : Dialect) (name : String) : Meaning → String
  | .alias t => match d with
    | .rich => name ++ " is aliased to \x60" ++ t ++ "'"
    | .plain => name ++ " is an alias for " ++ t
  | .keyword => name ++ " is a shell keyword"
  | .function => match d with
    | .rich => name ++ " is a function"
    | .plain => name ++ " is a shell function"
  | .builtin =>
    if d = .plain ∧ specials.contains name then name ++ " is a special shell builtin"
    else name ++ " is a shell builtin"
  | .program path => name ++ " is " ++ path
  | .known path => match d with
    | .rich => name ++ " is hashed (" ++ path ++ ")"
    | .plain => name ++ " is a tracked alias for " ++ path

/-- Tells what a name means; a function of the rich dialect is shown. -/
def describe (name : String) (m : Meaning) : Act Unit := do
  let s ← Act.shell
  Act.print (described s.dialect name m ++ "\n")
  match s.dialect, m, s.functions[name]? with
  | .rich, .function, some f => Act.print (f.body.functionSource name)
  | _, _, _ => pure ()

/-- What a name means, in one word. -/
def sortName : Meaning → String
  | .alias _ => "alias"
  | .keyword => "keyword"
  | .function => "function"
  | .builtin => "builtin"
  | .program _ | .known _ => "file"

/-- A meaning is that of a program that has been found before. -/
def Meaning.isKnown : Meaning → Bool
  | .known _ => true
  | _ => false

/-- The command `type`. -/
def type_ (args : List String) : Act Nat := do
  let d := (← Act.shell).dialect
  match d with
  | .plain =>
    let mut status := 0
    for a in args do
      match ← meanings a false with
      | m :: _ => Act.print (described .plain a m ++ "\n")
      | [] =>
        Act.print (a ++ ": not found\n")
        status := 127
    pure status
  | .rich =>
    let (flags, names) := args.span fun a => a.startsWith "-" && a != "--" && 1 < a.length
    let names := if names.head? = some "--" then names.drop 1 else names
    let letters := flags.flatMap fun a => a.toList.drop 1
    match letters.find? fun c => !"afptP".toList.contains c with
    | some c =>
      Act.complain ("type: -" ++ String.singleton c ++ ": invalid option")
      Act.tell "type: usage: type [-afptP] name [name ...]\n"
      pure 2
    | none =>
      let mut status := 0
      for a in names do
        let all ← meanings a (letters.contains 'P')
        let all := if letters.contains 'a' then all.filter (!·.isKnown) else all.take 1
        if all.any (·.isKnown) then count a
        if all.isEmpty then
          if !(letters.contains 't' || letters.contains 'p' || letters.contains 'P') then
            Act.complain ("type: " ++ a ++ ": not found")
          status := 1
        for m in all do
          if letters.contains 't' then Act.print (sortName m ++ "\n")
          else if letters.contains 'p' || letters.contains 'P' then
            match m with
            | .program path | .known path => Act.print (path ++ "\n")
            | _ => pure ()
          else describe a m
      pure status

/-- The command `command` when it is asked what names mean. -/
def command (wordy : Bool) (names : List String) : Act Nat := do
  let d := (← Act.shell).dialect
  let mut any := false
  let mut all := true
  for a in (if d = .plain then names.take 1 else names) do
    match ← meanings a false with
    | [] =>
      all := false
      if wordy then
        match d with
        | .rich => Act.complain ("command: " ++ a ++ ": not found")
        | .plain => Act.print (a ++ ": not found\n")
    | m :: _ =>
      any := true
      if wordy then describe a m
      else
        match m with
        | .program path | .known path => Act.print (path ++ "\n")
        | .alias t => Act.print ("alias " ++ a ++ "='" ++ t ++ "'\n")
        | _ => Act.print (a ++ "\n")
  pure (if (d = .rich ∧ any) ∨ (d = .plain ∧ all) then 0 else if d = .plain then 127 else 1)

/-- The place of a name in the table of programs of the plain dialect. -/
def plainPlace (name : String) : Nat :=
  let bytes := (Raw.bytesOfString name).map (·.toNat)
  (bytes.foldl (· + ·) ((bytes.head?.getD 0) * 16)) % 32768 % 31

/-- The programs that have been found, in the order of the table. -/
def inOrder (d : Dialect) (xs : List (String × Sighting)) : List (String × Sighting) :=
  let place (name : String) : Nat :=
    match d with
    | .rich => keyPlace 256 name
    | .plain => plainPlace name
  let xs := if d = .plain then xs.reverse else xs
  xs.mergeSort fun a b => decide (place a.1 ≤ place b.1)

/-- Lists the programs that have been found. -/
def listFound : Act Unit := do
  let d := (← Act.shell).dialect
  let all := inOrder d (← found)
  match d with
  | .plain =>
    for (_, x) in all do
      Act.print (x.path ++ "\n")
  | .rich =>
    if all.isEmpty then Act.print "hash: hash table empty\n"
    else
      Act.print "hits\tcommand\n"
      for (_, x) in all do
        Act.print (String.ofList (padLeft 4 ' ' (natText x.hits).toList) ++ "\t" ++ x.path ++ "\n")

/-- Looks for a program anew, to keep it in mind. -/
def remember (name : String) : Act Nat := do
  if name.toList.contains '/' then pure 0
  else
    let s ← Act.shell
    if s.functions.contains name || (builtins s.dialect).contains name then pure 0
    else
      let others := (← found).filter (·.1 != name)
      match ← program? name with
      | some path =>
        setFound ((name, { path := path, hits := 0 }) :: others)
        pure 0
      | none =>
        Act.complain ("hash: " ++ name ++ ": not found")
        pure (if s.dialect = .plain then 127 else 1)

/-- What the options of `hash` ask for in the rich dialect. -/
structure Hashing where
  forgets : Bool := false
  drops : Bool := false
  tells : Bool := false
  listed : Bool := false
  path : Option String := none

/-- The options of `hash`, and the names behind them; or the letter that is none. -/
def hashOptions : Hashing → List String → Except Char (Hashing × List String)
  | h, "--" :: rest => .ok (h, rest)
  | h, "-p" :: path :: rest => hashOptions { h with path := some path } rest
  | h, a :: rest =>
    match a.toList with
    | '-' :: c :: cs =>
      match (c :: cs).find? fun l => !"dlrt".toList.contains l with
      | some l => .error l
      | none =>
        let has (l : Char) : Bool := (c :: cs).contains l
        hashOptions
          { h with
            forgets := h.forgets || has 'r', drops := h.drops || has 'd'
            tells := h.tells || has 't', listed := h.listed || has 'l' } rest
    | _ => .ok (h, a :: rest)
  | h, [] => .ok (h, [])

/-- The command `hash`. -/
def hash (args : List String) : Act Nat := do
  match (← Act.shell).dialect with
  | .plain =>
    match args with
    | [] =>
      listFound
      pure 0
    | "-r" :: _ =>
      setFound []
      pure 0
    | a :: _ =>
      if a.startsWith "-" ∧ a ≠ "-" then
        Act.complain ("hash: Illegal option -" ++ String.ofList ((a.toList.drop 1).take 1))
        pure 2
      else args.foldlM (fun status name => do pure (max status (← remember name))) 0
  | .rich =>
    match hashOptions {} args with
    | .error c =>
      Act.complain ("hash: -" ++ String.singleton c ++ ": invalid option")
      Act.tell "hash: usage: hash [-lr] [-p pathname] [-dt] [name ...]\n"
      pure 2
    | .ok (h, names) =>
      if h.forgets then setFound []
      if names.isEmpty then
        if h.tells || h.drops then
          Act.complain ("hash: -" ++ (if h.tells then "t" else "d") ++
            ": option requires an argument")
          pure 1
        else
          if h.listed then
            for (n, x) in inOrder .rich (← found) do
              Act.print ("builtin hash -p " ++ x.path ++ " " ++ n ++ "\n")
          else if !h.forgets then listFound
          pure 0
      else
        let unknown (name : String) : Act Nat := do
          Act.complain ("hash: " ++ name ++ ": not found")
          pure 1
        names.foldlM (fun status name => do
          let known ← found
          let one : Nat ←
            if h.tells then
              match known.lookup name with
              | some x =>
                count name
                Act.print ((if 1 < names.length then name ++ "\t" else "") ++ x.path ++ "\n")
                pure 0
              | none => unknown name
            else if h.drops then
              if (known.lookup name).isSome then
                setFound (known.filter (·.1 != name))
                pure 0
              else unknown name
            else
              match h.path with
              | some path =>
                setFound ((name, { path := path }) :: known.filter (·.1 != name))
                pure 0
              | none => remember name
          pure (max status one)) 0

end Runbook.Shell.Lookup
