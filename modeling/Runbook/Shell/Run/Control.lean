import Runbook.Shell.Builtin.Lookup
import Runbook.Shell.Expand.Assign
import Runbook.Shell.Text.Quote

/-!
# `Shell/Run/Control` — commands about the shell itself

Commands that leave loops, functions and the shell, and small ones about names, permissions and
limits.
-/

set_option autoImplicit false

namespace Runbook.Shell.Control

/-- Tells that there is no option of a letter. -/
def badOption (name : String) (letter : Char) (usage : String) : Act Nat := do
  if ← Act.isRich then
    Act.complain (name ++ ": -" ++ String.singleton letter ++ ": invalid option")
    Act.tell (name ++ ": usage: " ++ usage ++ "\n")
  else Act.complain (name ++ ": Illegal option -" ++ String.singleton letter)
  pure 2

/-! ## Leaving -/

/-- The number that an argument stands for, if it is well formed. A second argument ends the
shell in the rich dialect. -/
def number? (name : String) (args : List String) : Act (Option (Except String Int)) := do
  let rich ← Act.isRich
  let args := if rich ∧ args.head? = some "--" then args.drop 1 else args
  match args with
  | [] => pure none
  | a :: more =>
    match decimalText? a with
    | some n =>
      if rich ∧ !more.isEmpty then
        Act.complain (name ++ ": too many arguments")
        Act.exitWith 1
      else if !rich ∧ n < 0 then pure (some (.error a))
      else pure (some (.ok n))
    | none => pure (some (.error a))

/-- Tells that an argument is no number. -/
def complainNumber (name a : String) : Act Unit := do
  if ← Act.isRich then Act.complain (name ++ ": " ++ a ++ ": numeric argument required")
  else Act.complain (name ++ ": Illegal number: " ++ a)

/-- A number as a status. -/
def statusOf (n : Int) : Nat := (n % 256).toNat

/-- The command `exit`. -/
def exit (args : List String) : Act Nat := do
  match ← number? "exit" args with
  | none => throw .exit
  | some (.ok n) => Act.exitWith (statusOf n)
  | some (.error a) =>
    complainNumber "exit" a
    Act.exitWith 2

/-- The command `return`. -/
def return_ (args : List String) : Act Nat := do
  let s ← Act.shell
  if s.dialect = .rich ∧ s.frames.isEmpty ∧ s.sourcing = 0 then
    Act.complain "return: can only \x60return' from a function or sourced script"
    pure 2
  else
    match ← number? "return" args with
    | none => throw .back
    | some (.ok n) =>
      if s.dialect = .rich then Act.setStatus (statusOf n)
      else Act.modifyShell fun s => { s with status := n.toNat }
      throw .back
    | some (.error a) =>
      complainNumber "return" a
      if s.dialect = .plain then Act.exitWith 2
      else
        Act.setStatus 2
        throw .back

/-- The commands `break` and `continue`. -/
def leaveLoops (name : String) (flow : Nat → Flow) (args : List String) : Act Nat := do
  let s ← Act.shell
  let rich := s.dialect = .rich
  if s.loops = 0 ∧ rich then
    Act.complain
      (name ++ ": only meaningful in a \x60for', \x60while', or \x60until' loop")
    pure 0
  else
    match ← number? name args with
    | none => if s.loops = 0 then pure 0 else go 1
    | some (.ok n) =>
      if n ≤ 0 then
        if rich then
          Act.complain (name ++ ": " ++ (args.head?.getD "") ++ ": loop count out of range")
          Act.setStatus 1
          throw (.leave s.loops)
        else
          complainNumber name (args.head?.getD "")
          Act.exitWith 2
      else if s.loops = 0 then pure 0
      else go (min n.toNat s.loops)
    | some (.error a) =>
      complainNumber name a
      Act.exitWith (if rich then 128 else 2)
where
  /-- Leaves so many loops. -/
  go (n : Nat) : Act Nat := do
    Act.setStatus 0
    throw (flow n)

/-! ## Names -/

/-- The command `alias`. -/
def alias_ (args : List String) : Act Nat := do
  let s ← Act.shell
  let shown (n t : String) : String :=
    (if s.dialect = .rich then "alias " else "") ++ n ++ "=" ++ singleQuoted t ++ "\n"
  let args := if args.head? = some "--" then args.drop 1 else args
  let args := if args.head? = some "-p" ∧ s.dialect = .rich then args.drop 1 else args
  if args.isEmpty then
    let all := s.aliases.mergeSort fun a b => decide (a.1 ≤ b.1)
    Act.print (String.join (all.map fun (n, t) => shown n t))
    pure 0
  else
    let mut status := 0
    for a in args do
      let (name, value) := a.toList.span (· != '=')
      let n := String.ofList name
      match value with
      | '=' :: t =>
        Act.modifyShell fun s =>
          { s with aliases := (n, String.ofList t) :: s.aliases.filter (·.1 != n) }
      | _ =>
        match (← Act.shell).aliases.lookup n with
        | some t => Act.print (shown n t)
        | none =>
          if s.dialect = .rich then Act.complain ("alias: " ++ n ++ ": not found")
          else Act.tell ("alias: " ++ n ++ " not found\n")
          status := 1
    pure status

/-- The command `unalias`. -/
def unalias (args : List String) : Act Nat := do
  if args.head? = some "-a" then
    Act.modifyShell fun s => { s with aliases := [] }
    pure 0
  else if args.isEmpty ∧ (← Act.isRich) then
    Act.tell "unalias: usage: unalias [-a] name [name ...]\n"
    pure 2
  else
    let mut status := 0
    for a in args do
      if ((← Act.shell).aliases.lookup a).isSome then
        Act.modifyShell fun s => { s with aliases := s.aliases.filter (·.1 != a) }
      else
        if ← Act.isRich then Act.complain ("unalias: " ++ a ++ ": not found")
        else Act.tell ("unalias: " ++ a ++ " not found\n")
        status := 1
    pure status

/-- The command `enable`. -/
def enable (args : List String) : Act Nat := do
  let off := args.contains "-n"
  let names := args.filter fun a => !a.startsWith "-"
  let all := Lookup.builtins .rich
  let disabled := (← Act.shell).disabled
  if names.isEmpty then
    let listed :=
      if args.contains "-a" then all.map fun n => (if disabled.contains n then "enable -n " else "enable ") ++ n
      else if off then (all.filter disabled.contains).map ("enable -n " ++ ·)
      else (all.filter fun n => !disabled.contains n).map ("enable " ++ ·)
    Act.print (String.join (listed.map (· ++ "\n")))
    pure 0
  else
    let mut status := 0
    for n in names do
      if all.contains n then
        Act.modifyShell fun s =>
          let rest := s.disabled.filter (· != n)
          { s with disabled := if off then n :: rest else rest }
      else
        Act.complain ("enable: " ++ n ++ ": not a shell builtin")
        status := 1
    pure status

/-- The command `caller`. -/
def caller (args : List String) : Act Nat := do
  let s ← Act.shell
  match s.frames, args with
  | [], _ => pure 1
  | f :: _, [] =>
    Act.print (natText f.line ++ " NULL\n")
    pure 0
  | fs, a :: _ =>
    match natText? a with
    | some n =>
      match fs[n]?, fs[n + 1]? with
      | some f, some g =>
        Act.print (natText f.line ++ " " ++ g.name ++ " environment\n")
        pure 0
      | _, _ => pure 1
    | none =>
      Act.complain ("caller: " ++ a ++ ": invalid number")
      Act.tell "caller: usage: caller [expr]\n"
      pure 2

/-- The command `compgen`. -/
def compgen (args : List String) : Act Nat := do
  let s ← Act.shell
  let rec collect : (fuel : Nat) → List String → (words : List String) → Act (List String × String)
    | 0, _, ws => pure (ws, "")
    | _ + 1, [], ws => pure (ws, "")
    | fuel + 1, a :: rest, ws => do
      let sorted (xs : List String) : List String := xs.mergeSort fun a b => decide (a ≤ b)
      let here := s.here
      let d ← Act.disk
      let ofSort (sort : String) : List String :=
        match sort with
        | "b" | "builtin" => Lookup.builtins .rich
        | "k" | "keyword" => Cursor.reservedWords .rich
        | "v" | "variable" => sorted (s.bindings.toList.map (·.1))
        | "function" => sorted (s.functions.toList.map (·.1))
        | "a" | "alias" => sorted (s.aliases.map (·.1))
        | "f" | "file" => d.sortedNames here
        | "d" | "directory" => (d.sortedNames here).filter fun n => d.isFolderAt (here ++ [n])
        | "e" | "export" =>
          sorted ((s.bindings.toList.filter fun v => v.2.exported).map (·.1))
        | _ => []
      match a, rest with
      | "-W", list :: more =>
        let seps := (← Act.separators).toList
        let pieces := Act.fieldsOf seps (list.toList.map fun c => .char c false true)
        collect fuel more (ws ++ pieces.map Marked.string)
      | "-A", sort :: more => collect fuel more (ws ++ ofSort sort)
      | "--", _ => pure (ws, rest.head?.getD "")
      | _, _ =>
        if a.startsWith "-" ∧ a.length = 2 then
          collect fuel rest (ws ++ ofSort (String.ofList (a.toList.drop 1)))
        else pure (ws, a)
  let (words, start) ← collect (args.length + 1) args []
  let hits := words.filter (·.startsWith start)
  Act.print (String.join (hits.map (· ++ "\n")))
  pure (if hits.isEmpty then 1 else 0)

/-! ## Permissions and limits -/

/-- The permissions of three sorts of users as letters. -/
def maskLetters (mask : Nat) : String :=
  let allowed := 0o777 - mask % 0o1000
  let three (n : Nat) : String :=
    (if n / 4 % 2 = 1 then "r" else "") ++ (if n / 2 % 2 = 1 then "w" else "") ++
      (if n % 2 = 1 then "x" else "")
  "u=" ++ three (allowed / 64) ++ ",g=" ++ three (allowed / 8 % 8) ++ ",o=" ++ three (allowed % 8)

/-- Permissions changed as letters say: who, a sign, and what. -/
def changedMode (mode : Nat) (text : String) : Option Nat :=
  (text.splitOn ",").foldl (fun (mode : Option Nat) clause => do
    let mode ← mode
    let (who, rest) := clause.toList.span ("ugoa".toList.contains ·)
    let shifts := if who.isEmpty || who.contains 'a' then [64, 8, 1]
      else (if who.contains 'u' then [64] else []) ++ (if who.contains 'g' then [8] else []) ++
        (if who.contains 'o' then [1] else [])
    match rest with
    | sign :: perms =>
      if !"+-=".toList.contains sign || perms.any (!"rwxX".toList.contains ·) then none
      else
        let bits := (if perms.contains 'r' then 4 else 0) + (if perms.contains 'w' then 2 else 0) +
          (if perms.contains 'x' || perms.contains 'X' then 1 else 0)
        some (shifts.foldl (fun m shift =>
          let old := m / shift % 8
          let new := match sign with
            | '+' => Nat.lor old bits
            | '-' => old - Nat.land old bits
            | _ => bits
          m - old * shift + new * shift) mode)
    | [] => none) (some mode)

/-- Sets the permissions that new files do not get, or shows them. -/
def setMask (args : List String) : Act Nat := do
  let s ← Act.shell
  let rich := s.dialect = .rich
  let octal := '0' :: padLeft 3 '0' (inBase false 8 s.mask)
  match args with
  | [] =>
    Act.print (String.ofList octal ++ "\n")
    pure 0
  | ["-S"] =>
    Act.print (maskLetters s.mask ++ "\n")
    pure 0
  | ["-p"] =>
    if rich then
      Act.print ("umask " ++ String.ofList octal ++ "\n")
      pure 0
    else badOption "umask" 'p' ""
  | a :: _ =>
    match a.toList with
    | c :: _ =>
      if c.isDigit then
        let (ds, rest) := spanDigits 8 a.toList
        if rest.isEmpty ∧ ofDigits 8 ds ≤ 0o777 then
          Act.modifyShell fun s => { s with mask := ofDigits 8 ds }
          pure 0
        else if rich then
          Act.complain ("umask: " ++ a ++ ": octal number out of range")
          pure 1
        else
          Act.complain ("umask: Illegal number: " ++ a)
          pure 2
      else if c = '-' ∧ a.length = 2 then
        badOption "umask" (a.toList.getLast?.getD '-') "umask [-p] [-S] [mode]"
      else
        match changedMode (0o777 - s.mask) a with
        | some m =>
          Act.modifyShell fun s => { s with mask := 0o777 - m }
          pure 0
        | none =>
          if rich then
            let sign := (a.toList.dropWhile ("ugoa".toList.contains ·)).head?.getD ' '
            Act.complain ("umask: \x60" ++ String.singleton sign ++
              "': invalid symbolic mode operator")
            pure 1
          else
            Act.complain ("umask: Illegal mode: " ++ a)
            pure 2
    | [] => pure 0

/-- The command `umask`. -/
def umask (args : List String) : Act Nat := do
  match args with
  | "-S" :: mode :: _ =>
    let status ← setMask [mode]
    if status = 0 ∧ (← Act.isRich) then setMask ["-S"] else pure status
  | _ => setMask args

/-- The command `ulimit`. -/
def ulimit (args : List String) : Act Nat := do
  let letters := (args.filter (·.startsWith "-")).flatMap fun a => a.toList.drop 1
  let what := letters.filter fun c => c != 'S' && c != 'H'
  let rich ← Act.isRich
  let known := if rich then "acdefilmnpqrstuvxR".toList else "atfdscmlpnvwr".toList
  match what.find? fun c => !known.contains c with
  | some c =>
    badOption "ulimit" c "ulimit [-SHabcdefiklmnpqrstuvxPRT] [limit]"
  | none =>
    match args.find? fun a => !a.startsWith "-" with
    | some limit =>
      if (natText? limit).isSome || limit == "unlimited" ||
          (rich && (limit == "hard" || limit == "soft")) then pure 0
      else if rich then
        Act.complain ("ulimit: " ++ limit ++ ": invalid number")
        pure 1
      else
        Act.complain "ulimit: bad number"
        pure 2
    | none =>
      let text := match what.getLast? with
        | some 'c' => "0"
        | some 'n' => "1048576"
        | some 's' => "8192"
        | some 'p' => "8"
        | some 'l' => "8192"
        | _ => "unlimited"
      Act.print (text ++ "\n")
      pure 0

end Runbook.Shell.Control
