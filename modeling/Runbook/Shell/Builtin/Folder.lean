import Runbook.Shell.Process.Variable

/-!
# `Shell/Builtin/Folder` — the folder that a shell works in

The folder has a name, which keeps the links on the way there, and a location, which has none.
-/

set_option autoImplicit false

namespace Runbook.Shell.Folder

/-- The name of the folder at hand. -/
def current : Act String := do
  match ← Act.textOf? "PWD" with
  | some p => pure p
  | none => pure (Disk.pathOf (← Act.shell).here)

/-- A path without dots, and without double dots as far as names are before them. Two slashes in
front stay, but not three. -/
def simplified (path : String) : String :=
  let parts := (Disk.partsOf path).foldl (fun (done : List String) p =>
    if p = "." then done else if p = ".." then done.drop 1 else p :: done) []
  let isDouble := path.startsWith "//" && !path.startsWith "///"
  (if isDouble then "/" else "") ++ Disk.pathOf parts.reverse

/-- Goes to the folder that a path leads to. The names on the way are kept unless `physical`. -/
def enter (path : String) (physical : Bool) : Act (Option Errno) := do
  let s ← Act.shell
  let d ← Act.disk
  let before ← current
  let start := if before.endsWith "/" then before else before ++ "/"
  let logical := simplified (if path.startsWith "/" then path else start ++ path)
  -- Every folder on the way has to be there, even one that is left again.
  match d.find s.here (if path = "" then "." else path) with
  | .error err => pure (some err)
  | .ok (l, n) =>
    if !n.isFolder then pure (some .notFolder)
    else
      let (name, place) :=
        match physical, d.find [] logical with
        | false, .ok (m, k) => if k.isFolder then (logical, m) else (Disk.pathOf l, l)
        | _, _ => (Disk.pathOf l, l)
      Act.putText "OLDPWD" before
      Act.putText "PWD" name
      Act.modifyShell fun s => { s with here := place }
      pure none

/-- The options of a command that takes `-L` and `-P` only: whether the last one is the second, and
what is left; or the letter that is none. -/
def linkOptions : (physical : Bool) → List String → Except Char (Bool × List String)
  | physical, a :: rest =>
    match a.toList with
    | ['-', '-'] => .ok (physical, rest)
    | '-' :: c :: more =>
      match (c :: more).find? fun f => !"LPe@".toList.contains f with
      | some f => .error f
      | none => linkOptions ((c :: more).foldl (fun b f => if f = 'P' then true
          else if f = 'L' then false else b) physical) rest
    | _ => .ok (physical, a :: rest)
  | physical, [] => .ok (physical, [])

/-- The command `cd`. -/
def cd (args : List String) : Act Nat := do
  let rich ← Act.isRich
  match linkOptions false args with
  | .error c =>
    if rich then
      Act.complain ("cd: -" ++ String.singleton c ++ ": invalid option")
      Act.tell "cd: usage: cd [-L|[-P [-e]] [-@]] [dir]\n"
    else Act.complain ("cd: Illegal option -" ++ String.singleton c)
    pure 2
  | .ok (physical, rest) =>
    let go (path : String) (shown : Bool) : Act Nat := do
      match ← enter path physical with
      | none =>
        if shown then Act.print ((← current) ++ "\n")
        pure 0
      | some err =>
        if rich then
          Act.complain ("cd: " ++ path ++ ": " ++ err.text)
          pure 1
        else
          Act.complain ("cd: can't cd to " ++ path)
          pure 2
    match rest with
    | [] =>
      match ← Act.textOf? "HOME" with
      | some h => go h false
      | none =>
        if rich then
          Act.complain "cd: HOME not set"
          pure 1
        else pure 0
    | ["-"] =>
      match ← Act.textOf? "OLDPWD" with
      | some o =>
        if rich ∧ o = "" then
          Act.print "\n"
          pure 0
        else go o true
      | none =>
        if rich then
          Act.complain "cd: OLDPWD not set"
          pure 1
        else go (← current) true
    | path :: more =>
      if rich ∧ !more.isEmpty then
        Act.complain "cd: too many arguments"
        pure 1
      else if path = "" then pure 0
      else
        let search ← Act.textOf "CDPATH"
        let direct := path.startsWith "/" || path.startsWith "./" || path.startsWith "../" ||
          path == "." || path == ".."
        if search ≠ "" ∧ !direct then
          let s ← Act.shell
          let d ← Act.disk
          let folders := search.splitOn ":"
          let isThere (f : String) : Bool :=
            (d.find s.here ((if f = "" then "." else f) ++ "/" ++ path)).toOption.any (·.2.isFolder)
          match folders.find? isThere with
          | some f => if f = "" then go path false else go (f ++ "/" ++ path) true
          | none => go path false
        else go path false

/-- The command `pwd`. -/
def pwd (args : List String) : Act Nat := do
  match linkOptions false args with
  | .error c =>
    if ← Act.isRich then
      Act.complain ("pwd: -" ++ String.singleton c ++ ": invalid option")
      Act.tell "pwd: usage: pwd [-LP]\n"
    else Act.complain ("pwd: Illegal option -" ++ String.singleton c)
    pure 2
  | .ok (physical, _) =>
    if physical then Act.print (Disk.pathOf (← Act.shell).here ++ "\n")
    else Act.print ((← current) ++ "\n")
    pure 0

/-! ## The folders that were left for others -/

/-- A folder as it is listed: the home folder is a tilde. -/
def shown (path : String) : Act String := do
  match ← Act.textOf? "HOME" with
  | some h =>
    if h ≠ "" ∧ h ≠ "/" ∧ (path = h ∨ path.startsWith (h ++ "/")) then
      pure ("~" ++ String.ofList (path.toList.drop h.length))
    else pure path
  | none => pure path

/-- Prints the folder at hand and those left for others. -/
def printStack : Act Unit := do
  let all := (← current) :: (← Act.shell).stack
  let texts ← all.mapM shown
  Act.print (" ".intercalate texts ++ "\n")

/-- An argument that counts from one of the ends of the list: whether from the front, and how far;
nothing if it is none, and no number if it is not right. -/
def count? (a : String) : Option (Bool × Option Nat) :=
  match a.toList with
  | '+' :: ds => some (true, natText? (String.ofList ds))
  | '-' :: c :: ds => some (false, natText? (String.ofList (c :: ds)))
  | _ => none

/-- Tells that an argument does not count to a folder of the list. -/
def tooFar (command argument : String) : Act Nat := do
  let isEmpty := (← Act.shell).stack.isEmpty
  Act.complain (command ++ ": " ++
    if isEmpty then "directory stack empty" else argument ++ ": directory stack index out of range")
  pure 1

/-- Tells that a command of the list was called in a wrong way. -/
def misused (command argument fault usage : String) : Act Nat := do
  Act.complain (command ++ ": " ++ argument ++ ": " ++ fault)
  Act.tell (command ++ ": usage: " ++ command ++ " " ++ usage ++ "\n")
  pure 2

/-- What arguments of `dirs` ask for. -/
structure Listing where
  clears : Bool := false
  full : Bool := false
  /-- Folders stand on lines of their own. -/
  lines : Bool := false
  numbers : Bool := false
  /-- One folder is shown, counted from one of the ends. -/
  only : Option (String × Bool × Nat) := none

/-- The command `dirs`. -/
def dirs (args : List String) : Act Nat := do
  let rec read : Listing → List String → Except (String × String) Listing
    | l, [] => .ok l
    | l, a :: rest =>
      match a with
      | "-c" => read { l with clears := true } rest
      | "-l" => read { l with full := true } rest
      | "-p" => read { l with lines := true } rest
      | "-v" => read { l with lines := true, numbers := true } rest
      | "--" => .ok l
      | _ =>
        match count? a with
        | some (front, some n) => read { l with only := some (a, front, n) } rest
        | some (_, none) => .error (a, "invalid number")
        | none => .error (a, "invalid option")
  match read {} args with
  | .error (a, fault) => misused "dirs" a fault "[-clpv] [+N] [-N]"
  | .ok l =>
    if l.clears then
      Act.modifyShell fun s => { s with stack := [] }
      pure 0
    else
      let folders := (← current) :: (← Act.shell).stack
      let all ← if l.full then pure folders else folders.mapM shown
      let row (p : String) (n : Nat) : String :=
        if l.numbers then String.ofList (padLeft 2 ' ' (natText n).toList) ++ "  " ++ p else p
      match l.only with
      | some (a, front, n) =>
        if all.length ≤ n then tooFar "dirs" a
        else
          let k := if front then n else all.length - 1 - n
          Act.print (row (all.getD k "") k ++ "\n")
          pure 0
      | none =>
        if l.lines then
          for (p, n) in all.zipIdx do
            Act.print (row p n ++ "\n")
        else Act.print (" ".intercalate all ++ "\n")
        pure 0

/-- Enters a folder in the name of a command, and lists all of them. -/
def enterFor (command path : String) (change : Act Unit) : Act Nat := do
  match ← enter path false with
  | none =>
    change
    printStack
    pure 0
  | some err =>
    Act.complain (command ++ ": " ++ path ++ ": " ++ err.text)
    pure 1

/-- Turns the list of folders, the one at hand included, so that another one comes to its front. -/
def rotate (count : Nat) (stays : Bool) : Act Nat := do
  let all := (← current) :: (← Act.shell).stack
  let turned := all.drop count ++ all.take count
  Act.modifyShell fun s => { s with stack := turned.drop 1 }
  if stays then pure 0 else enterFor "pushd" (turned.headD "") (pure ())

/-- The command `pushd`. -/
def pushd (args : List String) : Act Nat := do
  let before ← current
  let rec go (stays : Bool) (turn : Option Nat) : (options : Bool) → List String → Act Nat
    | true, "-n" :: rest => go true turn true rest
    | true, "--" :: rest => go stays turn false rest
    | _, [] =>
      match turn with
      | some n => rotate n stays
      | none => do
        if stays then pure 0
        else
          match (← Act.shell).stack with
          | top :: rest =>
            enterFor "pushd" top (Act.modifyShell fun s => { s with stack := before :: rest })
          | [] =>
            Act.complain "pushd: no other directory"
            pure 1
    | options, a :: rest => do
      match (if options then count? a else none) with
      | some (front, some n) =>
        let size := (← Act.shell).stack.length
        if size < n then tooFar "pushd" a
        else go stays (some (if front then n else size - n)) true rest
      | some (_, none) => misused "pushd" a "invalid number" "[-n] [+N | -N | dir]"
      | none =>
        if turn.isSome then rotate (turn.getD 0) stays
        else if !rest.isEmpty then
          Act.complain "pushd: too many arguments"
          pure 1
        else if stays then
          Act.modifyShell fun s => { s with stack := a :: s.stack }
          printStack
          pure 0
        else if a = "-" then
          match ← cd ["-"] with
          | 0 =>
            Act.modifyShell fun s => { s with stack := before :: s.stack }
            printStack
            pure 0
          | n => pure n
        else enterFor "pushd" a (Act.modifyShell fun s => { s with stack := before :: s.stack })
  go false none true args

/-- The command `popd`. -/
def popd (args : List String) : Act Nat := do
  let rec go (stays : Bool) (place : Option (String × Bool × Nat)) : List String → Act Nat
    | "-n" :: rest => go true place rest
    | a :: rest => do
      match count? a with
      | some (front, some n) => go stays (some (a, front, n)) rest
      | some (_, none) =>
        if a = "--" then drop stays place
        else misused "popd" a "invalid number" "[-n] [+N | -N]"
      | none =>
        if a = "" then drop stays place
        else misused "popd" a "invalid argument" "[-n] [+N | -N]"
    | [] => drop stays place
  go false none args
where
  /-- Takes a folder from the list; the one at its front is left. -/
  drop (stays : Bool) (place : Option (String × Bool × Nat)) : Act Nat := do
    let stack := (← Act.shell).stack
    let (a, front, n) := place.getD ("", true, 0)
    if stack.length < n ∨ stack.isEmpty then tooFar "popd" a
    else
      let k := if front then n else stack.length - n
      let left : Act Unit := Act.modifyShell fun s => { s with stack := s.stack.eraseIdx (k - 1) }
      if k = 0 ∧ !stays then enterFor "popd" (stack.headD "") left
      else
        left
        printStack
        pure 0

end Runbook.Shell.Folder
