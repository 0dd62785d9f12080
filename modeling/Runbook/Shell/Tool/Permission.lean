import Runbook.Shell.Tool.Lines

/-!
# `Shell/Tool/Permission` — permissions of files

Permissions are a number of twelve bits. They are given in octal digits, or by clauses of letters:
for whom, a sign, and what is granted. `chmod` changes them.
-/

set_option autoImplicit false

namespace Runbook.Shell.Permission

/-- One kind of user in a mode: where its bits are, and the bit that lets it act as the owner. -/
def kinds : List (Char × Nat × Nat) := [('u', 64, 0o4000), ('g', 8, 0o2000), ('o', 1, 0)]

/-- The bits of one kind that letters grant. -/
def granted (mode : Nat) (isFolder : Bool) (letters : List Char) : Nat :=
  let has (c : Char) (n : Nat) : Nat := if letters.contains c then n else 0
  let runs := isFolder || Nat.land mode 0o111 != 0
  has 'r' 4 + has 'w' 2 +
    (if letters.contains 'x' || (letters.contains 'X' && runs) then 1 else 0)

/-- A mode after one clause: for whom, a sign and letters. What the mask holds back is left alone if
the clause does not say for whom. -/
def applyClause (mask : Nat) (isFolder : Bool) (mode : Nat) (who : List Char) (sign : Char)
    (letters : List Char) : Nat :=
  let everyone := who.isEmpty || who.contains 'a'
  let allowed := if who.isEmpty then 0o7777 - Nat.land mask 0o777 else 0o7777
  let bits := kinds.foldl (fun n (kind, place, special) =>
    if everyone || who.contains kind then
      let copied := (kinds.filterMap fun (k, p, _) =>
        if letters.contains k then some (mode / p % 8) else none).foldl Nat.lor 0
      let own := Nat.lor (granted mode isFolder letters) copied
      n + own * place + (if letters.contains 's' then special else 0)
    else n) 0
  let bits := bits + (if letters.contains 't' && everyone then 0o1000 else 0)
  let bits := Nat.land bits allowed
  let covered := kinds.foldl (fun n (kind, place, special) =>
    if everyone || who.contains kind then n + 7 * place + (if isFolder then 0 else special) else n)
    (if everyone && !isFolder then 0o1000 else 0)
  match sign with
  | '+' => Nat.lor mode bits
  | '-' => mode - Nat.land mode bits
  | _ => Nat.lor (mode - Nat.land mode (Nat.land covered allowed)) bits

/-- A mode after all that a text says, or nothing if it does not make sense. -/
def changed? (text : String) (mask : Nat) (isFolder : Bool) (mode : Nat) : Option Nat :=
  let cs := text.toList
  if !cs.isEmpty && cs.all Char.isDigit then
    let (ds, rest) := spanDigits 8 cs
    let n := ofDigits 8 ds
    if rest.isEmpty ∧ n ≤ 0o7777 then
      some (if isFolder && ds.length ≤ 4 then Nat.lor n (Nat.land mode 0o6000) else n)
    else none
  else
    (text.splitOn ",").foldl (fun (mode : Option Nat) clause => do
      let mode ← mode
      let (who, rest) := clause.toList.span ("ugoa".toList.contains ·)
      let rec actions : (fuel : Nat) → Nat → List Char → Option Nat
        | 0, m, _ => some m
        | _ + 1, m, [] => some m
        | fuel + 1, m, sign :: more =>
          if !"+-=".toList.contains sign then none
          else
            let (letters, rest) := more.span (!"+-=".toList.contains ·)
            if letters.all ("rwxXst".toList.contains ·) ∨
                (letters.length = 1 ∧ letters.all ("ugo".toList.contains ·)) then
              actions fuel (applyClause mask isFolder m who sign letters) rest
            else none
      if rest.isEmpty then none else actions (rest.length + 1) mode rest) (some mode)

/-- Permissions as a list of files shows them. -/
def letters (mode : Nat) : String :=
  let bit (n : Nat) (c : Char) : Char := if mode / n % 2 = 1 then c else '-'
  let third (n special : Nat) (c : Char) : Char :=
    if mode / special % 2 = 1 then (if mode / n % 2 = 1 then c else c.toUpper) else bit n 'x'
  String.ofList [bit 256 'r', bit 128 'w', third 64 2048 's', bit 32 'r', bit 16 'w', third 8 1024 's',
    bit 4 'r', bit 2 'w', third 1 512 't']

/-- Permissions in four octal digits. -/
def octal (mode : Nat) : String := String.ofList (padLeft 4 '0' (inBase false 8 mode))

/-- The text is a mode that begins with a dash, though it looks like options. -/
def isNegativeMode (text : String) : Bool :=
  match text.toList with
  | '-' :: c :: rest => (c :: rest).all ("rwxXstugoa,+=0123456789".toList.contains ·)
  | _ => false

/-- The words of a call of `chmod`, with a mode that looks like options put apart. -/
def chmodWords : List String → Option String × List String
  | [] => (none, [])
  | a :: rest =>
    if a = "--" then (none, a :: rest)
    else if isNegativeMode a then (some a, rest)
    else
      let (mode, rest) := chmodWords rest
      (mode, a :: rest)

/-- How a mode that was given by a dash alone may miss what it says because of the mask. -/
def octalOrLetters (mode : Nat) : String :=
  octal mode ++ " (" ++ letters mode ++ ")"

/-- The program `chmod`. -/
def chmod : Tool := fun _ c => do
  let (dashed, args) := chmodWords c.args
  { c with args := args }.withFlags
    { letters := "Rcfv"
      long := [("recursive", .nothing, "R"), ("changes", .nothing, "c"), ("silent", .nothing, "f"),
        ("quiet", .nothing, "f"), ("verbose", .nothing, "v"), ("reference", .value, "ref"),
        ("preserve-root", .nothing, "p"), ("no-preserve-root", .nothing, "n")] }
    1 fun p => do
    let s ← Act.shell
    let reference := p.last? "ref"
    let (mode, files) : Option String × List String :=
      if reference.isSome then (none, p.operands)
      else match dashed with
        | some m => (some m, p.operands)
        | none => (p.operands.head?, p.operands.drop 1)
    if mode.isNone ∧ reference.isNone then c.refuse 1 "missing operand"
    else if files.isEmpty then
      match mode with
      | some m => c.refuse 1 ("missing operand after " ++ curlyQuoted m)
      | none => c.refuse 1 "missing operand"
    else
      let other ← match reference with
        | none => pure (Except.ok none)
        | some r => do
          match (← Act.disk).find s.here r with
          | .ok (_, n) => pure (.ok (some n.mode))
          | .error err => pure (.error (r, err))
      match other with
      | .error (r, err) =>
        c.blame ("failed to get attributes of " ++ fileQuoted r ++ ": " ++ err.text)
        pure 1
      | .ok other =>
        let newMode (n : Node) : Option Nat :=
          match other with
          | some m => some m
          | none => changed? (mode.getD "") s.mask n.isFolder n.mode
        if (newMode { content := .file "", mode := 0 }).isNone then
          c.refuse 1 ("invalid mode: " ++ curlyQuoted (mode.getD ""))
        else
          let mut ok := true
          for o in files do
            match (← Act.disk).find s.here o with
            | .error err =>
              if !p.has "f" then c.blame ("cannot access " ++ fileQuoted o ++ ": " ++ err.text)
              ok := false
            | .ok (l, _) =>
              let d ← Act.disk
              let places := if p.has "R" then d.below Disk.maxDepth l else [l]
              for place in places do
                match (← Act.disk).at? place with
                | some n =>
                  if !n.isLink then
                    let new := (newMode n).getD n.mode
                    Act.modifyDisk fun d =>
                      d.alter place fun n => { n with mode := new }
                    let name := "/".intercalate (o :: place.drop l.length)
                    if new != n.mode && (p.has "v" || p.has "c") then
                      Act.print ("mode of " ++ fileQuoted name ++ " changed from " ++
                        octalOrLetters n.mode ++ " to " ++ octalOrLetters new ++ "\n")
                    else if p.has "v" then
                      Act.print ("mode of " ++ fileQuoted name ++ " retained as " ++
                        octalOrLetters new ++ "\n")
                | none => pure ()
          pure (if ok then 0 else 1)

/-- The programs `chown` and `chgrp`, of which only the superuser sees anything. -/
def chown : Tool := fun _ c =>
  c.withFlags
    { letters := "RcfvhHLP"
      long := [("recursive", .nothing, "R"), ("changes", .nothing, "c"), ("silent", .nothing, "f"),
        ("quiet", .nothing, "f"), ("verbose", .nothing, "v"), ("no-dereference", .nothing, "h"),
        ("reference", .value, "ref"), ("from", .value, "from")] }
    1 fun p => do
    match p.operands with
    | [] => c.refuse 1 "missing operand"
    | [owner] => c.refuse 1 ("missing operand after " ++ curlyQuoted owner)
    | _ :: files =>
      let mut ok := true
      for o in files do
        match (← Act.disk).find (← Act.shell).here o with
        | .ok _ => pure ()
        | .error err =>
          c.blame ("cannot access " ++ fileQuoted o ++ ": " ++ err.text)
          ok := false
      pure (if ok then 0 else 1)

end Runbook.Shell.Permission
