import Runbook.Shell.Tool.Date
import Runbook.Shell.Tool.Permission
import Runbook.Shell.Tool.Show

/-!
# `Shell/Tool/Make` — programs that make and remove files

`mkdir`, `rmdir`, `touch`, `ln`, `link`, `unlink`, `truncate`, `mktemp`, `rm`.
-/

set_option autoImplicit false

namespace Runbook.Shell.Make

/-- Why nothing new can be put where a path leads; what is at its end is not followed. -/
def obstacle (d : Disk) (here : Location) (path : String) : Option Errno :=
  match d.resolve here path false with
  | .error err => some err
  | .ok l =>
    if (d.at? l).isSome then some .present
    else if !d.isFolderAt l.dropLast then
      some (if (d.at? l.dropLast).isSome then .notFolder else .noEntry)
    else none

/-- A path without slashes at its end, unless it is the root. -/
def trimmed (path : String) : String :=
  let cs := (path.toList.reverse.dropWhile (· == '/')).reverse
  if cs.isEmpty ∧ path ≠ "" then "/" else String.ofList cs

/-- Puts something where a path leads, if nothing is in the way. -/
def place (path : String) (n : Node) : Act (Option Errno) := do
  let s ← Act.shell
  let d ← Act.disk
  match obstacle d s.here path with
  | some err => pure (some err)
  | none =>
    match d.resolve s.here path false with
    | .ok l =>
      -- What has a serial is there under another name already.
      Act.modifyDisk fun d => if n.serial = 0 then d.put l n else d.share l n
      pure none
    | .error err => pure (some err)

/-! ## Folders -/

/-- The beginnings of a path that end at a name. -/
def beginnings (path : String) : List String :=
  let rec go : (done : List Char) → List Char → List String
    | done, [] => if done.isEmpty || done.head? == some '/' then [] else [String.ofList done.reverse]
    | done, '/' :: rest =>
      let deeper := go ('/' :: done) rest
      if done.isEmpty || done.head? == some '/' then deeper
      else String.ofList done.reverse :: deeper
    | done, c :: rest => go (c :: done) rest
  go [] path.toList

/-- The program `mkdir`. -/
def mkdir : Tool := fun _ c =>
  c.withFlags
    { letters := "m:pvZ"
      long := [("mode", .value, "m"), ("parents", .nothing, "p"), ("verbose", .nothing, "v"),
        ("context", .maybe, "Z")] }
    1 fun p => do
    let s ← Act.shell
    let usual := 0o777 - Nat.land 0o777 s.mask
    let mode := match p.last? "m" with
      | some m => Permission.changed? m s.mask false (if m.toList.all Char.isDigit then 0 else 0o777)
      | none => some usual
    match p.operands, mode with
    | [], _ => c.refuse 1 "missing operand"
    | _, none =>
      c.blame ("invalid mode " ++ curlyQuoted ((p.last? "m").getD ""))
      pure 1
    | operands, some mode =>
      let mut ok := true
      let fails (o : String) (err : Errno) : Act Unit :=
        c.blame ("cannot create directory " ++ curlyQuoted o ++ ": " ++ err.text)
      let tells (o : String) : Act Unit := do
        if p.has "v" then Act.print (c.name ++ ": created directory " ++ fileQuoted o ++ "\n")
      for o in operands do
        if p.has "p" && o != "" then
          let steps := beginnings o
          let mut going := true
          for step in steps do
            if going then
              let isLast := step.length == (trimmed o).length
              match (← Act.disk).find s.here step with
              | .ok (_, n) =>
                if !n.isFolder then
                  fails step (if isLast then Errno.present else Errno.notFolder)
                  ok := false
                  going := false
              | .error _ =>
                match ← place step { Disk.newFolder with mode := if isLast then mode else usual } with
                | none => tells step
                | some err =>
                  fails step err
                  ok := false
                  going := false
        else
          match ← place (trimmed o) { Disk.newFolder with mode := mode } with
          | none => tells o
          | some err =>
            fails o err
            ok := false
      pure (if ok then 0 else 1)

/-- Removes the empty folder that a path leads to. -/
def removeFolder (path : String) : Act (Option Errno) := do
  let s ← Act.shell
  let d ← Act.disk
  if ((trimmed path).toList.splitOn '/').getLast? == some ['.'] then pure (some .invalid)
  else
    match d.find s.here path false with
    | .error err => pure (some err)
    | .ok (l, n) =>
      if !n.isFolder then pure (some .notFolder)
      else if !(d.namesAt l).isEmpty then pure (some .notEmpty)
      else if l.isEmpty then pure (some .busy)
      else
        Act.modifyDisk fun d => d.drop l
        pure none

/-- The program `rmdir`. -/
def rmdir : Tool := fun _ c =>
  c.withFlags
    { letters := "pv"
      long := [("parents", .nothing, "p"), ("verbose", .nothing, "v"),
        ("ignore-fail-on-non-empty", .nothing, "i")] }
    1 fun p => do
    if p.operands.isEmpty then c.refuse 1 "missing operand"
    else
      let mut ok := true
      for o in p.operands do
        let paths := if p.has "p" then o :: (beginnings o).dropLast.reverse else [o]
        let mut going := true
        for (path, n) in paths.zipIdx do
          if going then
            if p.has "v" then Act.print (c.name ++ ": removing directory, " ++ fileQuoted path ++ "\n")
            match ← removeFolder path with
            | none => pure ()
            | some err =>
              going := false
              if !(p.has "i" && err = Errno.notEmpty) then
                c.blame ("failed to remove " ++ (if n = 0 then "" else "directory ") ++
                  fileQuoted path ++ ": " ++ err.text)
                ok := false
      pure (if ok then 0 else 1)

/-! ## Files -/

/-- The program `touch`. -/
def touch : Tool := fun _ c =>
  c.withFlags
    { letters := "acd:fhmr:t:"
      long := [("time", .value, "time"), ("no-create", .nothing, "c"), ("date", .value, "d"),
        ("reference", .value, "r"), ("no-dereference", .nothing, "h")] }
    1 fun p => do
    let s ← Act.shell
    let present ← Date.now
    let z ← Date.zone false
    let wanted : Except String (Option Nat) :=
      match p.last? "t", p.last? "d" with
      | some t, _ => match Calendar.ofStamp? present z.2 t with
        | some n => .ok (some (Date.stampOf n 0))
        | none => .error ("invalid date format " ++ curlyQuoted t)
      | none, some d => match Calendar.read? present z.2 d with
        | some n => .ok (some (Date.stampOf n.1 n.2))
        | none => .error ("invalid date format " ++ curlyQuoted d)
      | none, none => .ok none
    match wanted with
    | .error text =>
      c.blame text
      pure 1
    | .ok time =>
      let time ← match p.last? "r" with
        | none => pure (Except.ok time)
        | some r => do
          match (← Act.disk).find s.here r with
          | .ok (_, n) => pure (.ok (some n.stamp))
          | .error err => pure (.error (r, err))
      match time with
      | .error (r, err) =>
        c.blame ("failed to get attributes of " ++ fileQuoted r ++ ": " ++ err.text)
        pure 1
      | .ok time =>
        if p.operands.isEmpty then c.refuse 1 "missing file operand"
        else
          let mut ok := true
          for o in p.operands do
            let stamped (l : Location) : Act Unit :=
              Act.modifyDisk fun d =>
                let d := { d with clock := d.clock + 1 }
                d.alter l fun n => { n with stamp := time.getD d.clock }
            if o != "-" then
              match (← Act.disk).find s.here o (!p.has "h") with
              | .ok (l, _) => stamped l
              | .error _ =>
                if p.has "h" || (o.endsWith "/" && o != "/") then
                  if !p.has "c" then
                    c.blame ("setting times of " ++ fileQuoted o ++ ": " ++ Errno.noEntry.text)
                    ok := false
                else if !p.has "c" then
                  let how : Act.Opening := { writes := true, create := true }
                  match ← Act.openPath o how with
                  | .ok _ =>
                    match (← Act.disk).find s.here o with
                    | .ok (l, _) => stamped l
                    | .error _ => pure ()
                  | .error err =>
                    c.blame ("cannot touch " ++ fileQuoted o ++ ": " ++ err.text)
                    ok := false
          pure (if ok then 0 else 1)

/-- The program `truncate`. -/
def truncate : Tool := fun _ c =>
  c.withFlags
    { letters := "cor:s:"
      long := [("no-create", .nothing, "c"), ("io-blocks", .nothing, "o"),
        ("reference", .value, "r"), ("size", .value, "s")] }
    1 fun p => do
    let s ← Act.shell
    match p.last? "s", p.last? "r" with
    | none, none => c.refuse 1 "you must specify either ‘--size’ or ‘--reference’"
    | size, reference =>
      let text := ((size.getD "0").toList.dropWhile isNumberSpace)
      let (sign, digits) : Char × List Char := match text with
        | x :: rest => if "+-<>/%".toList.contains x then (x, rest) else (' ', text)
        | [] => (' ', [])
      match Show.size? digits with
      | none =>
        c.blame ("Invalid number: " ++ curlyQuoted (size.getD ""))
        pure 1
      | some n =>
        if p.operands.isEmpty then c.refuse 1 "missing file operand"
        else
          let mut ok := true
          for o in p.operands do
            let how : Act.Opening := { writes := true, create := !p.has "c" }
            match ← Act.openPath o how with
            | .error err =>
              if !(p.has "c" && err = Errno.noEntry) then
                c.blame ("cannot open " ++ fileQuoted o ++ " for writing: " ++ err.text)
                ok := false
            | .ok _ =>
              match (← Act.disk).find s.here o with
              | .error _ => pure ()
              | .ok (l, node) =>
                let base := match reference.map ((← Act.disk).find s.here ·) with
                  | some (.ok (_, m)) => m.size
                  | _ => node.size
                let n := if size.isNone then base else match sign with
                  | '+' => base + n
                  | '-' => base - n
                  | '<' => min base n
                  | '>' => max base n
                  | '/' => if n = 0 then base else base / n * n
                  | '%' => if n = 0 then base else (base + n - 1) / n * n
                  | _ => n
                let bytes := Raw.bytesOfString ((← Act.disk).textOf ⟨l, node.serial⟩)
                let zeros : List UInt8 := List.replicate (n - bytes.length) 0
                Act.modifyDisk fun d => d.setText l (Raw.stringOfBytes (bytes.take n ++ zeros))
          pure (if ok then 0 else 1)

/-- The letters that stand for chance in names. -/
def chanceLetters : List Char :=
  "abcdefghijklmnopqrstuvwxyzABCDEFGHIJKLMNOPQRSTUVWXYZ0123456789".toList

/-- A name for a template in which the last run of marks is replaced. -/
def chanceName (seed : Nat) (template : List Char) : Option String :=
  let tail := template.reverse.takeWhile (· != 'X')
  let rest := template.reverse.drop tail.length
  let marks := (rest.takeWhile (· == 'X')).length
  if marks < 3 then none
  else
    let filled := (List.range marks).map fun n =>
      chanceLetters.getD ((seed * 7919 + n * 104729 + seed / (n + 1) * 31) % 62) 'x'
    some (String.ofList ((rest.drop marks).reverse ++ filled ++ tail.reverse))

/-- The program `mktemp`. -/
def mktemp : Tool := fun _ c =>
  c.withFlags
    { letters := "dp:qtuV"
      long := [("directory", .nothing, "d"), ("dry-run", .nothing, "u"), ("quiet", .nothing, "q"),
        ("suffix", .value, "suffix"), ("tmpdir", .maybe, "tmpdir")] }
    1 fun p => do
    match p.operands with
    | _ :: _ :: _ => c.refuse 1 "too many templates"
    | operands =>
      let given := operands.head?
      let template := given.getD "tmp.XXXXXXXXXX"
      let usual := match ← Act.textOf? "TMPDIR" with
        | some t => if t = "" then "/tmp" else t
        | none => "/tmp"
      let folder? : Option String :=
        match p.last? "p", p.has "tmpdir", p.last? "tmpdir" with
        | some f, _, _ => some f
        | none, true, f => some (f.getD usual)
        | none, false, _ => if given.isNone || p.has "t" then some usual else none
      let seed := (← Act.shell).seed + (← get).world.disk.clock
      Act.modifyShell fun s => { s with seed := s.seed + 1 }
      match chanceName (seed * 31 + 17) template.toList with
      | none =>
        c.blame ("too few X's in template " ++ curlyQuoted template)
        pure 1
      | some name =>
        let suffix := (p.last? "suffix").getD ""
        let inFolder (n : String) : String := match folder? with
          | some f => if f.endsWith "/" then f ++ n else f ++ "/" ++ n
          | none => n
        let path := inFolder name ++ suffix
        let isFolder := p.has "d"
        let n : Node := if isFolder then { Disk.newFolder with mode := 0o700 }
          else { content := .file "", mode := 0o600 }
        let failed ← if p.has "u" then pure none else place path n
        match failed with
        | none =>
          Act.print (path ++ "\n")
          pure 0
        | some err =>
          if !p.has "q" then
            c.blame ("failed to create " ++ (if isFolder then "directory" else "file") ++
              " via template " ++ curlyQuoted (inFolder template ++ suffix) ++ ": " ++ err.text)
          pure 1

/-! ## Links -/

/-- The last name of a path, as the name of a link in a folder has it. -/
def nameIn (folder path : String) : String :=
  let base := match (trimmed path).splitOn "/" with
    | [] => path
    | parts => parts.getLast?.getD path
  if folder.endsWith "/" then folder ++ base else folder ++ "/" ++ base

/-- The program `ln`. A second name for a file gets a copy of it. -/
def ln : Tool := fun _ c =>
  c.withFlags
    { letters := "bdfFiLnPrsS:t:Tv"
      long := [("symbolic", .nothing, "s"), ("force", .nothing, "f"), ("verbose", .nothing, "v"),
        ("no-dereference", .nothing, "n"), ("no-target-directory", .nothing, "T"),
        ("target-directory", .value, "t"), ("relative", .nothing, "r"),
        ("interactive", .nothing, "i"), ("logical", .nothing, "L"),
        ("physical", .nothing, "P"), ("backup", .maybe, "backup"), ("suffix", .value, "S")] }
    1 fun p => do
    let s ← Act.shell
    let isFolder (path : String) : Act Bool := do
      match (← Act.disk).find s.here path with
      | .ok (_, n) =>
        let isLink := match (← Act.disk).find s.here path false with
          | .ok (_, m) => m.isLink
          | .error _ => false
        pure (n.isFolder && !(p.has "n" && isLink))
      | .error _ => pure false
    let mut ok := true
    let symbolic := p.has "s"
    let kind := if symbolic then "symbolic" else "hard"
    let replaces := ["f", "i", "b", "backup", "S"].any p.has
    let backs := ["b", "backup", "S"].any p.has
    -- A link would take the place of the only name of what it is to lead to.
    let isSame (d : Disk) (place : Location) (old : Node) : Except Errno (Location × Node) → Bool
      | .ok (l, n) =>
        (!symbolic || !backs) && n.serial == old.serial && (d.namesOf n == 1 || l == place)
      | .error _ => false
    -- Makes one link, and gives whether that could be done.
    let make (target path : String) : Act Bool := do
      let d ← Act.disk
      let source := d.find s.here target (symbolic || p.has "L")
      match symbolic, source with
      | false, .error err => do
        c.blame ("failed to access " ++ fileQuoted target ++ ": " ++ err.text)
        pure false
      | _, _ =>
        match symbolic, source.toOption with
        | false, some (_, n) =>
          if n.isFolder then
            c.blame (target ++ ": hard link not allowed for directory")
            return false
        | _, _ => pure ()
        if replaces then
          match d.find s.here path false with
          | .ok (l, n) =>
            if n.isFolder then
              c.blame (fileTitle path ++ ": cannot overwrite directory")
              return false
            if isSame d l n source then
              c.blame (fileQuoted target ++ " and " ++ fileQuoted path ++ " are the same file")
              return false
            if p.lastOf? ["i", "f"] == some "i" then
              if !(← c.confirms ("replace " ++ fileQuoted path ++ "? ")) then return true
            match backs, l.getLast? with
            | true, some name =>
              let aside := l.dropLast ++ [name ++ (p.last? "S").getD "~"]
              Act.modifyDisk fun d => (d.drop aside).move l aside
            | _, _ => Act.modifyDisk fun d => d.drop l
          | .error _ => pure ()
        let written : String :=
          if symbolic && p.has "r" then
            match d.resolve s.here target, d.resolve s.here path false with
            | .ok a, .ok b =>
              let base := b.dropLast
              let same := ((a.zip base).takeWhile fun x => x.1 == x.2).length
              let up := List.replicate (base.length - same) ".."
              let parts := up ++ a.drop same
              if parts.isEmpty then "." else "/".intercalate parts
            | _, _ => target
          else target
        let n : Node := match symbolic, source.toOption with
          | false, some (_, n) => n
          | _, _ => { content := .link written, mode := 0o777 }
        match ← place path n with
        | none =>
          if p.has "v" then
            Act.print (fileQuoted path ++ (if symbolic then " -> " else " => ") ++
              fileQuoted written ++ "\n")
          pure true
        | some err =>
          c.blame ("failed to create " ++ kind ++ " link " ++ fileQuoted path ++
            (if err = .present ∨ symbolic then "" else " => " ++ fileQuoted target) ++ ": " ++ err.text)
          pure false
    match p.last? "t", p.operands with
    | _, [] => c.refuse 1 "missing file operand"
    | some folder, operands =>
      for o in operands do
        if !(← make o (nameIn folder o)) then ok := false
      pure (if ok then 0 else 1)
    | none, [o] =>
      pure (if ← make o (nameIn "." o) then 0 else 1)
    | none, [target, path] =>
      let inside ← isFolder path
      let path := if inside && !p.has "T" then nameIn path target else path
      pure (if ← make target path then 0 else 1)
    | none, operands =>
      let folder := operands.getLast?.getD ""
      if ← isFolder folder then
        for o in operands.dropLast do
          if !(← make o (nameIn folder o)) then ok := false
        pure (if ok then 0 else 1)
      else
        let err := match (← Act.disk).find s.here folder with
          | .ok _ => Errno.notFolder
          | .error err => err
        c.blame ("target " ++ fileQuoted folder ++ ": " ++ err.text)
        pure 1

/-- The program `link`. -/
def link : Tool := fun _ c =>
  c.withFlags { letters := "", long := Flags.common } 1 fun p => do
    match p.operands with
    | [] => c.refuse 1 "missing operand"
    | [a] => c.refuse 1 ("missing operand after " ++ curlyQuoted a)
    | [a, b] =>
      let failed ← match (← Act.disk).find (← Act.shell).here a false with
        | .ok (_, n) => if n.isFolder then pure (some Errno.notPermitted) else place b n
        | .error err => pure (some err)
      match failed with
      | none => pure 0
      | some err =>
        c.blame ("cannot create link " ++ fileQuoted b ++ " to " ++ fileQuoted a ++ ": " ++ err.text)
        pure 1
    | _ :: _ :: extra :: _ => c.extraOperand extra 1

/-- The program `unlink`. -/
def unlink : Tool := fun _ c =>
  c.withFlags { letters := "", long := Flags.common } 1 fun p => do
    match p.operands with
    | [] => c.refuse 1 "missing operand"
    | [a] =>
      let failed ← match (← Act.disk).find (← Act.shell).here a false with
        | .ok (l, n) =>
          if n.isFolder then pure (some Errno.isFolder)
          else do
            Act.modifyDisk fun d => d.drop l
            pure none
        | .error err => pure (some err)
      match failed with
      | none => pure 0
      | some err =>
        c.blame ("cannot unlink " ++ fileQuoted a ++ ": " ++ err.text)
        pure 1
    | _ :: extra :: _ => c.extraOperand extra 1

end Runbook.Shell.Make

/-!
## Removing files

`rm` removes files, and folders with all that is in them; it may ask before it does so.
-/

namespace Runbook.Shell

namespace Remove

/-- What something is called in questions about it. -/
def kindOf (n : Node) : String :=
  match n.content with
  | .folder _ => "directory"
  | .file text => if text = "" then "regular empty file" else "regular file"
  | .link _ => "symbolic link"
  | .device .queue => "fifo"
  | .device _ => "character special file"

/-- How files are removed. -/
structure Style where
  recursive : Bool := false
  folders : Bool := false
  force : Bool := false
  asks : Bool := false
  verbose : Bool := false

/-- Removes what is at a location and all below, named by a path; `fuel` bounds the depth. It gives
whether nothing is left. -/
def remove (c : Call) (s : Style) : (fuel : Nat) → (path : String) → Location → Act Bool
  | 0, _, _ => pure false
  | fuel + 1, path, l => do
    match (← Act.disk).at? l with
    | none => pure true
    | some n =>
      if n.isFolder then
        let names := (← Act.disk).namesAt l
        if s.asks && s.recursive && !names.isEmpty then
          if !(← c.confirms ("descend into directory " ++ fileQuoted path ++ "? ")) then
            return false
        let mut ok := true
        if s.recursive then
          for name in names do
            let sub := if path.endsWith "/" then path ++ name else path ++ "/" ++ name
            if !(← remove c s fuel sub (l ++ [name])) then ok := false
        if !ok then pure false
        else if !((← Act.disk).namesAt l).isEmpty then
          c.blame ("cannot remove " ++ fileQuoted path ++ ": " ++ Errno.notEmpty.text)
          pure false
        else
          if s.asks then
            if !(← c.confirms ("remove directory " ++ fileQuoted path ++ "? ")) then return false
          Act.modifyDisk fun d => d.drop l
          if s.verbose then Act.print ("removed directory " ++ fileQuoted path ++ "\n")
          pure true
      else
        if s.asks then
          if !(← c.confirms ("remove " ++ kindOf n ++ " " ++ fileQuoted path ++ "? ")) then
            return true
        Act.modifyDisk fun d => d.drop l
        if s.verbose then Act.print ("removed " ++ fileQuoted path ++ "\n")
        pure true

/-- The program `rm`. -/
def rm : Tool := fun _ c =>
  c.withFlags
    { letters := "dfirvIR"
      long := [("force", .nothing, "f"), ("recursive", .nothing, "r"), ("dir", .nothing, "d"),
        ("verbose", .nothing, "v"), ("interactive", .maybe, "interactive"),
        ("one-file-system", .nothing, "one"), ("preserve-root", .maybe, "p"),
        ("no-preserve-root", .nothing, "n")] }
    1 fun p => do
    let last := p.lastOf? ["f", "i", "I", "interactive"]
    let never := last == some "f"
    let always := last == some "i" ||
      (last == some "interactive" && ["always", "yes"].contains ((p.last? "interactive").getD "always"))
    let s : Style :=
      { recursive := p.has "r" || p.has "R", folders := p.has "d", force := never, asks := always
        verbose := p.has "v" }
    if p.operands.isEmpty then
      if never then pure 0 else c.refuse 1 "missing operand"
    else
      let once := last == some "I" && (3 < p.operands.length || s.recursive)
      let count := natText p.operands.length
      let what := (if s.recursive then "remove " ++ count ++ " argument" else
        "remove " ++ count ++ " argument") ++ (if p.operands.length = 1 then "" else "s") ++
        (if s.recursive then " recursively? " else "? ")
      let goesOn ← if once then c.confirms what else pure true
      if !goesOn then pure 0
      else
        let here := (← Act.shell).here
        let mut ok := true
        for o in p.operands do
          match (← Act.disk).find here o false with
          | .error err =>
            if !(s.force && (err = Errno.noEntry || err = Errno.notFolder)) then
              c.blame ("cannot remove " ++ fileQuoted o ++ ": " ++ err.text)
              ok := false
          | .ok (l, n) =>
            let last := ((Make.trimmed o).splitOn "/").getLast?.getD ""
            if n.isFolder && !s.recursive && !(s.folders && (last != "." && last != "..")) then
              c.blame ("cannot remove " ++ fileQuoted o ++ ": " ++ Errno.isFolder.text)
              ok := false
            else if n.isFolder && (last = "." || last = "..") then
              c.blame ("refusing to remove '.' or '..' directory: skipping " ++ fileQuoted o)
              ok := false
            else if l.isEmpty && !p.has "n" then
              c.blame ("it is dangerous to operate recursively on " ++ fileQuoted "/" ++
                (if o = "/" then "" else " (same as " ++ fileQuoted o ++ ")"))
              c.blame "use --no-preserve-root to override this failsafe"
              ok := false
            else if !(← remove c s Disk.maxDepth o l) then ok := false
        pure (if ok then 0 else 1)

end Remove

end Runbook.Shell

/-!
## Programs that make queues and devices

`mkfifo` makes queues of bytes, in which what is written waits until it is read; `mknod` makes them
too, and devices by their numbers.
-/

namespace Runbook.Shell.Queue

/-- The options of both programs. -/
def flags : Flags :=
  { letters := "m:Z", long := [("mode", .value, "m"), ("context", .maybe, "Z")] }

/-- The permissions that a call asks for, or what is wrong with them. -/
def modeOf (p : Parsed) : Act (Except String Nat) := do
  let mask := (← Act.shell).mask
  match p.last? "m" with
  | none => pure (.ok (0o666 - Nat.land 0o666 mask))
  | some text =>
    match Permission.changed? text mask false 0o666 with
    | none => pure (.error "invalid mode")
    | some m =>
      if 0o777 < m then pure (.error "mode must specify only file permission bits") else pure (.ok m)

/-- The program `mkfifo`. -/
def mkfifo : Tool := fun _ c =>
  c.withFlags flags 1 fun p => do
    match p.operands, ← modeOf p with
    | [], _ => c.refuse 1 "missing operand"
    | _, .error text =>
      c.blame text
      pure 1
    | operands, .ok mode =>
      let mut ok := true
      for o in operands do
        match ← Make.place o { content := .device .queue, mode := mode } with
        | none => pure ()
        | some err =>
          c.blame ("cannot create fifo " ++ fileQuoted o ++ ": " ++ err.text)
          ok := false
      pure (if ok then 0 else 1)

/-- The device of two numbers; one that is not known takes everything. -/
def deviceOf (major minor : Nat) : Device :=
  match major, minor with
  | 1, 5 => .zeros
  | 1, 7 => .full
  | 1, 8 | 1, 9 => .noise
  | _, _ => .null

/-- The program `mknod`. -/
def mknod : Tool := fun _ c =>
  c.withFlags flags 1 fun p => do
    let kind := (p.operands.getD 1 "").toList.head?
    let count := p.operands.length
    let expected := if count = 0 ∨ (1 < count ∧ kind = some 'p') then 2 else 4
    let last := p.operands.getLastD ""
    let wrong (text more : String) : Act Nat := do
      c.blame text
      if more ≠ "" then Act.tell (more ++ "\n")
      c.hint
      pure 1
    let make (path : String) (mode : Nat) (d : Device) : Act Nat := do
      match ← Make.place path { content := .device d, mode := mode } with
      | none => pure 0
      | some err =>
        c.blame (fileTitle path ++ ": " ++ err.text)
        pure 1
    match ← modeOf p with
    | .error text =>
      c.blame text
      pure 1
    | .ok mode =>
      if count < expected then
        if count = 0 then wrong "missing operand" ""
        else
          wrong ("missing operand after " ++ curlyQuoted last)
            (if expected = 4 ∧ count = 2 then
              "Special files require major and minor device numbers."
            else "")
      else if expected < count then
        wrong ("extra operand " ++ curlyQuoted (p.operands.getD expected ""))
          (if expected = 2 ∧ count = 4 then "Fifos do not have major and minor device numbers."
          else "")
      else
        let path := p.operands.headD ""
        match kind with
        | some 'p' => make path mode .queue
        | some 'b' | some 'c' | some 'u' =>
          match natText? (p.operands.getD 2 ""), natText? (p.operands.getD 3 "") with
          | some major, some minor => make path mode (deviceOf major minor)
          | none, _ =>
            c.blame ("invalid major device number " ++ curlyQuoted (p.operands.getD 2 ""))
            pure 1
          | _, none =>
            c.blame ("invalid minor device number " ++ curlyQuoted (p.operands.getD 3 ""))
            pure 1
        | _ => wrong ("invalid device type " ++ curlyQuoted (p.operands.getD 1 "")) ""

end Runbook.Shell.Queue
