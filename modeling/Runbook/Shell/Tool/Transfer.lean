import Runbook.Shell.Tool.Make

/-!
# `Shell/Tool/Transfer` — copying and moving files

`cp`, `mv` and `install`. The last operand tells where to; if it is a folder, files go into it under
their own names.
-/

set_option autoImplicit false

namespace Runbook.Shell.Transfer

/-- How a file that is put aside is called. -/
structure Backup where
  suffix : String := "~"
  /-- Names are numbered; nothing said, they are if there are such already. -/
  numbered : Option Bool := none

/-- How files are copied or moved. -/
structure Style where
  recursive : Bool := false
  /-- Links are followed. -/
  follows : Bool := true
  /-- Permissions and times are kept. -/
  keeps : Bool := false
  verbose : Bool := false
  asks : Bool := false
  /-- What is there already is not replaced. -/
  spares : Bool := false
  /-- What is there already is replaced by something later only. -/
  updates : Bool := false
  /-- What is there already gets another name. -/
  backup : Option Backup := none
  symbolic : Bool := false
  /-- Files get further names in the place of copies. -/
  links : Bool := false
  force : Bool := false

/-- Tells what goes where. -/
def announce (s : Style) (source target : String) : Act Unit := do
  if s.verbose then Act.print (fileQuoted source ++ " -> " ++ fileQuoted target ++ "\n")

/-- A name in a folder, as paths have it. -/
def inside (folder name : String) : String :=
  if folder.endsWith "/" then folder ++ name else folder ++ "/" ++ name

/-- The last name of a path. -/
def lastName (path : String) : String :=
  let t := Make.trimmed path
  if t = "/" then "/" else (t.splitOn "/").getLast?.getD t

/-- A location is another one, or lies below it. -/
def isWithin (outer inner : Location) : Bool := outer.isPrefixOf inner

/-- What is found by a path: an error, a place where nothing is, or something. -/
def lookup (path : String) (follow : Bool) : Act (Except Errno (Location × Option Node)) := do
  let d ← Act.disk
  match d.resolve (← Act.shell).here path follow with
  | .ok l =>
    match d.at? l with
    | some n => pure (.ok (l, some n))
    | none =>
      pure (if d.isFolderAt l.dropLast then .ok (l, none)
        else .error (if (d.at? l.dropLast).isSome then .notFolder else .noEntry))
  | .error err => pure (.error err)

/-- Puts what is there under another name, if that is asked for. -/
def putAside (s : Style) (l : Location) : Act Unit := do
  match s.backup, l.getLast? with
  | some b, some name =>
    let lead := name ++ ".~"
    let numbers := ((← Act.disk).namesAt l.dropLast).filterMap fun n =>
      if n.startsWith lead && n.endsWith "~" then
        natText? (String.ofList ((n.toList.drop lead.length).dropLast))
      else none
    let next := numbers.foldl max 0 + 1
    let isNumbered := b.numbered.getD !numbers.isEmpty
    let new := l.dropLast ++ [if isNumbered then lead ++ natText next ++ "~" else name ++ b.suffix]
    Act.modifyDisk fun d => (d.drop new).move l new
  | _, _ => pure ()

/-- What is there may be replaced. -/
def mayReplace (c : Call) (s : Style) (target : String) (old : Node) (new : Node) : Act Bool := do
  if s.spares || (s.updates && new.stamp ≤ old.stamp) then pure false
  else if s.asks then c.confirms ("overwrite " ++ fileQuoted target ++ "? ")
  else pure true

/-- Copies one thing; `fuel` bounds the depth of folders. It gives whether that could be done. `top`
is where the whole copy goes, with the names of the source and the target. -/
def copy (c : Call) (s : Style) (top : Location × String × String) : (fuel : Nat) → (atTop : Bool) →
    (source : String) → (target : String) → Act Bool
  | 0, _, _, _ => pure false
  | fuel + 1, atTop, source, target => do
    match (← Act.disk).find (← Act.shell).here source s.follows with
    | .error err =>
      c.blame ("cannot stat " ++ fileQuoted source ++ ": " ++ err.text)
      pure false
    | .ok (from_, n) =>
      if n.isFolder && !s.recursive then
        c.blame ("-r not specified; omitting directory " ++ fileQuoted source)
        pure false
      else
        let made := (← Act.disk).resolve (← Act.shell).here target (!n.isLink || n.isFolder)
        match ← lookup target (!n.isLink) with
        | .error err =>
          let what := if n.isFolder then "directory" else if n.isLink || s.symbolic then "symbolic link"
            else "regular file"
          c.blame ("cannot create " ++ what ++ " " ++ fileQuoted target ++ ": " ++ err.text)
          pure false
        | .ok (l, old) =>
          let _ := made
          let mode := (← Act.shell).mask
          match n.content, old with
          | .folder _, _ =>
            match old with
            | some o =>
              if !o.isFolder then
                c.blame ("cannot overwrite non-directory " ++ fileQuoted target ++
                  " with directory " ++ fileQuoted source)
                return false
            | none => pure ()
            if from_ = l then
              if atTop then
                c.blame ("cannot copy a directory, " ++ fileQuoted source ++ ", into itself, " ++
                  fileQuoted target)
              return false
            if old.isNone then
              Act.modifyDisk fun d => d.put l
                { Disk.newFolder with mode := n.mode - Nat.land n.mode mode }
              announce s source target
            let mut ok := true
            for name in ((← Act.disk).namesAt from_).reverse do
              if from_ ++ [name] = top.1 then
                c.blame ("cannot copy a directory, " ++ fileQuoted top.2.1 ++ ", into itself, " ++
                  fileQuoted top.2.2)
                ok := false
              else if !(← copy c s top fuel false (inside source name) (inside target name)) then
                ok := false
            if s.keeps then
              Act.modifyDisk fun d =>
                d.alter l fun m => { m with mode := n.mode, stamp := n.stamp }
            pure ok
          | _, some o =>
            if n.serial = o.serial && s.backup.isNone then
              c.blame (fileQuoted source ++ " and " ++ fileQuoted target ++ " are the same file")
              pure false
            else if o.isFolder then
              c.blame ("cannot overwrite directory " ++ fileQuoted target ++ " with non-directory")
              pure false
            else
              if !(← mayReplace c s target o n) then pure true
              else
                announce s source target
                match o.content with
                | .device dev =>
                  match n.content, dev with
                  | .file text, .stream k => discard (Act.write k text)
                  | _, _ => pure ()
                  pure true
                | _ =>
                  putAside s l
                  let kept := s.backup.isNone && o.isFile && n.isFile
                  if kept && !s.links then
                    match n.content with
                    | .file text => Act.modifyDisk fun d => d.setText l text
                    | _ => pure ()
                    if s.keeps then Act.modifyDisk fun d => d.alter l fun m => { m with mode := n.mode }
                  else if s.links then Act.modifyDisk fun d => (d.drop l).share l n
                  else
                    let new : Node :=
                      { n with
                        serial := 0
                        mode := if n.isLink then 0o777
                          else if s.keeps then n.mode
                          else n.mode - Nat.land n.mode mode }
                    Act.modifyDisk fun d => d.put l new
                  if s.keeps then
                    Act.modifyDisk fun d => d.alter l fun m => { m with stamp := n.stamp }
                  pure true
          | _, none =>
            if target.endsWith "/" then
              c.blame ("cannot create regular file " ++ fileQuoted target ++ ": " ++
                Errno.notFolder.text)
              pure false
            else
              announce s source target
              let content ← match n.content with
                | .device dev =>
                  if dev.endless?.isSome then throw Flow.starved
                  else
                    match dev with
                    | .stream k =>
                      match ← Act.readAll k with
                      | .ok cs => pure (Content.file (String.ofList cs))
                      | .error _ => pure (Content.file "")
                    | .queue =>
                      if s.recursive then pure n.content
                      else
                        match ← Act.readPath source with
                        | .ok cs => pure (Content.file (String.ofList cs))
                        | .error _ => pure (Content.file "")
                    | _ => pure (Content.file "")
                | x => pure x
              let new : Node :=
                if s.symbolic then { content := .link source, mode := 0o777 }
                else
                  { n with
                    serial := 0
                    content := content
                    mode := if n.isLink then 0o777
                      else if s.keeps then n.mode
                      else
                        let m := if n.isFile then n.mode else 0o666
                        m - Nat.land m mode }
              if s.links && n.isFile then Act.modifyDisk fun d => d.share l n
              else Act.modifyDisk fun d => d.put l new
              if s.keeps then
                Act.modifyDisk fun d => d.alter l fun m => { m with stamp := n.stamp }
              pure true

/-- Moves one thing. It gives whether that could be done. -/
def move (c : Call) (s : Style) (source target : String) : Act Bool := do
  let d ← Act.disk
  match d.find (← Act.shell).here source false with
  | .error err =>
    c.blame ("cannot stat " ++ fileQuoted source ++ ": " ++ err.text)
    pure false
  | .ok (from_, n) =>
    let cannot (err : Errno) : Act Bool := do
      c.blame ("cannot move " ++ fileQuoted source ++ " to " ++ fileQuoted target ++ ": " ++ err.text)
      pure false
    match ← lookup target false with
    | .error .notFolder =>
      if target.endsWith "/" then
        c.blame ("cannot stat " ++ fileQuoted target ++ ": " ++ Errno.notFolder.text)
        pure false
      else cannot Errno.notFolder
    | .error err => cannot err
    | .ok (l, old) =>
      match old with
      | none =>
        if target.endsWith "/" && !n.isFolder then cannot Errno.notFolder
        else if from_.isEmpty || lastName source = "." || lastName source = ".." then
          cannot Errno.busy
        else if n.isFolder && isWithin from_ l then
          c.blame ("cannot move " ++ fileQuoted source ++ " to a subdirectory of itself, " ++
            fileQuoted target)
          pure false
        else
          Act.modifyDisk fun d => d.move from_ l
          if s.verbose then
            Act.print ("renamed " ++ fileQuoted source ++ " -> " ++ fileQuoted target ++ "\n")
          pure true
      | some o =>
        if n.serial = o.serial then
          c.blame (fileQuoted source ++ " and " ++ fileQuoted target ++ " are the same file")
          pure false
        else if s.spares then pure true
        else if o.isFolder && !n.isFolder then
          c.blame ("cannot overwrite directory " ++ fileQuoted target ++ " with non-directory")
          pure false
        else if n.isFolder && !o.isFolder then
          c.blame ("cannot overwrite non-directory " ++ fileQuoted target ++ " with directory " ++
            fileQuoted source)
          pure false
        else if n.isFolder && isWithin from_ l then
          c.blame ("cannot move " ++ fileQuoted source ++ " to a subdirectory of itself, " ++
            fileQuoted target)
          pure false
        else if o.isFolder && !(d.namesAt l).isEmpty && s.backup.isNone then
          c.blame ("cannot overwrite " ++ fileQuoted target ++ ": " ++ Errno.notEmpty.text)
          pure false
        else
          if !(← mayReplace c s target o n) then pure true
          else
            putAside s l
            Act.modifyDisk fun d => (d.dropAll l).move from_ l
            if s.verbose then
              Act.print ("renamed " ++ fileQuoted source ++ " -> " ++ fileQuoted target ++ "\n")
            pure true

/-- Where each of some operands goes, or else a status with which the program ends. -/
def targets (c : Call) (p : Parsed) (spread : Bool) :
    Act (Except Nat (List (String × String))) := do
  let here := (← Act.shell).here
  let isFolder (path : String) : Act Bool := do
    pure (((← Act.disk).find here path).toOption.any fun x => x.2.isFolder)
  let name (o : String) : String := if spread then Make.trimmed o else lastName o
  match p.operands, p.last? "t" with
  | [], _ => pure (.error (← c.refuse 1 "missing file operand"))
  | operands, some folder =>
    if ← isFolder folder then pure (.ok (operands.map fun o => (o, inside folder (name o))))
    else
      let err := match (← Act.disk).find here folder with
        | .ok _ => Errno.notFolder
        | .error err => err
      c.blame ("target directory " ++ fileQuoted folder ++ ": " ++ err.text)
      pure (.error 1)
  | [o], none => pure (.error (← c.refuse 1 ("missing destination file operand after " ++ fileQuoted o)))
  | operands, none =>
    let target := operands.getLast?.getD ""
    let sources := operands.dropLast
    if p.has "T" then
      match sources with
      | [o] => pure (.ok [(o, target)])
      | _ :: _ => pure (.error (← c.refuse 1 ("extra operand " ++ fileQuoted target)))
      | [] => pure (.ok [])
    else if ← isFolder target then pure (.ok (sources.map fun o => (o, inside target (name o))))
    else
      match sources with
      | [o] => pure (.ok [(o, target)])
      | _ =>
        let err := match (← Act.disk).find here target with
          | .ok _ => Errno.notFolder
          | .error err => err
        c.blame ("target " ++ fileQuoted target ++ ": " ++ err.text)
        pure (.error 1)

/-- The ways to put files aside, by their names. -/
def backupWays : List (List String) :=
  [["none", "off"], ["simple", "never"], ["existing", "nil"], ["numbered", "t"]]

/-- How files are put aside, if that is asked for. -/
def backupOf (p : Parsed) : Option Backup :=
  let suffix := (p.last? "S").getD "~"
  let way := (p.last? "backup").bind fun w => (meant backupWays w).toOption
  if way == some "none" then none
  else if p.has "b" || p.has "backup" || p.has "S" then
    some { suffix := suffix, numbered := match way with
      | some "numbered" => some true
      | some "simple" => some false
      | _ => none }
  else none

/-- Refuses a way to put files aside that is none. -/
def Call.withBackup (c : Call) (p : Parsed) (body : Act Nat) : Act Nat := do
  match p.last? "backup" with
  | some w =>
    match meant backupWays w with
    | .ok _ => body
    | .error _ => c.refuseWord 1 "backup type" backupWays w
  | none => body

/-- Goes through sources and targets; one that has just been made is not replaced. With `once`, a
source that comes again is only told of. -/
def each (c : Call) (once : Bool) (pairs : List (String × String))
    (f : String → String → Act Bool) : Act Nat := do
  let mut ok := true
  let mut made : List (Location × String) := []
  for (source, target) in pairs do
    let from_ := ((← Act.disk).find (← Act.shell).here source false).toOption
    let place := (from_.map (·.1)).getD []
    if once && from_.isSome && made.any (fun m => m.1 = place && m.2 = target) then
      c.blame ("warning: source " ++ (if from_.any fun x => x.2.isFolder then "directory " else "file ") ++
        fileQuoted source ++ " specified more than once")
    else if made.any (·.2 = target) && 1 < pairs.length then
      c.blame ("will not overwrite just-created " ++ fileQuoted target ++ " with " ++ fileQuoted source)
      ok := false
    else
      if !(← f source target) then ok := false else made := (place, target) :: made
  pure (if ok then 0 else 1)

/-- The program `cp`. -/
def cp : Tool := fun _ c =>
  c.withFlags
    { letters := "abdfHilLnprst:uvxPRS:TZ"
      long := [("archive", .nothing, "a"), ("attributes-only", .nothing, "attributes"),
        ("backup", .maybe, "backup"), ("copy-contents", .nothing, "contents"),
        ("dereference", .nothing, "L"), ("force", .nothing, "f"), ("interactive", .nothing, "i"),
        ("link", .nothing, "l"), ("no-clobber", .nothing, "n"), ("no-dereference", .nothing, "P"),
        ("no-preserve", .value, "no-preserve"), ("no-target-directory", .nothing, "T"),
        ("one-file-system", .nothing, "x"), ("parents", .nothing, "parents"),
        ("path", .nothing, "parents"), ("preserve", .maybe, "preserve"),
        ("recursive", .nothing, "r"), ("remove-destination", .nothing, "remove"),
        ("sparse", .value, "sparse"), ("reflink", .maybe, "reflink"),
        ("strip-trailing-slashes", .nothing, "strip"), ("suffix", .value, "S"),
        ("symbolic-link", .nothing, "s"), ("target-directory", .value, "t"),
        ("update", .nothing, "u"), ("verbose", .nothing, "v")] }
    1 fun p => Call.withBackup c p do
    let deep := p.has "r" || p.has "R" || p.has "a"
    let s : Style :=
      { recursive := deep
        follows := match p.lastOf? ["L", "P", "d", "a", "H"] with
          | some "L" => true
          | some "H" => true
          | some _ => false
          | none => !deep
        keeps := p.has "p" || p.has "a" || p.has "preserve"
        verbose := p.has "v"
        asks := p.lastOf? ["i", "n", "f"] == some "i"
        spares := p.lastOf? ["i", "n"] == some "n"
        updates := p.has "u"
        backup := backupOf p
        symbolic := p.has "s"
        links := p.has "l"
        force := p.has "f" }
    match ← targets c p (p.has "parents") with
    | .error status => pure status
    | .ok pairs =>
      each c true pairs fun source target => do
        if p.has "parents" then
          let folders := (Make.beginnings target).dropLast
          for f in folders do
            if !(← Act.disk).exists? (← Act.shell).here f then
              discard (Make.place f Disk.newFolder)
              if s.verbose then Act.print (fileQuoted (Make.trimmed source) ++ " -> " ++ fileQuoted f ++ "\n")
        let top := match ← lookup target false with
          | .ok (l, _) => l
          | .error _ => []
        copy c s (top, source, target) Disk.maxDepth true source target

/-- The program `mv`. -/
def mv : Tool := fun _ c =>
  c.withFlags
    { letters := "bfint:uvS:TZ"
      long := [("backup", .maybe, "backup"), ("force", .nothing, "f"),
        ("interactive", .nothing, "i"), ("no-clobber", .nothing, "n"),
        ("no-target-directory", .nothing, "T"), ("strip-trailing-slashes", .nothing, "strip"),
        ("suffix", .value, "S"), ("target-directory", .value, "t"), ("update", .nothing, "u"),
        ("verbose", .nothing, "v")] }
    1 fun p => Call.withBackup c p do
    let s : Style :=
      { verbose := p.has "v"
        asks := p.lastOf? ["i", "n", "f"] == some "i"
        spares := p.lastOf? ["i", "n", "f"] == some "n"
        updates := p.has "u"
        backup := backupOf p
        force := p.has "f" }
    match ← targets c p false with
    | .error status => pure status
    | .ok pairs => each c false pairs fun source target => move c s source target

/-- The program `install`. -/
def install : Tool := fun _ c =>
  c.withFlags
    { letters := "bcCsDdg:m:o:pt:TvS:Z"
      long := [("directory", .nothing, "d"), ("mode", .value, "m"), ("owner", .value, "o"),
        ("group", .value, "g"), ("preserve-timestamps", .nothing, "p"),
        ("target-directory", .value, "t"), ("no-target-directory", .nothing, "T"),
        ("verbose", .nothing, "v"), ("compare", .nothing, "C"), ("strip", .nothing, "s"),
        ("backup", .maybe, "backup"), ("suffix", .value, "S")] }
    1 fun p => do
    let text := (p.last? "m").getD "755"
    match Permission.changed? text 0 false 0 with
    | none =>
      c.blame ("invalid mode " ++ curlyQuoted text)
      pure 1
    | some mode =>
      let here := (← Act.shell).here
      if p.has "d" then
        if p.operands.isEmpty then c.refuse 1 "missing file operand"
        else
          let mut ok := true
          for o in p.operands do
            let steps := Make.beginnings o
            for (step, n) in steps.zipIdx do
              if !((← Act.disk).find here step).toOption.any fun x => x.2.isFolder then
                let m := if n + 1 = steps.length then mode else 0o755
                match ← Make.place step { Disk.newFolder with mode := m } with
                | none =>
                  if p.has "v" then
                    Act.print (c.name ++ ": creating directory " ++ fileQuoted step ++ "\n")
                | some err =>
                  c.blame ("cannot create directory " ++ curlyQuoted step ++ ": " ++ err.text)
                  ok := false
          pure (if ok then 0 else 1)
      else
        if p.has "D" then
          let folder? := match p.last? "t", p.operands with
            | some t, _ => some (Make.trimmed t)
            | none, _ :: _ =>
              (Make.beginnings (p.operands.getLast?.getD "")).dropLast.getLast?
            | none, [] => none
          match folder? with
          | some f =>
            for step in Make.beginnings f do
              if !(← Act.disk).exists? here step then
                discard (Make.place step Disk.newFolder)
                if p.has "v" then
                  Act.print (c.name ++ ": creating directory " ++ fileQuoted step ++ "\n")
          | none => pure ()
        match ← targets c p false with
        | .error status => pure status
        | .ok pairs =>
          let s : Style := { verbose := p.has "v" }
          each c false pairs fun source target => do
            match (← Act.disk).find here source with
            | .ok (l, n) =>
              if n.isFolder then
                c.blame ("omitting directory " ++ fileQuoted source)
                pure false
              else
                match (← Act.disk).find here target with
                | .ok (k, o) => if o.isFile && k != l then Act.modifyDisk fun d => d.drop k
                | .error _ => pure ()
                if ← copy c s ([], source, target) 4 true source target then
                  match (← Act.disk).resolve here target with
                  | .ok k =>
                    Act.modifyDisk fun d => d.alter k fun m => { m with mode := mode }
                  | .error _ => pure ()
                  pure true
                else pure false
            | .error err =>
              c.blame ("cannot stat " ++ fileQuoted source ++ ": " ++ err.text)
              pure false

end Runbook.Shell.Transfer
