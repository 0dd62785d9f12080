import Runbook.Shell.Text.Raw
import Runbook.Shell.Tool.Date
import Runbook.Shell.Tool.Lines
import Runbook.Shell.Tool.Make
import Runbook.Shell.Tool.Permission

/-!
# `Shell/Tool/Place` — where paths lead and what is there

`readlink`, `realpath` and `stat`. And `pathchk`, which tells which names of files cannot be used
here, or may not be used on other systems.
-/

set_option autoImplicit false

namespace Runbook.Shell.Place

/-- How much of a path has to be there. -/
inductive Need where
  | all
  /-- All but the last name. -/
  | folders
  | nothing
  deriving DecidableEq

/-- A path without links in it, as far as it leads to something; names behind that are kept. -/
def physical (d : Disk) : (fuel : Nat) → (links : Nat) → (here : Location) → (there : Bool) →
    List String → Option Location
  | 0, _, _, _, _ => none
  | _ + 1, _, here, _, [] => some here
  | fuel + 1, links, here, there, name :: rest =>
    if name = "." then physical d fuel links here there rest
    else if name = ".." then physical d fuel links here.dropLast true rest
    else
      let next := here ++ [name]
      if !there then physical d fuel links next false rest
      else
        match (d.at? next).map Node.content with
        | some (.link target) =>
          match links with
          | 0 => none
          | links + 1 =>
            let start := if target.startsWith "/" then [] else here
            physical d fuel links start true (Disk.partsOf target ++ rest)
        | some _ => physical d fuel links next true rest
        | none => physical d fuel links next false rest

/-- A path without links and dots. -/
def canonical (d : Disk) (here : Location) (path : String) (need : Need) : Except Errno Location :=
  match need with
  | .all => (d.find here path).map (·.1)
  | .folders =>
    match d.resolve here path with
    | .ok l =>
      if d.isFolderAt l.dropLast || l.isEmpty then .ok l
      else .error (if (d.at? l.dropLast).isSome then .notFolder else .noEntry)
    | .error err =>
      if path.endsWith "/" && err = .noEntry && path != "/" then
        match d.resolve here (Make.trimmed path) with
        | .ok l => if d.isFolderAt l.dropLast then .ok l else .error err
        | .error err => .error err
      else .error err
  | .nothing =>
    if path = "" then .error .noEntry
    else
      let start := if path.startsWith "/" then [] else here
      match physical d 10000 40 start true (Disk.partsOf path) with
      | some l => .ok l
      | none => .error .tooManyLinks

/-- The program `readlink`. -/
def readlink : Tool := fun _ c =>
  c.withFlags
    { letters := "efmnqsvz"
      long := [("canonicalize", .nothing, "f"), ("canonicalize-existing", .nothing, "e"),
        ("canonicalize-missing", .nothing, "m"), ("no-newline", .nothing, "n"),
        ("quiet", .nothing, "q"), ("silent", .nothing, "q"), ("verbose", .nothing, "v"),
        ("zero", .nothing, "z")] }
    1 fun p => do
    if p.operands.isEmpty then c.refuse 1 "missing operand"
    else
      let here := (← Act.shell).here
      let several := 1 < p.operands.length
      if several && p.has "n" then c.blame "ignoring --no-newline with multiple arguments"
      let ending := if p.has "n" && !several then "" else if p.has "z" then "\x00" else "\n"
      let tells := p.lastOf? ["q", "s", "v"] == some "v"
      let mut ok := true
      for o in p.operands do
        let d ← Act.disk
        let found : Except Errno String :=
          match p.lastOf? ["f", "e", "m"] with
          | some "f" => (canonical d here o .folders).map Disk.pathOf
          | some "e" => (canonical d here o .all).map Disk.pathOf
          | some _ => (canonical d here o .nothing).map Disk.pathOf
          | none =>
            match d.find here o false with
            | .ok (_, n) =>
              match n.content with
              | .link target => .ok target
              | _ => .error .invalid
            | .error err => .error err
        match found with
        | .ok text => Act.print (text ++ ending)
        | .error err =>
          ok := false
          if tells then c.blameFile o err
      pure (if ok then 0 else 1)

/-- A location as seen from another one. -/
def relative (base l : Location) : String :=
  let same := ((base.zip l).takeWhile fun x => x.1 == x.2).length
  let parts := List.replicate (base.length - same) ".." ++ l.drop same
  if parts.isEmpty then "." else "/".intercalate parts

/-- A path from the root without dots, with links as they are. -/
def plain (here : Location) (path : String) : Location :=
  let start := if path.startsWith "/" then [] else here
  (Disk.partsOf path).foldl (fun l name =>
    if name = "." then l else if name = ".." then l.dropLast else l ++ [name]) start

/-- The program `realpath`. -/
def realpath : Tool := fun _ c =>
  c.withFlags
    { letters := "eLmPqsz"
      long := [("canonicalize-existing", .nothing, "e"), ("canonicalize-missing", .nothing, "m"),
        ("relative-to", .value, "to"), ("relative-base", .value, "base"), ("quiet", .nothing, "q"),
        ("strip", .nothing, "s"), ("no-symlinks", .nothing, "s"), ("zero", .nothing, "z"),
        ("logical", .nothing, "L"), ("physical", .nothing, "P")] }
    1 fun p => do
    if p.operands.isEmpty then c.refuse 1 "missing operand"
    else
      let here := (← Act.shell).here
      let d ← Act.disk
      let need : Need := match p.lastOf? ["e", "m"] with
        | some "e" => .all
        | some _ => .nothing
        | none => .folders
      let find (o : String) : Except Errno Location :=
        if p.has "s" then
          if o = "" then .error .noEntry
          else
            let l := plain here o
            match need with
            | .all => if (d.at? l).isSome then .ok l else .error .noEntry
            | .folders => if d.isFolderAt l.dropLast then .ok l else .error .noEntry
            | .nothing => .ok l
        else canonical d here o need
      let ending := if p.has "z" then "\x00" else "\n"
      let base := (p.last? "to").map find
      match base with
      | some (.error err) =>
        c.blameFile ((p.last? "to").getD "") err
        pure 1
      | _ =>
        let bound := match (p.last? "base").map find with
          | some (.ok l) => some l
          | _ => none
        let mut ok := true
        for o in p.operands do
          match find o with
          | .ok l =>
            let text := match base, bound with
              | some (.ok b), none => relative b l
              | some (.ok b), some limit =>
                if limit.isPrefixOf l then relative b l else Disk.pathOf l
              | _, some limit => if limit.isPrefixOf l then relative limit l else Disk.pathOf l
              | _, none => Disk.pathOf l
            Act.print (text ++ ending)
          | .error err =>
            ok := false
            if !p.has "q" then c.blameFile o err
        pure (if ok then 0 else 1)

/-! ## `stat` -/

/-- What something is called. -/
def kindOf (n : Node) : String :=
  match n.content with
  | .folder _ => "directory"
  | .file text => if text = "" then "regular empty file" else "regular file"
  | .link _ => "symbolic link"
  | .device .queue => "fifo"
  | .device _ => "character special file"

/-- The letter for what something is. -/
def kindLetter (n : Node) : Char :=
  match n.content with
  | .folder _ => 'd'
  | .file _ => '-'
  | .link _ => 'l'
  | .device .queue => 'p'
  | .device _ => 'c'

/-- The bits for what something is. -/
def kindBits (n : Node) : Nat :=
  match n.content with
  | .folder _ => 0x4000
  | .file _ => 0x8000
  | .link _ => 0xA000
  | .device .queue => 0x1000
  | .device _ => 0x2000

/-- How many blocks of half a thousand bytes something takes. -/
def blocks (n : Node) : Nat :=
  match n.content with
  | .folder _ => 8
  | .file _ => (n.size + 4095) / 4096 * 8
  | _ => 0

/-- What a sign of a format stands for; `quoted` is how names are quoted. -/
def field (d : Disk) (z : Date.Zone) (quoted : String → String) (name : String) (l : Location)
    (n : Node) (c : Char) : String :=
  let t := Date.ofStamp n.stamp
  let time := Date.written z t.epoch t.nano "%Y-%m-%d %H:%M:%S.%N %z"
  let folders := (d.namesAt l).filter fun x => d.isFolderAt (l ++ [x])
  match c with
  | 'a' => String.ofList (inBase false 8 n.mode)
  | 'A' => String.singleton (kindLetter n) ++ Permission.letters n.mode
  | 'b' => natText (blocks n)
  | 'B' => "512"
  | 'f' => String.ofList (inBase false 16 (kindBits n + n.mode))
  | 'F' => kindOf n
  | 'g' | 'u' => "0"
  | 'G' | 'U' => "root"
  | 'h' => natText (if n.isFolder then folders.length + 2 else d.namesOf n)
  | 'm' => "/"
  | 'n' => name
  | 'N' =>
    match n.content with
    | .link target => quoted name ++ " -> " ++ quoted target
    | _ => quoted name
  | 'o' => "4096"
  | 's' => natText n.size
  | 't' | 'T' => if n.content == .device .null then (if c = 't' then "1" else "3") else "0"
  | 'w' | 'x' | 'y' | 'z' => time
  | 'W' | 'X' | 'Y' | 'Z' => intText t.epoch
  | 'i' => natText (1000 + n.serial)
  | 'd' => "66"
  | 'D' => "42"
  | _ => "?"

/-- A format with all its signs replaced; `fuel` bounds their number. -/
def filled (f : Char → String) (escapes : Bool) : (fuel : Nat) → List Char → List Char
  | 0, _ => []
  | _ + 1, [] => []
  | fuel + 1, '%' :: rest =>
    let (flags, behind) := rest.span fun c => "'+#-0 ".toList.contains c
    let (digits, behind) := behind.span Char.isDigit
    let (places, behind) := match behind with
      | '.' :: more => (some (more.takeWhile Char.isDigit), more.dropWhile Char.isDigit)
      | _ => (none, behind)
    match behind with
    | [] => '%' :: rest
    | c :: more =>
      if c = '%' then '%' :: filled f escapes fuel more
      else
        let (c, more) := if c = 'H' ∨ c = 'L' then (more.head?.getD '?', more.drop 1) else (c, more)
        let text := (f c).toList
        let text := match places with
          | some ds => if ds.isEmpty then text else text.take (ofDigits 10 ds)
          | none => text
        let width := ofDigits 10 digits
        let shown := if flags.contains '-' then padRight width text
          else padLeft width (if flags.contains '0' then '0' else ' ') text
        shown ++ filled f escapes fuel more
  | fuel + 1, '\\' :: rest =>
    if escapes then
      match takeEscape true .format rest with
      | (.text cs, more) => cs ++ filled f escapes fuel more
      | (_, more) => '\\' :: filled f escapes fuel more
    else '\\' :: filled f escapes fuel rest
  | fuel + 1, c :: rest => c :: filled f escapes fuel rest

/-- The form in which all is told. -/
def longForm (n : Node) : String :=
  "  File: %N\n  Size: %-10s\tBlocks: %-10b IO Block: %-6o %F\n" ++
  (match n.content with
    | .device .queue => "Device: 0,%d\tInode: %-11i Links: %h\n"
    | .device _ => "Device: 0,%d\tInode: %-11i Links: %-5h Device type: %t,%T\n"
    | _ => "Device: 0,%d\tInode: %-11i Links: %h\n") ++
  "Access: (%04a/%10.10A)  Uid: (%5u/%8U)   Gid: (%5g/%8G)\n" ++
  "Access: %x\nModify: %y\nChange: %z\n Birth: %w\n"

/-- The program `stat`. -/
def stat : Tool := fun _ c =>
  c.withFlags
    { letters := "c:fLt"
      long := [("dereference", .nothing, "L"), ("file-system", .nothing, "f"),
        ("format", .value, "c"), ("printf", .value, "printf"), ("terse", .nothing, "t"),
        ("cached", .value, "cached")] }
    1 fun p => do
    if p.operands.isEmpty then c.refuse 1 "missing operand"
    else
      let here := (← Act.shell).here
      let z ← Date.zone false
      let mut ok := true
      for o in p.operands do
        let d ← Act.disk
        match d.find here o (p.has "L") with
        | .error err =>
          c.blame ("cannot statx " ++ fileQuoted o ++ ": " ++ err.text)
          ok := false
        | .ok (l, n) =>
          let shown (quoted : String → String) (format : String) (escapes : Bool) : String :=
            String.ofList (filled (field d z quoted o l n) escapes (format.length + 1) format.toList)
          match p.lastOf? ["c", "printf"] with
          | some "c" => Act.print (shown fileQuoted ((p.last? "c").getD "") false ++ "\n")
          | some _ => Act.print (shown fileQuoted ((p.last? "printf").getD "") true)
          | none =>
            if p.has "t" then
              Act.print (shown fileName "%n %s %b %f %u %g %D %i %h %t %T %X %Y %Z %W %o\n" false)
            else Act.print (shown fileName (longForm n) false)
      pure (if ok then 0 else 1)

end Runbook.Shell.Place

/-! ## Names that may be used everywhere -/

namespace Runbook.Shell.Portable

/-- How names are checked. -/
structure Manner where
  /-- Everything has to be usable on every system. -/
  basic : Bool := false
  /-- Names that are empty or begin with a dash are refused too. -/
  extra : Bool := false

/-- A character that names may hold on every system. -/
def isPortable (c : Char) : Bool := c.isAlphanum || "/._-".toList.contains c

/-- The parts of a path that are names. -/
def partsOf (path : List Char) : List (List Char) := (path.splitOn '/').filter (!·.isEmpty)

/-- The first part that is longer than a limit, in bytes. -/
def tooLong? (limit : Nat) (path : List Char) : Option (List Char) :=
  (partsOf path).find? fun part => limit < Raw.size part

/-- A limit that something exceeds. -/
def exceeded (limit length : Nat) (what : String) : String :=
  "limit " ++ natText limit ++ " exceeded by length " ++ natText length ++ " of file name " ++ what

/-- What is wrong with the characters and the length of a path that is to be usable everywhere. -/
def basicFault? (path : String) : Option String :=
  let cs := path.toList
  match cs.find? (!isPortable ·) with
  | some c =>
    some ("nonportable character " ++ curlyQuoted (String.singleton c) ++ " in file name " ++
      fileQuoted path)
  | none =>
    if 256 ≤ Raw.size cs then some (exceeded 255 (Raw.size cs) (fileQuoted path))
    else
      (tooLong? 14 cs).map fun part =>
        exceeded 14 (Raw.size part) ("component " ++ curlyQuoted (String.ofList part))

/-- What is wrong with a path that is to be usable here; `found` tells whether it leads somewhere. -/
def localFault? (path : String) (found : Except Errno Unit) : Option String :=
  let cs := path.toList
  match found with
  | .ok () => none
  | .error err =>
    let err := if 4096 ≤ Raw.size cs then .nameTooLong else err
    if err ≠ .noEntry ∨ cs.isEmpty then some (fileTitle path ++ ": " ++ err.text) else none

/-- What is wrong with a path. -/
def fault? (m : Manner) (path : String) (found : Except Errno Unit) : Option String :=
  if m.extra ∧ (partsOf path.toList).any (·.head? == some '-') then
    some ("leading '-' in a component of file name " ++ fileQuoted path)
  else if (m.basic ∨ m.extra) ∧ path = "" then some "empty file name"
  else if m.basic then basicFault? path
  else localFault? path found

/-- The program `pathchk`. -/
def pathchk : Tool := fun _ c =>
  c.withFlags { letters := "pP", long := [("portability", .nothing, "all")], inFront := true }
    1 fun p => do
    if p.operands.isEmpty then c.refuse 1 "missing operand"
    else
      let all := p.has "all"
      let m : Manner := { basic := all || p.has "p", extra := all || p.has "P" }
      let mut ok := true
      for o in p.operands do
        let found := ((← Act.disk).find (← Act.shell).here o false).map fun _ => ()
        if let some text := fault? m o found then
          c.blame text
          ok := false
      pure (if ok then 0 else 1)

end Runbook.Shell.Portable
