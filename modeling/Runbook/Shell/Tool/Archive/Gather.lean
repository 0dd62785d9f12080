import Runbook.Shell.Tool.Archive.Member
import Runbook.Shell.Tool.Edit.Run
import Runbook.Shell.Tool.Find

/-!
# `Shell/Tool/Archive/Gather` — files as members

The files that operands name become members of an archive, folders with all that is in them. A name
does not lead out of the folder that an archive is unpacked in, unless this is asked for.
-/

set_option autoImplicit false

namespace Runbook.Shell.Archive

/-- What a file with a given name tells about the folder that it is in. -/
inductive TagReach where
  /-- The folder and the file are taken, and nothing else of it. -/
  | others
  /-- The folder is taken without what is in it. -/
  | under
  /-- The folder is left out. -/
  | all
  deriving DecidableEq

/-- What is chosen for all members. -/
structure Choice where
  excluded : List String := []
  format : Format := .long
  /-- Names of files that leave out the folder they are in, with what is left out. -/
  tags : List (String × TagReach) := []
  /-- Files that are older are left out. -/
  since : Option Nat := none
  /-- What links lead to is taken. -/
  follows : Bool := false
  /-- Folders are taken without what is in them. -/
  flat : Bool := false
  sorted : Bool := false
  /-- Names may lead anywhere. -/
  absolute : Bool := false
  seconds : Option Nat := none
  owner : Option (String × Option Nat) := none
  group : Option (String × Option Nat) := none
  mode : Option String := none
  /-- Users are told by their numbers. -/
  numeric : Bool := false
  renamed : List Edit.Replacement := []
  /-- Names are told as they are stored. -/
  showsStored : Bool := false
  /-- How much is told: nothing, names, or more. -/
  verbose : Nat := 0
  /-- What is told goes to the messages. -/
  aside : Bool := false
  /-- The time is told in full. -/
  fullTime : Bool := false
  /-- The places of members are told. -/
  places : Bool := false
  remove : Bool := false

/-- How far things have come. -/
structure Progress where
  failed : Bool := false
  /-- Differences have been found. -/
  differs : Bool := false
  members : List Member := []
  /-- The files that have several names, with the first one of each. -/
  seen : List (Nat × String) := []
  /-- The beginnings of names that have been taken away and told. -/
  told : List String := []
  /-- The places that users and sizes take in a list. -/
  width : Nat := 19

/-- Work on an archive. -/
abbrev Work := StateT Progress Act

/-- The name of the program is told with each message. -/
def blame (text : String) : Act Unit := Act.tell ("tar: " ++ text ++ "\n")

/-- Something failed, and the work goes on. -/
def fail (text : String) : Work Unit := do
  blame text
  modify fun p => { p with failed := true }

/-- A name with what does not print escaped. -/
def shownName (s : String) : String :=
  String.ofList (s.toList.flatMap fun c => if c = '\'' then [c] else escapedChar c)

/-- A name in front of a message: a colon in it is escaped too. -/
def titled (s : String) : String :=
  String.ofList ((shownName s).toList.flatMap fun c => if c = ':' then ['\\', c] else [c])

/-- A name as it is meant: what is escaped stands for itself. -/
def meantName : List Char → List Char
  | [] => []
  | ['\\'] => ['\\']
  | '\\' :: c :: rest =>
    match "abfnrtv\\?".toList.findIdx? (· == c) with
    | some n => ([7, 8, 12, 10, 13, 9, 11, 92, 127].map Char.ofNat).getD n c :: meantName rest
    | none =>
      if isOctal c then
        match rest with
        | d :: e :: more =>
          if isOctal d && isOctal e then
            Raw.char (UInt8.ofNat (ofDigits 8 [c, d, e])) :: meantName more
          else if isOctal d then Char.ofNat (ofDigits 8 [c, d]) :: meantName (e :: more)
          else Char.ofNat (ofDigits 8 [c]) :: meantName (d :: e :: more)
        | [d] =>
          if isOctal d then [Char.ofNat (ofDigits 8 [c, d])]
          else [Char.ofNat (ofDigits 8 [c]), d]
        | [] => [Char.ofNat (ofDigits 8 [c])]
      else '\\' :: c :: meantName rest
  | c :: rest => c :: meantName rest
where
  /-- A digit of a number in eights. -/
  isOctal (c : Char) : Bool := '0' ≤ c && c ≤ '7'

/-- A file is left out: some part of its name is as a pattern has it. -/
def Choice.leavesOut (o : Choice) (name : String) : Bool :=
  let parts := (Make.trimmed name).toList.splitOn '/'
  let count := parts.length
  let join (ps : List (List Char)) : List Char := ['/'].intercalate ps
  o.excluded.any fun pattern =>
    let p := Marked.bare (Make.trimmed pattern).toList
    (List.range count).any fun first => (List.range (count - first)).any fun n =>
      Pattern.isMatch {} p (join ((parts.drop first).take (n + 1)))

/-- A name with replacements done. -/
def Choice.rename (o : Choice) (name : String) : String :=
  o.renamed.foldl (fun name r =>
    match r.sought with
    | some (x, _) =>
      let s : Subject := { text := name.toList.toArray, multiline := r.multiline }
      String.ofList (Edit.replaced x r s (name.length * 2 + 4) 0 0 none [] false).1
    | none => name) name

/-- The part of a name that leads out of a folder, and the rest. -/
def splitSafe (name : String) : String × String :=
  let parts := name.toList.splitOn '/'
  let ups := parts.zipIdx.filterMap fun (p, n) => if p == ['.', '.'] then some n else none
  let first := match ups.getLast? with
    | some n => n + 1
    | none => 0
  let lead := ['/'].intercalate (parts.take first)
  let rest := ['/'].intercalate (parts.drop first)
  let lead := if first = 0 then [] else if first < parts.length then lead ++ ['/'] else lead
  let slashes := rest.takeWhile (· == '/')
  (String.ofList (lead ++ slashes), String.ofList (rest.drop slashes.length))

/-- A name that stays inside a folder. What is taken away is told the first time. -/
def safeName (o : Choice) (what name : String) : Work String := do
  if o.absolute then pure name
  else
    let (lead, rest) := splitSafe name
    let rest := if rest = "" then "." else rest
    if lead = "" then pure rest
    else
      let key := what ++ lead
      if !(← get).told.contains key then
        blame ("Removing leading \x60" ++ lead ++ "' from " ++ what)
        modify fun p => { p with told := key :: p.told }
      pure rest

/-- The permissions and the kind of a member, as a list has them. -/
def modeText (m : Member) : String :=
  let letter := match m.kind with
    | .file => '-'
    | .same _ => 'h'
    | .link _ => 'l'
    | .character => 'c'
    | .folder => 'd'
    | .queue => 'p'
  String.singleton letter ++ Permission.letters m.mode

/-- A line about a member. -/
def tellMember (o : Choice) (z : Date.Zone) (block : Option Nat) (m : Member) : Work Unit := do
  let place := match block with
    | some n => if o.places then "block " ++ natText n ++ ": " else ""
    | none => ""
  let say (text : String) : Act Unit := if o.aside then Act.tell text else Act.print text
  if o.verbose ≤ 1 then say (place ++ shownName m.name ++ "\n")
  else
    let user := if o.numeric || m.ownerName = "" then natText m.owner else m.ownerName
    let group := if o.numeric || m.groupName = "" then natText m.group else m.groupName
    let size := if m.kind = .character then "0,0" else natText m.text.size
    let taken := user.length + 1 + group.length + size.length + 1
    modify fun p => { p with width := max p.width taken }
    let pad := (← get).width - taken + size.length
    let format := if o.fullTime then "%Y-%m-%d %H:%M:%S" else "%Y-%m-%d %H:%M"
    let time := Date.written z m.seconds 0 format
    let target := match m.kind with
      | .same t => " link to " ++ shownName t
      | .link t => " -> " ++ shownName t
      | _ => ""
    say (place ++ modeText m ++ " " ++ user ++ "/" ++ group ++ " " ++
      String.ofList (padLeft pad ' ' size.toList) ++ " " ++ time ++ " " ++ shownName m.name ++ target ++
      "\n")

/-- A user or a group as it is chosen: its number and its name. -/
def chosenUser (given : Option (String × Option Nat)) (numeric : Bool) : Nat × String :=
  match given with
  | none => (0, if numeric then "" else "root")
  | some (name, number) => (number.getD 0, if numeric then "" else name)

/-- A member for something on the disk, under a name, and with a text if it is a file. -/
def memberOf (o : Choice) (name : String) (n : Node) (kind : Kind) : Member :=
  let (owner, ownerName) := chosenUser o.owner o.numeric
  let (group, groupName) := chosenUser o.group o.numeric
  let mode := match o.mode with
    | some text => (Permission.changed? text 0 n.isFolder n.mode).getD n.mode
    | none => n.mode
  let text := match kind, n.content with
    | .file, .file t => (Raw.bytesOfString t).toArray
    | _, _ => #[]
  { name := name, kind := kind, mode := mode, seconds := o.seconds.getD (n.stamp / 1000000000)
    owner := owner, group := group, ownerName := ownerName, groupName := groupName, text := text }

/-- Something is older than a member, or as old. -/
abbrev IsKnown := String → Nat → Bool

/-- Takes a file, or a folder with all that is in it; `archive` is the serial of the archive itself,
and `fuel` bounds how deep folders are. -/
def gather (o : Choice) (z : Date.Zone) (archive : Nat) (known : IsKnown) : (fuel : Nat) →
    (here : Location) → (path : String) → (top : Bool) → Work Unit
  | 0, _, _, _ => pure ()
  | fuel + 1, here, path, top => do
    let d ← (Act.disk : Act Disk)
    if o.leavesOut path then pure ()
    else
      match d.find here path o.follows with
      | .error err =>
        fail (titled path ++ ": Cannot stat: " ++ err.text)
      | .ok (l, n) =>
        if n.serial = archive then
          blame (titled path ++ ": archive cannot contain itself; not dumped")
        else
          let bare := if top then Make.trimmed path else path
          let full := if n.isFolder && !bare.endsWith "/" then bare ++ "/" else bare
          let tag := if n.isFolder then
              o.tags.reverse.find? fun t => (d.find here (Find.inFolder full t.1)).isOk
            else none
          if let some (t, reach) := tag then
            if 0 < o.verbose then
              blame (titled full ++ ": contains a cache directory tag " ++ t ++
                (if reach = .all then "; directory not dumped" else "; contents not dumped"))
          if tag.any fun t => t.2 = .all then return
          if top = false && !n.isFolder && o.since.any fun t => n.stamp / 1000000000 < t then return
          let first := (← get).seen.lookup n.serial
          let safe ← safeName o "member names" full
          let safe := if n.isFolder && !safe.endsWith "/" then safe ++ "/" else safe
          let name := o.rename safe
          let kind : Kind ←
            match n.content with
            | .folder _ => pure .folder
            | .link t => pure (.link t)
            | .device .queue => pure .queue
            | .device _ => pure .character
            | .file _ =>
              match first with
              | some t => pure (.same (o.rename (← safeName o "hard link targets" t)))
              | none => pure .file
          if !n.isFolder && 1 < d.namesOf n && first.isNone then
            modify fun p => { p with seen := (n.serial, full) :: p.seen }
          if !(known name (n.stamp / 1000000000)) then
            let m := memberOf o name n kind
            let shown := if o.showsStored then m else { m with name := full }
            if 0 < o.verbose then
              tellMember o z none { shown with seconds := n.stamp / 1000000000 }
            match m.refusal? o.format with
            | some text => fail (titled m.name ++ ": " ++ text)
            | none => modify fun p => { p with members := m :: p.members }
          if n.isFolder && !o.flat then
            let names := if o.sorted then d.sortedNames l else d.namesAt l
            let names := match tag with
              | some (t, .others) => [t]
              | some _ => []
              | none => names
            for x in names do gather o z archive known fuel here (Find.inFolder full x) false
          if o.remove then
            match (← (Act.disk : Act Disk)).at? l with
            | some now => if !(now.isFolder && !((← (Act.disk : Act Disk)).namesAt l).isEmpty) then
                Act.modifyDisk fun d => d.drop l
            | none => pure ()

end Runbook.Shell.Archive
