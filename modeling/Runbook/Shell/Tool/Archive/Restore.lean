import Runbook.Shell.Tool.Archive.Gather

/-!
# `Shell/Tool/Archive/Restore` — members as files

Members of an archive become files again, or are compared with them. The folders on the way are made
where they are missing, and get their times when all is there.
-/

set_option autoImplicit false

namespace Runbook.Shell.Archive

/-- Something that is asked for: the name of a member or of a folder. -/
structure Wanted where
  name : String
  /-- Where its files belong. -/
  place : Location
  excluded : List String := []
  /-- A folder is taken without what is in it. -/
  flat : Bool := false

/-- What members are chosen for, and what is done with what is there. -/
structure Restoring where
  wanted : List Wanted := []
  wildcards : Bool := false
  /-- Where files belong that are not asked for by name. -/
  place : Location := []
  /-- So many parts of each name are taken away. -/
  strip : Nat := 0
  /-- Files that are there stay, and that is told. -/
  keeps : Bool := false
  /-- Files that are there stay. -/
  skips : Bool := false
  /-- Files that are there stay if they are newer. -/
  keepsNewer : Bool := false
  /-- Files get the time at which they are made. -/
  touches : Bool := false
  /-- Texts go to the output. -/
  prints : Bool := false
  /-- Names are told as they are used. -/
  showsNames : Bool := false
  /-- Permissions are taken from as from new files. -/
  masks : Bool := false

/-- A name that is asked for is that of a member, or of a folder that it is in. -/
def Wanted.fits (wildcards : Bool) (w : Wanted) (name : String) : Bool :=
  let bare := Make.trimmed name
  let asked := Make.trimmed w.name
  if wildcards then
    let parts := bare.toList.splitOn '/'
    (List.range parts.length).any fun n =>
      Pattern.isMatch {} (Marked.bare asked.toList) (['/'].intercalate (parts.take (n + 1)))
  else bare == asked || bare.startsWith (asked ++ "/")

/-- What a member is wanted for: the first name that fits. Nothing is asked for by name if there are
no names. -/
def Restoring.chosen? (r : Restoring) (o : Choice) (m : Member) : Option Location :=
  if o.leavesOut m.name then none
  else if r.wanted.isEmpty then some r.place
  else (r.wanted.find? fun w => w.fits r.wildcards m.name).map (·.place)

/-- A name with parts taken away, if something is left. -/
def stripped (count : Nat) (name : String) : Option String :=
  let parts := (name.toList.splitOn '/')
  let parts := if parts.head? == some [] then parts.drop 1 else parts
  let left := parts.drop count
  if count = 0 then some name
  else if left.isEmpty || left == [[]] then none
  else some (String.ofList (['/'].intercalate left))

/-- Makes the folders on the way to a name. -/
def makeWay (here : Location) (name : String) : Act Unit := do
  let parts := Disk.partsOf name
  let lead := if name.startsWith "/" then "/" else ""
  for n in List.range (parts.length - 1) do
    let path := lead ++ "/".intercalate (parts.take (n + 1))
    let d ← Act.disk
    if let .error .noEntry := d.find here path then
      if let .ok l := d.resolve here path then
        let mask := (← Act.shell).mask
        Act.modifyDisk fun d =>
          d.put l { Disk.newFolder with mode := 0o777 - Nat.land 0o777 mask }

/-- The time of a member. -/
def Member.stamp (m : Member) : Nat := m.seconds * 1000000000

/-- Makes something from a member under a name. Folders whose times have to wait are given. -/
def makeOne (r : Restoring) (o : Choice) (here : Location) (name : String) (m : Member) :
    Work (List (Location × Nat)) := do
  makeWay here name
  let d ← (Act.disk : Act Disk)
  let path := Make.trimmed name
  match d.resolve here path false with
  | .error err =>
    fail (titled path ++ ": Cannot " ++ (if m.kind = .folder then "mkdir" else "open") ++ ": " ++ err.text)
    pure []
  | .ok l =>
    let old := d.at? l
    let stamp (l : Location) : Work Unit := do
      if !r.touches then
        Act.modifyDisk fun d => d.alter l fun n => { n with stamp := m.stamp }
    let doing := match m.kind with
      | .same t => "hard link to ‘" ++ t ++ "’"
      | .link t => "create symlink to ‘" ++ t ++ "’"
      | .queue => "mkfifo"
      | _ => "open"
    match m.kind, old with
    | .folder, some n =>
      if n.isFolder || (d.find here path).toOption.any (·.2.isFolder) then
        if !r.keeps && !r.skips then
          Act.modifyDisk fun d => d.alter l fun n => { n with mode := m.mode }
          pure (if r.touches then [] else [(l, m.stamp)])
        else pure []
      else if r.skips then pure []
      else if r.keeps then
        fail (titled path ++ ": Cannot mkdir: File exists")
        pure []
      else
        Act.modifyDisk fun d => (d.drop l).put l { Disk.newFolder with mode := m.mode }
        pure (if r.touches then [] else [(l, m.stamp)])
    | .folder, none =>
      Act.modifyDisk fun d => d.put l { Disk.newFolder with mode := m.mode }
      pure (if r.touches then [] else [(l, m.stamp)])
    | _, some n =>
      let isFull := n.isFolder && !(d.namesAt l).isEmpty
      let isNewer := m.stamp ≤ n.stamp
      if r.skips then pure []
      else if r.keepsNewer && isNewer then
        blame ("Current " ++ "‘" ++ path ++ "’ is newer or same age")
        pure []
      else if r.keeps then
        fail (titled path ++ ": Cannot " ++ doing ++ ": File exists")
        pure []
      else if isFull then
        fail (titled path ++ ": Cannot " ++ doing ++ ": " ++ Errno.present.text)
        pure []
      else
        Act.modifyDisk fun d => d.drop l
        put l stamp doing
    | _, none => put l stamp doing
where
  /-- Puts what is no folder at a location. -/
  put (l : Location) (stamp : Location → Work Unit) (doing : String) : Work (List (Location × Nat)) := do
    let d ← (Act.disk : Act Disk)
    let path := Make.trimmed name
    match m.kind with
    | .same t =>
      let t := (stripped r.strip t).getD t
      let t := if o.absolute then t else (splitSafe t).2
      match d.find here t false with
      | .ok (_, n) => Act.modifyDisk fun d => d.share l n
      | .error err => fail (titled path ++ ": Cannot " ++ doing ++ ": " ++ err.text)
    | .link t =>
      Act.modifyDisk fun d => d.put l { content := .link t, mode := 0o777 }
      stamp l
    | .queue =>
      Act.modifyDisk fun d => d.put l { content := .device .queue, mode := m.mode }
      stamp l
    | .character =>
      Act.modifyDisk fun d => d.put l { content := .device .null, mode := m.mode }
      stamp l
    | .file | .folder =>
      let text := Raw.stringOfBytes m.text.toList
      Act.modifyDisk fun d => d.put l { content := .file text, mode := m.mode }
      stamp l
    pure []

/-- Makes files from a member that is wanted. -/
def restore (r : Restoring) (o : Choice) (z : Date.Zone) (block : Nat) (m : Member) :
    Work (List (Location × Nat)) := do
  match r.chosen? o m with
  | none => pure []
  | some here =>
    match stripped r.strip m.name with
    | none => pure []
    | some name =>
      let name := o.rename name
      let shown := if r.showsNames then { m with name := name } else m
      let name ← safeName o "member names" name
      if 0 < o.verbose then tellMember o z (some block) shown
      if r.prints then
        if m.kind = .file then Act.print (Raw.stringOfBytes m.text.toList)
        pure []
      else
        let mask := (← (Act.shell : Act Interpreter)).mask
        makeOne r o here name
          (if r.masks then { m with mode := m.mode - Nat.land m.mode mask } else m)

/-- Compares a member with what is on the disk. -/
def compare (r : Restoring) (o : Choice) (z : Date.Zone) (block : Nat) (m : Member) : Work Unit := do
  match r.chosen? o m with
  | none => pure ()
  | some here =>
    if 0 < o.verbose then tellMember o z (some block) m
    let name ← safeName o "member names" m.name
    let d ← (Act.disk : Act Disk)
    let say (text : String) : Work Unit := do
      Act.print (titled (Make.trimmed name) ++ ": " ++ text ++ "\n")
      modify fun p => { p with differs := true }
    match d.find here (Make.trimmed name) false with
    | .error err =>
      blame (titled (Make.trimmed name) ++ ": Warning: Cannot stat: " ++ err.text)
      modify fun p => { p with differs := true }
    | .ok (_, n) =>
      match m.kind, n.content with
      | .file, .file text =>
        if n.mode ≠ m.mode then say "Mode differs"
        if n.stamp / 1000000000 ≠ m.seconds then say "Mod time differs"
        if n.size ≠ m.text.size then say "Size differs"
        else if (Raw.bytesOfString text).toArray != m.text then say "Contents differ"
      | .folder, .folder _ => if n.mode ≠ m.mode then say "Mode differs"
      | .link t, .link u => if t ≠ u then say "Symlink differs"
      | .queue, .device .queue => if n.mode ≠ m.mode then say "Mode differs"
      | .character, .device _ => if n.mode ≠ m.mode then say "Mode differs"
      | .same t, .file _ =>
        let other := (d.find here t false).toOption
        if !other.any fun x => x.2.serial == n.serial then
          say ("Not linked to " ++ titled t)
      | _, _ => say "File type differs"

end Runbook.Shell.Archive
