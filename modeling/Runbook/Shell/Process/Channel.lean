import Runbook.Shell.Process.Basic

/-!
# `Shell/Process/Channel` — reading and writing

A process reads and writes through numbered descriptors, each of which stands for a channel. What
cannot be done is told by an error of the operating system.
-/

set_option autoImplicit false

namespace Runbook.Shell

/-- The beginning of what a device without end gives. -/
def Device.endless? : Device → Option (List Char)
  | .zeros | .full => some (List.replicate 1048576 (Char.ofNat 0))
  | .noise =>
    let step (s : Nat × List Char) (_ : Nat) : Nat × List Char :=
      let n := (s.1 * 1103515245 + 12345) % 4294967296
      let b := n / 65536 % 256
      (n, (if b < 128 then Char.ofNat b else Raw.char b.toUInt8) :: s.2)
    some ((List.range 262144).foldl step (1, [])).2
  | _ => none

namespace Act

/-- The number of the channel behind a descriptor. -/
def channelOf? (fd : Nat) : Act (Option Nat) := do
  pure ((← shell).descriptors.lookup fd)

/-- The channel behind a descriptor. -/
def channel? (fd : Nat) : Act (Option Channel) := do
  match ← channelOf? fd with
  | some id => pure (← get).world.channels[id]?
  | none => pure none

/-- Puts another channel in the place of one. -/
def setChannel (id : Nat) (c : Channel) : Act Unit :=
  modifyWorld fun w => { w with channels := w.channels.insert id c }

/-- A new channel. -/
def newChannel (c : Channel) : Act Nat := do
  let id := (← get).world.fresh
  modifyWorld fun w => { w with fresh := id + 1, channels := w.channels.insert id c }
  pure id

/-- Makes a descriptor stand for a channel. -/
def setDescriptor (fd id : Nat) : Act Unit :=
  modifyShell fun s =>
    { s with descriptors := (fd, id) :: s.descriptors.filter (·.1 != fd) }

/-- Makes a descriptor stand for nothing. -/
def closeDescriptor (fd : Nat) : Act Unit :=
  modifyShell fun s => { s with descriptors := s.descriptors.filter (·.1 != fd) }

/-! ## Writing -/

/-- Writes a text into a file at an offset. -/
def writeFile (file : Handle) (offset : Nat) (append : Bool) (text : String) : Act Nat := do
  let d ← disk
  let old := d.textOf file
  if append then
    modifyDisk fun d => d.setTextOf file (old ++ text)
    pure (old.length + text.length)
  else
    let length := old.length
    if length ≤ offset then
      let gap := String.ofList (List.replicate (offset - length) (Char.ofNat 0))
      modifyDisk fun d => d.setTextOf file (old ++ gap ++ text)
    else
      let cs := old.toList
      let kept := cs.take offset ++ text.toList ++ cs.drop (offset + text.length)
      modifyDisk fun d => d.setTextOf file (String.ofList kept)
    pure (offset + text.length)

/-- Writes a text to the channel of a number. -/
def writeChannel (id : Nat) (text : String) : Act (Option Errno) := do
  match (← get).world.channels[id]? with
  | none => pure (some .badDescriptor)
  | some (.output _ none _) =>
    modifyWorld fun w =>
      { w with channels := w.channels.modify id fun c =>
        match c with
        | .output s r beyond => .output (s ++ text) r beyond
        | c => c }
    pure none
  | some (.output _ (some room) _) =>
    let length := text.length
    let part := if length ≤ room then text else String.ofList (text.toList.take room)
    modifyWorld fun w =>
      { w with channels := w.channels.modify id fun c =>
        match c with
        | .output s _ beyond => .output (s ++ part) (some (room - length)) (beyond || room < length)
        | c => c }
    if room < length then throw (.killed 13) else pure none
  | some (.file file offset reads writes append ahead) =>
    if writes then
      let offset ← writeFile file offset append text
      setChannel id (.file file offset reads writes append none)
      let _ := ahead
      pure none
    else pure (some .badDescriptor)
  | some (.queue serial) =>
    modifyDisk fun d =>
      { d with waiting := d.waiting.insert serial (d.waiting.getD serial "" ++ text) }
    pure none
  | some (.device .full) => pure (if text = "" then none else some .noSpace)
  | some (.device _) => pure none
  | some (.input _ _) => pure (some .badDescriptor)

/-- Writes a text to a descriptor. -/
def write (fd : Nat) (text : String) : Act (Option Errno) := do
  if text = "" then pure none
  else
    match ← channelOf? fd with
    | some id => writeChannel id text
    | none => pure (some .badDescriptor)

/-- Writes a text to the output; if that fails, it is remembered. -/
def print (text : String) : Act Unit := do
  match ← write 1 text with
  | none => pure ()
  | some err => modifyWorld fun w => { w with fault := some err }

/-- Writes a text to the messages. -/
def tell (text : String) : Act Unit := discard (write 2 text)

/-! ## Reading -/

/-- What is left behind an offset in a file; what has been looked at before is used as long as the
file has not changed. -/
def aheadOf (file : Handle) (offset : Nat) (ahead : Option (Nat × List Char)) :
    Act (Nat × List Char) := do
  let d ← disk
  let stamp := ((d.opened? file).map (·.stamp)).getD 0
  match ahead with
  | some (before, rest) =>
    if before = stamp then pure (stamp, rest)
    else pure (stamp, (d.textOf file).toList.drop offset)
  | none => pure (stamp, (d.textOf file).toList.drop offset)

/-- Takes a part of what the channel of a number has to give. The function is given the text and
whether more would come; it returns what is taken and what is left, or nothing if more is needed. -/
def takeChannel {α : Type} (id : Nat) (f : List Char → Bool → Option (α × List Char)) :
    Act (Except Errno α) := do
  let beyond (text : List Char) : Act (Except Errno α) := do
    match f text false with
    | some (a, _) => pure (.ok a)
    | none => throw .starved
  match (← get).world.channels[id]? with
  | none => pure (.error .badDescriptor)
  | some (.input rest cut) =>
    match f rest cut with
    | some (a, left) =>
      setChannel id (.input left cut)
      pure (.ok a)
    | none => throw .starved
  | some (.file file offset reads writes append ahead) =>
    if !reads then
      pure (.error (if ((← disk).opened? file).any (·.isFolder) then .isFolder else .badDescriptor))
    else
      let (stamp, rest) ← aheadOf file offset ahead
      match f rest false with
      | some (a, left) =>
        setChannel id (.file file (offset + (rest.length - left.length)) reads writes append
          (some (stamp, left)))
        pure (.ok a)
      | none => throw .starved
  | some (.device d) =>
    match d.endless? with
    | some text =>
      match f text true with
      | some (a, _) => pure (.ok a)
      | none => throw .starved
    | none => beyond []
  | some (.queue serial) =>
    match f ((← disk).waiting.getD serial "").toList false with
    | some (a, left) =>
      modifyDisk fun d => { d with waiting := d.waiting.insert serial (String.ofList left) }
      pure (.ok a)
    | none => throw .starved
  | some (.output _ _ _) => pure (.error .badDescriptor)

/-- Takes a part of what a descriptor has to give. -/
def takeFrom {α : Type} (fd : Nat) (f : List Char → Bool → Option (α × List Char)) :
    Act (Except Errno α) := do
  match ← channelOf? fd with
  | some id => takeChannel id f
  | none => pure (.error .badDescriptor)

/-- Everything that a descriptor has to give. -/
def readAll (fd : Nat) : Act (Except Errno (List Char)) :=
  takeFrom fd fun text cut => if cut then none else some (text, [])

/-- What a descriptor has to give now, and whether more would come. -/
def readSome (fd : Nat) : Act (Except Errno (List Char × Bool)) :=
  takeFrom fd fun text cut => some ((text, cut), [])

/-- A line without its end, and whether the end was there. -/
def splitLine (delimiter : Char) : (done : List Char) → List Char → List Char × Bool × List Char
  | done, [] => (done.reverse, false, [])
  | done, c :: rest =>
    if c == delimiter then (done.reverse, true, rest) else splitLine delimiter (c :: done) rest

/-- A line that a descriptor has to give, without its end, and whether the end was there. -/
def readLine (fd : Nat) (delimiter : Char) : Act (Except Errno (List Char × Bool)) :=
  takeFrom fd fun text cut =>
    let (line, ended, rest) := splitLine delimiter [] text
    if cut && !ended then none else some ((line, ended), rest)

/-- At most so many characters that a descriptor has to give. -/
def readChars (fd count : Nat) : Act (Except Errno (List Char)) :=
  takeFrom fd fun text cut =>
    let taken := text.take count
    if cut && taken.length < count then none else some (taken, text.drop count)

/-- At most so many bytes that a descriptor has to give. -/
def readBytes (fd count : Nat) : Act (Except Errno (List Char)) :=
  takeFrom fd fun text cut =>
    let rec go : Nat → List Char → List Char → Option (List Char × List Char)
      | _, done, [] => if cut then none else some (done.reverse, [])
      | room, done, c :: rest =>
        let size := (Raw.bytesOfChar c).length
        if room = 0 then some (done.reverse, c :: rest)
        else if size ≤ room then go (room - size) (c :: done) rest
        else
          let bytes := Raw.split [c]
          some (done.reverse ++ bytes.take room, bytes.drop room ++ rest)
    go count [] text

/-! ## Opening -/

/-- What a file is opened for. -/
structure Opening where
  reads : Bool := false
  writes : Bool := false
  append : Bool := false
  create : Bool := false
  truncate : Bool := false
  /-- A file that is there is an obstacle. -/
  exclusive : Bool := false

/-- A channel to what a path leads to, and its number. Devices that are streams of the process
itself give the channels of these. -/
def openPath (path : String) (o : Opening) : Act (Except Errno Nat) := do
  let s ← shell
  let d ← disk
  match d.resolve s.here path with
  | .error e => pure (.error e)
  | .ok l =>
    match d.at? l with
    | none =>
      if !o.create then pure (.error .noEntry)
      else if path.endsWith "/" then pure (.error .isFolder)
      else if !d.isFolderAt l.dropLast then
        pure (.error (if (d.at? l.dropLast).isSome then .notFolder else .noEntry))
      else if (l.head? == some "dev" && l.length == 2) || l.head? == some "proc" then
        pure (.error .denied)
      else
        let mode := 0o666 - Nat.land 0o666 s.mask
        modifyDisk fun d => d.put l { content := .file "", mode := mode }
        let serial := (((← disk).at? l).map (·.serial)).getD 0
        pure (.ok (← newChannel (.file ⟨l, serial⟩ 0 o.reads o.writes o.append none)))
    | some n =>
      match n.content with
      | .folder _ =>
        if o.writes then pure (.error .isFolder)
        else pure (.ok (← newChannel (.file ⟨l, n.serial⟩ 0 false false false none)))
      | .device (.stream k) =>
        match s.descriptors.lookup k with
        | some id => pure (.ok id)
        | none => pure (.error .noEntry)
      | .device .terminal => pure (.error .noDevice)
      | .device .queue => pure (.ok (← newChannel (.queue n.serial)))
      | .device dev => pure (.ok (← newChannel (.device dev)))
      | .link _ => pure (.error .noEntry)
      | .file text =>
        if o.exclusive then pure (.error .present)
        else
          if o.truncate ∧ text ≠ "" then modifyDisk fun d => d.setText l ""
          pure (.ok (← newChannel (.file ⟨l, n.serial⟩ 0 o.reads o.writes o.append none)))

/-- A descriptor leads to or from another process, or to a queue. -/
def isPipe (fd : Nat) : Act Bool := do
  match ← channel? fd with
  | some (.input _ _) | some (.output _ _ _) | some (.queue _) => pure true
  | _ => pure false

/-- What a path leads to has to give now, and whether more would come. -/
def peekPath (path : String) : Act (Except Errno (List Char × Bool)) := do
  let d ← disk
  match d.find (← shell).here path with
  | .error e => pure (.error e)
  | .ok (_, n) =>
    match n.content with
    | .folder _ => pure (.error .isFolder)
    | .file text => pure (.ok (text.toList, false))
    | .device (.stream k) => readSome k
    | .device .terminal => pure (.error .noDevice)
    | .device .queue =>
      let text := d.waiting.getD n.serial ""
      modifyDisk fun d => { d with waiting := d.waiting.erase n.serial }
      pure (.ok (text.toList, false))
    | .device dev =>
      match dev.endless? with
      | some text => pure (.ok (text, true))
      | none => pure (.ok ([], false))
    | .link _ => pure (.error .noEntry)

/-- The text that a path leads to. -/
def readPath (path : String) : Act (Except Errno (List Char)) := do
  match ← peekPath path with
  | .ok (text, false) => pure (.ok text)
  | .ok (_, true) => throw .starved
  | .error err => pure (.error err)

end Act

end Runbook.Shell
