import Runbook.Shell.Tool.Show

/-!
# `Shell/Tool/Blocks` — copying in blocks

`dd` copies blocks of bytes from one place to another, from the middle of a file to the middle of
another one if that is asked for, and changes them on the way. How many blocks there were is told.
-/

set_option autoImplicit false

namespace Runbook.Shell.Blocks

/-- A number of blocks or of bytes. -/
structure Extent where
  count : Nat
  bytes : Bool := false

/-- The bytes that an extent amounts to. -/
def Extent.size (x : Extent) (block : Nat) : Nat := if x.bytes then x.count else x.count * block

/-- All that operands decide. -/
structure Plan where
  source : Option String := none
  target : Option String := none
  inBlock : Nat := 512
  outBlock : Nat := 512
  /-- The length of records that lines are turned into. -/
  record : Nat := 0
  skip : Extent := { count := 0 }
  seek : Extent := { count := 0 }
  count : Option Extent := none
  changes : List String := []
  inFlags : List String := []
  outFlags : List String := []
  status : String := ""

/-- The value of a number with a letter for its unit. -/
def plainNumber? (cs : List Char) : Option Nat :=
  let (ds, unit) := cs.span Char.isDigit
  if ds.isEmpty then none
  else
    let n := ofDigits 10 ds
    match unit with
    | ['c'] => some n
    | ['w'] => some (n * 2)
    | _ => (Show.suffixFactor? unit).map (n * ·)

/-- The value of numbers with crosses between them. -/
def number? (t : String) : Option Nat :=
  ((t.splitOn "x").mapM fun part => plainNumber? part.toList).map (·.foldl (· * ·) 1)

/-- A number of blocks, or of bytes if the letter for them ends it. -/
def extent? (t : String) : Option Extent :=
  match t.toList.reverse with
  | 'B' :: rest =>
    if rest.head?.any Char.isDigit then
      (number? (String.ofList rest.reverse)).map fun n => { count := n, bytes := true }
    else (number? t).map fun n => { count := n }
  | _ => (number? t).map fun n => { count := n }

/-- The changes that can be asked for. -/
def knownChanges : List String :=
  ["ascii", "ebcdic", "ibm", "block", "unblock", "lcase", "ucase", "sparse", "swab", "sync",
    "excl", "nocreat", "notrunc", "noerror", "fdatasync", "fsync"]

/-- The flags for either side. -/
def knownFlags : List String :=
  ["append", "binary", "cio", "direct", "directory", "dsync", "noatime", "nocache", "noctty",
    "nofollow", "nolinks", "nonblock", "sync", "text", "fullblock", "count_bytes", "skip_bytes",
    "seek_bytes"]

/-- What is wrong with an operand, and whether it is told where to learn more. -/
abbrev Wrong := String × Bool

/-- The plan with one more operand. -/
def Plan.with (p : Plan) (operand : String) : Except Wrong Plan := do
  let (key, value) := operand.toList.span (· != '=')
  let key := String.ofList key
  let v := String.ofList (value.drop 1)
  let strange : Wrong := ("unrecognized operand " ++ quoted operand, true)
  if value.isEmpty then throw strange
  let bad : Wrong := ("invalid number: " ++ quoted v, false)
  let block : Except Wrong Nat :=
    match number? v with
    | some 0 | none => .error bad
    | some n => .ok n
  let extent : Except Wrong Extent :=
    match extent? v with
    | some x => .ok x
    | none => .error bad
  let words (known : List String) (what : String) : Except Wrong (List String) :=
    let ws := v.splitOn ","
    match ws.find? fun w => !known.contains w with
    | some w => .error ("invalid " ++ what ++ ": " ++ curlyQuoted w, true)
    | none => .ok ws
  match key with
  | "if" => pure { p with source := some v }
  | "of" => pure { p with target := some v }
  | "bs" =>
    let n ← block
    pure { p with inBlock := n, outBlock := n }
  | "ibs" => pure { p with inBlock := ← block }
  | "obs" => pure { p with outBlock := ← block }
  | "cbs" => pure { p with record := ← block }
  | "skip" | "iseek" => pure { p with skip := ← extent }
  | "seek" | "oseek" => pure { p with seek := ← extent }
  | "count" => pure { p with count := some (← extent) }
  | "conv" => pure { p with changes := p.changes ++ (← words knownChanges "conversion") }
  | "iflag" => pure { p with inFlags := p.inFlags ++ (← words knownFlags "input flag") }
  | "oflag" => pure { p with outFlags := p.outFlags ++ (← words knownFlags "output flag") }
  | "status" =>
    if ["none", "noxfer", "progress"].contains v then pure { p with status := v }
    else throw ("invalid status level: " ++ curlyQuoted v, true)
  | _ => throw strange
where
  /-- A text between straight quotes. -/
  quoted (t : String) : String := "'" ++ t ++ "'"

/-- The plan of all operands. -/
def planOf (operands : List String) : Except Wrong Plan := do
  let p ← operands.foldlM Plan.with {}
  for (a, b) in [("lcase", "ucase"), ("block", "unblock"), ("excl", "nocreat")] do
    if p.changes.contains a && p.changes.contains b then
      throw ("cannot combine " ++ a ++ " and " ++ b, false)
  let p := if p.inFlags.contains "skip_bytes" then { p with skip := { p.skip with bytes := true } }
    else p
  let p := if p.inFlags.contains "count_bytes" then
    { p with count := p.count.map fun x => { x with bytes := true } } else p
  pure (if p.outFlags.contains "seek_bytes" then { p with seek := { p.seek with bytes := true } }
    else p)

/-! ## Changes -/

/-- Neighbours change places. -/
def swapped : List Char → List Char
  | a :: b :: rest => b :: a :: swapped rest
  | cs => cs

/-- Lines as records of a length, and how many were too long. -/
def toRecords (length : Nat) (cs : List Char) : List Char × Nat :=
  let (ls, _) := Lines.split '\n' cs
  (ls.flatMap fun l => padRight length (l.take length),
    (ls.filter fun l => length < l.length).length)

/-- Records of a length as lines, without the blanks that fill them; `fuel` bounds their number. -/
def ofRecords (length : Nat) : (fuel : Nat) → List Char → List Char
  | 0, _ => []
  | _ + 1, [] => []
  | fuel + 1, cs =>
    ((cs.take length).reverse.dropWhile (· == ' ')).reverse ++
      '\n' :: ofRecords length fuel (cs.drop length)

/-- The text after all changes, and how many records were cut short. -/
def Plan.changed (p : Plan) (cs : List Char) : List Char × Nat :=
  let has (w : String) : Bool := p.changes.contains w
  let missing := (p.inBlock - cs.length % p.inBlock) % p.inBlock
  let filler := if has "block" || has "unblock" then ' ' else '\x00'
  let cs := if has "sync" then cs ++ List.replicate missing filler else cs
  let cs := if has "swab" then swapped cs else cs
  let cs := if has "ucase" then cs.map Char.toUpper
    else if has "lcase" then cs.map Char.toLower else cs
  if p.record = 0 then (cs, 0)
  else if has "block" then toRecords p.record cs
  else if has "unblock" then (ofRecords p.record (cs.length + 1) cs, 0)
  else (cs, 0)

/-! ## The program -/

/-- How many blocks a size amounts to: full ones and one that is not. -/
def recordsText (size block : Nat) (what : String) : String :=
  natText (size / block) ++ "+" ++ (if size % block = 0 then "0" else "1") ++ " records " ++ what ++
    "\n"

/-- A size in units of a base, if it is at least one of them. -/
def unitText? (base : Nat) (ending : String) (size : Nat) : Option String :=
  if size < base then none
  else
    let rec go : (fuel power : Nat) → Nat
      | 0, power => power
      | fuel + 1, power => if size < Nat.pow base (power + 1) then power else go fuel (power + 1)
    let power := go 8 1
    let unit := Nat.pow base power
    let tenths := (size * 20 + unit) / (2 * unit)
    let letter := if power = 1 ∧ base = 1000 then 'k' else "KMGTPEZY".toList.getD (power - 1) '?'
    let digits := if 100 ≤ tenths then natText ((size * 2 + unit) / (2 * unit))
      else natText (tenths / 10) ++ "." ++ natText (tenths % 10)
    some (digits ++ " " ++ String.singleton letter ++ ending)

/-- What is told at the end. -/
def summary (p : Plan) (read written cut : Nat) : String :=
  if p.status = "none" then ""
  else
    recordsText read p.inBlock "in" ++ recordsText written p.outBlock "out" ++
      (if cut = 0 then ""
      else natText cut ++ (if cut = 1 then " truncated record\n" else " truncated records\n")) ++
      if p.status = "noxfer" then ""
      else
        let units := [unitText? 1000 "B" written, unitText? 1024 "iB" written].filterMap id
        natText written ++ (if written = 1 then " byte" else " bytes") ++
          (if units.isEmpty then "" else " (" ++ ", ".intercalate units ++ ")") ++
          " copied, 0 s, Infinity B/s\n"

/-- Writes a text to a file at an offset. What is behind it is kept if the file is not to be cut. -/
def writeAt (file : Handle) (offset : Nat) (keeps : Bool) (cs : List Char) : Act Unit := do
  let d ← Act.disk
  let old := Raw.split (d.textOf file).toList
  let before := old.take offset ++ List.replicate (offset - old.length) '\x00'
  let behind := if keeps then old.drop (offset + cs.length) else []
  Act.modifyDisk fun d => d.setTextOf file (String.ofList (Raw.joined (before ++ cs ++ behind)))

/-- The program `dd`. -/
def dd : Tool := fun _ c =>
  c.withFlags { letters := "", long := [("help", .nothing, "help")] } 1 fun parsed => do
    let wrong (w : Wrong) : Act Nat :=
      if w.2 then c.refuse 1 w.1
      else do
        c.blame w.1
        pure 1
    match planOf parsed.operands with
    | .error w => wrong w
    | .ok p =>
      let source ← match p.source with
        | some f => Act.openPath f { reads := true }
        | none =>
          match ← Act.channelOf? 0 with
          | some id => pure (.ok id)
          | none => pure (.error .badDescriptor)
      let .ok source := source
        | c.blame ("failed to open " ++ fileQuoted (p.source.getD "standard input") ++ ": " ++
            (match source with
              | .error err => err.text
              | .ok _ => ""))
          pure 1
      let has (w : String) : Bool := p.changes.contains w
      let keeps := has "notrunc"
      let target ← match p.target with
        | some f =>
          Act.openPath f
            { writes := true, create := !has "nocreat", exclusive := has "excl"
              append := p.outFlags.contains "append"
              truncate := !keeps && p.seek.count = 0 }
        | none =>
          match ← Act.channelOf? 1 with
          | some id => pure (.ok id)
          | none => pure (.error .badDescriptor)
      let .ok target := target
        | c.blame ("failed to open " ++ fileQuoted (p.target.getD "standard output") ++ ": " ++
            (match target with
              | .error err => err.text
              | .ok _ => ""))
          pure 1
      let skipped := p.skip.size p.inBlock
      let wanted := p.count.map (Extent.size · p.inBlock)
      let input ← Act.takeChannel source fun text cut =>
        let bytes := Raw.split text
        match wanted with
        | none => if cut then none else some (bytes.drop skipped, [])
        | some n =>
          if cut && bytes.length < skipped + n then none
          else some ((bytes.drop skipped).take n, bytes.drop (skipped + n))
      match input with
      | .error err =>
        c.blame ("error reading " ++ fileQuoted (p.source.getD "standard input") ++ ": " ++ err.text)
        Act.tell (summary p 0 0 0)
        pure 1
      | .ok cs =>
        let (output, cut) := p.changed cs
        let failed ← match p.target, (← get).world.channels[target]? with
          | some _, some (.file file _ _ _ false _) =>
            writeAt file (p.seek.size p.outBlock) keeps output
            pure none
          | _, _ => Act.writeChannel target (String.ofList (Raw.joined output))
        match failed with
        | some err =>
          c.blame ("error writing " ++ fileQuoted (p.target.getD "standard output") ++ ": " ++
            err.text)
          Act.tell (summary p cs.length 0 cut)
          pure 1
        | none =>
          Act.tell (summary p cs.length output.length cut)
          pure 0

end Runbook.Shell.Blocks
