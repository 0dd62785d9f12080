import Runbook.Shell.Tool.Find
import Runbook.Shell.Tool.Listing

/-!
# `Shell/Tool/Usage` — how much room files take

`du` adds up what is in folders: the room on the disk, or bytes, or the number of files. What has
been counted once does not count again if it has several names. A folder is told when all below it
has been.
-/

set_option autoImplicit false

namespace Runbook.Shell.Usage

/-- The units in which amounts of bytes are written. -/
inductive Units where
  /-- So many bytes each, with an ending. -/
  | blocks (size : Nat) (ending : String)
  /-- As few digits as possible, and a letter. -/
  | scaled (base : Nat)

/-- The power of a base that a letter means. -/
def powerOf? (letter : Char) : Option Nat :=
  match "kKmMgGtTpPeEzZyY".toList.findIdx? (· == letter) with
  | some n => some (n / 2 + 1)
  | none => none

/-- The units that a text names. -/
def unitsOf? (text : String) : Option Units :=
  match text with
  | "human-readable" => some (.scaled 1024)
  | "si" => some (.scaled 1000)
  | _ =>
    let (digits, letters) := text.toList.span Char.isDigit
    let count := if digits.isEmpty then 1 else ofDigits 10 digits
    let unit : Option Nat :=
      match letters with
      | [] => if digits.isEmpty then none else some 1
      | ['b'] => some 512
      | [c] | [c, 'i', 'B'] => (powerOf? c).map fun n => Nat.pow 1024 n
      | [c, 'B'] => (powerOf? c).map fun n => Nat.pow 1000 n
      | _ => none
    match unit with
    | some n =>
      if count = 0 then none
      else some (.blocks (count * n) (if digits.isEmpty then String.ofList letters else ""))
    | none => none

/-- An amount in writing. -/
def Units.text (u : Units) (bytes : Nat) : String :=
  match u with
  | .blocks size ending => natText ((bytes + size - 1) / max 1 size) ++ ending
  | .scaled base => Listing.short base bytes

/-- What is asked for. -/
structure Style where
  units : Units := .blocks 1024 ""
  /-- Files count as many bytes as they hold. -/
  apparent : Bool := false
  /-- Files count one each. -/
  number : Bool := false
  files : Bool := false
  /-- How deep what is told lies. -/
  deepest : Nat := 1000000000
  /-- Folders do not count what is in the folders below. -/
  apart : Bool := false
  follows : Bool := false
  /-- Operands that are links are followed. -/
  followsFirst : Bool := false
  /-- Every name counts. -/
  everyName : Bool := false
  /-- What several operands lead to counts once. -/
  once : Bool := false
  /-- Only amounts from this one on are told; a negative one is the greatest that is told. -/
  threshold : Int := 0
  time : Bool := false
  excluded : List String := []
  ending : String := "\n"

/-- What has been counted. -/
structure Sum where
  amount : Nat := 0
  stamp : Nat := 0

/-- Two sums together. -/
def Sum.add (a b : Sum) : Sum := ⟨a.amount + b.amount, max a.stamp b.stamp⟩

/-- What something counts by itself. -/
def Style.own (s : Style) (n : Node) : Sum :=
  let amount := if s.number then 1 else if s.apparent then n.size else Place.blocks n * 512
  ⟨amount, n.stamp⟩

/-- A path is left out. -/
def Style.isExcluded (s : Style) (path : String) : Bool :=
  let cs := path.toList
  let ends := cs :: ((List.range cs.length).filter fun n => (cs.drop n).head? == some '/').map fun n =>
    cs.drop (n + 1)
  s.excluded.any fun p =>
    ends.any fun tail => Pattern.isMatch {} (Marked.bare p.toList) tail

/-- A line that tells a sum. -/
def Style.line (s : Style) (z : Date.Zone) (sum : Sum) (path : String) : String :=
  let shown := if s.number then
      match s.units with
      | .scaled base => Listing.short base sum.amount
      | _ => natText sum.amount
    else s.units.text sum.amount
  let t := Date.ofStamp sum.stamp
  shown ++ (if s.time then "\t" ++ Date.written z t.epoch t.nano "%Y-%m-%d %H:%M" else "") ++ "\t" ++
    path ++ s.ending

/-- Counting, with what has been counted. -/
abbrev Counting := StateT (List Nat) Act

/-- Tells a sum, if it is one that is told. -/
def tell (s : Style) (z : Date.Zone) (sum : Sum) (path : String) : Counting Unit := do
  let wanted := if s.threshold < 0 then (sum.amount : Int) ≤ -s.threshold
    else s.threshold ≤ sum.amount
  if wanted then Act.print (s.line z sum path)

/-- Counts something and all below; `fuel` bounds how deep it is. -/
def count (s : Style) (z : Date.Zone) : (fuel depth : Nat) → (path : String) → Location →
    Counting Sum
  | 0, _, _, _ => pure {}
  | fuel + 1, depth, path, place => do
    let d ← (Act.disk : Act Disk)
    let followed := s.follows || (s.followsFirst && depth == 0)
    let found : Option (Location × Node) :=
      if followed then
        match d.find [] (Disk.pathOf place) with
        | .ok x => some x
        | .error _ => (d.at? place).map fun n => (place, n)
      else (d.at? place).map fun n => (place, n)
    match found with
    | none => pure {}
    | some (l, n) =>
      let marks := !s.everyName && (s.once || (!n.isFolder && 1 < d.namesOf n))
      if s.isExcluded path || (marks && (← get).contains n.serial) then pure {}
      else
        if marks then modify (n.serial :: ·)
        let own := s.own n
        if !n.isFolder then
          if depth = 0 || (s.files && depth ≤ s.deepest) then tell s z own path
          pure own
        else
          let mut all := own
          let mut shown := own
          for name in d.namesAt l do
            let sum ← count s z fuel (depth + 1) (Find.inFolder path name) (l ++ [name])
            all := all.add sum
            let isFolder := d.isFolderAt (l ++ [name])
            shown := if s.apart && isFolder then { shown with stamp := max shown.stamp sum.stamp }
              else shown.add sum
          if depth ≤ s.deepest then tell s z shown path
          pure all

/-- The options of `du`. -/
def flags : Flags :=
  { letters := "abcd:DhHklLmPst:SxX:0B:"
    long := [("all", .nothing, "a"), ("apparent-size", .nothing, "apparent"),
      ("block-size", .value, "B"), ("bytes", .nothing, "b"), ("count-links", .nothing, "l"),
      ("dereference", .nothing, "L"), ("dereference-args", .nothing, "D"),
      ("exclude", .value, "exclude"), ("exclude-from", .value, "X"),
      ("files0-from", .value, "files"), ("human-readable", .nothing, "h"),
      ("inodes", .nothing, "inodes"), ("si", .nothing, "si"), ("max-depth", .value, "d"),
      ("null", .nothing, "0"), ("no-dereference", .nothing, "P"),
      ("one-file-system", .nothing, "x"), ("separate-dirs", .nothing, "S"),
      ("summarize", .nothing, "s"), ("total", .nothing, "c"), ("threshold", .value, "t"),
      ("time", .maybe, "time"), ("time-style", .value, "style")] }

/-- The units after one more option; nothing if the option is not about units. -/
def unitsAfter? (key : String) (value : Option String) : Option (Except String Units) :=
  match key with
  | "b" => some (.ok (.blocks 1 ""))
  | "k" => some (.ok (.blocks 1024 ""))
  | "m" => some (.ok (.blocks 1048576 ""))
  | "h" => some (.ok (.scaled 1024))
  | "si" => some (.ok (.scaled 1000))
  | "B" =>
    let text := value.getD ""
    match unitsOf? text with
    | some u => some (.ok u)
    | none => some (.error text)
  | _ => none

/-- The amount that a threshold names. -/
def thresholdOf? (text : String) : Option Int :=
  let (negative, digits) := match text.toList with
    | '-' :: rest => (true, rest)
    | '+' :: rest => (false, rest)
    | cs => (false, cs)
  let isPlain := digits.head?.any Char.isDigit
  match if isPlain then unitsOf? (String.ofList digits) else none with
  | some (.blocks n _) => some (if negative then -(n : Int) else n)
  | _ => if digits = ['0'] ∧ !negative then some 0 else none

/-- The threshold that options ask for. -/
def thresholdIn (p : Parsed) : Except (String × Bool) Int :=
  match p.last? "t" with
  | none => .ok 0
  | some "-0" => .error ("invalid --threshold argument '-0'", false)
  | some t =>
    match thresholdOf? t with
    | some n => .ok n
    | none => .error ("invalid -t argument " ++ curlyQuoted t, false)

/-- The style that options ask for, or what is wrong with them and whether more is told elsewhere. -/
def styleOf (p : Parsed) : Except (String × Bool) Style := do
  let units ← p.options.foldlM (fun (u : Units) (k, v) =>
    match unitsAfter? k v with
    | some (.ok x) => .ok x
    | some (.error text) => .error ("invalid -B argument " ++ curlyQuoted text, false)
    | none => .ok u) (.blocks 1024 "")
  let deepest ← match p.last? "d" with
    | none => pure none
    | some t => match natText? t with
      | some n => pure (some n)
      | none => throw ("invalid maximum depth " ++ curlyQuoted t, true)
  let threshold ← thresholdIn p
  if p.has "a" ∧ p.has "s" then throw ("cannot both summarize and show all entries", true)
  pure
    { units := units, apparent := p.has "b" || p.has "apparent", number := p.has "inodes"
      files := p.has "a", apart := p.has "S", everyName := p.has "l"
      deepest := if p.has "s" then 0 else deepest.getD 1000000000
      follows := p.lastOf? ["L", "P", "D", "H"] == some "L"
      followsFirst := ["D", "H"].contains ((p.lastOf? ["L", "P", "D", "H"]).getD "")
      once := 1 < p.operands.length || p.lastOf? ["L", "P", "D", "H"] == some "L"
      threshold := threshold, time := p.has "time", excluded := p.all "exclude"
      ending := if p.has "0" then "\x00" else "\n" }

/-- The program `du`. -/
def du : Tool := fun _ c =>
  c.withFlags flags 1 fun p => do
    match styleOf p with
    | .error (text, hints) =>
      if hints then c.refuse 1 text
      else
        c.blame text
        pure 1
    | .ok s =>
      match p.has "s", (p.last? "d").bind natText? with
      | true, some 0 => c.blame "warning: summarizing is the same as using --max-depth=0"
      | true, some n =>
        c.blame ("warning: summarizing conflicts with --max-depth=" ++ natText n)
        c.hint
        return 1
      | _, _ => pure ()
      let excluded ← match p.last? "X" with
        | none => pure []
        | some f =>
          match ← Call.whole f with
          | .ok cs => pure ((Lines.split '\n' cs).1.map String.ofList)
          | .error err =>
            c.blameFile f err
            return 1
      let s := { s with excluded := s.excluded ++ excluded }
      let operands ← match p.last? "files" with
        | none => pure (if p.operands.isEmpty then ["."] else p.operands)
        | some f =>
          if let some o := p.operands.head? then
            c.blame ("extra operand " ++ curlyQuoted o)
            Act.tell "file operands cannot be combined with --files0-from\n"
            c.hint
            return 1
          match ← Call.whole f with
          | .ok cs => pure ((Lines.split (Char.ofNat 0) cs).1.map String.ofList)
          | .error err =>
            c.blame ("cannot open " ++ fileQuoted f ++ " for reading: " ++ err.text)
            return 1
      let s := { s with once := s.once || p.has "files" }
      let z ← Date.zone false
      let here := (← Act.shell).here
      let all : Counting (Sum × Bool) := do
        let mut sum : Sum := {}
        let mut ok := true
        for o in operands do
          match (← (Act.disk : Act Disk)).find here o (o.endsWith "/") with
          | .ok (l, _) => sum := sum.add (← count s z Disk.maxDepth 0 o l)
          | .error err =>
            c.blame ("cannot access " ++ fileQuoted o ++ ": " ++ err.text)
            ok := false
        pure (sum, ok)
      let ((sum, ok), _) ← all []
      if p.has "c" then Act.print (s.line z sum "total")
      pure (if ok then 0 else 1)

end Runbook.Shell.Usage
