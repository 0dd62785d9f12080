import Runbook.Console.Width
import Runbook.Shell.Tool.Lines

/-!
# `Shell/Tool/Count` — counting what is in texts

`wc` counts lines, words, characters and bytes, and tells how wide the widest line is.
-/

set_option autoImplicit false

namespace Runbook.Shell.Count

/-- What has been counted. -/
structure Tally where
  lines : Nat := 0
  words : Nat := 0
  chars : Nat := 0
  bytes : Nat := 0
  widest : Nat := 0
  /-- The column at hand. -/
  column : Nat := 0
  inWord : Bool := false

/-- The tally after a character. A byte that is no character is not counted as one. -/
def Tally.step (t : Tally) (c : Char) : Tally :=
  match Raw.byte? c with
  | some _ => { t with bytes := t.bytes + 1 }
  | none =>
    let t := { t with chars := t.chars + 1, bytes := t.bytes + (Raw.bytesOfChar c).length }
    let parted (t : Tally) : Tally :=
      { t with words := t.words + (if t.inWord then 1 else 0), inWord := false }
    let ended (t : Tally) : Tally := { t with widest := max t.widest t.column, column := 0 }
    if c = '\n' then parted (ended { t with lines := t.lines + 1 })
    else if c = '\r' ∨ c.toNat = 12 then parted (ended t)
    else if c = '\t' then parted { t with column := t.column + (8 - t.column % 8) }
    else if c = ' ' then parted { t with column := t.column + 1 }
    else if c.toNat = 11 then parted t
    else
      let t := { t with column := t.column + (if isPrinting c then Console.cellsOf c else 0) }
      let blank := ((classNamed? "space").getD fun _ => false) c ||
        [0xA0, 0x2007, 0x202F, 0x2060].contains c.toNat
      if blank then parted t else { t with inWord := true }

/-- What is counted in a text. -/
def tallyOf (cs : List Char) : Tally :=
  let t := cs.foldl Tally.step {}
  { t with widest := max t.widest t.column, words := t.words + (if t.inWord then 1 else 0) }

/-- The counts of two texts together. -/
def Tally.add (a b : Tally) : Tally :=
  { lines := a.lines + b.lines, words := a.words + b.words, chars := a.chars + b.chars
    bytes := a.bytes + b.bytes, widest := max a.widest b.widest }

/-- The counts that are wanted, in order. -/
def Tally.counts (t : Tally) (p : Parsed) : List Nat :=
  let all := !(["l", "w", "m", "c", "L"].any p.has)
  [(p.has "l" || all, t.lines), (p.has "w" || all, t.words), (p.has "m", t.chars),
    (p.has "c" || all, t.bytes), (p.has "L", t.widest)].filterMap fun (wanted, n) =>
      if wanted then some n else none

/-- Counts in columns, with a name. -/
def row (width : Nat) (ns : List Nat) (name : Option String) : String :=
  let cells := ns.map fun n => String.ofList (padLeft width ' ' (natText n).toList)
  " ".intercalate cells ++ (name.elim "" (" " ++ ·)) ++ "\n"

/-- How wide the columns are. -/
def widthOf (operands : List String) (columns : Nat) : Act Nat := do
  if operands.length ≤ 1 ∧ columns = 1 then pure 1
  else
    let mut total := 0
    let mut least := 1
    for o in operands do
      match ← Call.sizeOf o with
      | .ok (some n) => total := total + n
      | .ok none => least := 7
      | .error _ => pure ()
    pure (max least (natText total).length)

/-- The program `wc`. -/
def wc : Tool := fun _ c =>
  c.withFlags
    { letters := "clLmw"
      long := [("bytes", .nothing, "c"), ("chars", .nothing, "m"), ("lines", .nothing, "l"),
        ("words", .nothing, "w"), ("max-line-length", .nothing, "L"),
        ("files0-from", .value, "files")] }
    1 fun p => do
    let listed ← match p.last? "files" with
      | none => pure p.operands
      | some f =>
        if let some o := p.operands.head? then
          c.blame ("extra operand '" ++ o ++ "'")
          Act.tell "file operands cannot be combined with --files0-from\n"
          c.hint
          return 1
        match ← Call.whole f with
        | .ok cs => pure ((Lines.split (Char.ofNat 0) cs).1.map String.ofList)
        | .error err =>
          c.blame ("cannot open '" ++ f ++ "' for reading: " ++ err.text)
          return 1
    let named := !listed.isEmpty || p.has "files"
    let operands := if named then listed else ["-"]
    let columns := (({} : Tally).counts p).length
    let fromStream ← match p.last? "files" with
      | some f =>
        pure (!((← Act.disk).find (← Act.shell).here f).toOption.any fun n => n.2.isFile)
      | none => pure false
    let width ← if fromStream then pure 1 else widthOf operands columns
    let mut sum : Tally := {}
    let mut ok := true
    for o in operands do
      let name := if named then some o else none
      if o = "" then
        c.blame "invalid zero-length file name"
        ok := false
      else
        match ← Call.fetch o with
        | .ok (cs, cut) =>
          let t := tallyOf cs
          if cut then throw Flow.starved
          sum := sum.add t
          Act.print (row width (t.counts p) name)
        | .error err =>
          ok := false
          if o = "-" then
            c.blame ("'standard input': " ++ err.text)
            if err = Errno.badDescriptor then c.blame ("-: " ++ err.text)
          else c.blameFile o err
          if err = Errno.isFolder || o = "-" then
            Act.print (row width (({} : Tally).counts p) name)
    if 1 < operands.length then Act.print (row width (sum.counts p) (some "total"))
    pure (if ok then 0 else 1)

end Runbook.Shell.Count
