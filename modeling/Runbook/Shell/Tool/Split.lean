import Runbook.Shell.Tool.Launch
import Runbook.Shell.Tool.Show

/-!
# `Shell/Tool/Split` — a file in pieces

`split` writes a file to several smaller ones. A piece has so many lines or bytes, or it is one of
so many pieces of about the same size. The names of pieces count upwards in letters or digits.
-/

set_option autoImplicit false

namespace Runbook.Shell.Split

/-! ## Pieces -/

/-- How pieces of a given number are told apart. -/
inductive Share where
  | bytes
  /-- A line belongs to the piece in which it begins. -/
  | lines
  /-- Lines are dealt out in turn. -/
  | turns
  deriving DecidableEq

/-- How a file is cut. -/
inductive Cut where
  | lines (count : Nat)
  | bytes (count : Nat)
  /-- As many whole lines as fit into so many bytes. -/
  | fitting (count : Nat)
  /-- So many pieces, or one of them. -/
  | pieces (share : Share) (only : Option Nat) (count : Nat)

/-- The lines of a text with their ends, each counted in bytes. -/
def linesOf (mark : Char) (cs : List Char) : List (List Char) :=
  let (ls, ended) := Lines.split mark cs
  match ls.reverse with
  | [] => []
  | last :: before =>
    ((if ended then last ++ [mark] else last) :: before.map fun l => l ++ [mark]).reverse

/-- A list in runs of a length; `fuel` bounds their number. -/
def runs {α : Type} (length : Nat) : (fuel : Nat) → List α → List (List α)
  | 0, _ => []
  | _ + 1, [] => []
  | fuel + 1, xs => xs.take length :: runs length fuel (xs.drop length)

/-- Lines put together as long as they fit. A line that is too long is cut. -/
def fitted (room : Nat) : (here : List Char) → List (List Char) → List (List Char)
  | here, [] => if here.isEmpty then [] else [here]
  | here, l :: rest =>
    if here.length + l.length ≤ room then fitted room (here ++ l) rest
    else
      let parts := runs room (l.length + 1) l
      (if here.isEmpty then [] else [here]) ++ parts.dropLast ++
        fitted room (parts.getLast?.getD []) rest

/-- Where the pieces of a size end, when so many are to be made: they are equal but for the last
one, which takes what is left over. Each takes at least a byte as long as there are any. -/
def bounds (size count : Nat) : List Nat :=
  (List.range count).map fun k =>
    if k + 1 = count then size else (k + 1) * (max size count / count)

/-- A text cut at places, up to the last one. -/
def cutAt : (place : Nat) → List Nat → List Char → List (List Char)
  | _, [], _ => []
  | place, b :: bs, cs => cs.take (b - place) :: cutAt b bs (cs.drop (b - place))

/-- Lines by the piece in which they begin. -/
def linesAt : (place : Nat) → List Nat → List (List Char) → List (List Char)
  | _, [], _ => []
  | place, b :: bs, ls =>
    let rec take : (place : Nat) → List (List Char) → Nat × List Char × List (List Char)
      | place, [] => (place, [], [])
      | place, l :: rest =>
        if place < b then
          let (final, more, left) := take (place + l.length) rest
          (final, l ++ more, left)
        else (place, [], l :: rest)
    let (final, here, left) := take place ls
    here :: linesAt final bs left

/-- The pieces of a text of single bytes. -/
def pieces (mark : Char) (cs : List Char) : Cut → List (List Char)
  | .lines n => (runs n (cs.length + 1) (linesOf mark cs)).map List.flatten
  | .bytes n => runs n (cs.length + 1) cs
  | .fitting n => fitted n [] (linesOf mark cs)
  | .pieces .bytes _ n => cutAt 0 (bounds cs.length n) cs
  | .pieces .lines _ n => linesAt 0 (bounds cs.length n) (linesOf mark cs)
  | .pieces .turns _ n =>
    let ls := linesOf mark cs
    (List.range n).map fun k =>
      ((ls.zip (List.range ls.length)).filter fun x => x.2 % n == k).flatMap (·.1)

/-! ## Names -/

/-- How the names of pieces are made. -/
structure Naming where
  stem : String := "x"
  letters : String := "abcdefghijklmnopqrstuvwxyz"
  length : Nat := 2
  /-- Names grow longer when there are no more of a length. -/
  grows : Bool := true
  first : Nat := 0
  ending : String := ""

/-- A number in letters, so many of them. -/
def inLetters (letters : List Char) : (length n : Nat) → List Char
  | 0, _ => []
  | length + 1, n =>
    inLetters letters length (n / letters.length) ++ [letters.getD (n % letters.length) '?']

/-- What tells the name of a piece from others. Names that grow keep their last letter in front for
those that are longer. -/
def mark? (letters : List Char) (grows : Bool) : (fuel length n : Nat) → Option (List Char)
  | 0, _, _ => none
  | fuel + 1, length, n =>
    let all := Nat.pow letters.length length
    if !grows then if n < all then some (inLetters letters length n) else none
    else
      let room := all - all / letters.length
      if n < room then some (inLetters letters length n)
      else (mark? letters grows fuel (length + 1) (n - room)).map fun more =>
        letters.getLast?.toList ++ more

/-- The name of a piece. -/
def Naming.name? (k : Naming) (n : Nat) : Option String :=
  (mark? k.letters.toList k.grows 20 k.length (k.first + n)).map fun m =>
    k.stem ++ String.ofList m ++ k.ending

/-- How many letters tell so many pieces apart. -/
def lettersFor (base : Nat) : (fuel n : Nat) → Nat
  | 0, _ => 1
  | fuel + 1, n => if n < base then 1 else lettersFor base fuel (n / base) + 1

/-! ## The program -/

/-- The options of `split`. -/
def flags : Flags :=
  { letters := "0123456789C:a:b:del:n:t:ux"
    long := [("bytes", .value, "b"), ("lines", .value, "l"), ("line-bytes", .value, "C"),
      ("number", .value, "n"), ("elide-empty-files", .nothing, "e"), ("unbuffered", .nothing, "u"),
      ("suffix-length", .value, "a"), ("additional-suffix", .value, "additional"),
      ("numeric-suffixes", .maybe, "d"), ("hex-suffixes", .maybe, "x"),
      ("filter", .value, "filter"), ("verbose", .nothing, "verbose"),
      ("separator", .value, "t"), ("io-blksize", .value, "io")] }

/-- The way of cutting that an option asks for, or what is wrong with it. -/
def cutOf (key v : String) : Except String Cut :=
  let size (what : String) : Except String Nat :=
    match Show.size? v.toList with
    | some n => if n = 0 then .error ("invalid number of " ++ what ++ ": " ++ curlyQuoted v) else .ok n
    | none => .error ("invalid number of " ++ what ++ ": " ++ curlyQuoted v)
  let count (t : String) : Except String Nat :=
    match natText? t with
    | some 0 | none => .error ("invalid number of chunks: " ++ curlyQuoted t)
    | some n => .ok n
  let chunks (share : Share) (ts : List String) : Except String Cut := do
    match ts with
    | [n] => pure (.pieces share none (← count n))
    | [k, n] =>
      let total ← count n
      match natText? k with
      | some k' =>
        if k' = 0 ∨ total < k' then .error ("invalid chunk number: " ++ curlyQuoted k)
        else pure (.pieces share (some (k' - 1)) total)
      | none => .error ("invalid chunk number: " ++ curlyQuoted k)
    | _ => .error ("invalid number of chunks: " ++ curlyQuoted v)
  match key with
  | "b" => (size "bytes").map .bytes
  | "C" => (size "lines").map .fitting
  | "n" =>
    match v.splitOn "/" with
    | "l" :: ts => chunks .lines ts
    | "r" :: ts => chunks .turns ts
    | ts => chunks .bytes ts
  | _ =>
    match natText? v with
    | some 0 | none => .error ("invalid number of lines: " ++ curlyQuoted v)
    | some n => .ok (.lines n)

/-- What is wrong with a call, and whether it is told where to learn more. -/
abbrev Wrong := String × Bool

/-- The way of cutting that the options of a call ask for. -/
def chosenCut (p : Parsed) (short : Option String) : Except Wrong Cut := do
  let asked := p.options.filter fun o => ["b", "C", "n", "l"].contains o.1
  let asked := match short with
    | some n => asked ++ [("l", some n)]
    | none => asked
  for (key, v) in asked do
    discard ((cutOf key (v.getD "")).mapError fun e => (e, false))
  match asked with
  | [] => pure (.lines 1000)
  | [(key, v)] => (cutOf key (v.getD "")).mapError fun e => (e, false)
  | _ => throw ("cannot split in more than one way", true)

/-- The naming that the options of a call ask for. -/
def chosenNaming (p : Parsed) (stem : String) (cut : Cut) : Except Wrong Naming := do
  let style := p.lastOf? ["d", "x"]
  let letters : String := match style with
    | some "d" => "0123456789"
    | some _ => "0123456789abcdef"
    | none => "abcdefghijklmnopqrstuvwxyz"
  let start := style.bind p.last?
  let base := if style == some "x" then 16 else 10
  let first ← match start with
    | none => pure 0
    | some t =>
      if t ≠ "" ∧ t.toList.all (fun c => (digitOf? c).any (· < base)) then
        pure (ofDigits base t.toList)
      else
        throw (curlyQuoted t ++ ": invalid start value for " ++
          (if base = 16 then "hexadecimal" else "numerical") ++ " suffix", true)
  let length ← match p.last? "a" with
    | none => pure 0
    | some t => match natText? t with
      | some n => pure n
      | none => throw ("invalid suffix length: " ++ curlyQuoted t, false)
  let ending := (p.last? "additional").getD ""
  if ending.toList.contains '/' then
    throw ("invalid suffix " ++ curlyQuoted ending ++ ", contains directory separator", true)
  let needed := match cut with
    | .pieces _ _ n => lettersFor letters.length n (first + n - 1)
    | _ => 0
  if 0 < length ∧ length < needed then
    throw ("the suffix length needs to be at least " ++ natText needed, false)
  let startLength := (start.map String.length).getD 0
  if 0 < length ∧ length < startLength then
    throw ("numerical suffix start value is too large for the suffix length", true)
  pure
    { stem := stem, letters := letters, first := first, ending := ending
      grows := length = 0 && needed = 0 && start.isNone
      length := if length = 0 then max 2 (max needed startLength) else length }

/-- Writes a piece to a file or to the input of a command; the status with which all ends if that
goes wrong. -/
def write (e : Engine) (c : Call) (p : Parsed) (input : Option Location) (name : String)
    (piece : List Char) : Act (Option Nat) := do
  match p.last? "filter" with
  | some command =>
    if p.has "verbose" then
      Act.print ("executing with FILE=" ++ fileQuoted name ++ "\n")
    let passed ← Environment.all
    let n ← Act.isolated e do
      Launch.passOn (Launch.withValue passed "FILE" name)
      let id ← Act.newChannel (.input (Raw.joined piece) false)
      Act.setDescriptor 0 id
      runLast e [(passed.lookup "SHELL").getD "/bin/sh", "-c", command]
    if n = 0 then pure none
    else
      c.blame ("with FILE=" ++ fileTitle name ++ ", exit " ++ natText n ++ " from command: " ++ command)
      pure (some n)
  | none =>
    if p.has "verbose" then Act.print ("creating file " ++ fileQuoted name ++ "\n")
    let d ← Act.disk
    let here := (← Act.shell).here
    let same := match input, d.find here name with
      | some l, .ok (k, _) => k == l
      | _, _ => false
    if same then
      c.blame (fileQuoted name ++ " would overwrite input; aborting")
      pure (some 1)
    else
      match ← Act.openPath name { writes := true, create := true, truncate := true } with
      | .error err =>
        c.blame (fileTitle name ++ ": " ++ err.text)
        pure (some 1)
      | .ok id =>
        discard (Act.writeChannel id (String.ofList (Raw.joined piece)))
        pure none

/-- An operand is a stream of bytes without a place in it. -/
def isStream (operand : String) : Act Bool := do
  if operand = "-" then Act.isPipe 0
  else
    match (← Act.disk).find (← Act.shell).here operand with
    | .ok (_, n) =>
      match n.content with
      | .device (.stream k) => Act.isPipe k
      | .device .queue => pure true
      | _ => pure false
    | .error _ => pure false

/-- The number that an argument of digits alone sets, and the other arguments. -/
def withoutNumber (args : List String) : Option String × List String :=
  let isNumber (a : String) : Bool :=
    match a.toList with
    | '-' :: c :: cs => (c :: cs).all Char.isDigit
    | _ => false
  let (front, behind) := args.span (· != "--")
  let numbers := front.filter isNumber
  (numbers.getLast?.map fun a => String.ofList (a.toList.drop 1),
    front.filter (!isNumber ·) ++ behind)

/-- The program `split`. -/
def split : Tool := fun e called => do
  let (short, args) := withoutNumber called.args
  let c := { called with args := args }
  c.withFlags flags 1 fun p => do
    let operands := p.operands
    let stem := operands.getD 1 "x"
    let settings : Except Wrong (Cut × Naming × Char) := do
      let cut ← chosenCut p short
      let mark ← match p.last? "t" with
        | none => pure '\n'
        | some t => match t.toList with
          | [c] => pure c
          | ['\\', '0'] => pure '\x00'
          | [] => throw ("empty record separator", false)
          | _ => throw ("multi-character separator " ++ curlyQuoted t, false)
      let naming ← chosenNaming p stem cut
      if let some extra := operands[2]? then throw ("extra operand " ++ curlyQuoted extra, true)
      match cut, p.has "filter" with
      | .pieces _ (some _) _, true =>
        throw ("--filter does not process a chunk extracted to stdout", true)
      | _, _ => pure (cut, naming, mark)
    match settings with
    | .error (text, hints) =>
      if hints then c.refuse 1 text
      else
        c.blame text
        pure 1
    | .ok (cut, naming, mark) =>
      let o := operands.headD "-"
      -- Parts of a whole need its size, which a stream does not tell.
      let unsized ← match cut with
        | .pieces .turns _ _ => pure false
        | .pieces _ _ _ => isStream o
        | _ => pure false
      if unsized then
        c.blame (fileTitle o ++ ": cannot determine file size")
        return 1
      match ← Call.whole o with
      | .error err =>
        c.blame (if err = Errno.isFolder then o ++ ": read error: " ++ err.text
          else "cannot open " ++ fileQuoted o ++ " for reading: " ++ err.text)
        pure 1
      | .ok cs =>
        let parts := pieces mark (Raw.split cs) cut
        match cut with
        | .pieces _ (some k) _ =>
          Act.print (String.ofList (Raw.joined (parts.getD k [])))
          pure 0
        | _ =>
          let parts := if p.has "e" || p.has "filter" then parts.filter (!·.isEmpty) else parts
          let d ← Act.disk
          let here := (← Act.shell).here
          let input := if o = "-" then none else (d.find here o).toOption.map (·.1)
          let rec go : (n : Nat) → List (List Char) → Act Nat
            | _, [] => pure 0
            | n, piece :: rest => do
              match naming.name? n with
              | none =>
                c.blame "output file suffixes exhausted"
                pure 1
              | some name =>
                match ← write e c p input name piece with
                | some status => pure status
                | none => go (n + 1) rest
          go 0 parts

end Runbook.Shell.Split
