import Runbook.Shell.Text.Raw

/-!
# `Shell/Tool/Deflate/Code` — codes of different lengths

Frequent symbols get short codes, and rare ones long codes. The lengths alone tell a code: codes of
one length follow each other, and longer ones come behind shorter ones (`codes`). The lengths are
found by joining the two rarest symbols again and again (`lengths`); where a code would be too long,
shorter ones give up room for it.
-/

set_option autoImplicit false

namespace Runbook.Shell.Deflate

/-! ## Which lengths -/

/-- Symbols that wait to be joined: a heap, in which no symbol is rarer than the one above it. -/
structure Heap where
  /-- The places of the heap, from one on. -/
  nodes : Array Nat
  length : Nat
  /-- How often each symbol occurs. -/
  counts : Array Nat
  /-- How deep what is below each symbol goes. -/
  depths : Array Nat
  /-- What each symbol is joined to. -/
  parents : Array Nat
  /-- What has been taken from the heap, the latest first. -/
  taken : List Nat := []

/-- The symbol at a place. -/
def Heap.at (h : Heap) (place : Nat) : Nat := h.nodes.getD place 0

/-- A symbol is rarer than another one, or as rare and not deeper. -/
def Heap.isBelow (h : Heap) (a b : Nat) : Bool :=
  let x := h.counts.getD a 0
  let y := h.counts.getD b 0
  x < y || (x == y && h.depths.getD a 0 ≤ h.depths.getD b 0)

/-- Puts a symbol at a place, or below it where it belongs. -/
def Heap.sink (v : Nat) : (fuel : Nat) → (place : Nat) → Heap → Heap
  | 0, place, h => { h with nodes := h.nodes.setIfInBounds place v }
  | fuel + 1, place, h =>
    let left := 2 * place
    if h.length < left then { h with nodes := h.nodes.setIfInBounds place v }
    else
      let next :=
        if left < h.length && h.isBelow (h.at (left + 1)) (h.at left) then left + 1 else left
      if h.isBelow v (h.at next) then { h with nodes := h.nodes.setIfInBounds place v }
      else
        let w := h.at next
        Heap.sink v fuel next { h with nodes := h.nodes.setIfInBounds place w }

/-- Lets the symbol at a place sink. -/
def Heap.settle (h : Heap) (place : Nat) : Heap := Heap.sink (h.at place) h.length place h

/-- Joins the two rarest symbols under new ones until a single one is left. -/
def Heap.join : (fuel : Nat) → (node : Nat) → Heap → Heap
  | 0, _, h => h
  | fuel + 1, node, h =>
    if h.length < 2 then { h with taken := h.at 1 :: h.taken }
    else
      let a := h.at 1
      let last := h.at h.length
      let h := Heap.settle
        { h with nodes := h.nodes.setIfInBounds 1 last, length := h.length - 1 } 1
      let b := h.at 1
      let count := h.counts.getD a 0 + h.counts.getD b 0
      let depth := max (h.depths.getD a 0) (h.depths.getD b 0) + 1
      let h :=
        { h with
          taken := b :: a :: h.taken
          counts := h.counts.setIfInBounds node count
          depths := h.depths.setIfInBounds node depth
          parents := (h.parents.setIfInBounds a node).setIfInBounds b node
          nodes := h.nodes.setIfInBounds 1 node }
      Heap.join fuel (node + 1) (h.settle 1)

/-- The symbols that get a code: those that occur, and others if they are less than two. The greatest
one comes beside. -/
def chosen (counts : Array Nat) : List Nat × Nat :=
  let used := (List.range counts.size).filter fun n => 0 < counts.getD n 0
  match used with
  | [] => ([0, 1], 1)
  | [n] => if n < 2 then ([n, n + 1], n + 1) else ([n, 0], n)
  | ns => (ns, ns.getLast?.getD 0)

/-- How many codes there are of each length, after those that are too long have been made shorter;
`excess` is their number. -/
def relieved (most : Nat) : (fuel : Nat) → (excess : Nat) → Array Nat → Array Nat
  | 0, _, ns => ns
  | fuel + 1, excess, ns =>
    if excess = 0 then ns
    else
      let n := ((List.range most).reverse.find? fun n => 0 < ns.getD n 0).getD 0
      let ns := (ns.modify n (· - 1)).modify (n + 1) (· + 2)
      relieved most fuel (excess - 2) (ns.modify most (· - 1))

/-- Gives lengths to symbols, the rarest first, the greatest lengths first. -/
def deal : (lengths : List (Nat × Nat)) → List Nat → Array Nat → Array Nat
  | (_, 0) :: more, ns, done => deal more ns done
  | (length, count + 1) :: more, n :: ns, done =>
    deal ((length, count) :: more) ns (done.setIfInBounds n length)
  | _, _, done => done

/-- The lengths of the codes of symbols that occur so often, none of which is longer than `most`. A
symbol that has no code has the length zero. -/
def lengths (counts : Array Nat) (most : Nat) : Array Nat :=
  let size := counts.size
  let (symbols, greatest) := chosen counts
  let counted := symbols.foldl (fun cs n => cs.modify n (max 1 ·)) counts
  let h : Heap :=
    { nodes := (0 :: symbols).toArray ++ Array.replicate size 0, length := symbols.length
      counts := counted ++ Array.replicate size 0, depths := Array.replicate (2 * size) 0
      parents := Array.replicate (2 * size) 0 }
  let h := ((List.range (symbols.length / 2)).reverse.map (· + 1)).foldl (fun h n => h.settle n) h
  let h := h.join (symbols.length + 1) size
  let first := Array.replicate (2 * size) 0
  let (found, excess) := h.taken.tail.foldl (fun ((ls, excess) : Array Nat × Nat) n =>
    let length := ls.getD (h.parents.getD n 0) 0 + 1
    if most < length then (ls.setIfInBounds n most, excess + 1)
    else (ls.setIfInBounds n length, excess)) (first, 0)
  if excess = 0 then found.extract 0 size
  else
    let leaves := h.taken.reverse.filter (· ≤ greatest)
    let ns := leaves.foldl (fun (ns : Array Nat) n => ns.modify (found.getD n 0) (· + 1))
      (Array.replicate (most + 2) 0)
    let ns := relieved most excess excess ns
    let wanted := ((List.range most).reverse.map (· + 1)).map fun n => (n, ns.getD n 0)
    (deal wanted leaves found).extract 0 size

/-! ## Which codes -/

/-- The bits of a number from the lowest on, the other way round. -/
def turned : (length : Nat) → (n : Nat) → Nat
  | 0, _ => 0
  | length + 1, n => (n % 2) * Nat.pow 2 length + turned length (n / 2)

/-- The first code of each length, from the length at hand on. -/
def firstCodes (numbers : Array Nat) : (fuel : Nat) → (length code : Nat) → List Nat
  | 0, _, _ => []
  | fuel + 1, length, code =>
    code :: firstCodes numbers fuel (length + 1) (2 * (code + numbers.getD length 0))

/-- How many codes there are of each length from zero on; the length zero does not count. -/
def numbersOf (ls : Array Nat) : Array Nat :=
  ls.foldl (fun (ns : Array Nat) n => if n = 0 then ns else ns.modify n (· + 1))
    (Array.replicate 17 0)

/-- The codes that lengths tell, each with its length; the first bit of a code is the lowest one. -/
def codes (ls : Array Nat) : Array (Nat × Nat) :=
  let next := (firstCodes (numbersOf ls) 17 0 0).toArray
  let step (s : Array Nat × Array (Nat × Nat)) (length : Nat) : Array Nat × Array (Nat × Nat) :=
    let (next, done) := s
    if length = 0 then (next, done.push (0, 0))
    else
      (next.modify length (· + 1), done.push (turned length (next.getD length 0), length))
  (ls.foldl step (next, #[])).2

/-! ## The symbols -/

/-- Where the values of symbols begin, when each stands for so many values, as bits tell. -/
def startsFrom : (value : Nat) → List Nat → List Nat
  | _, [] => []
  | value, bits :: rest => value :: startsFrom (value + Nat.pow 2 bits) rest

/-- The bits besides for the symbols of lengths. -/
def lengthBits : Array Nat :=
  #[0, 0, 0, 0, 0, 0, 0, 0, 1, 1, 1, 1, 2, 2, 2, 2, 3, 3, 3, 3, 4, 4, 4, 4, 5, 5, 5, 5, 0]

/-- The bits besides for the symbols of distances. -/
def distanceBits : Array Nat :=
  #[0, 0, 0, 0, 1, 1, 2, 2, 3, 3, 4, 4, 5, 5, 6, 6, 7, 7, 8, 8, 9, 9, 10, 10, 11, 11, 12, 12, 13, 13]

/-- Where the lengths of symbols begin. The last one stands for the greatest length alone. -/
def lengthStarts : Array Nat := (startsFrom 3 (lengthBits.toList.take 28)).toArray.push 258

/-- Where the distances of symbols begin. -/
def distanceStarts : Array Nat := (startsFrom 1 distanceBits.toList).toArray

/-- The last of some numbers in order that is not greater. -/
def lastUpTo (starts : Array Nat) (n : Nat) : Nat :=
  ((List.range starts.size).reverse.find? fun k => starts.getD k 0 ≤ n).getD 0

/-- The order in which the lengths of the codes for lengths are told. -/
def toldOrder : List Nat := [16, 17, 18, 0, 8, 7, 9, 6, 10, 5, 11, 4, 12, 3, 13, 2, 14, 1, 15]

/-- The lengths of the usual codes of bytes and lengths. -/
def usualLengths : Array Nat :=
  Array.replicate 144 8 ++ Array.replicate 112 9 ++ Array.replicate 24 7 ++ Array.replicate 8 8

/-- The lengths of the usual codes of distances. -/
def usualDistances : Array Nat := Array.replicate 30 5

/-!
## Texts as they were

What has been made smaller is read bit by bit. A code is known by its length and by its place among
the codes of that length.
-/

/-- Why a text cannot be had back. -/
inductive Damage where
  /-- More should follow. -/
  | short
  /-- This means nothing. -/
  | wrong
  deriving DecidableEq

/-- Bits that are being read, and what has been had from them. -/
structure Source where
  bytes : Array UInt8
  /-- The place of the next bit. -/
  place : Nat := 0
  text : Array UInt8 := #[]

/-- Reading bits. What has been had stays if it fails. -/
abbrev Reading := ExceptT Damage (StateM Source)

namespace Reading

/-- The next bit. -/
def bit : Reading Nat := do
  let s ← get
  match s.bytes[s.place / 8]? with
  | none => throw .short
  | some b =>
    set { s with place := s.place + 1 }
    pure ((b.toNat >>> (s.place % 8)) % 2)

/-- A number of so many bits, the lowest first. -/
def bits : (count : Nat) → Reading Nat
  | 0 => pure 0
  | count + 1 => do
    let low ← bit
    let high ← bits count
    pure (low + 2 * high)

/-- Goes on to the next byte. -/
def align : Reading Unit := modify fun s => { s with place := (s.place + 7) / 8 * 8 }

end Reading

/-- A code for reading: how many codes there are of each length, and the symbols in their order. -/
structure Table where
  numbers : Array Nat
  symbols : Array Nat
  /-- So many bits are looked at together. -/
  glance : Nat

/-- The code that lengths tell; so many bits are looked at together if codes have them. -/
def Table.ofLengths (glance : Nat) (ls : List Nat) : Table :=
  let numbers := numbersOf ls.toArray
  let used := (List.range 16).filter fun n => 0 < n && 0 < numbers.getD n 0
  let glance := min (max glance (used.head?.getD 0)) (used.getLast?.getD 0)
  let symbols := (List.range 16).flatMap fun length =>
    if length = 0 then []
    else ls.zipIdx.filterMap fun (l, n) => if l = length then some n else none
  ⟨numbers, symbols.toArray, glance⟩

/-- The codes of a table have room, and all of it is used unless there is a single code. -/
def Table.isSound (t : Table) : Bool :=
  let used := (List.range 15).foldl (fun n k =>
    n + t.numbers.getD (k + 1) 0 * Nat.pow 2 (14 - k)) 0
  used == 32768 || (t.symbols.size ≤ 1 && used ≤ 32768)

namespace Reading

/-- The next symbol; `code` has been read of its code, the first code of this length is `first`, and
`before` symbols have shorter codes. -/
def symbolFrom (t : Table) : (fuel : Nat) → (length code first before : Nat) → Reading Nat
  | 0, _, _, _, _ => throw .wrong
  | fuel + 1, length, code, first, before => do
    let code := 2 * code + (← bit)
    let first := 2 * first
    let count := t.numbers.getD length 0
    if code < first + count then
      match t.symbols[before + (code - first)]? with
      | some n => pure n
      | none => throw .wrong
    else symbolFrom t fuel (length + 1) code (first + count) (before + count)

/-- The next symbol. Where there are not as many bits as are looked at together, it is not looked
for. -/
def symbol (t : Table) : Reading Nat := do
  let s ← get
  if 8 * s.bytes.size < s.place + t.glance then throw .short
  symbolFrom t 15 1 0 0 0

/-- Adds a byte to what has been had. -/
def give (b : UInt8) : Reading Unit := modify fun s => { s with text := s.text.push b }

/-- Bytes again, from so far back. -/
def repeatBytes (distance : Nat) : (length : Nat) → Array UInt8 → Array UInt8
  | 0, done => done
  | length + 1, done =>
    repeatBytes distance length (done.push (done.getD (done.size - distance) 0))

/-- The items of a block; `fuel` bounds their number. -/
def items (codes distances : Table) : (fuel : Nat) → Reading Unit
  | 0 => throw .wrong
  | fuel + 1 => do
    let n ← symbol codes
    if n < 256 then
      give (UInt8.ofNat n)
      items codes distances fuel
    else if n = 256 then pure ()
    else
      match lengthStarts[n - 257]? with
      | none => throw .wrong
      | some start =>
        let length := start + (← bits (lengthBits.getD (n - 257) 0))
        let d ← symbol distances
        match distanceStarts[d]? with
        | none => throw .wrong
        | some start =>
          let distance := start + (← bits (distanceBits.getD d 0))
          if (← get).text.size < distance then throw .wrong
          else
            modify fun s => { s with text := repeatBytes distance length s.text }
            items codes distances fuel

/-- Lengths of codes up to a number of them; `fuel` bounds how many symbols tell them. -/
def codeLengths (t : Table) (total : Nat) : (fuel : Nat) → (done : Array Nat) → Reading (Array Nat)
  | 0, done => pure done
  | fuel + 1, done => do
    if total ≤ done.size then pure done
    else
      let n ← symbol t
      let (value, count) ←
        if n < 16 then pure (n, 1)
        else if n = 16 then do
          match done.back? with
          | some former => pure (former, 3 + (← bits 2))
          | none => throw .wrong
        else if n = 17 then do pure (0, 3 + (← bits 3))
        else do pure (0, 11 + (← bits 7))
      if total < done.size + count then throw .wrong
      else codeLengths t total fuel (done ++ Array.replicate count value)

/-- The tables of a block with codes of its own. -/
def ownTables : Reading (Table × Table) := do
  let lengths := 257 + (← bits 5)
  let distances := 1 + (← bits 5)
  let told := 4 + (← bits 4)
  if 286 < lengths || 30 < distances then throw .wrong
  let mut sizes : Array Nat := Array.replicate 19 0
  for n in toldOrder.take told do
    let length ← bits 3
    sizes := sizes.setIfInBounds n length
  let table := Table.ofLengths 7 sizes.toList
  if !table.isSound then throw .wrong
  let all ← codeLengths table (lengths + distances) (lengths + distances) #[]
  let codes := Table.ofLengths 9 (all.toList.take lengths)
  let further := Table.ofLengths 6 (all.toList.drop lengths)
  if !codes.isSound || !further.isSound then throw .wrong
  pure (codes, further)

/-- Bytes as they are. -/
def plain : Reading Unit := do
  align
  let length ← bits 16
  let check ← bits 16
  if length + check ≠ 65535 then throw .wrong
  let s ← get
  let first := s.place / 8
  set { s with place := s.place + 8 * length, text := s.text ++ s.bytes.extract first (first + length) }
  if s.bytes.size < first + length then throw .short

/-- Blocks up to the last one; `fuel` bounds their number. -/
def blocks : (fuel : Nat) → Reading Unit
  | 0 => throw .wrong
  | fuel + 1 => do
    let isLast := (← bit) = 1
    let way ← bits 2
    -- Each item takes a bit at least.
    let most := 8 * (← get).bytes.size + 1
    match way with
    | 0 => plain
    | 1 =>
      items (Table.ofLengths 7 usualLengths.toList) (Table.ofLengths 5 usualDistances.toList) most
    | 2 => do
      let (codes, distances) ← ownTables
      items codes distances most
    | _ => throw .wrong
    if !isLast then blocks fuel

end Reading

/-- The text that bytes stand for from a place on, and the place behind them; with damage, what could
be had. -/
def expand (bytes : Array UInt8) (place : Nat) : Except (Damage × Array UInt8) (Array UInt8 × Nat) :=
  match (Reading.blocks (8 * bytes.size + 1)).run.run { bytes := bytes, place := 8 * place } with
  | (.ok _, s) => .ok (s.text, (s.place + 7) / 8)
  | (.error d, s) => .error (d, s.text)

end Runbook.Shell.Deflate
