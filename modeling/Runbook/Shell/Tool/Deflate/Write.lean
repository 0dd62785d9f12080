import Runbook.Shell.Tool.Deflate.Code

/-!
# `Shell/Tool/Deflate/Write` — texts made smaller

What is told of a text is first taken apart into bytes and repeats, and then written in blocks.
-/

set_option autoImplicit false

/-!
## What has been before

A text is told as bytes, and as repeats of what was before in it. Places with the same three bytes
are chained by a number that these have (`Chains`); the chain is followed to find the longest repeat,
not further than effort is worth. A repeat is used only if there is no better one from the next place
on, unless there is hurry.
-/

namespace Runbook.Shell.Deflate

/-- A part of a text. -/
inductive Item where
  | byte (b : UInt8)
  | again (length distance : Nat)

/-- How much is done to find repeats. -/
structure Effort where
  /-- From this length on less is looked at. -/
  good : Nat
  /-- Up to this length a better repeat is looked for from the next place on. -/
  idle : Nat
  /-- This length is enough. -/
  nice : Nat
  /-- So many places are looked at. -/
  chain : Nat
  /-- A repeat is used as it is found. -/
  hurries : Bool := false
  level : Nat

/-- The effort of a level from one to nine. -/
def Effort.ofLevel : (level : Nat) → Effort
  | 0 | 1 => { good := 4, idle := 4, nice := 8, chain := 4, hurries := true, level := 1 }
  | 2 => { good := 4, idle := 5, nice := 16, chain := 8, hurries := true, level := 2 }
  | 3 => { good := 4, idle := 6, nice := 32, chain := 32, hurries := true, level := 3 }
  | 4 => { good := 4, idle := 4, nice := 16, chain := 16, level := 4 }
  | 5 => { good := 8, idle := 16, nice := 32, chain := 32, level := 5 }
  | 6 => { good := 8, idle := 16, nice := 128, chain := 128, level := 6 }
  | 7 => { good := 8, idle := 32, nice := 128, chain := 256, level := 7 }
  | 8 => { good := 32, idle := 128, nice := 258, chain := 1024, level := 8 }
  | _ => { good := 32, idle := 258, nice := 258, chain := 4096, level := 9 }

/-- Half of the text that is kept in view. -/
def window : Nat := 32768

/-- What has to be in view ahead. -/
def ahead : Nat := 262

/-- How far back a repeat may lie. -/
def farthest : Nat := window - ahead

/-- The byte at a place; behind the end there are zeros. -/
def byteAt (text : Array UInt8) (place : Nat) : UInt8 := text.getD place 0

/-- The number of the three bytes at a place. -/
def keyAt (text : Array UInt8) (place : Nat) : Nat :=
  let b (n : Nat) : Nat := (byteAt text (place + n)).toNat
  ((b 0 * 1024) ^^^ (b 1 * 32) ^^^ b 2) % window

/-- How far two places go on in the same way. -/
def common (text : Array UInt8) (a b : Nat) : (most : Nat) → Nat
  | 0 => 0
  | most + 1 => if byteAt text a = byteAt text b then common text (a + 1) (b + 1) most + 1 else 0

/-- Where a text stands. -/
structure Chains where
  /-- The latest place for each number, counted from one. -/
  heads : Array Nat := Array.replicate window 0
  /-- The place with the same number before each place, counted from one. -/
  links : Array Nat := Array.replicate window 0
  place : Nat := 0
  /-- What is in view begins here. -/
  base : Nat := 0
  /-- What is in view ends here. -/
  seen : Nat := 0
  /-- All of the text has been in view. -/
  isAll : Bool := false
  /-- Where the block at hand begins. -/
  blockStart : Nat := 0
  /-- The items of the block at hand, the latest first. -/
  items : List Item := []
  count : Nat := 0
  repeats : Nat := 0
  /-- The bits that the distances of the block take at most. -/
  distanceRoom : Nat := 0

/-- Chains the place at hand; gives the place before it, counted from one. -/
def Chains.insert (text : Array UInt8) (place : Nat) (c : Chains) : Nat × Chains :=
  let key := keyAt text place
  let before := c.heads.getD key 0
  let heads := c.heads.setIfInBounds key (place + 1)
  let links := c.links.setIfInBounds (place % window) before
  -- What lies at the beginning of what is in view does not count.
  let before := if before ≤ c.base + 1 then 0 else before
  (before, { c with heads := heads, links := links })

/-- Chains several places. -/
def Chains.insertAll (text : Array UInt8) : (count place : Nat) → Chains → Chains
  | 0, _, c => c
  | count + 1, place, c => Chains.insertAll text count (place + 1) (c.insert text place).2

/-- The longest repeat among places of a chain that is longer than `best`: its place and length. -/
def Chains.longest (e : Effort) (text : Array UInt8) (c : Chains) : (fuel : Nat) →
    (candidate best found : Nat) → Nat × Nat
  | 0, _, best, found => (best, found)
  | fuel + 1, candidate, best, found =>
    let from_ := candidate - 1
    let here := c.place
    let may := byteAt text (from_ + best) == byteAt text (here + best) &&
      byteAt text (from_ + best - 1) == byteAt text (here + best - 1)
    let length := if may then common text from_ here 258 else 0
    if best < length && e.nice ≤ length then (length, from_)
    else
      let (best, found) := if best < length then (length, from_) else (best, found)
      let next := c.links.getD (from_ % window) 0
      let least := max c.base (c.place - farthest)
      if next ≤ least + 1 then (best, found)
      else Chains.longest e text c fuel next best found

/-- Brings more of the text in view as long as there is too little ahead. -/
def Chains.see (size : Nat) : (fuel : Nat) → Chains → Chains
  | 0, c => c
  | fuel + 1, c =>
    if c.isAll || ahead ≤ c.seen - c.place then c
    else
      let slides := window + farthest ≤ c.place - c.base
      let base := if slides then c.base + window else c.base
      let room := base + 2 * window - c.seen
      let more := min room (size - c.seen)
      if more = 0 then { c with base := base, isAll := true }
      else Chains.see size fuel { c with base := base, seen := c.seen + more }

/-- A block of a text. -/
structure Block where
  items : List Item
  first : Nat
  last : Nat
  /-- The bytes of the block are still in view. -/
  isInView : Bool
  isLast : Bool

/-- The block at hand, ended before the next place. -/
def Chains.block (c : Chains) (isLast : Bool) : Block :=
  ⟨c.items.reverse, c.blockStart, c.place, c.base ≤ c.blockStart, isLast⟩

/-- Adds an item to the block at hand; gives whether the block ends behind it. `upTo` is how far the
text has been looked at. -/
def Chains.add (e : Effort) (i : Item) (upTo : Nat) (c : Chains) : Bool × Chains :=
  let (repeats, room) := match i with
    | .byte _ => (0, 0)
    | .again _ distance => (1, 5 + distanceBits.getD (lastUpTo distanceStarts distance) 0)
  let c :=
    { c with items := i :: c.items, count := c.count + 1, repeats := c.repeats + repeats
             distanceRoom := c.distanceRoom + room }
  let pays := 2 < e.level && c.count % 4096 == 0 && c.repeats < c.count / 2 &&
    (c.count * 8 + c.distanceRoom) / 8 < (upTo - c.blockStart) / 2
  (pays || c.count == 32767 || c.repeats == 32768, c)

/-- Begins a new block at the place at hand. -/
def Chains.renew (c : Chains) : Chains :=
  { c with blockStart := c.place, items := [], count := 0, repeats := 0, distanceRoom := 0 }

/-- The longest repeat at the place at hand, whose chain begins so; longer than `best`, and not longer
than the text. -/
def Chains.found (e : Effort) (text : Array UInt8) (c : Chains) (head best before : Nat) :
    Nat × Nat :=
  let chain := if e.good ≤ best then e.chain / 4 else e.chain
  let (length, place) := c.longest e text chain head best before
  (min length (c.seen - c.place), place)

/-- A chain begins where repeats can lie. -/
def Chains.reaches (c : Chains) (head : Nat) : Bool :=
  head != 0 && c.place + 1 - head ≤ farthest && c.place - c.base ≤ 2 * window - ahead

/-- The blocks of a text from the place at hand on, when repeats are used as they are found. -/
def hurried (e : Effort) (text : Array UInt8) : (fuel : Nat) → (done : List Block) → Chains →
    List Block
  | 0, done, c => (c.block true :: done).reverse
  | fuel + 1, done, c =>
    if c.seen ≤ c.place then (c.block true :: done).reverse
    else
      let (head, c) := c.insert text c.place
      let (length, found) := if c.reaches head then c.found e text head 2 0 else (0, 0)
      let (ends, c) :=
        if 3 ≤ length then
          let (ends, c) := c.add e (.again length (c.place - found)) c.place
          let c := if length ≤ e.idle then c.insertAll text (length - 1) (c.place + 1) else c
          (ends, { c with place := c.place + length })
        else
          let (ends, c) := c.add e (.byte (byteAt text c.place)) c.place
          (ends, { c with place := c.place + 1 })
      let (done, c) := if ends then (c.block false :: done, c.renew) else (done, c)
      hurried e text fuel done (c.see text.size 4)

/-- What is known of the place before. -/
structure Former where
  length : Nat := 2
  place : Nat := 0
  /-- The byte there has still to be told. -/
  owed : Bool := false

/-- The blocks of a text from the place at hand on, when better repeats are looked for. -/
def patient (e : Effort) (text : Array UInt8) : (fuel : Nat) → (done : List Block) → Former →
    Chains → List Block
  | 0, done, _, c => (c.block true :: done).reverse
  | fuel + 1, done, f, c =>
    if c.seen ≤ c.place then
      let c := if f.owed then (c.add e (.byte (byteAt text (c.place - 1))) c.place).2 else c
      (c.block true :: done).reverse
    else
      let (head, c) := c.insert text c.place
      let (length, found) :=
        if c.reaches head && f.length < e.idle then
          let (length, found) := c.found e text head f.length f.place
          if length = 3 ∧ 4096 < c.place - found then (2, found) else (length, found)
        else (2, f.place)
      if 3 ≤ f.length && length ≤ f.length then
        let (ends, c) := c.add e (.again f.length (c.place - 1 - f.place)) c.place
        let c := c.insertAll text (f.length - 2) (c.place + 1)
        let c := { c with place := c.place + f.length - 1 }
        let (done, c) := if ends then (c.block false :: done, c.renew) else (done, c)
        patient e text fuel done { length := 2, place := found } (c.see text.size 4)
      else if f.owed then
        let (ends, c) := c.add e (.byte (byteAt text (c.place - 1))) c.place
        let (done, c) := if ends then (c.block false :: done, c.renew) else (done, c)
        patient e text fuel done ⟨length, found, true⟩
          (Chains.see text.size 4 { c with place := c.place + 1 })
      else
        patient e text fuel done ⟨length, found, true⟩
          (Chains.see text.size 4 { c with place := c.place + 1 })

/-- The blocks that a text is told by. -/
def blocksOf (e : Effort) (text : Array UInt8) : List Block :=
  let c := Chains.see text.size 4 { seen := min text.size (2 * window) }
  if e.hurries then hurried e text (text.size + 1) [] c
  else patient e text (text.size + 1) [] {} c

/-!
## Texts made smaller

A text is written in blocks. Each is written in the shortest of three ways: as it is, with the usual
codes, or with codes of its own, which are told first.
-/

/-- Bits in writing. -/
structure Bits where
  bytes : Array UInt8 := #[]
  /-- The bits of the byte at hand. -/
  rest : Nat := 0
  count : Nat := 0

namespace Bits

/-- Writes whole bytes of what is at hand. -/
def flush : (fuel : Nat) → Bits → Bits
  | 0, b => b
  | fuel + 1, b =>
    if b.count < 8 then b
    else
      flush fuel
        { bytes := b.bytes.push (UInt8.ofNat b.rest), rest := b.rest / 256, count := b.count - 8 }

/-- Writes so many bits, the lowest first. -/
def put (b : Bits) (value length : Nat) : Bits :=
  flush 4 { b with rest := b.rest + value * Nat.pow 2 b.count, count := b.count + length }

/-- Writes a code. -/
def putCode (b : Bits) (table : Array (Nat × Nat)) (symbol : Nat) : Bits :=
  let (code, length) := table.getD symbol (0, 0)
  b.put code length

/-- Goes on to the next byte. -/
def align (b : Bits) : Bits := if b.count = 0 then b else b.put 0 (8 - b.count)

end Bits

/-- How often symbols occur. -/
structure Usage where
  lengths : Array Nat := Array.replicate 286 0
  distances : Array Nat := Array.replicate 30 0

/-- The symbol of a length, and of the distance of a repeat. -/
def lengthSymbol (length : Nat) : Nat := lastUpTo lengthStarts length

/-- How often symbols occur in a block, with its end. -/
def usageOf (items : List Item) : Usage :=
  let start : Usage := { lengths := (Array.replicate 286 0).setIfInBounds 256 1 }
  items.foldl (fun u i =>
    match i with
    | .byte b => { u with lengths := u.lengths.modify b.toNat (· + 1) }
    | .again length distance =>
      { lengths := u.lengths.modify (257 + lengthSymbol length) (· + 1)
        distances := u.distances.modify (lastUpTo distanceStarts distance) (· + 1) }) start

/-- The bits that symbols take with codes of some lengths, and with what comes besides. -/
def roomFor (counts ls : Array Nat) (extra : Nat → Nat) : Nat :=
  (List.range counts.size).foldl (fun n k =>
    n + counts.getD k 0 * (ls.getD k 0 + extra k)) 0

/-- The bits that come besides a symbol for bytes and lengths. -/
def extraBits (symbol : Nat) : Nat := if symbol < 257 then 0 else lengthBits.getD (symbol - 257) 0

/-- Lengths of codes in short: a length or a run, with the bits that tell how long the run is. -/
structure Told where
  symbol : Nat
  value : Nat := 0
  bits : Nat := 0

/-- Lengths of codes in short, behind a former one; `fuel` bounds their number. -/
def toldLengths : (fuel : Nat) → (former : Option Nat) → List Nat → List Told
  | 0, _, _ | _, _, [] => []
  | fuel + 1, former, n :: rest =>
    let most := if n = 0 then 138 else if some n = former then 6 else 7
    let least := if n = 0 || some n = former then 3 else 4
    let count := ((n :: rest).take most |>.takeWhile (· == n)).length
    let here : List Told :=
      if count < least then List.replicate count { symbol := n }
      else if n ≠ 0 then
        if some n = former then [{ symbol := 16, value := count - 3, bits := 2 }]
        else [{ symbol := n }, { symbol := 16, value := count - 4, bits := 2 }]
      else if count ≤ 10 then [{ symbol := 17, value := count - 3, bits := 3 }]
      else [{ symbol := 18, value := count - 11, bits := 7 }]
    here ++ toldLengths fuel (some n) (rest.drop (count - 1))

/-- The lengths up to the last symbol that has a code; there are so many at least. -/
def upToLast (least : Nat) (ls : Array Nat) : List Nat :=
  let last := ((List.range ls.size).reverse.find? fun n => ls.getD n 0 ≠ 0).getD 0
  ls.toList.take (max least (last + 1))

/-- Writes the items of a block, and its end. -/
def putItems (b : Bits) (codes distances : Array (Nat × Nat)) (items : List Item) : Bits :=
  let b := items.foldl (fun b i =>
    match i with
    | .byte x => b.putCode codes x.toNat
    | .again length distance =>
      let l := lengthSymbol length
      let d := lastUpTo distanceStarts distance
      let b := (b.putCode codes (257 + l)).put (length - lengthStarts.getD l 0) (lengthBits.getD l 0)
      (b.putCode distances d).put (distance - distanceStarts.getD d 0) (distanceBits.getD d 0)) b
  b.putCode codes 256

/-- Writes a part of a text as it is. -/
def putPlain (b : Bits) (text : Array UInt8) (first last : Nat) : Bits :=
  let b := b.align
  let length := last - first
  let b := (b.put length 16).put (65535 - length) 16
  { b with bytes := b.bytes ++ text.extract first last }

/-- Writes a block of a text. -/
def putBlock (text : Array UInt8) (b : Bits) (k : Block) : Bits :=
  let usage := usageOf k.items
  let ls := lengths usage.lengths 15
  let ds := lengths usage.distances 15
  let lengthList := upToLast 257 ls
  let distanceList := upToLast 1 ds
  let told (xs : List Nat) : List Told := toldLengths (xs.length + 1) none xs
  let table := told lengthList ++ told distanceList
  let tableUsage := table.foldl (fun (ns : Array Nat) t => ns.modify t.symbol (· + 1))
    (Array.replicate 19 0)
  let ts := lengths tableUsage 7
  let order := (toldOrder.reverse.dropWhile fun n => ts.getD n 0 == 0).reverse
  let order := toldOrder.take (max 4 order.length)
  let distanceRoom (lengths : Array Nat) : Nat :=
    roomFor usage.distances lengths fun n => distanceBits.getD n 0
  let tableRoom := roomFor tableUsage ts fun n =>
    if n = 16 then 2 else if n = 17 then 3 else if n = 18 then 7 else 0
  let own := roomFor usage.lengths ls extraBits + distanceRoom ds + tableRoom + 3 * order.length + 14
  let usual := roomFor usage.lengths usualLengths extraBits + distanceRoom usualDistances
  let bytes (room : Nat) : Nat := (room + 10) / 8
  let best := min (bytes own) (bytes usual)
  let size := k.last - k.first
  let isLast := if k.isLast then 1 else 0
  let b :=
    if size + 4 ≤ best && k.isInView then putPlain (b.put isLast 3) text k.first k.last
    else if bytes usual ≤ bytes own then
      putItems (b.put (2 + isLast) 3) (codes usualLengths) (codes usualDistances) k.items
    else
      let b := b.put (4 + isLast) 3
      let b := ((b.put (lengthList.length - 257) 5).put (distanceList.length - 1) 5).put
        (order.length - 4) 4
      let b := order.foldl (fun b n => b.put (ts.getD n 0) 3) b
      let tableCodes := codes ts
      let b := table.foldl (fun b t => (b.putCode tableCodes t.symbol).put t.value t.bits) b
      putItems b (codes ls) (codes ds) k.items
  if k.isLast then b.align else b

/-- A text made smaller. -/
def compress (level : Nat) (text : Array UInt8) : Array UInt8 :=
  ((blocksOf (Effort.ofLevel level) text).foldl (putBlock text) {}).bytes

/-!
## Members of compressed files

A compressed file consists of members. Each begins with a head that may hold a name and a time, and
ends with a check and the length of its text.
-/

/-- The check of each single byte. -/
def checkTable : Array UInt32 :=
  ((List.range 256).map fun n =>
    (List.range 8).foldl (fun (c : UInt32) _ =>
      if c % 2 = 1 then (0xEDB88320 : UInt32) ^^^ (c >>> 1) else c >>> 1) (UInt32.ofNat n)).toArray

/-- The check of a text. -/
def checkOf (text : Array UInt8) : UInt32 :=
  (text.foldl (fun (c : UInt32) b =>
    checkTable.getD ((c ^^^ b.toUInt32) % 256).toNat 0 ^^^ (c >>> 8)) 0xFFFFFFFF) ^^^ 0xFFFFFFFF

/-- A number as so many bytes, the lowest first. -/
def littleEndian : (count : Nat) → Nat → List UInt8
  | 0, _ => []
  | count + 1, n => UInt8.ofNat (n % 256) :: littleEndian count (n / 256)

/-- The number that bytes are, the lowest first. -/
def ofLittleEndian : List UInt8 → Nat
  | [] => 0
  | b :: rest => b.toNat + 256 * ofLittleEndian rest

/-- A member with a text; a time of zero tells none. -/
def pack (level : Nat) (name : Option String) (seconds : Nat) (text : Array UInt8) : Array UInt8 :=
  let effort : UInt8 := if level = 1 then 4 else if level = 9 then 2 else 0
  let head : List UInt8 := [0x1F, 0x8B, 8, if name.isSome then 8 else 0] ++ littleEndian 4 seconds ++
    [effort, 3] ++ ((name.map fun n => Raw.bytesOfString n ++ [0]).getD [])
  head.toArray ++ compress level text ++ (littleEndian 4 (checkOf text).toNat).toArray ++
    (littleEndian 4 text.size).toArray

/-- What is wrong with a compressed file. -/
inductive Fault where
  /-- It is none. -/
  | foreign
  | short
  /-- The bytes mean nothing. -/
  | format
  | check
  | length
  /-- It was made in another way, of which the number is told. -/
  | method (n : Nat)
  deriving DecidableEq

/-- What is behind the members. -/
inductive Trailing where
  | nothing
  | zeros
  | other
  deriving DecidableEq

/-- What a compressed file holds. -/
structure Content where
  text : Array UInt8 := #[]
  /-- The name in the first member. -/
  name : Option (List UInt8) := none
  /-- The time in the first member. -/
  seconds : Nat := 0
  /-- The check of the last member. -/
  check : Nat := 0
  /-- The bytes of the last member beside its text. -/
  frame : Nat := 0
  trailing : Trailing := .nothing

/-- The place behind a text that ends with a zero. -/
def behindZero (bytes : Array UInt8) : (fuel : Nat) → (place : Nat) → Except Fault Nat
  | 0, _ => .error .short
  | fuel + 1, place =>
    match bytes[place]? with
    | none => .error .short
    | some 0 => .ok (place + 1)
    | some _ => behindZero bytes fuel (place + 1)

/-- The place behind the head of a member, and the name in it. -/
def takeHead (bytes : Array UInt8) (place : Nat) : Except Fault (Nat × Option (List UInt8)) := do
  let at_ (n : Nat) : Nat := (bytes.getD (place + n) 0).toNat
  if bytes.size < place + 3 then .error .short
  if at_ 2 ≠ 8 then .error (.method (at_ 2))
  if bytes.size < place + 10 then .error .short
  let flags := at_ 3
  let isOn (bit : Nat) : Bool := flags / bit % 2 == 1
  let next := place + 10
  let next := if isOn 4 then next + 2 + at_ 10 + 256 * at_ 11 else next
  let behindName ← if isOn 8 then behindZero bytes bytes.size next else .ok next
  let name := if isOn 8 then some (bytes.extract next (behindName - 1)).toList else none
  let behindNote ← if isOn 16 then behindZero bytes bytes.size behindName else .ok behindName
  let behind := if isOn 2 then behindNote + 2 else behindNote
  if bytes.size < behind then .error .short
  .ok (behind, name)

/-- The bytes at a place are the mark of a member. -/
def isMarked (bytes : Array UInt8) (place : Nat) : Bool :=
  bytes[place]? == some 0x1F && bytes[place + 1]? == some 0x8B

/-- What the members from a place on hold; `fuel` bounds their number. -/
def takeMembers (bytes : Array UInt8) : (fuel : Nat) → (first : Bool) → (place : Nat) → Content →
    Except (Fault × Array UInt8) Content
  | 0, _, _, c => .ok c
  | fuel + 1, first, place, c => do
    let fail (f : Fault) : Except (Fault × Array UInt8) Content := .error (f, c.text)
    if !isMarked bytes place then
      if first then fail (if bytes.size < 2 then .short else .foreign)
      else
        let rest := bytes.extract place bytes.size
        .ok { c with trailing := if rest.isEmpty then .nothing
                       else if rest.all (· == 0) then .zeros else .other }
    else
      match takeHead bytes place with
      | .error f => fail f
      | .ok (start, name) =>
        match expand bytes start with
        | .error (.short, text) => .error (.short, c.text ++ text)
        | .error (.wrong, text) =>
          -- What is not a whole window is not given away before all is well.
          .error (.format, c.text ++ text.extract 0 (text.size / window * window))
        | .ok (text, behind) =>
          let all := c.text ++ text
          if bytes.size < behind + 8 then .error (.short, all)
          else
            let check := ofLittleEndian (bytes.extract behind (behind + 4)).toList
            let length := ofLittleEndian (bytes.extract (behind + 4) (behind + 8)).toList
            if check ≠ (checkOf text).toNat then .error (.check, all)
            else if length ≠ text.size % 4294967296 then .error (.length, all)
            else
              let seconds := ofLittleEndian (bytes.extract (place + 4) (place + 8)).toList
              takeMembers bytes fuel false (behind + 8)
                { text := all, name := if first then name else c.name
                  seconds := if first then seconds else c.seconds, check := check
                  frame := start - place + 8 }

/-- What a compressed file holds; with an error comes what could be read. -/
def unpack (bytes : Array UInt8) : Except (Fault × Array UInt8) Content :=
  takeMembers bytes (bytes.size + 1) true 0 {}

end Runbook.Shell.Deflate
