import Runbook.Shell.Tool.Characters
import Runbook.Shell.Tool.Date

/-!
# `Shell/Tool/Page` — text on pages

`pr` lays texts out on pages: with a head and room at the foot, in one column or in several, which
are filled downwards or across, or with several texts side by side.

Here is what a page looks like (`Style`), how single lines are written (`Style.cell`), and what is
taken from a text at a time (`takeLine`).
-/

set_option autoImplicit false

namespace Runbook.Shell.Page

/-- A character that leads to the next of some stops, and how far these lie apart. -/
structure Tabs where
  mark : Char := '\t'
  step : Nat := 8

/-- The stop behind a position. -/
def stopAfter (step : Nat) (position : Int) : Int := position + (step - position.tmod step)

/-- Numbers of lines. -/
structure Numbers where
  /-- What stands behind a number. -/
  mark : Char := '\t'
  digits : Nat := 5

/-- The places that a number takes with what stands behind it. -/
def Numbers.width (n : Numbers) : Nat :=
  if n.mark = '\t' then (stopAfter 8 n.digits).toNat else n.digits + 1

/-- How pages look. -/
structure Style where
  columns : Nat := 1
  /-- The columns are texts of their own. -/
  beside : Bool := false
  /-- The columns of a page are read before they are written. -/
  stores : Bool := false
  /-- The lines of a page that are for text. -/
  body : Nat := 56
  /-- Pages have a head and a foot. -/
  headed : Bool := true
  /-- Form feeds of the text are passed on. -/
  keepsFeeds : Bool := false
  doubled : Bool := false
  /-- A form feed ends a page, and not empty lines. -/
  feeds : Bool := false
  /-- The places of a column. -/
  width : Nat := 72
  /-- The places of a line. -/
  full : Nat := 72
  margin : Nat := 0
  separator : List Char := []
  separates : Bool := false
  /-- Lines that are wider than a column are cut. -/
  cuts : Bool := false
  input : Tabs := {}
  /-- Tabs of the text become spaces. -/
  expands : Bool := false
  output : Tabs := {}
  /-- Spaces become tabs. -/
  shrinks : Bool := false
  numbers : Option Numbers := none
  /-- Lines that are skipped do not count. -/
  firstLine : Option Int := none
  hats : Bool := false
  octal : Bool := false
  firstPage : Nat := 1
  lastPage : Option Nat := none
  date : String := "%Y-%m-%d %H:%M"
  title : Option String := none

/-- The places that the number of a line takes. -/
def Style.numberWidth (s : Style) : Nat := (s.numbers.map Numbers.width).getD 0

/-- A byte with a backslash and three digits. -/
def octalByte (n : Nat) : List Char := '\\' :: octal3 n

/-- A byte as it is written at a position, and the position behind it. -/
def Style.clump (s : Style) (position : Int) (c : Char) : List Char × Int :=
  let isTab := c == s.input.mark || c == '\t'
  let n := Characters.byteOf c
  let (cs, width) : List Char × Int :=
    if isTab then
      let step := if c = s.input.mark then s.input.step else 8
      let width := stopAfter step position - position
      (if s.expands then List.replicate width.toNat ' ' else [c], width)
    else if 32 ≤ n && n < 127 then ([c], 1)
    else if s.octal || (s.hats && 128 ≤ n) then (octalByte n, 4)
    else if s.hats then (['^', Char.ofNat (n ^^^ 64)], 2)
    else if c = '\x08' then ([c], -1)
    else ([c], 0)
  if width < 0 && position = 0 then ([], 0) else (cs, max 0 (position + width))

/-- Bytes as they are written from a position on, as far as a column is wide, and the position behind
them. -/
def Style.clumps (s : Style) : (position : Int) → (done : List Char) → List Char → List Char × Int
  | position, done, [] => (done.reverse, position)
  | position, done, c :: rest =>
    let (cs, next) := s.clump position c
    if s.cuts && (s.width : Int) < next then (done.reverse, position)
    else s.clumps next (cs.reverse ++ done) rest

/-- A line as it is written behind so many places for a number, and the position behind it; nothing
if not even its beginning has room. What the beginning takes does not depend on the number. -/
def Style.cell? (s : Style) (number : Nat) : List Char → Option (List Char × Int)
  | [] => some ([], number)
  | c :: rest =>
    let (cs, next) := s.clump 0 c
    if s.cuts && (s.width : Int) < next then none
    else some (s.clumps (next + number) cs.reverse rest)

/-- How a line ends. -/
inductive Ending where
  | line
  | page
  | text

/-- What comes next in a text. -/
inductive Coming where
  /-- Nothing more. -/
  | nothing
  /-- The end of a page without a line. -/
  | feed
  | line (text : List Char) (ending : Ending)

/-- Text without the end of a line that it may begin with. -/
def dropEnd : List Char → List Char
  | '\n' :: rest => rest
  | cs => cs

/-- What comes next in a text, and what is behind it. A form feed right behind a page that has been
filled means nothing. -/
def takeLine (filled : Bool) (cs : List Char) : Coming × List Char :=
  let cs := match cs with
    | '\x0c' :: rest => if filled then dropEnd rest else cs
    | _ => cs
  match cs with
  | [] => (.nothing, [])
  | '\x0c' :: rest => (.feed, dropEnd rest)
  | _ =>
    let (text, rest) := cs.span fun c => c != '\n' && c != '\x0c'
    match rest with
    | [] => (.line text .text, [])
    | '\n' :: rest => (.line text .line, rest)
    | _ :: rest => (.line text .page, dropEnd rest)

/-!
## Filling pages

Pages are filled row by row. What separates columns, and the room in front of one, is written only
when something follows in the row (`Sheet.spaces`, `Sheet.separators`, `Sheet.start`); a page has a
head only if there is something on it.
-/

/-- What can be had from a column. -/
inductive Status where
  | ready
  /-- What has been read of it ends with its page. -/
  | fed
  /-- There is more of it on the next page. -/
  | held
  | closed
  deriving DecidableEq

/-- A column of a page. -/
structure Column where
  /-- The place of its text. -/
  source : Nat
  status : Status := .ready
  /-- It went on to the foot of the page before. -/
  filled : Bool := false
  /-- The lines that it has still room for. -/
  left : Int := 0
  /-- The lines that have been read for it. -/
  stored : Nat := 0
  /-- The place of the next of them. -/
  current : Nat := 0
  start : Nat := 0
  numbered : Bool := false

instance : Inhabited Column := ⟨{ source := 0 }⟩

/-- Pages that are being filled. -/
structure Sheet where
  texts : Array (List Char)
  columns : Array Column
  /-- The texts that can be read. -/
  ready : Int
  /-- What has been written, the latest first. -/
  done : List Char := []
  /-- What has been read for the columns, and how far each line goes. -/
  lines : Array (List Char × Int) := #[]
  position : Int := 0
  /-- Spaces that are owed. -/
  spaces : Int := 0
  /-- Separators that are owed. -/
  separators : Nat := 0
  /-- Where the column begins, if that is not reached. -/
  start : Nat := 0
  number : Int := 1
  page : Nat := 1
  /-- The page has still to get its head. -/
  headDue : Bool := false
  /-- A form feed is to be passed on. -/
  feedDue : Bool := false
  onlyFeed : Bool := false
  /-- Something is in the row. -/
  filled : Bool := false
  /-- No text is in the row. -/
  blank : Bool := true
  /-- Columns in front have nothing, and their room is owed. -/
  alignDue : Bool := false

/-- Filling pages. -/
abbrev Filling := StateM Sheet

namespace Filling

/-- The column at a place. -/
def column (n : Nat) : Filling Column := do pure ((← get).columns[n]?.getD default)

/-- Changes the column at a place. -/
def alter (n : Nat) (f : Column → Column) : Filling Unit :=
  modify fun t => { t with columns := t.columns.modify n f }

/-- Changes every column. -/
def alterAll (f : Column → Column) : Filling Unit :=
  modify fun t => { t with columns := t.columns.map f }

/-- Writes characters as they are. -/
def put (cs : List Char) : Filling Unit := modify fun t => { t with done := cs.reverse ++ t.done }

/-- The characters that lead from one position to another. -/
def gap (tabs : Tabs) : (fuel : Nat) → (position goal : Int) → List Char
  | 0, _, _ => []
  | fuel + 1, position, goal =>
    if goal ≤ position then []
    else
      let next := stopAfter tabs.step position
      if 1 < goal - position && next ≤ goal then tabs.mark :: gap tabs fuel next goal
      else List.replicate (goal - position).toNat ' '

/-- Writes the spaces that are owed. -/
def putSpaces (s : Style) : Filling Unit := do
  let t ← get
  let goal := t.position + t.spaces
  put (gap s.output (t.spaces.toNat + 1) t.position goal)
  modify fun t => { t with position := goal, spaces := 0 }

/-- Writes a character of a line. -/
def putChar (s : Style) (c : Char) : Filling Unit := do
  if s.shrinks && c == ' ' then modify fun t => { t with spaces := t.spaces + 1 }
  else
    if s.shrinks then
      if 0 < (← get).spaces then putSpaces s
      let n := c.toNat
      let width : Int := if 32 ≤ n && n < 127 then 1 else if c = '\x08' then -1 else 0
      modify fun t => { t with position := t.position + width }
    put [c]

/-- Goes on to a position. -/
def padTo (s : Style) (position : Int) : Filling Unit := do
  if s.shrinks then modify fun t => { t with spaces := position - t.position }
  else
    put (List.replicate (position - (← get).position).toNat ' ')
    modify fun t => { t with position := position }

/-- Goes on to where the column begins, less what separates it. -/
def padToStart (s : Style) : Filling Unit := do
  let start := (← get).start
  if s.separator.length < start then
    padTo s (start - s.separator.length)
    modify fun t => { t with start := 0 }

/-- Writes what separates columns. Of several separators that are owed, one is written. -/
def putSeparator (s : Style) : Filling Unit := do
  if (← get).separators = 0 then
    if 0 < (← get).spaces then putSpaces s
  else
    for c in s.separator do
      if c = ' ' then modify fun t => { t with spaces := t.spaces + 1 }
      else
        if 0 < (← get).spaces then putSpaces s
        put [c]
        modify fun t => { t with position := t.position + 1 }
    if 0 < (← get).spaces then putSpaces s
    modify fun t => { t with separators := 0 }

/-- The number of the next line, with what stands behind it. -/
def takeNumber (s : Style) (n : Numbers) : Filling (List Char) := do
  let digits := padLeft n.digits ' ' (intText (← get).number).toList
  modify fun t => { t with number := t.number + 1 }
  let tail :=
    if n.mark = '\t' && 1 < s.columns then List.replicate (n.width - n.digits) ' ' else [n.mark]
  pure (digits.drop (digits.length - n.digits) ++ tail)

/-- Writes the number of the next line. -/
def putNumber (s : Style) : Filling Unit := do
  if let some n := s.numbers then
    let cs ← takeNumber s n
    for c in cs do putChar s c
    if s.columns ≤ 1 && n.mark == '\t' then
      modify fun t => { t with position := stopAfter s.output.step t.position }

/-- Writes the head of a page; `date` and `title` are in it. -/
def putHead (s : Style) (date title : String) : Filling Unit := do
  modify fun t => { t with position := 0 }
  padTo s s.margin
  putSpaces s
  let page := "Page " ++ natText (← get).page
  let room := s.full - date.length - title.length - page.length
  let blank (n : Nat) : String := String.ofList (List.replicate n ' ')
  put ("\n\n" ++ blank s.margin ++ date ++ blank (max 1 (room / 2)) ++ title ++
    blank (max 1 (room - room / 2)) ++
    page ++ "\n\n\n").toList
  modify fun t => { t with headDue := false, position := 0 }

/-! ## Reading columns -/

/-- A text is at its end. -/
def close (s : Style) (n : Nat) : Filling Unit := do
  if (← column n).status != .closed then
    if s.beside then alter n fun p => { p with status := .closed, left := 0 }
    else
      alterAll fun p =>
        { p with status := .closed, left := if p.stored = 0 then 0 else p.left }
    modify fun t => { t with ready := t.ready - 1 }

/-- The page of a column is at its end. -/
def hold (s : Style) (n : Nat) : Filling Unit := do
  if s.beside then alter n fun p => { p with status := .held }
  else alterAll fun p => { p with status := if s.stores then .fed else .held }
  alter n fun p => { p with left := 0 }
  modify fun t => { t with ready := t.ready - 1 }

/-- Takes what comes next in the text of a column. -/
def take (n : Nat) : Filling Coming := do
  let p ← column n
  let (coming, rest) := takeLine p.filled ((← get).texts[p.source]?.getD [])
  modify fun t => { t with texts := t.texts.setIfInBounds p.source rest }
  alter n fun p => { p with filled := false }
  pure coming

/-- A form feed has been met. -/
def meetFeed (s : Style) (n : Nat) : Filling Unit := do
  if s.keepsFeeds then modify fun t => { t with feedDue := true }
  hold s n

/-- A line has ended. -/
def meet (s : Style) (n : Nat) : Ending → Filling Unit
  | .line => pure ()
  | .page => meetFeed s n
  | .text => close s n

/-- The places in a column that the number of a line takes. -/
def numberRoom (s : Style) (p : Column) : Nat :=
  if p.numbered && s.cuts && !s.beside then s.numberWidth else 0

/-- Reads a line for a column, which is written later. -/
def store (s : Style) (n : Nat) : Filling Unit := do
  match ← take n with
  | .nothing => close s n
  | .feed =>
    modify fun t => { t with onlyFeed := true }
    meetFeed s n
  | .line text ending =>
    let p ← column n
    let (cs, width) ← match s.cell? (numberRoom s p) text with
      | none => pure ([], 0)
      | some (cs, width) =>
        let digits ← match s.numbers with
          | some k => if p.numbered then takeNumber s k else pure []
          | none => pure []
        pure (digits ++ cs, width)
    meet s n ending
    if (← column n).status = .ready || !cs.isEmpty then
      alter n fun p => { p with stored := p.stored + 1 }
      modify fun t => { t with lines := t.lines.push (cs, width) }

/-- Reads lines for a column; `left` of them at most. -/
def storeColumn (s : Style) (n : Nat) : (fuel left : Nat) → Filling Unit
  | 0, _ | _, 0 => pure ()
  | fuel + 1, left + 1 => do
    if 0 < (← get).ready then
      if (← column n).status = .ready then store s n
      storeColumn s n fuel left

/-- Reads the columns of a page, and gives each as many lines as the others. -/
def storePage (s : Style) (fuel : Nat) : Filling Unit := do
  modify fun t => { t with lines := #[] }
  alterAll fun p => { p with stored := 0 }
  for n in List.range s.columns do
    if 0 < (← get).ready then storeColumn s n fuel s.body
  let count := (← get).lines.size
  let mut first := 0
  for n in List.range s.columns do
    let lines := count / s.columns + (if n < count % s.columns then 1 else 0)
    alter n fun p => { p with stored := lines, current := first, left := lines }
    first := first + lines

/-! ## Writing rows -/

/-- Writes the room of a column that has nothing. -/
def align (s : Style) (n : Nat) : Filling Unit := do
  let p ← column n
  modify fun t => { t with start := p.start }
  padToStart s
  if s.separates then putSeparator s
  if p.numbered then putNumber s

/-- Writes a line of a column that has been read before. -/
def putStored (s : Style) (head : Filling Unit) (n : Nat) : Filling Unit := do
  let p ← column n
  alter n fun p => { p with current := p.current + 1 }
  modify fun t => { t with filled := true }
  if (← get).headDue then head
  let mut only := false
  if p.status = .fed then
    alterAll fun p => { p with status := .held }
    if (← column 0).left ≤ 0 then
      only := true
      if !s.headed then modify fun t => { t with filled := false }
  if !only then
    padToStart s
    if s.separates then putSeparator s
    let (cs, width) := (← get).lines[p.current]?.getD ([], 0)
    for c in cs do putChar s c
    if (← get).spaces = 0 then
      let back := if p.start = s.separator.length + s.margin then s.separator.length else 0
      modify fun t => { t with position := p.start + width - back }

/-- Reads a line of a column and writes it. -/
def putRead (s : Style) (head : Filling Unit) (n : Nat) : Filling Unit := do
  match ← take n with
  | .nothing => close s n
  | .feed =>
    modify fun t => { t with onlyFeed := true }
    if (← get).headDue && !s.stores then
      modify fun t => { t with filled := true }
      head
      hold s n
    else meetFeed s n
  | .line text ending =>
    let p ← column n
    if let some (cs, _) := s.cell? (numberRoom s p) text then
      modify fun t => { t with filled := true }
      if (← get).headDue && !s.stores then head
      if s.beside && (← get).alignDue then
        let owed := (← get).separators
        modify fun t => { t with separators := 0 }
        for k in List.range owed do
          align s k
          modify fun t => { t with separators := t.separators + 1 }
        modify fun t =>
          { t with start := p.start, spaces := if s.cuts then s.width else 0, alignDue := false }
      padToStart s
      if s.separates then putSeparator s
      if p.numbered then putNumber s
      modify fun t => { t with blank := false }
      for c in cs do putChar s c
    meet s n ending

/-- How many columns have something for the page. -/
def waiting (s : Style) : Filling Nat := do
  let t ← get
  pure (t.columns.foldl (fun n p =>
    if p.status = .ready || p.status = .fed || (s.stores && 0 < p.stored && 0 < p.left) then n + 1
    else n) 0)

/-- Writes a row; gives whether there is something in it or in those before it. -/
def putRow (s : Style) (head : Filling Unit) (before : Bool) : Filling Bool := do
  modify fun t =>
    { t with position := 0, spaces := 0, separators := 0, filled := false, alignDue := false,
             blank := true }
  let mut some_ := before
  for n in List.range (← get).columns.size do
    let p ← column n
    if 0 < p.left || p.status = .fed then
      modify fun t => { t with onlyFeed := false, start := p.start }
      if s.stores then putStored s head n else putRead s head n
      some_ := some_ || (← get).filled
      alter n fun p => { p with left := p.left - 1 }
      if (← column n).left ≤ 0 then
        if (← waiting s) = 0 then break
      let p ← column n
      if s.beside && p.status != .ready then
        let t ← get
        if t.blank then modify fun t => { t with alignDue := true }
        else if p.status = .closed || (p.status = .held && t.onlyFeed) then align s n
    else if s.beside then
      if (← get).blank then modify fun t => { t with alignDue := true }
      else align s n
    if s.separates then modify fun t => { t with separators := t.separators + 1 }
  pure some_

/-- Writes the rows of a page; gives how many lines are left, and whether there is something on it.
-/
def putRows (s : Style) (head : Filling Unit) : (fuel : Nat) → (left : Int) → (before : Bool) →
    Filling (Int × Bool)
  | 0, left, before => pure (left, before)
  | fuel + 1, left, before => do
    if left ≤ 0 || (← waiting s) = 0 then pure (left, before)
    else
      let before ← putRow s head before
      let mut left := left
      if (← get).filled then
        put ['\n']
        left := left - 1
      if (← waiting s) = 0 && !s.headed then pure (left, before)
      else
        if s.doubled && before then
          put ['\n']
          left := left - 1
        putRows s head fuel left before

/-- What was on hold can be read again. -/
def goOn (s : Style) : Filling Unit := do
  let held := (← get).columns.foldl (fun n p => if p.status = .held then n + 1 else n) 0
  alterAll fun p => { p with status := if p.status = .held then .ready else p.status }
  modify fun t => { t with ready := t.ready + (held : Nat) }
  if s.stores then
    let closed := (← column 0).status = .closed
    modify fun t => { t with ready := if closed then 0 else 1 }

/-- Writes a page; gives whether there may be more. -/
def putPage (s : Style) (head : Filling Unit) (fuel : Nat) : Filling Bool := do
  if s.stores then storePage s fuel
  else alterAll fun p => { p with left := if p.status = .ready then s.body else 0 }
  if (← waiting s) = 0 then pure false
  else
    if s.headed then modify fun t => { t with headDue := true }
    modify fun t => { t with filled := false }
    let rows : Int := if s.doubled then 2 * s.body else s.body
    let (left, something) ← putRows s head fuel rows false
    if left = 0 then
      alterAll fun p => if p.status = .ready then { p with filled := true } else p
    modify fun t => { t with filled := something }
    if something && s.headed then
      put (if s.feeds then ['\x0c'] else List.replicate (left + 5).toNat '\n')
    else if s.keepsFeeds && (← get).feedDue then
      put ['\x0c']
      modify fun t => { t with feedDue := false }
    modify fun t => { t with page := t.page + 1 }
    if s.lastPage.any (· < (← get).page) then pure false
    else
      goOn s
      pure true

/-- Writes pages; `fuel` bounds their number. -/
def putPages (s : Style) (head : Filling Unit) : (fuel : Nat) → Filling Unit
  | 0 => pure ()
  | fuel + 1 => do
    if ← putPage s head (fuel + 1) then putPages s head fuel

/-! ## Skipping pages -/

/-- Skips a line of a column; `last` tells that it is the last one of a page. -/
def skipLine (s : Style) (last : Bool) (n : Nat) : Filling Unit := do
  let coming ← take n
  if last then alter n fun p => { p with filled := true }
  let fed : Filling Unit := do
    if last then
      if s.beside then alter n fun p => { p with filled := false }
      else alterAll fun p => { p with filled := false }
    hold s n
  let counts : Filling Unit := do
    if s.firstLine.isNone && (!s.beside || n = 0) then
      modify fun t => { t with number := t.number + 1 }
  match coming with
  | .nothing =>
    close s n
    counts
  | .feed => fed
  | .line _ ending =>
    match ending with
    | .line => pure ()
    | .page => fed
    | .text => close s n
    counts

/-- Skips rows; `fuel` bounds their number. -/
def skipRows (s : Style) : (fuel rows : Nat) → Filling Unit
  | 0, _ | _, 0 => pure ()
  | fuel + 1, rows + 1 => do
    if (← get).columns.any (·.status = .ready) then
      for n in List.range (← get).columns.size do
        if (← column n).status = .ready then skipLine s (rows == 0) n
      skipRows s fuel rows

/-- Skips pages up to one; `fuel` bounds their number. If there are fewer, it gives how many. -/
def skipPages (s : Style) (goal : Nat) : (fuel page : Nat) → Filling (Option Nat)
  | 0, _ => pure none
  | fuel + 1, page => do
    if goal ≤ page then pure none
    else
      skipRows s (fuel + 1) s.body
      if s.stores then
        alterAll fun p => { p with status := if p.status = .closed then .closed else .held }
      goOn s
      if (← get).ready < 1 then pure (some page) else skipPages s goal fuel (page + 1)

end Filling

/-- The columns of a page, over texts at some places. -/
def Style.layOut (s : Style) (sources : List Nat) : Array Column :=
  let gap := s.separator.length
  let wide := s.width + (if s.beside && s.numbers.isSome then s.numberWidth else 0)
  (sources.zipIdx.map fun (source, n) =>
    let start :=
      if n = 0 then s.margin + gap
      else if !s.cuts then 0
      else s.margin + wide + gap + (n - 1) * (s.width + gap)
    { source := source, start := start, numbered := s.numbers.isSome && (!s.beside || n = 0) }).toArray

end Runbook.Shell.Page
