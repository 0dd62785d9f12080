import Runbook.Console.Width
import Runbook.Shell.Text.Numeral
import Std.Data.HashMap

/-!
# `Shell/Tool/Difference` — what has changed between two sequences

Two sequences of lines are compared by their classes. The changes are a shortest way from one to the
other, found by searching from both ends at once; a run of changes that could stand at several
places stands as late as possible, unless it can meet a run in the other sequence.
-/

set_option autoImplicit false

namespace Runbook.Shell.Difference

/-- A change: from a place in each sequence on, so many elements go and so many come. -/
structure Change where
  first : Nat
  second : Nat
  deleted : Nat
  inserted : Nat
  /-- The change is of no interest. -/
  ignored : Bool := false
  deriving Repr, DecidableEq

/-- Which elements of both sequences are changed. -/
structure Marks where
  first : Array Bool
  second : Array Bool

/-- A place in both sequences through which a shortest way leads. -/
def middle (a b : Array Nat) (xoff xlim yoff ylim : Int) : Int × Int := Id.run do
  let same (x y : Int) : Bool := a[x.toNat]? == b[y.toNat]?
  let shift : Int := ylim + 1
  let size := (xlim - yoff + shift + 3).toNat
  let at_ (v : Array Int) (d : Int) : Int := v.getD (d + shift).toNat (-1)
  let put (v : Array Int) (d x : Int) : Array Int := v.setIfInBounds (d + shift).toNat x
  let far : Int := 1000000000000
  let dmin := xoff - ylim
  let dmax := xlim - yoff
  let fmid := xoff - yoff
  let bmid := xlim - ylim
  let mut fmin := fmid
  let mut fmax := fmid
  let mut bmin := bmid
  let mut bmax := bmid
  let odd := (fmid - bmid) % 2 != 0
  let mut fd := put (Array.replicate size (-1)) fmid xoff
  let mut bd := put (Array.replicate size far) bmid xlim
  for _ in [0:(xlim - xoff + (ylim - yoff)).toNat + 1] do
    -- One step more from the front, on each diagonal.
    if dmin < fmin then
      fmin := fmin - 1
      fd := put fd (fmin - 1) (-1)
    else fmin := fmin + 1
    if fmax < dmax then
      fmax := fmax + 1
      fd := put fd (fmax + 1) (-1)
    else fmax := fmax - 1
    for k in [0:((fmax - fmin) / 2 + 1).toNat] do
      let d := fmax - 2 * k
      let low := at_ fd (d - 1)
      let high := at_ fd (d + 1)
      let mut x := if low < high then high else low + 1
      for _ in [0:(xlim - x).toNat] do
        if x < xlim && x - d < ylim && same x (x - d) then x := x + 1 else break
      fd := put fd d x
      if odd && bmin ≤ d && d ≤ bmax && at_ bd d ≤ x then return (x, x - d)
    -- One step more from the back.
    if dmin < bmin then
      bmin := bmin - 1
      bd := put bd (bmin - 1) far
    else bmin := bmin + 1
    if bmax < dmax then
      bmax := bmax + 1
      bd := put bd (bmax + 1) far
    else bmax := bmax - 1
    for k in [0:((bmax - bmin) / 2 + 1).toNat] do
      let d := bmax - 2 * k
      let low := at_ bd (d - 1)
      let high := at_ bd (d + 1)
      let mut x := if low < high then low else high - 1
      for _ in [0:(x - xoff).toNat] do
        if xoff < x && yoff < x - d && same (x - 1) (x - d - 1) then x := x - 1 else break
      bd := put bd d x
      if !odd && fmin ≤ d && d ≤ fmax && x ≤ at_ fd d then return (x, x - d)
  return (xoff, yoff)

/-- Marks the changes between two parts; `fuel` bounds how often they are divided. -/
def mark (a b : Array Nat) : (fuel : Nat) → (xoff xlim yoff ylim : Nat) → Marks → Marks
  | 0, _, _, _, _, m => m
  | fuel + 1, xoff, xlim, yoff, ylim, m => Id.run do
    let mut x0 := xoff
    let mut y0 := yoff
    for _ in [0:xlim - xoff] do
      if x0 < xlim && y0 < ylim && a[x0]? == b[y0]? then
        x0 := x0 + 1
        y0 := y0 + 1
      else break
    let mut x1 := xlim
    let mut y1 := ylim
    for _ in [0:xlim - xoff] do
      if x0 < x1 && y0 < y1 && a[x1 - 1]? == b[y1 - 1]? then
        x1 := x1 - 1
        y1 := y1 - 1
      else break
    let mut m := m
    if x0 == x1 then
      for y in [y0:y1] do
        m := { m with second := m.second.setIfInBounds y true }
      return m
    else if y0 == y1 then
      for x in [x0:x1] do
        m := { m with first := m.first.setIfInBounds x true }
      return m
    else
      let (xm, ym) := middle a b x0 x1 y0 y1
      return mark a b fuel xm.toNat x1 ym.toNat y1 (mark a b fuel x0 xm.toNat y0 ym.toNat m)

/-- An element is marked; there are none outside of the sequence. -/
def isMarked (v : Array Bool) (i : Int) : Bool := 0 ≤ i && v.getD i.toNat false

/-- Shifts runs of marked elements of a sequence to where they stand best, given the marks of the
other one. -/
def shifted (classes : Array Nat) (marks other : Array Bool) : Array Bool := Id.run do
  let size := classes.size
  let most := size + other.size + 2
  let same (x y : Int) : Bool := classes[x.toNat]? == classes[y.toNat]?
  let mut v := marks
  let mut i : Int := 0
  let mut j : Int := 0
  for _ in [0:most] do
    -- The next run, and the place in the other sequence that belongs to it.
    for _ in [0:most] do
      if i < size && !isMarked v i then
        for _ in [0:most] do
          if isMarked other j then j := j + 1 else break
        j := j + 1
        i := i + 1
      else break
    if i == size then break
    let mut start := i
    for _ in [0:most] do
      if isMarked v i then i := i + 1 else break
    for _ in [0:most] do
      if isMarked other j then j := j + 1 else break
    let mut meeting : Int := size
    for _ in [0:most] do
      let length := i - start
      -- Back as far as possible.
      for _ in [0:most] do
        if 0 < start && same (start - 1) (i - 1) then
          start := start - 1
          v := v.setIfInBounds start.toNat true
          i := i - 1
          v := v.setIfInBounds i.toNat false
          for _ in [0:most] do
            if isMarked v (start - 1) then start := start - 1 else break
          j := j - 1
          for _ in [0:most] do
            if isMarked other j then j := j - 1 else break
        else break
      meeting := if isMarked other (j - 1) then i else size
      -- Forth as far as possible.
      for _ in [0:most] do
        if i != size && same start i then
          v := v.setIfInBounds start.toNat false
          start := start + 1
          v := v.setIfInBounds i.toNat true
          i := i + 1
          for _ in [0:most] do
            if isMarked v i then i := i + 1 else break
          j := j + 1
          for _ in [0:most] do
            if isMarked other j then
              meeting := i
              j := j + 1
            else break
        else break
      if length == i - start then break
    -- Back to where it meets a run of the other sequence.
    for _ in [0:most] do
      if meeting < i then
        start := start - 1
        v := v.setIfInBounds start.toNat true
        i := i - 1
        v := v.setIfInBounds i.toNat false
        j := j - 1
        for _ in [0:most] do
          if isMarked other j then j := j - 1 else break
      else break
  return v

/-- The length of a run of marked elements from a place on. -/
def runFrom (v : Array Bool) (i : Nat) : Nat := Id.run do
  let mut n := 0
  for k in [i:v.size] do
    if v.getD k false then n := n + 1 else break
  return n

/-- The changes that marks tell; `fuel` bounds their number. -/
def changesFrom (m : Marks) : (fuel : Nat) → (i j : Nat) → List Change
  | 0, _, _ => []
  | fuel + 1, i, j =>
    let deleted := runFrom m.first i
    let inserted := runFrom m.second j
    if deleted = 0 ∧ inserted = 0 then
      if i < m.first.size ∨ j < m.second.size then changesFrom m fuel (i + 1) (j + 1) else []
    else ⟨i, j, deleted, inserted, false⟩ :: changesFrom m fuel (i + deleted) (j + inserted)

/-- The elements of a sequence that another one has too, with their places. The others are marked.
-/
def known (own other : Array Nat) : Array Nat × Array Nat × Array Bool := Id.run do
  let mut present : Std.HashMap Nat Unit := ∅
  for c in other do
    present := present.insert c ()
  let mut kept : Array Nat := #[]
  let mut places : Array Nat := #[]
  let mut marks : Array Bool := Array.replicate own.size false
  for i in [0:own.size] do
    let c := own.getD i 0
    if present.contains c then
      kept := kept.push c
      places := places.push i
    else marks := marks.setIfInBounds i true
  return (kept, places, marks)

/-- The changes from one sequence of classes to another. -/
def changes (a b : Array Nat) : List Change :=
  let (ka, pa, ma) := known a b
  let (kb, pb, mb) := known b a
  let m := mark ka kb (ka.size + kb.size + 1) 0 ka.size 0 kb.size
    ⟨Array.replicate ka.size false, Array.replicate kb.size false⟩
  let spread (marks : Array Bool) (places : Array Nat) (found : Array Bool) : Array Bool :=
    (places.zip found).foldl (fun v (p, x) => if x then v.setIfInBounds p true else v) marks
  let first := spread ma pa m.first
  let second := spread mb pb m.second
  let first := shifted a first second
  let second := shifted b second first
  changesFrom ⟨first, second⟩ (a.size + b.size + 1) 0 0

/-!
## Changes in writing

Changes are written one by one, as hunks with the lines around them, as a script for an editor, or
as two columns side by side.
-/

/-- The lines of a text. -/
structure Side where
  /-- What the text is called at the top. -/
  title : String
  lines : Array (List Char)
  /-- The last line has an end. -/
  complete : Bool := true

/-- How changes are written. -/
inductive Form where
  | plain
  | unified
  | context
  /-- A script for an editor, from the last change to the first one. -/
  | script
  /-- The same from the first change on. -/
  | forward
  | numbered
  | columns
  deriving DecidableEq

/-- The details of writing. -/
structure Look where
  form : Form := .plain
  around : Nat := 3
  width : Nat := 130
  expands : Bool := false
  /-- A tab stands behind the sign of a line. -/
  tabbed : Bool := false
  /-- Of lines that are the same in both columns only the left one is written. -/
  leftOnly : Bool := false
  changedOnly : Bool := false

/-- A text whose tabs are blanks. -/
def withoutTabs (expands : Bool) (cs : List Char) : List Char :=
  if !expands then cs
  else
    (cs.foldl (fun (done, column) c =>
      if c = '\t' then
        let n := 8 - column % 8
        (List.replicate n ' ' ++ done, column + n)
      else (c :: done, column + 1)) (([] : List Char), 0)).1.reverse

namespace Side

/-- A line with its end, or with a note that it has none. -/
def written (s : Side) (look : Look) (sign : String) (i : Nat) : String :=
  let cs := withoutTabs look.expands (s.lines.getD i [])
  let ending := if i + 1 = s.lines.size ∧ !s.complete then "\n\\ No newline at end of file\n" else "\n"
  sign ++ String.ofList cs ++ ending

/-- Lines from a place on. -/
def several (s : Side) (look : Look) (sign : String) (start count : Nat) : String :=
  String.join ((List.range count).map fun k => s.written look sign (start + k))

end Side

/-- The numbers of the lines from a place on. -/
def span (start count : Nat) : String :=
  if count ≤ 1 then natText (start + count) else natText (start + 1) ++ "," ++ natText (start + count)

/-- The letter of a change. -/
def Change.letter (c : Change) : String :=
  if c.deleted = 0 then "a" else if c.inserted = 0 then "d" else "c"

/-- A change by itself. -/
def plainText (look : Look) (a b : Side) (c : Change) : String :=
  let old := if look.tabbed then "<\t" else "< "
  let new := if look.tabbed then ">\t" else "> "
  span c.first c.deleted ++ c.letter ++ span c.second c.inserted ++ "\n" ++
    a.several look old c.first c.deleted ++
    (if 0 < c.deleted ∧ 0 < c.inserted then "---\n" else "") ++
    b.several look new c.second c.inserted

/-! ## Hunks -/

/-- Changes that stand close together, from reversed ones on. -/
def gather (around : Nat) : (hunk : List Change) → List Change → List (List Change)
  | hunk, [] => if hunk.isEmpty then [] else [hunk.reverse]
  | [], c :: rest => gather around [c] rest
  | p :: hunk, c :: rest =>
    let most := if p.ignored || c.ignored then around else 2 * around + 1
    if c.first - (p.first + p.deleted) < most then gather around (c :: p :: hunk) rest
    else (p :: hunk).reverse :: gather around [c] rest

/-- The hunks that are of interest. -/
def hunks (around : Nat) (cs : List Change) : List (List Change) :=
  (gather around [] cs).filter fun h => h.any (!·.ignored)

/-- The part of both texts that a hunk shows: two places and two counts. -/
def extent (around : Nat) (a b : Side) (h : List Change) : Nat × Nat × Nat × Nat :=
  match h.head?, h.getLast? with
  | some c, some d =>
    let start := c.first - around
    let start' := c.second - around
    let stop := min a.lines.size (d.first + d.deleted + around)
    let stop' := min b.lines.size (d.second + d.inserted + around)
    (start, stop - start, start', stop' - start')
  | _, _ => (0, 0, 0, 0)

/-- The place of a part at the top of a hunk. -/
def unifiedSpan (start count : Nat) : String :=
  if count = 0 then natText start ++ ",0"
  else if count = 1 then natText (start + 1)
  else natText (start + 1) ++ "," ++ natText count

/-- A hunk with all its lines in one column. -/
def unifiedText (look : Look) (a b : Side) (h : List Change) : String :=
  let (start, count, start', count') := extent look.around a b h
  let tab := if look.tabbed then "\t" else ""
  let same := if look.tabbed then "\t" else " "
  let rec body : (place : Nat) → List Change → String
    | place, [] => a.several look same place (start + count - place)
    | place, c :: rest =>
      a.several look same place (c.first - place) ++
        a.several look ("-" ++ tab) c.first c.deleted ++
        b.several look ("+" ++ tab) c.second c.inserted ++ body (c.first + c.deleted) rest
  "@@ -" ++ unifiedSpan start count ++ " +" ++ unifiedSpan start' count' ++ " @@\n" ++ body start h

/-- The place of a part in a hunk of two parts. -/
def contextSpan (start count : Nat) : String :=
  if count ≤ 1 then natText (start + count) else natText (start + 1) ++ "," ++ natText (start + count)

/-- A hunk with the old lines before the new ones. -/
def contextText (look : Look) (a b : Side) (h : List Change) : String :=
  let (start, count, start', count') := extent look.around a b h
  let blank := if look.tabbed then "\t" else " "
  let rec body (s : Side) (place size : Change → Nat) (sign : Change → String) (stop : Nat) :
      (here : Nat) → List Change → String
    | here, [] => s.several look (" " ++ blank) here (stop - here)
    | here, c :: rest =>
      s.several look (" " ++ blank) here (place c - here) ++
        s.several look (sign c ++ blank) (place c) (size c) ++
        body s place size sign stop (place c + size c) rest
  let old := if h.any (0 < ·.deleted) then
      body a Change.first Change.deleted (fun c => if 0 < c.inserted then "!" else "-") (start + count) start h
    else ""
  let new := if h.any (0 < ·.inserted) then
      body b Change.second Change.inserted (fun c => if 0 < c.deleted then "!" else "+") (start' + count')
        start' h
    else ""
  "***************\n*** " ++ contextSpan start count ++ " ****\n" ++ old ++
    "--- " ++ contextSpan start' count' ++ " ----\n" ++ new

/-! ## Scripts -/

/-- A change for an editor. A line that is nothing but a point would end the text. -/
def scriptText (b : Side) (c : Change) : String := Id.run do
  let where_ := span c.first c.deleted
  if c.inserted == 0 then return where_ ++ "d\n"
  let mut text := where_ ++ c.letter ++ "\n"
  let mut inside := true
  for k in [0:c.inserted] do
    let line := b.lines.getD (c.second + k) []
    if !inside then
      text := text ++ "a\n"
      inside := true
    if line == ['.'] then
      text := text ++ "..\n.\ns/.//\n"
      inside := false
    else text := text ++ String.ofList line ++ "\n"
  return if inside then text ++ ".\n" else text

/-- A change with the letter in front. -/
def forwardText (b : Side) (c : Change) : String :=
  let where_ := if c.deleted ≤ 1 then natText (c.first + c.deleted)
    else natText (c.first + 1) ++ " " ++ natText (c.first + c.deleted)
  c.letter ++ where_ ++ "\n" ++
    (if c.inserted = 0 then "" else b.several {} "" c.second c.inserted ++ ".\n")

/-- A change with counts. -/
def numberedText (b : Side) (c : Change) : String :=
  (if c.deleted = 0 then ""
    else "d" ++ natText (c.first + 1) ++ " " ++ natText c.deleted ++ "\n") ++
  (if c.inserted = 0 then ""
    else "a" ++ natText (c.first + c.deleted) ++ " " ++ natText c.inserted ++ "\n" ++
      String.join ((List.range c.inserted).map fun k =>
        let i := c.second + k
        String.ofList (b.lines.getD i []) ++
          (if i + 1 = b.lines.size ∧ !b.complete then "" else "\n")))

/-! ## Columns -/

/-- Blanks from one column to another, with tabs where they reach. -/
def blanks (expands : Bool) (from_ until_ : Nat) : List Char :=
  let rec tabs : (fuel here : Nat) → List Char × Nat
    | 0, here => ([], here)
    | fuel + 1, here =>
      let next := here + 8 - here % 8
      if next ≤ until_ then
        let (cs, last) := tabs fuel next
        ('\t' :: cs, last)
      else ([], here)
  let (cs, here) := if expands then ([], from_) else tabs (until_ + 1) from_
  cs ++ List.replicate (until_ - here) ' '

/-- The part of a line that has room in a column, and its width. -/
def half (width : Nat) (expands : Bool) : (column : Nat) → List Char → List Char × Nat
  | column, [] => ([], column)
  | column, c :: rest =>
    let size := if c = '\t' then 8 - column % 8 else Console.cellsOf c
    if width < column + size then ([], column)
    else
      let (more, last) := half width expands (column + size) rest
      let here := if c = '\t' ∧ expands then List.replicate size ' ' else [c]
      (here ++ more, last)

/-- Two lines side by side; a line comes with whether it has an end. -/
def row (look : Look) (left : Option (List Char × Bool)) (sign : Char)
    (right : Option (List Char × Bool)) : String :=
  let tab := if look.expands then 1 else 8
  let w := look.width
  let gap := tab + 3
  let unaligned := w / 2 + gap / 2 + (if w % 2 = 1 ∧ gap % 2 = 1 then 1 else 0)
  let offset := unaligned - unaligned % tab
  let width := if offset ≤ 3 ∨ w ≤ offset then 0 else min (offset - 3) (w - offset)
  let second := if width = 0 then w else offset
  let (text, column) := match left with
    | some (cs, _) => half width look.expands 0 cs
    | none => ([], 0)
  let ends := (left.any (·.2))
  let (text, column) :=
    if sign = ' ' then (text, column)
    else
      let middle := (width + second - 1) / 2
      let rightEnds := (right.map (·.2)).getD true
      let sign := if sign = '|' ∧ ends != rightEnds then (if ends then '/' else '\\') else sign
      (text ++ blanks look.expands column middle ++ [sign], (max column middle) + 1)
  let text := match right with
    | some (cs, _) =>
      if cs.isEmpty then text
      else text ++ blanks look.expands column second ++ (half width look.expands 0 cs).1
    | none => text
  let ends := ends || right.any (·.2)
  String.ofList text ++ (if ends then "\n" else "")

/-- Both texts side by side. -/
def columnsText (look : Look) (a b : Side) (cs : List Change) : String :=
  let line (s : Side) (i : Nat) : Option (List Char × Bool) :=
    s.lines[i]?.map fun l => (l, i + 1 < s.lines.size || s.complete)
  let same (i j count : Nat) : String :=
    if look.changedOnly then ""
    else
      String.join ((List.range count).map fun k =>
        if look.leftOnly then row look (line a (i + k)) '(' none
        else row look (line a (i + k)) ' ' (line b (j + k)))
  let rec go : (i j : Nat) → List Change → String
    | i, j, [] => same i j (a.lines.size - i)
    | i, j, c :: rest =>
      let both := min c.deleted c.inserted
      same i j (c.first - i) ++
        String.join ((List.range both).map fun k =>
          row look (line a (c.first + k)) '|' (line b (c.second + k))) ++
        String.join ((List.range (c.inserted - both)).map fun k =>
          row look none '>' (line b (c.second + both + k))) ++
        String.join ((List.range (c.deleted - both)).map fun k =>
          row look (line a (c.first + both + k)) '<' none) ++
        go (c.first + c.deleted) (c.second + c.inserted) rest
  go 0 0 cs

/-- Changes in writing. -/
def report (look : Look) (a b : Side) (cs : List Change) : String :=
  let wanted := cs.filter (!·.ignored)
  match look.form with
  | .plain => String.join (wanted.map (plainText look a b))
  | .script => String.join (wanted.reverse.map (scriptText b))
  | .forward => String.join (wanted.map (forwardText b))
  | .numbered => String.join (wanted.map (numberedText b))
  | .columns => columnsText look a b cs
  | .unified =>
    "--- " ++ a.title ++ "\n+++ " ++ b.title ++ "\n" ++
      String.join ((hunks look.around cs).map (unifiedText look a b))
  | .context =>
    "*** " ++ a.title ++ "\n--- " ++ b.title ++ "\n" ++
      String.join ((hunks look.around cs).map (contextText look a b))

end Runbook.Shell.Difference
