import Runbook.Shell.Tool.Characters

/-!
# `Shell/Tool/Paragraph` — lines of words

`fmt` fills the lines of paragraphs anew. Lines may end behind any word; what a way to break a
paragraph costs depends on how far its lines are from a goal, how much they differ from each other,
and where sentences end (`breaks`). The way that costs least is taken.
-/

set_option autoImplicit false

namespace Runbook.Shell.Paragraph

/-- A word, with the room behind it. -/
structure Word where
  text : List Char
  space : Nat
  /-- It begins with something like a bracket. -/
  opens : Bool
  /-- It ends with a stop, closing brackets aside. -/
  stops : Bool
  /-- Its last character is a mark. -/
  marked : Bool
  /-- A sentence ends behind it. -/
  ends : Bool

/-- How paragraphs are found and written. -/
structure Style where
  width : Nat := 75
  goal : Nat := 69
  /-- The first two lines of a paragraph tell where its lines begin. -/
  crown : Bool := false
  /-- As well, and they differ. -/
  tagged : Bool := false
  /-- Lines are broken only. -/
  splits : Bool := false
  /-- One blank is between words, and two between sentences. -/
  uniform : Bool := false
  /-- Only lines with a mark in front are of paragraphs, behind at least so many blanks. -/
  lead : Nat := 0
  mark : List Char := []
  /-- The places of the mark with the blanks behind it. -/
  markWidth : Nat := 0

/-- A line of the input. -/
structure Line where
  /-- Where the mark stands. -/
  indent : Nat
  /-- Where the text begins. -/
  column : Nat
  text : List Char
  /-- The line has an end. -/
  ended : Bool
  /-- There are tabs in front of the text. -/
  tabs : Bool

/-- The column behind blanks, what follows them, and whether tabs are among them. -/
def skipBlanks : (column : Nat) → (tabs : Bool) → List Char → Nat × Bool × List Char
  | column, tabs, ' ' :: cs => skipBlanks (column + 1) tabs cs
  | column, _, '\t' :: cs => skipBlanks ((column / 8 + 1) * 8) true cs
  | column, tabs, cs => (column, tabs, cs)

/-- How many characters of a mark a text begins with. -/
def common : List Char → List Char → Nat
  | c :: cs, d :: ds => if c = d then common cs ds + 1 else 0
  | _, _ => 0

/-- A line with what stands in front of its text told. -/
def Style.line (s : Style) (ended : Bool) (cs : List Char) : Line :=
  let (column, tabs, rest) := skipBlanks 0 false cs
  if s.mark.isEmpty then
    { indent := min s.lead column, column := column, text := rest, ended := ended, tabs := tabs }
  else
    let n := common s.mark rest
    if n < s.mark.length then
      { indent := column, column := column + n, text := rest.drop n, ended := ended, tabs := tabs }
    else
      let (behind, tabs, rest) := skipBlanks (column + n) tabs (rest.drop n)
      { indent := column, column := behind, text := rest, ended := ended, tabs := tabs }

/-- A character that parts words. -/
def isGap (c : Char) : Bool := c = ' ' || (9 ≤ c.toNat && c.toNat ≤ 13)

/-- A word with what is known about it. -/
def wordOf (s : Style) (text : List Char) (space : Nat) (atEnd : Bool) : Word :=
  let last := text.getLast?.getD ' '
  let closing := (text.drop 1).reverse.takeWhile (")]'\"".toList.contains ·)
  let inner := (text.take (text.length - closing.length)).getLast?.getD ' '
  let stops := ".?!".toList.contains inner
  let ends := stops && (atEnd || 1 < space)
  { text := text, opens := (text.head?.map ("(['\x60\"".toList.contains ·)).getD false, stops := stops
    marked := last.toNat < 128 && ((classNamed? "punct").getD fun _ => false) last, ends := ends
    space := if atEnd || s.uniform then (if ends then 2 else 1) else space }

/-- The words of a line from a column on, and whether tabs are between them; `fuel` bounds their
number. -/
def wordsFrom (s : Style) : (fuel column : Nat) → List Char → List Word × Bool
  | 0, _, _ => ([], false)
  | _ + 1, _, [] => ([], false)
  | fuel + 1, column, c :: cs =>
    let text := c :: cs.takeWhile (!isGap ·)
    let behind := column + text.length
    let (next, tabs, rest) := skipBlanks behind false (cs.dropWhile (!isGap ·))
    let (words, more) := wordsFrom s fuel next rest
    (wordOf s text (next - behind) rest.isEmpty :: words, tabs || more)

/-- What has been done so far. -/
structure Progress where
  out : List Char := []
  /-- Tabs have been seen. -/
  tabs : Bool := false
  /-- Where the lines of the paragraph but the first begin. -/
  other : Nat := 0
  /-- The places of the line that was written last. -/
  last : Nat := 0

/-- Room from one column to another one. -/
def room (tabs : Bool) (column target : Nat) : List Char :=
  let stop := target / 8 * 8
  if tabs && column + 1 < stop then
    List.replicate (stop / 8 - column / 8) '\t' ++ List.replicate (target - stop) ' '
  else List.replicate (target - column) ' '

/-! ## Where lines end -/

/-- What it costs to be so far from a goal. -/
def short (n : Nat) : Nat := n * n * 100

/-- What it costs that lines differ so much. -/
def ragged (n : Nat) : Nat := short n / 2

/-- How far two numbers are from each other. -/
def apart (a b : Nat) : Nat := (a - b) + (b - a)

/-- The best way to go on from a word. -/
structure Break where
  cost : Nat
  /-- The word that begins the next line. -/
  next : Nat
  /-- The places of the line. -/
  length : Nat

/-- What it costs that a line begins with a word. -/
def beginCost (words : Array Word) (n : Nat) : Nat :=
  let line : Int := 4900
  let before := if n = 0 then none else words[n - 1]?
  let twoBefore := if n < 2 then none else words[n - 2]?
  let cost : Int := match before with
    | none => line
    | some w =>
      if w.stops then if w.ends then line - 2500 else line + 360000
      else if w.marked then line - 1600
      else if twoBefore.any (·.ends) then line + 40000 / (w.text.length + 2)
      else line
  let cost : Int := match words[n]? with
    | none => cost
    | some w =>
      if w.opens then cost - 1600
      else if w.ends then cost + 22500 / (w.text.length + 2)
      else cost
  cost.toNat

/-- The best ways to go on from all words, the last one first; `before` is the length of the line in
front. -/
def breaks (s : Style) (first other before : Nat) (words : Array Word) : Array Break :=
  let count := words.size
  let empty := Array.replicate (count + 1) { cost := 0, next := count, length := 0 : Break }
  (List.range count).reverse.foldl (fun found start =>
    let rec go : (fuel w length : Nat) → Option Break → Option Break
      | 0, _, _, best => best
      | fuel + 1, w, length, best =>
        let there := found.getD w { cost := 0, next := count, length := 0 }
        let line :=
          if w = count then 0
          else short (apart s.goal length) +
            (if there.next = count then 0 else ragged (apart length there.length))
        let line := if start = 0 && 0 < before then line + ragged (apart length before) else line
        let cost := line + there.cost
        let best := if best.all (cost < ·.cost) then some ⟨cost, w, length⟩ else best
        if w = count then best
        else
          let further := length + (words[w - 1]?.map (·.space)).getD 0 +
            (words[w]?.map (·.text.length)).getD 0
          if further < s.width then go fuel (w + 1) further best else best
    let length := (if start = 0 then first else other) +
      (words[start]?.map (·.text.length)).getD 0
    match go (count + 1) (start + 1) length none with
    | some b => found.set! start { b with cost := b.cost + beginCost words start }
    | none => found) empty

/-- The words with which lines begin, up to a word; `fuel` bounds their number. -/
def begins (bs : Array Break) (upTo : Nat) : (fuel n : Nat) → List Nat
  | 0, _ => []
  | fuel + 1, n =>
    if upTo ≤ n then []
    else n :: begins bs upTo fuel ((bs[n]?.map (·.next)).getD upTo)

/-- Words as a line. -/
def writeLine (s : Style) (prefixed indent : Nat) (words : List Word) (p : Progress) : Progress :=
  let lead := room p.tabs 0 prefixed ++ s.mark
  let column := prefixed + s.mark.length
  let lead := lead ++ room p.tabs column indent
  let column := max column indent
  let (text, column) := words.zipIdx.foldl (fun (text, column) (w, n) =>
    let behind := column + w.text.length
    let text := w.text.reverse ++ text
    if n + 1 = words.length then (text, behind)
    else ((room p.tabs behind (behind + w.space)).reverse ++ text, behind + w.space))
    (([] : List Char), column)
  { p with out := '\n' :: (text ++ lead.reverse ++ p.out), last := column }

/-- Writes the lines of a paragraph up to a word. -/
def writeLines (s : Style) (prefixed first : Nat) (words : Array Word) (bs : Array Break)
    (upTo : Nat) (p : Progress) : Progress :=
  (begins bs upTo (upTo + 1) 0).foldl (fun p n =>
    let next := (bs[n]?.map (·.next)).getD upTo
    writeLine s prefixed (if n = 0 then first else p.other) (words.extract n next).toList p) p

/-- The word in front of which a paragraph that is too long is parted best. -/
def splitPoint (bs : Array Break) (count : Nat) : Nat :=
  let cost (n : Nat) : Int := (bs[n]?.map fun b => (b.cost : Int)).getD 0
  let points := (begins bs count (count + 1) 0).drop 1
  let found := points.foldl (fun (best : Option Int × Nat) n =>
    let next := (bs[n]?.map (·.next)).getD count
    let here := cost n - cost next
    let best := if best.1.all (here < ·) then (some here, n) else best
    (best.1.map (· + 9), best.2)) (none, count)
  found.2

/-- The number of words and of characters that are looked at together. -/
def mostWords : Nat := 998

/-- As above, for characters. -/
def mostChars : Nat := 5000

/-- Writes a paragraph, in parts if it is too long; `fuel` bounds the number of steps. -/
def fill (s : Style) (prefixed first : Nat) : (fuel : Nat) → Array Word → (chars : Nat) →
    List Word → Progress → Progress
  | 0, _, _, _, p => p
  | _ + 1, words, _, [], p =>
    let words := match words.back? with
      | some w => words.pop.push { w with stops := true, ends := true }
      | none => words
    writeLines s prefixed first words (breaks s first p.other p.last words) words.size p
  | fuel + 1, words, chars, w :: rest, p =>
    let size := w.text.length
    if mostChars < chars + size || words.size = mostWords then
      if words.isEmpty then
        let p := { p with out := (w.text.take mostChars).reverse ++ p.out }
        fill s prefixed first fuel words 0 ({ w with text := w.text.drop mostChars } :: rest) p
      else
        let bs := breaks s first p.other p.last words
        let n := splitPoint bs words.size
        let p := writeLines s prefixed first words bs n p
        let left := words.extract n words.size
        let chars := left.foldl (fun n w => n + w.text.length) 0
        fill s prefixed first fuel left chars (w :: rest) p
    else fill s prefixed first fuel (words.push w) (chars + size) rest p

/-! ## Paragraphs -/

/-- A line that is passed on. -/
def copyLine (s : Style) (l : Line) (p : Progress) : Progress :=
  let front :=
    if l.indent < l.column || !l.text.isEmpty then
      let mark := s.mark.take (l.column - l.indent)
      let behind := l.indent + mark.length
      room p.tabs 0 l.indent ++ mark ++
        (if l.text.isEmpty then [] else room p.tabs behind l.column) ++
        (if l.text.isEmpty && !l.ended && l.indent + s.mark.length ≤ l.column then ['\n'] else [])
    else []
  { p with out := (front ++ l.text ++ (if l.ended then ['\n'] else [])).reverse ++ p.out }

/-- A line belongs to a paragraph whose mark stands at a column. -/
def Style.goesOn (s : Style) (indent : Nat) (l : Line) : Bool :=
  l.indent = indent && l.indent + s.markWidth ≤ l.column && !l.text.isEmpty

/-- Where the other lines of a paragraph begin, and the lines that belong to it with the first. -/
def gatherLines (s : Style) (other : Nat) (l : Line) (rest : List Line) : Nat × List Line :=
  let next := (rest.head?.filter (s.goesOn l.indent)).map (·.column)
  let along (column : Nat) : List Line :=
    rest.takeWhile fun x => s.goesOn l.indent x && x.column = column
  if s.splits then (l.column, [])
  else if s.crown then
    match next with
    | some column => (column, along column)
    | none => (l.column, [])
  else if s.tagged then
    match next with
    | some column =>
      if column ≠ l.column then (column, along column)
      else (if other = l.column then (if l.column = 0 then 3 else 0) else other, [])
    | none => (if other = l.column then (if l.column = 0 then 3 else 0) else other, [])
  else (l.column, along l.column)

/-- Writes lines anew; `fuel` bounds the number of paragraphs and of lines between them. -/
def fillLines (s : Style) : (fuel : Nat) → List Line → Progress → Progress
  | 0, _, p => p
  | _ + 1, [], p => p
  | fuel + 1, l :: rest, p =>
    let p := { p with tabs := p.tabs || l.tabs }
    if l.text.isEmpty || l.indent < s.lead || l.column < l.indent + s.markWidth then
      fillLines s fuel rest (copyLine s l p)
    else
      let (other, more) := gatherLines s p.other l rest
      let found := (l :: more).map fun l => wordsFrom s (l.text.length + 1) l.column l.text
      let behind := rest.drop more.length
      let tabs := p.tabs || (more ++ behind.take 1).any (·.tabs) || found.any (·.2)
      let words := found.flatMap (·.1)
      let p := { p with tabs := tabs, other := other, last := 0 }
      let chars := words.foldl (fun n w => n + w.text.length) 0
      let p := fill s l.indent l.column (4 * words.length + chars / 1000 + 4) #[] 0 words p
      fillLines s fuel behind p

/-- A text with its paragraphs filled anew. -/
def formatted (s : Style) (cs : List Char) : List Char :=
  let (ls, ended) := Lines.split '\n' cs
  let lines := ls.zipIdx.map fun (l, n) => s.line (ended || n + 1 < ls.length) l
  (fillLines s (lines.length + 1) lines {}).out.reverse

/-! ## The program -/

/-- The style with a mark in front of lines. -/
def Style.marked (s : Style) (text : List Char) : Style :=
  let rest := text.dropWhile (· == ' ')
  let mark := (rest.reverse.dropWhile (· == ' ')).reverse
  { s with lead := text.length - rest.length, mark := mark, markWidth := rest.length }

/-- A width, which lies below a bound. -/
def width? (text : String) (most : Nat) : Except String Nat :=
  boundedNumber text 0 most

/-- The program `fmt`. -/
def fmt : Tool := fun _ c => do
  let isDigits (w : String) : Bool := match w.toList with
    | '-' :: d :: _ => d.isDigit
    | _ => false
  let (short, args) := match c.args with
    | w :: rest => if isDigits w then (some (String.ofList (w.toList.drop 1)), rest) else (none, w :: rest)
    | [] => (none, [])
  let c := { c with args := args }
  c.withFlags
    { letters := "0123456789cstuw:p:g:"
      long := [("crown-margin", .nothing, "c"), ("prefix", .value, "p"),
        ("split-only", .nothing, "s"), ("tagged-paragraph", .nothing, "t"),
        ("uniform-spacing", .nothing, "u"), ("width", .value, "w"), ("goal", .value, "g")] ++
        Flags.common }
    1 fun p => do
    match p.options.find? fun o => (o.1.toList.head?.map Char.isDigit).getD false with
    | some (digit, _) =>
      c.refuse 1 ("invalid option -- " ++ digit ++
        "; -WIDTH is recognized only when it is the first\noption; use -w N instead")
    | none =>
      let asked := (p.last? "w").orElse fun _ => short
      match asked.elim (.ok 75) fun t => width? t 2500 with
      | .error why =>
        c.blame ("invalid width: " ++ curlyQuoted (asked.getD "") ++ why)
        pure 1
      | .ok width =>
        match (p.last? "g").elim (.ok (width * 187 / 200)) fun t => width? t width with
        | .error why =>
          c.blame ("invalid width: " ++ curlyQuoted ((p.last? "g").getD "") ++ why)
          pure 1
        | .ok goal =>
          let width := if (p.last? "g").isSome && asked.isNone then goal + 10 else width
          let s : Style := { width := width, goal := goal, crown := p.has "c", tagged := p.has "t"
                             splits := p.has "s", uniform := p.has "u" }
          let s := match p.last? "p" with
            | some m => s.marked (Raw.split m.toList)
            | none => s
          let blame (o : String) (err : Errno) : Act Unit :=
            if err = .isFolder then c.blame "read error"
            else c.blame ("cannot open " ++ fileQuoted o ++ " for reading: " ++ err.text)
          let ok ← c.eachText p.operands blame fun _ cs =>
            Act.print (String.ofList (Raw.joined (formatted s (Raw.split cs))))
          pure (if ok then 0 else 1)

end Runbook.Shell.Paragraph
