import Runbook.Shell.Regex.Read
import Runbook.Shell.Tool.Characters
import Runbook.Shell.Tool.Find

/-!
# `Shell/Tool/Concordance` — words with what stands around them

A concordance lists the words of texts in order, each in its context: a sentence or a line. Here is
how words and contexts are found (`occurrences`); places are counted in bytes.
-/

set_option autoImplicit false

namespace Runbook.Shell.Concordance

/-- How words are told from what is between them. -/
inductive Words where
  /-- They consist of certain characters. -/
  | of (p : Char → Bool)
  /-- They match an expression. -/
  | matching (r : Regex)

/-- A part of a text, in which line ends are edges; its bytes are characters again. -/
def part (text : Array Char) (first last : Nat) : Subject :=
  { text := (Raw.joined (text.extract first last).toList).toArray, multiline := true }

/-- The bytes in front of a place of a part. -/
def bytesBefore (s : Subject) (place : Nat) : Nat := Raw.size (s.between 0 place)

/-- Where an expression matches first from a place on: where the match begins and ends. -/
def searchIn? (r : Regex) (text : Array Char) (first last : Nat) : Option (Nat × Nat) :=
  let s := part text first last
  (r.search? s 0).map fun (a, b, _) => (first + bytesBefore s a, first + bytesBefore s b)

/-- The end of a run of characters that begins at a place. -/
def runEnd (p : Char → Bool) (text : Array Char) (limit : Nat) : (fuel : Nat) → (place : Nat) → Nat
  | 0, place => place
  | fuel + 1, place =>
    if place < limit && (text[place]?).any p then runEnd p text limit fuel (place + 1) else place

/-- The beginning of a run of characters that ends at a place. -/
def runStart (p : Char → Bool) (text : Array Char) (least : Nat) : (place : Nat) → Nat
  | 0 => 0
  | place + 1 =>
    if least ≤ place && (text[place]?).any p then runStart p text least place else place + 1

/-- The place behind blanks. -/
def behindBlanks (text : Array Char) (limit place : Nat) : Nat :=
  runEnd isNumberSpace text limit text.size place

/-- The place behind what is not blank. -/
def behindFilled (text : Array Char) (limit place : Nat) : Nat :=
  runEnd (fun c => !isNumberSpace c) text limit text.size place

/-- The place in front of blanks. -/
def beforeBlanks (text : Array Char) (least place : Nat) : Nat :=
  runStart isNumberSpace text least place

/-- The place behind a word, or behind a character that is in none. -/
def Words.skip (w : Words) (text : Array Char) (limit place : Nat) : Nat :=
  match w with
  | .matching r =>
    let s := part text place limit
    match r.matchAt? s 0 with
    | some (length, _) => place + bytesBefore s length
    | none => place + 1
  | .of p =>
    if (text[place]?).any p then runEnd p text limit text.size place else place + 1

/-- The first word from a place on: where it begins and ends. -/
def Words.next? (w : Words) (text : Array Char) (limit place : Nat) : Option (Nat × Nat) :=
  match w with
  | .matching r => searchIn? r text place limit
  | .of p =>
    let first := runEnd (fun c => !p c) text limit text.size place
    if first < limit then some (first, runEnd p text limit text.size first) else none

/-- The end of a sentence: its mark, what closes it, and blanks. -/
def sentenceEnd : Regex :=
  let among (s : String) : Regex := .one fun c => s.toList.contains c
  let mark := among ".?!"
  let closers := Regex.star (among "]\"')\x7d")
  let gap := Regex.alt (.edge .lineEnd) (.alt (among "\t") (.cat (among " ") (among " ")))
  .cat mark (.cat closers (.cat gap (.star (among " \t\n"))))

/-- What is asked for. -/
structure Style where
  words : Words := .of Char.isAlpha
  /-- The end of a context; without one a text is a single context. -/
  contextEnd : Option Regex := some sentenceEnd
  /-- The end of a context in writing. -/
  contextText : String := ""
  anyCase : Bool := false
  /-- Lines are told by the names of their files and by numbers. -/
  counts : Bool := false
  /-- Lines begin with what they are told by. -/
  labelled : Bool := false
  /-- What lines are told by stands to the right. -/
  labelsRight : Bool := false
  width : Nat := 72
  gap : Nat := 3
  /-- What shows that something was left out. -/
  cutMark : String := "/"
  /-- Room is kept for the marks on both sides. -/
  roomy : Bool := true
  ignored : Option (List (List Char)) := none
  only : Option (List (List Char)) := none

/-- Two bytes are in order, or in neither. -/
def Style.key (s : Style) (c : Char) : Nat :=
  Characters.byteOf (if s.anyCase then c.toUpper else c)

/-- A word comes before another one, or is the same. -/
def Style.ordered (s : Style) : List Char → List Char → Bool
  | [], _ => true
  | _ :: _, [] => false
  | a :: as, b :: bs =>
    if s.key a = s.key b then s.ordered as bs else s.key a < s.key b

/-- A word is one of some. -/
def Style.isAmong (s : Style) (words : List (List Char)) (word : List Char) : Bool :=
  words.any fun w => w.map s.key == word.map s.key

/-- A word is left out. -/
def Style.leavesOut (s : Style) (word : List Char) : Bool :=
  s.ignored.any (s.isAmong · word) || s.only.any fun ws => !s.isAmong ws word

/-- A word in its context. -/
structure Occurrence where
  /-- The place of the text. -/
  file : Nat
  first : Nat
  last : Nat
  contextFirst : Nat
  contextLast : Nat
  /-- The number of the line, or where what it is told by begins. -/
  label : Nat := 0
  word : List Char

/-- What has been met so far in texts. -/
structure Progress where
  /-- Where the line at hand begins. -/
  lineStart : Nat := 0
  /-- Up to where line ends have been looked for. -/
  scanned : Nat := 0
  /-- The length of what the line at hand is told by. -/
  labelLength : Nat := 0
  lines : Nat := 0
  longest : Nat := 0
  widest : Nat := 0
  found : List Occurrence := []

/-- Goes on over line ends up to a place; behind each, what the line is told by is passed over. -/
def Progress.countTo (text : Array Char) (place : Nat) : (fuel : Nat) → Progress → Progress
  | 0, p => p
  | fuel + 1, p =>
    if p.scanned < place then
      if text[p.scanned]? = some '\n' then
        let start := p.scanned + 1
        let scanned := behindFilled text text.size start
        Progress.countTo text place fuel
          { p with lines := p.lines + 1, lineStart := start, scanned := scanned
                   labelLength := scanned - start }
      else Progress.countTo text place fuel { p with scanned := p.scanned + 1 }
    else p

/-- The words of a context, which begins at `first` as far as words are shown in it. -/
def wordsOf (s : Style) (file : Nat) (text : Array Char) (last : Nat) : (fuel : Nat) →
    (first place : Nat) → Progress → Progress
  | 0, _, _, p => p
  | fuel + 1, first, place, p =>
    match s.words.next? text last place with
    | none => p
    | some (a, b) =>
      if a = b then wordsOf s file text last fuel first (a + 1) p
      else
        let p := { p with longest := max p.longest (b - a) }
        let p := if s.labelled then p.countTo text a text.size else p
        if s.labelled && a < p.scanned then wordsOf s file text last fuel first b p
        else
          let word := (text.extract a b).toList
          if s.leavesOut word then wordsOf s file text last fuel first b p
          else
            let p := if s.counts then p.countTo text a text.size else p
            let p := if s.labelled && !s.counts then { p with widest := max p.widest p.labelLength }
              else p
            let first := if s.labelled && p.lineStart = first then
                behindBlanks text last (behindFilled text last first)
              else first
            let label := if s.counts then p.lines else p.lineStart
            let one : Occurrence := ⟨file, a, b, first, last, label, word⟩
            wordsOf s file text last fuel first b { p with found := one :: p.found }

/-- The words of a text from a place on, context by context; an end of a context where one begins is
an error. -/
def wordsFrom (s : Style) (file : Nat) (text : Array Char) : (fuel : Nat) → (place : Nat) →
    Progress → Option Progress
  | 0, _, p => some p
  | fuel + 1, place, p =>
    if text.size ≤ place then some p
    else
      let found := s.contextEnd.bind fun r => searchIn? r text place text.size
      if found.any fun m => m.1 == place then none
      else
        let next := (found.map (·.2)).getD text.size
        let last := beforeBlanks text place next
        wordsFrom s file text fuel next (wordsOf s file text last (last + 1 - place) place place p)

/-- What is found in texts, and how many lines have been counted up to the end of each. -/
def wordsOfAll (s : Style) : (file : Nat) → (counts : List Nat) → Progress → List (Array Char) →
    Option (Progress × List Nat)
  | _, counts, p, [] => some (p, counts.reverse)
  | file, counts, p, text :: rest => do
    let p := { p with lineStart := 0, scanned := 0, labelLength := 0 }
    let p := if s.labelled then
        let length := behindFilled text text.size 0
        { p with labelLength := length, scanned := behindBlanks text text.size length }
      else p
    let p ← wordsFrom s file text (text.size + 1) 0 p
    let p := { p with lines := p.lines + 1 }
    wordsOfAll s (file + 1) (p.lines :: counts) p rest

/-- The words of texts in order. -/
def Style.sorted (s : Style) (p : Progress) : List Occurrence :=
  p.found.reverse.mergeSort fun a b => s.ordered a.word b.word

/-!
## A word on its line

A word stands in the middle of its line. What is in front of it in its context stands to the left,
and what is behind it to the right, as far as there is room. What has no room on its own side goes
around to the far end of the other one.
-/

/-- How lines are written. -/
inductive Format where
  | plain
  | roff
  | tex
  deriving DecidableEq

/-- How much room there is. -/
structure Room where
  half : Nat
  /-- In front of the word. -/
  before : Int
  /-- For the word and what is behind it. -/
  behind : Int
  /-- For what lines are told by. -/
  label : Nat
  longest : Nat

/-- A part of a text. -/
structure Field where
  first : Nat := 0
  last : Nat := 0
  /-- Something is left out beside it. -/
  cut : Bool := false

/-- The places that a field takes. -/
def Field.length (f : Field) : Int := (f.last : Int) - f.first

/-- The parts of a line. -/
structure Parts where
  tail : Field := {}
  before : Field := {}
  behind : Field := {}
  head : Field := {}

/-- Goes on by words while there is still too much up to an end. -/
def skipWhile (s : Style) (text : Array Char) (room : Int) (last : Nat) : (fuel : Nat) →
    (place : Nat) → Nat
  | 0, place => place
  | fuel + 1, place =>
    if (place : Int) + room < last then
      skipWhile s text room last fuel (s.words.skip text last place)
    else place

/-- Goes on by words as long as a place is inside bounds; gives the last place that was, and the
first one that was not. -/
def takeWhileInside (s : Style) (text : Array Char) (last : Nat) (isInside : Nat → Bool) :
    (fuel : Nat) → (taken place : Nat) → Nat × Nat
  | 0, taken, place => (taken, place)
  | fuel + 1, taken, place =>
    if place < last && isInside place then
      takeWhileInside s text last isInside fuel place (s.words.skip text last place)
    else (taken, place)

/-- The parts of the line of a word. -/
def Occurrence.parts (s : Style) (m : Room) (text : Array Char) (o : Occurrence) : Parts :=
  let size := text.size
  let marks := !s.cutMark.isEmpty
  -- The word and what is behind it.
  let limit : Int := o.first + m.behind
  let isInside (n : Nat) : Bool := (n : Int) ≤ limit
  let (taken, next) := takeWhileInside s text o.contextLast isInside (size + 1) o.last o.last
  let behindEnd := if isInside next then next else taken
  let behindCut := marks && behindEnd < o.contextLast
  let behindEnd := beforeBlanks text o.first behindEnd
  -- What is in front of it; far away, only what may have room is looked at.
  let reach := m.half + m.longest
  let start := if o.contextFirst + reach < o.first then
      s.words.skip text o.first (o.first - reach)
    else o.contextFirst
  let beforeEnd := beforeBlanks text start o.first
  let beforeStart := skipWhile s text m.before beforeEnd (size + 1) start
  let beforeCut := marks && o.contextFirst < beforeBlanks text 0 beforeStart
  let beforeStart := behindBlanks text size beforeStart
  -- What is left over of the right side, on the left one.
  let tailRoom := m.before - ((beforeEnd : Int) - beforeStart) - s.gap
  let (tail, behindCut) : Field × Bool :=
    if 0 < tailRoom then
      let first := behindBlanks text size behindEnd
      let isInside (n : Nat) : Bool := (n : Int) < first + tailRoom
      let (taken, next) := takeWhileInside s text o.contextLast isInside (size + 1) first first
      let last := if isInside next then next else taken
      let cut := first < last && marks && last < o.contextLast
      (⟨first, beforeBlanks text first last, cut⟩, if first < last then false else behindCut)
    else ({}, behindCut)
  -- What is left over of the left side, on the right one.
  let headRoom := m.behind - ((behindEnd : Int) - o.first) - s.gap
  let (head, beforeCut) : Field × Bool :=
    if 0 < headRoom then
      let last := beforeBlanks text 0 beforeStart
      let first := skipWhile s text headRoom last (size + 1) start
      let cut := first < last && marks && o.contextFirst < first
      (⟨behindBlanks text last first, last, cut⟩, if first < last then false else beforeCut)
    else ({}, beforeCut)
  { tail := tail, before := ⟨beforeStart, beforeEnd, beforeCut⟩
    behind := ⟨o.first, behindEnd, behindCut⟩, head := head }

/-- Characters as they are written in a format. -/
def Format.written (f : Format) (cs : List Char) : List Char :=
  cs.flatMap fun c =>
    if isNumberSpace c then [' ']
    else
      match f with
      | .plain => [c]
      | .roff => if c = '"' then [c, c] else [c]
      | .tex =>
        if "$%&#_".toList.contains c then ['\\', c]
        else if c = '\x7b' ∨ c = '\x7d' then ['$', '\\', c, '$']
        else if c = '\\' then "\\backslash\x7b\x7d".toList
        else [c]

/-- The characters of a field. -/
def Format.field (f : Format) (text : Array Char) (x : Field) : List Char :=
  f.written (text.extract x.first x.last).toList

/-- So many blanks. -/
def blanks (n : Int) : List Char := List.replicate n.toNat ' '

/-- A line of a table: what it is told by to the left or to the right, and in the middle the word. -/
def plainLine (s : Style) (m : Room) (text : Array Char) (label : List Char) (p : Parts) :
    List Char :=
  let mark (x : Field) : List Char := if x.cut then s.cutMark.toList else []
  let shown (x : Field) : List Char := Format.plain.field text x
  let size (x : Field) : Int := x.length + (Raw.size (mark x) : Int)
  let gap : Int := s.gap
  let half : Int := m.half
  let told := Format.plain.written label
  let lead : List Char :=
    if s.labelsRight then []
    else if s.counts then told ++ ':' :: blanks (m.label + gap - label.length - 1)
    else told ++ blanks (m.label + gap - label.length)
  let isLabelled := (s.counts || s.labelled) && s.labelsRight
  let left : List Char :=
    if p.tail.first < p.tail.last then
      shown p.tail ++ mark p.tail ++ blanks (half - gap - size p.before - size p.tail)
    else blanks (half - gap - size p.before)
  let right : List Char :=
    if p.head.first < p.head.last then
      blanks (half - size p.behind - size p.head) ++ mark p.head ++ shown p.head
    else if isLabelled then blanks (half - size p.behind)
    else []
  lead ++ left ++ mark p.before ++ shown p.before ++ blanks gap ++ shown p.behind ++ mark p.behind ++
    right ++ (if isLabelled then blanks gap ++ told else []) ++ ['\n']

/-- A line that calls a command of a typesetter. -/
def calledLine (s : Style) (f : Format) (command : String) (text : Array Char)
    (label : Option (List Char)) (p : Parts) : List Char :=
  let mark (x : Field) : List Char := if x.cut then s.cutMark.toList else []
  let shown (x : Field) : List Char := f.field text x
  match f with
  | .tex =>
    let behind := s.words.skip text p.behind.last p.behind.first
    let braced (cs : List Char) : List Char := '\x7b' :: cs ++ ['\x7d']
    '\\' :: command.toList ++ ' ' :: braced (shown p.tail) ++ braced (shown p.before) ++
      braced (shown ⟨p.behind.first, behind, false⟩) ++
      braced (shown ⟨behind, p.behind.last, false⟩) ++ braced (shown p.head) ++
      ((label.map fun l => braced (f.written l)).getD []) ++ ['\n']
  | _ =>
    let quoted (cs : List Char) : List Char := ' ' :: '"' :: cs ++ ['"']
    '.' :: command.toList ++ quoted (shown p.tail ++ mark p.tail) ++
      quoted (mark p.before ++ shown p.before) ++ quoted (shown p.behind ++ mark p.behind) ++
      quoted (mark p.head ++ shown p.head) ++
      ((label.map fun l => quoted (f.written l)).getD []) ++ ['\n']

/-! ## The program `ptx` -/

/-- A text with its escapes replaced; `fuel` bounds its length. -/
def unescaped : (fuel : Nat) → List Char → List Char
  | 0, _ => []
  | _ + 1, [] => []
  | _ + 1, ['\\'] => []
  | fuel + 1, '\\' :: c :: rest =>
    let one (n : Nat) : List Char := Char.ofNat n :: unescaped fuel rest
    match c with
    | 'a' => one 7
    | 'b' => one 8
    | 'f' => one 12
    | 'n' => one 10
    | 'r' => one 13
    | 't' => one 9
    | 'v' => one 11
    | 'c' => []
    | 'x' =>
      let ds := (spanDigits 16 (rest.take 3)).1
      if ds.isEmpty then '\\' :: 'x' :: unescaped fuel rest
      else byteChar (ofDigits 16 ds) :: unescaped fuel (rest.drop ds.length)
    | '0' =>
      let (n, rest) := takeDigits 8 3 rest
      byteChar n :: unescaped fuel rest
    | _ => '\\' :: c :: unescaped fuel rest
  | fuel + 1, c :: rest => c :: unescaped fuel rest

/-- A text of the command line with its escapes replaced. It ends at a character zero. -/
def plainText (s : String) : String :=
  String.ofList ((unescaped (s.length + 1) s.toList).takeWhile (·.toNat != 0))

/-- An expression, or what is wrong with it. -/
def expression (anyCase : Bool) (text : String) : Except String Regex :=
  let way := String.ofList (Find.unescapedGroups text.toList)
  match Regex.read { extended := true, anyCase := anyCase } way with
  | .ok (r, _) => .ok r
  | .error .openSet => .error "Invalid regular expression"
  | .error f => .error f.message

/-- A number that is more than nothing; what is behind it does not matter. -/
def positive? (text : String) : Option Nat :=
  match takeInteger? text.toList with
  | some (n, _) => if 0 < n && n ≤ 9223372036854775807 then some n.toNat else none
  | none => none

/-- The words of a file, one a line. -/
def listed (cs : List Char) : List (List Char) := (Lines.split '\n' cs).1.filter (!·.isEmpty)

/-- The room that a style leaves for the parts of a line, for texts of some names in which something
has been found. -/
def Style.room (s : Style) (p : Progress) (counts : List Nat) (names : List (List Char)) : Room :=
  let label :=
    if s.counts then
      let widths := (names.zip (counts.zip (0 :: counts))).map fun (name, count, before) =>
        (natText (count + 1 - before)).length + name.length
      widths.foldl max 0 + 1
    else p.widest
  let width := if (s.counts || s.labelled) && !s.labelsRight then s.width - (label + s.gap)
    else s.width
  let half := width / 2
  let mark : Int := 2 * Raw.size s.cutMark.toList
  let before : Int := half - s.gap
  { half := half, label := label, longest := p.longest
    before := if s.roomy then max 0 (before - mark) else before
    behind := half - (if s.roomy then mark else mark + 1) }

/-- The concordance of texts with names, if contexts can be told apart. -/
def concordance (s : Style) (f : Format) (command : String)
    (texts : List (List Char × Array Char)) : Option (List Char) := do
  let (p, counts) ← wordsOfAll s 0 [] {} (texts.map (·.2))
  let m := s.room p counts (texts.map (·.1))
  let lines := (s.sorted p).map fun o =>
    let (name, text) := texts.getD o.file ([], #[])
    let parts := o.parts s m text
    let label : List Char :=
      if s.counts then
        let before := if o.file = 0 then 0 else counts.getD (o.file - 1) 0
        name ++ ':' :: (natText (o.label + 1 - before)).toList
      else if s.labelled then
        (text.extract o.label (behindFilled text o.contextLast o.label)).toList
      else []
    match f with
    | .plain => plainLine s m text label parts
    | _ => calledLine s f command text (if s.counts || s.labelled then some label else none) parts
  pure lines.flatten

/-- The options that `ptx` knows. -/
def flags : Flags where
  letters := "AF:GM:ORS:TW:b:i:fg:o:trw:"
  long := [("auto-reference", .nothing, "A"), ("break-file", .value, "b"),
    ("flag-truncation", .value, "F"), ("ignore-case", .nothing, "f"), ("gap-size", .value, "g"),
    ("ignore-file", .value, "i"), ("macro-name", .value, "M"), ("only-file", .value, "o"),
    ("references", .nothing, "r"), ("right-side-refs", .nothing, "R"),
    ("format", .value, "format"), ("sentence-regexp", .value, "S"),
    ("traditional", .nothing, "G"), ("typeset-mode", .nothing, "t"), ("width", .value, "w"),
    ("word-regexp", .value, "W")]

/-- The formats by their names. -/
def formatNames : List (List String) := [["roff"], ["tex"]]

/-- The whole text of an operand, byte by byte, or nothing if it cannot be read, which is told. -/
def bytesOf (c : Call) (operand : String) : Act (Option (List Char)) := do
  let operand := if operand = "" then "-" else operand
  match ← Call.whole operand with
  | .ok cs => pure (some (Characters.singleBytes cs))
  | .error err =>
    c.blameFile operand err
    pure none

/-- The characters that words consist of: letters, or in the traditional way all but blanks. Those
that a file holds part them. -/
def wordChars (traditional : Bool) (breaks : Option (List Char)) (c : Char) : Bool :=
  let blank := c = ' ' ∨ c = '\t' ∨ c = '\n'
  match breaks with
  | some cs => !cs.contains c && !(traditional && blank)
  | none => if traditional then !blank else c.isAlpha

/-- The program `ptx`. -/
def ptx : Tool := fun _ c =>
  c.withFlags flags 1 fun p => do
    let refuse (text : String) : Act Nat := do
      c.blame text
      pure 1
    let mut format : Option Format := none
    for (key, value) in p.options do
      let v := value.getD ""
      match key with
      | "g" => if (positive? v).isNone then return ← refuse ("invalid gap width: " ++ curlyQuoted v)
      | "w" => if (positive? v).isNone then return ← refuse ("invalid line width: " ++ curlyQuoted v)
      | "O" => format := some .roff
      | "T" => format := some .tex
      | "format" =>
        match meant formatNames v with
        | .ok "tex" => format := some .tex
        | .ok _ => format := some .roff
        | .error _ => return ← c.refuseWord 1 "--format" formatNames v
      | _ => pure ()
    let traditional := p.has "G"
    let anyCase := p.has "f"
    if traditional then
      if let some o := p.operands[2]? then
        if let some target := p.operands[1]? then
          if let .error err ← Act.openPath target { writes := true, create := true, truncate := true } then
            return ← refuse (fileTitle target ++ ": " ++ err.text)
        return ← c.extraOperand o 1
    let mut output := none
    if traditional then
      if let some target := p.operands[1]? then
        match ← Act.openPath target { writes := true, create := true, truncate := true } with
        | .ok id => output := some id
        | .error err => return ← refuse (fileTitle target ++ ": " ++ err.text)
    let contextText := match p.last? "S" with
      | some t => plainText t
      | none => if !traditional && !p.has "r" then "[.?!][]\"')\x7d]*\\($\\|\t\\|  \\)[ \t\n]*" else "\n"
    let contextEnd ←
      if contextText = "" then pure none
      else if (p.last? "S").isNone && !traditional && !p.has "r" then pure (some sentenceEnd)
      else
        match expression anyCase contextText with
        | .ok r => pure (some r)
        | .error why => return ← refuse (why ++ " (for regexp " ++ curlyQuoted contextText ++ ")")
    let wordText := plainText ((p.last? "W").getD "")
    let matching ←
      if wordText = "" then pure none
      else
        match expression anyCase wordText with
        | .ok r => pure (some r)
        | .error why => return ← refuse (why ++ " (for regexp " ++ curlyQuoted wordText ++ ")")
    let mut lists : List (String × List Char) := []
    for key in ["b", "i", "o"] do
      if let some name := p.last? key then
        match ← bytesOf c name with
        | some cs => lists := (key, cs) :: lists
        | none => return 1
    let wordsIn (key : String) : Option (List (List Char)) :=
      ((lists.lookup key).map listed).filter fun ws => !ws.isEmpty
    let inputs := if p.operands.isEmpty then ["-"]
      else if traditional then p.operands.take 1 else p.operands
    let mut texts : List (List Char × Array Char) := []
    for o in inputs do
      match ← bytesOf c o with
      | some cs =>
        let name := if o = "-" then [] else Characters.singleBytes o.toList
        texts := (name, cs.toArray) :: texts
      | none => return 1
    let s : Style :=
      { words := match matching with
          | some r => .matching r
          | none => .of (wordChars traditional (lists.lookup "b"))
        contextEnd := contextEnd, contextText := contextText, anyCase := anyCase
        counts := p.has "A", labelled := p.has "r", labelsRight := p.has "R"
        width := ((p.last? "w").bind positive?).getD 72, gap := ((p.last? "g").bind positive?).getD 3
        cutMark := ((p.last? "F").map plainText).getD "/", roomy := !traditional
        ignored := wordsIn "i", only := wordsIn "o" }
    let shape := format.getD (if traditional then .roff else .plain)
    match concordance s shape ((p.last? "M").getD "xx") texts.reverse with
    | none =>
      refuse ("error: regular expression has a match of length zero: " ++ curlyQuoted contextText)
    | some cs =>
      let text := String.ofList (Raw.joined cs)
      match output with
      | some id => discard (Act.writeChannel id text)
      | none => Act.print text
      pure 0

end Runbook.Shell.Concordance
