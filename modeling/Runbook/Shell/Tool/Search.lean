import Runbook.Shell.Pattern
import Runbook.Shell.Regex.Ordered
import Runbook.Shell.Tool.Lines

/-!
# `Shell/Tool/Search` — lines that match

`grep` passes on the lines of its input in which one of some expressions is found.
-/

set_option autoImplicit false

namespace Runbook.Shell.Search

/-- What the patterns of a call are. -/
inductive Kind where
  | basic
  | extended
  | fixed
  | ordered
  deriving DecidableEq

/-- What is done with files that are no texts. -/
inductive Binary where
  /-- It is told that there is a match, and no more. -/
  | told
  | text
  | skipped
  deriving DecidableEq

/-- All that options decide. -/
structure Style where
  kind : Kind := .basic
  anyCase : Bool := false
  inverted : Bool := false
  words : Bool := false
  lines : Bool := false
  counts : Bool := false
  listsMatching : Bool := false
  listsOther : Bool := false
  onlyMatch : Bool := false
  quiet : Bool := false
  silent : Bool := false
  numbers : Bool := false
  offsets : Bool := false
  names : Bool := false
  tabs : Bool := false
  most : Option Nat := none
  /-- How many lines are shown around those that match, if that was asked for. -/
  before : Option Nat := none
  after : Option Nat := none
  separator : Option String := some "--"
  binary : Binary := .told
  mark : Char := '\n'
  /-- Names end with a byte of zero. -/
  zeroNames : Bool := false
  label : String := "(standard input)"
  /-- How wide the numbers are when tabs follow them. -/
  width : Nat := 1
  /-- The colours of parts, by the names of the parts, if there are any. -/
  paints : Option (List (String × String)) := none

/-! ## Matching -/

/-- The match of a word: no part of a longer one. From each place shorter matches are tried too. -/
def wordMatch? (r : Regex) (s : Subject) : (fuel : Nat) → (place : Nat) → Option (Nat × Nat)
  | 0, _ => none
  | fuel + 1, place =>
    let isWhole (last : Nat) : Bool :=
      !(s.before? place).any Subject.isWordChar && !(s.text[last]?).any Subject.isWordChar
    let hits := ((r.ends s (place, [])).map (·.1)).filter isWhole
    match hits.foldl (fun (best : Option Nat) n => some (max n (best.getD 0))) none with
    | some last => some (place, last)
    | none => wordMatch? r s fuel (place + 1)

/-- A match from a place on: where it begins and ends. -/
def match? (st : Style) (r : Regex) (s : Subject) (place : Nat) : Option (Nat × Nat) :=
  if st.kind = .ordered then
    (r.search? s place).map fun (first, last, gs) => (Regex.Ordered.start first gs, last)
  else if st.lines then
    if place = 0 && ((r.ends s (0, [])).any fun x => x.1 == s.text.size) then some (0, s.text.size)
    else none
  else if st.words then wordMatch? r s (s.text.size + 1 - place) place
  else (r.search? s place).map fun (first, last, _) => (first, last)

/-- All matches that are not empty, one behind the other. -/
def matches_ (st : Style) (r : Regex) (s : Subject) : (fuel : Nat) → (place : Nat) → List (Nat × Nat)
  | 0, _ => []
  | fuel + 1, place =>
    if s.text.size ≤ place then []
    else
      match match? st r s place with
      | none => []
      | some (first, last) =>
        if first = last then matches_ st r s fuel (last + 1)
        else (first, last) :: matches_ st r s fuel last

/-- An expression whose preferred way is the match, as one for words or for lines if these are
looked for. -/
def preferred (st : Style) (r : Regex) : Regex :=
  let word : Regex := .one Regex.Ordered.isWord
  .firstOf
    (if st.lines then .cat (.edge .lineStart) (.cat r (.edge .lineEnd))
    else if st.words then .cat (.look true false word) (.cat r (.look false false word))
    else r)

/-- The expression for patterns of which one has to match, or what is wrong with one. -/
def expression (st : Style) (patterns : List String) : Except Regex.Fault (Option Regex) := do
  let one (p : String) : Except Regex.Fault Regex :=
    match st.kind with
    | .fixed => .ok (Regex.literal st.anyCase p.toList)
    | k =>
      (Regex.read { extended := k == .extended, anyCase := st.anyCase, looseClose := true } p).map (·.1)
  let rec all : List String → Except Regex.Fault (Option Regex)
    | [] => .ok none
    | p :: rest => do
      let r ← one p
      match ← all rest with
      | some more => .ok (some (.alt r more))
      | none => .ok (some r)
  all patterns

/-- The operators that stand at the beginning of an extended expression, where they mean nothing. -/
def strayOperators : (fuel : Nat) → (first : Bool) → List Char → List String
  | 0, _, _ => []
  | _ + 1, _, [] => []
  | fuel + 1, first, c :: rest =>
    let told (w : String) : String := "warning: " ++ w ++ " at start of expression"
    match c with
    | '\\' => strayOperators fuel false (rest.drop 1)
    | '[' =>
      let inside := if rest.head? == some '^' then rest.drop 1 else rest
      let inside := if inside.head? == some ']' then inside.drop 1 else inside
      let rec skip : (n : Nat) → List Char → List Char
        | 0, _ => []
        | _ + 1, [] => []
        | _ + 1, ']' :: more => more
        | n + 1, '[' :: k :: more =>
          if k = ':' ∨ k = '.' ∨ k = '=' then
            match Regex.upTo? k ']' more with
            | some (_, final) => skip n final
            | none => []
          else skip n (k :: more)
        | n + 1, _ :: more => skip n more
      strayOperators fuel false (skip inside.length inside)
    | '(' | '|' | '\n' => strayOperators fuel true rest
    | '^' => strayOperators fuel first rest
    | '*' | '+' | '?' =>
      if first then told (String.singleton c) :: strayOperators fuel true rest
      else strayOperators fuel false rest
    | '\x7b' =>
      if first && (Regex.takeInterval { extended := true } rest).isOk then
        told "\x7b...\x7d" :: strayOperators fuel true (rest.dropWhile (· != '\x7d') |>.drop 1)
      else strayOperators fuel false rest
    | _ => strayOperators fuel false rest

/-! ## Searching a text -/

/-- A text in the colour of a part. -/
def painted (st : Style) (part text : String) : String :=
  match st.paints with
  | none => text
  | some paints =>
    match paints.lookup part with
    | some code =>
      if code = "" ∨ text = "" then text
      else "\x1b[" ++ code ++ "m\x1b[K" ++ text ++ "\x1b[m\x1b[K"
    | none => text

/-- The name of a file with what parts it from the rest. -/
def nameCell (st : Style) (name mark : String) : String :=
  painted st "fn" name ++ (if st.zeroNames then "\x00" else painted st "se" mark)

/-- The part of a line in front of its text. -/
def leader (st : Style) (name : String) (number offset : Nat) (sign : Char) : String :=
  let mark := String.singleton sign
  let cell (part : String) (n : Nat) : String :=
    let digits := (natText n).toList
    painted st part (String.ofList (if st.tabs then padLeft st.width ' ' digits else digits)) ++
      painted st "se" mark
  let number := if st.numbers then cell "ln" number else ""
  let name := if st.names then nameCell st name mark else ""
  let offset := if st.offsets then cell "bn" offset else ""
  let all := name ++ number ++ offset
  if st.tabs ∧ all ≠ "" then all ++ "\t" else all

/-- A text with some of its parts in the colour of matches. -/
def withMarks (st : Style) (text : List Char) : (marks : List (Nat × Nat)) → (done : Nat) → String
  | [], done => String.ofList (text.drop done)
  | (first, last) :: rest, done =>
    String.ofList ((text.take first).drop done) ++
      painted st "ms" (String.ofList ((text.take last).drop first)) ++ withMarks st text rest last

/-- What is shown of a line: what is in front of it, its text, and the matches in it. -/
structure Shown where
  lead : String
  text : List Char
  marks : List (Nat × Nat) := []

/-- How far the search of a text has come. -/
structure State where
  number : Nat := 0
  offset : Nat := 0
  count : Nat := 0
  /-- The lines before that may be shown as surroundings, the latest first. -/
  past : List (Nat × Nat × List Char) := []
  /-- How many lines behind the latest match are still shown. -/
  owed : Nat := 0
  /-- The number of the line that was shown last. -/
  shown : Option Nat := none
  /-- Lines of an earlier text have been shown. -/
  follows : Bool := false
  output : List String := []
  /-- A line to show holds bytes that are no characters. -/
  broken : Bool := false
  stopped : Bool := false

/-- The search with some lines more to show, up to one that holds bytes which are no characters. -/
def State.show_ (st : Style) (s : State) : List Shown → State
  | [] => s
  | l :: rest =>
    if s.broken then s
    else if st.binary != .text && l.text.any fun c => (Raw.byte? c).isSome then
      { s with broken := true, stopped := true }
    else
      let line := l.lead ++ withMarks st l.text l.marks 0 ++ String.singleton st.mark
      show_ st { s with output := line :: s.output } rest

/-- The matches of a line that are coloured: lines that match because nothing is found in them have
none, but those around them have. -/
def marksOf (st : Style) (r : Option Regex) (selected : Bool) (line : List Char) :
    List (Nat × Nat) :=
  match st.paints, r with
  | some _, some r =>
    if selected != st.inverted then matches_ st r (Subject.ofList line) (line.length + 1) 0 else []
  | _, _ => []

/-- The search after one more line. -/
def step (st : Style) (r : Option Regex) (name : String) (s : State) (line : List Char) : State :=
  if s.stopped then s
  else
    let number := s.number + 1
    let subject := Subject.ofList line
    let hit := match r with
      | some r => (match? st r subject 0).isSome
      | none => false
    let next := s.offset + Raw.size line + 1
    let s := { s with number := number }
    if hit != st.inverted then
      let count := s.count + 1
      let firstShown := match s.past.getLast? with
        | some (n, _, _) => n
        | none => number
      let gap := match s.shown with
        | some n => n + 1 < firstShown
        | none => s.follows
      let around := st.before.isSome || st.after.isSome
      let bar := if gap && around && !st.onlyMatch then
        st.separator.map fun bar => painted st "se" bar ++ "\n" else none
      let s := { s with output := bar.toList ++ s.output }
      let lead := if st.onlyMatch then [] else
        s.past.reverse.map fun (n, o, l) =>
          { lead := leader st name n o '-', text := l, marks := marksOf st r false l : Shown }
      let body : List Shown :=
        if !st.onlyMatch then
          [{ lead := leader st name number s.offset ':', text := line
             marks := marksOf st r true line }]
        else
          match r, st.inverted with
          | some r, false =>
            (matches_ st r subject (line.length + 1) 0).map fun (a, b) =>
              { lead := leader st name number (s.offset + Raw.size (line.take a)) ':'
                text := subject.between a b, marks := [(0, b - a)] }
          | _, _ => []
      let silent := st.counts || st.quiet || st.listsMatching || st.listsOther
      let s := if silent then s else s.show_ st (lead ++ body)
      let stop := s.broken || st.most == some count || st.quiet || st.listsMatching || st.listsOther
      { s with
        offset := next, count := count, past := [], owed := st.after.getD 0, shown := some number
        stopped := stop }
    else if 0 < s.owed && !st.onlyMatch then
      let s := s.show_ st
        [{ lead := leader st name number s.offset '-', text := line
           marks := marksOf st r false line }]
      { s with offset := next, owed := s.owed - 1, shown := some number }
    else
      let kept := st.before.getD 0
      { s with
        offset := next
        past := if 0 < kept then ((number, s.offset, line) :: s.past).take kept else [] }

/-- The lines behind the last match that are still shown. -/
def trailing (st : Style) (r : Option Regex) (name : String) : State → List (List Char) → State
  | s, [] => s
  | s, line :: rest =>
    if s.owed = 0 ∨ st.onlyMatch ∨ s.broken then s
    else
      let number := s.number + 1
      let next := s.show_ st
        [{ lead := leader st name number s.offset '-', text := line
           marks := marksOf st r false line }]
      trailing st r name
        { next with number := number, offset := s.offset + Raw.size line + 1, owed := s.owed - 1 } rest

/-- The search of lines, up to the last match that is asked for. -/
def run (st : Style) (r : Option Regex) (name : String) : State → List (List Char) → State
  | s, [] => s
  | s, line :: rest =>
    let s := step st r name s line
    if s.stopped then
      if st.quiet || st.listsMatching || st.listsOther then s else trailing st r name s rest
    else run st r name s rest

/-- Searches one text under a name, of which nothing is shown if it holds a byte of zero. It gives
whether a line was selected, and whether lines have been shown. -/
def search (c : Call) (st : Style) (r : Option Regex) (name : String) (follows : Bool)
    (cs : List Char) (cut : Bool) : Act (Bool × Bool) := do
  if st.most == some 0 then pure (false, follows)
  else
    let (lines, _) := Lines.split st.mark cs
    let zero := st.mark == '\n' && st.binary != .text && cs.any fun x => x.toNat == 0
    let silent := st.counts || st.quiet || st.listsMatching || st.listsOther
    if zero && st.binary = .skipped then pure (false, follows)
    else
      let st' := if zero && !silent then { st with quiet := true } else st
      let s := run st' r name { follows := follows } lines
      let found := 0 < s.count
      let listed := painted st "fn" name ++ (if st.zeroNames then "\x00" else "\n")
      if st.quiet then pure ()
      else if st.listsMatching then
        if found then Act.print listed
      else if st.listsOther then
        if !found then Act.print listed
      else if st.counts then
        Act.print ((if st.names then nameCell st name ":" else "") ++ natText s.count ++ "\n")
      else
        Act.print (String.join s.output.reverse)
        if s.broken && st.binary = .skipped then pure ()
        else if s.broken || (zero && found) then c.blame (name ++ ": binary file matches")
      if cut && !s.stopped then throw Flow.starved
      pure (found, follows || !s.output.isEmpty)

/-! ## Files -/

/-- Which files in folders are searched. -/
structure Choice where
  recursive : Bool := false
  /-- Links in folders are followed. -/
  follows : Bool := false
  skipsFolders : Bool := false
  includes : List String := []
  excludes : List String := []
  excludedFolders : List String := []

/-- The name of a file matches a pattern for names. -/
def fits (pattern name : String) : Bool :=
  Pattern.isMatch {} (Marked.bare pattern.toList) name.toList

/-- A file is searched, by its name. -/
def Choice.takes (ch : Choice) (name : String) : Bool :=
  (ch.includes.isEmpty || ch.includes.any (fits · name)) && !ch.excludes.any (fits · name)

/-- The last name of a path. -/
def nameOf (path : String) : String := (path.splitOn "/").getLast?.getD path

/-- The files to search below a folder: paths, each with whether a link that leads nowhere is told.
-/
def filesBelow (d : Disk) (ch : Choice) : (fuel : Nat) → (path : String) → Location → List String
  | 0, _, _ => []
  | fuel + 1, path, l =>
    (d.namesAt l).flatMap fun name =>
      let sub := if path = "" then name else if path.endsWith "/" then path ++ name
        else path ++ "/" ++ name
      match d.at? (l ++ [name]) with
      | none => []
      | some n =>
        match n.content with
        | .folder _ =>
          if ch.excludedFolders.any (fits · name) then []
          else filesBelow d ch fuel sub (l ++ [name])
        | .file _ => if ch.takes name then [sub] else []
        | .link _ =>
          if !ch.follows then []
          else
            match d.find l name with
            | .ok (k, m) =>
              if m.isFolder then
                if k.isPrefixOf l then [] else filesBelow d ch fuel sub k
              else if ch.takes name then [sub] else []
            | .error _ => [sub]
        | .device _ => []

/-- The flags of `grep`. -/
def flags : Flags :=
  { letters := "0123456789A:B:C:D:EFGHILPTUVX:abcd:e:f:hiLlm:noqRrsuvwxyZz"
    long := [("basic-regexp", .nothing, "G"), ("extended-regexp", .nothing, "E"),
      ("fixed-regexp", .nothing, "F"), ("fixed-strings", .nothing, "F"),
      ("perl-regexp", .nothing, "P"), ("after-context", .value, "A"),
      ("before-context", .value, "B"), ("binary-files", .value, "binary-files"),
      ("binary", .nothing, "U"), ("byte-offset", .nothing, "b"), ("context", .value, "C"),
      ("color", .maybe, "color"), ("colour", .maybe, "color"), ("count", .nothing, "c"),
      ("devices", .value, "D"), ("directories", .value, "d"), ("exclude", .value, "exclude"),
      ("exclude-from", .value, "exclude-from"), ("exclude-dir", .value, "exclude-dir"),
      ("file", .value, "f"), ("files-with-matches", .nothing, "l"),
      ("files-without-match", .nothing, "L"), ("group-separator", .value, "group"),
      ("help", .nothing, "help"), ("include", .value, "include"), ("ignore-case", .nothing, "i"),
      ("no-ignore-case", .nothing, "no-i"), ("initial-tab", .nothing, "T"),
      ("label", .value, "label"), ("line-buffered", .nothing, "buffered"),
      ("line-number", .nothing, "n"), ("line-regexp", .nothing, "x"), ("max-count", .value, "m"),
      ("no-filename", .nothing, "h"), ("no-group-separator", .nothing, "no-group"),
      ("no-messages", .nothing, "s"), ("null", .nothing, "Z"), ("null-data", .nothing, "z"),
      ("only-matching", .nothing, "o"), ("quiet", .nothing, "q"), ("recursive", .nothing, "r"),
      ("dereference-recursive", .nothing, "R"), ("regexp", .value, "e"),
      ("invert-match", .nothing, "v"), ("silent", .nothing, "q"), ("text", .nothing, "a"),
      ("unix-byte-offsets", .nothing, "u"), ("version", .nothing, "V"),
      ("with-filename", .nothing, "H"), ("word-regexp", .nothing, "w")] }

/-- How the program is called. -/
def usage (c : Call) : Act Nat := do
  Act.tell ("Usage: " ++ c.name ++ " [OPTION]... PATTERNS [FILE]...\n")
  c.hint
  pure 2

/-- The number that digits among the options spell: those behind each other make one. -/
def digitContext (args : List String) : Option Nat :=
  let runs := args.filterMap fun a =>
    match a.toList with
    | '-' :: c :: rest =>
      if c = '-' then none
      else
        let ds := (c :: rest).dropWhile (fun x => !x.isDigit && "nivwxclLohHqsaEFGrRybTzZ".toList.contains x)
        let ds := ds.takeWhile Char.isDigit
        if ds.isEmpty then none else some (ofDigits 10 ds)
    | _ => none
  runs.getLast?

/-- The colours of parts, as a text changes them. -/
def paintsOf (text : String) : List (String × String) :=
  let given := (text.splitOn ":").flatMap fun t =>
    match t.splitOn "=" with
    | [name, code] => if name = "mt" then [("ms", code), ("mc", code)] else [(name, code)]
    | _ => []
  given.reverse ++ [("ms", "01;31"), ("fn", "35"), ("ln", "32"), ("bn", "32"), ("se", "36")]

/-- The style that options choose. -/
def styleOf (kind : Kind) (p : Parsed) (args : List String) : Except String Style := do
  let number (key fault : String) : Except String (Option Nat) :=
    match p.last? key with
    | none => .ok none
    | some v =>
      match decimalText? v with
      | some n => if n < 0 then (if key = "m" then .ok none else .error (v ++ fault)) else .ok (some n.toNat)
      | none => .error (if key = "m" then fault else v ++ fault)
  if p.has "P" && ["E", "F", "G"].any p.has then throw "conflicting matchers specified"
  let after ← number "A" ": invalid context length argument"
  let before ← number "B" ": invalid context length argument"
  let both ← number "C" ": invalid context length argument"
  let most ← number "m" "invalid max count"
  let both := match digitContext args, both with
    | some n, none => if p.options.any fun o => o.1.length = 1 && o.1.all Char.isDigit then some n else none
    | _, b => b
  let onlyMatch := p.has "o"
  pure {
    kind := match p.lastOf? ["E", "F", "G", "P"] with
      | some "P" => .ordered
      | some "E" => .extended
      | some "F" => .fixed
      | some "G" => .basic
      | _ => kind
    anyCase := match p.lastOf? ["i", "y", "no-i"] with
      | some "no-i" => false
      | some _ => true
      | none => false
    inverted := p.has "v", words := p.has "w" && !p.has "x", lines := p.has "x"
    counts := p.has "c", listsMatching := p.lastOf? ["l", "L"] == some "l"
    listsOther := p.lastOf? ["l", "L"] == some "L", onlyMatch := onlyMatch
    quiet := p.has "q", silent := p.has "s", numbers := p.has "n", offsets := p.has "b"
    tabs := p.has "T", most := most
    before := before.orElse fun _ => both
    after := after.orElse fun _ => both
    separator := match p.lastOf? ["group", "no-group"] with
      | some "group" => p.last? "group"
      | some _ => none
      | none => some "--"
    binary := match p.lastOf? ["a", "I", "binary-files"] with
      | some "a" => .text
      | some "I" => .skipped
      | some _ =>
        if p.last? "binary-files" == some "text" then .text
        else if p.last? "binary-files" == some "without-match" then .skipped else .told
      | none => .told
    mark := if p.has "z" then '\x00' else '\n'
    zeroNames := p.has "Z"
    label := (p.last? "label").getD "(standard input)" }

/-- The patterns of a file, one to a line; nothing if it cannot be read. -/
def patternsIn (c : Call) (path : String) : Act (Option (List String)) := do
  match ← Call.whole path with
  | .ok cs =>
    let (ls, _) := Lines.split '\n' cs
    pure (some (ls.map String.ofList))
  | .error err =>
    c.blame (path ++ ": " ++ err.text)
    pure none

/-- The program `grep`, for patterns of a kind if options do not say otherwise. -/
def grep (kind : Kind) : Tool := fun _ called => do
  let c := if kind = .basic then called else { called with name := "grep" }
  match flags.parse c.args with
  | .error text =>
    c.blame text
    usage c
  | .ok p =>
    match styleOf kind p c.args with
    | .error text =>
      c.blame text
      pure 2
    | .ok st =>
      let fromFiles ← (p.all "f").mapM (patternsIn c)
      if fromFiles.any (·.isNone) then pure 2
      else
        let given := (p.all "e").flatMap fun t => t.splitOn "\n"
        let isGiven := p.has "e" || p.has "f"
        match isGiven, p.operands with
        | false, [] => usage c
        | _, _ =>
          let patterns : List String :=
            if isGiven then given ++ fromFiles.flatMap (·.getD [])
            else (p.operands.head?.getD "").splitOn "\n"
          let operands := if isGiven then p.operands else p.operands.drop 1
          if p.has "u" then c.blame "warning: --unix-byte-offsets (-u) is obsolete"
          let known : Except String (Option Regex) :=
            if st.kind = .ordered then
              match patterns with
              | [t] =>
                match Regex.Ordered.read st.anyCase t with
                | .ok r => .ok (some (preferred st r))
                | .error fault => .error fault.message
              | _ => .error "the -P option only supports a single pattern"
            else (expression st patterns).mapError Regex.Fault.message
          match known with
          | .error fault =>
            if st.kind = .extended then
              for t in patterns do
                for w in strayOperators (t.length + 1) true t.toList do
                  c.blame w
            c.blame fault
            pure 2
          | .ok r =>
            if st.kind = .extended then
              for t in patterns do
                for w in strayOperators (t.length + 1) true t.toList do
                  c.blame w
            let ch : Choice :=
              { recursive := p.has "r" || p.has "R" || p.last? "d" == some "recurse"
                follows := p.lastOf? ["r", "R"] == some "R"
                skipsFolders := p.last? "d" == some "skip"
                includes := p.all "include", excludes := p.all "exclude"
                excludedFolders := p.all "exclude-dir" }
            let here := (← Act.shell).here
            let d ← Act.disk
            let isFolder (o : String) : Bool := (d.find here o).toOption.any fun x => x.2.isFolder
            -- Without operands the folder at hand is searched.
            let paths : List String :=
              if !operands.isEmpty then
                operands.flatMap fun o =>
                  if ch.recursive && o != "-" && isFolder o then
                    match d.find here o with
                    | .ok (l, _) =>
                      if ch.excludedFolders.any (fits · (nameOf o)) then []
                      else filesBelow d ch Disk.maxDepth o l
                    | .error _ => [o]
                  else if ch.takes (nameOf o) || o = "-" then [o] else []
              else if ch.recursive then filesBelow d ch Disk.maxDepth "" here
              else ["-"]
            let several := 1 < operands.length ||
              (ch.recursive && (operands.isEmpty || operands.any isFolder))
            let st := { st with
              names := match p.lastOf? ["H", "h"] with
                | some "H" => true
                | some _ => false
                | none => several }
            let colours := (p.last? "color").getD ""
            let passed ← Environment.all
            let st := if !(["always", "yes", "force"].contains colours) then st
              else { st with paints := some (paintsOf ((passed.lookup "GREP_COLORS").getD "")) }
            let mut found := false
            let mut shown := false
            let mut failed := false
            for o in paths do
              if !(found && st.quiet) then
                match ← Call.fetch o with
                | .ok (cs, cut) =>
                  let st := { st with
                    width := match ← Call.sizeOf o with
                      | .ok (some n) => (natText n).length
                      | _ => 19 }
                  let (hit, more) ← search c st r (if o = "-" then st.label else o) shown cs cut
                  if hit then found := true
                  shown := more
                | .error err =>
                  if err = Errno.isFolder && ch.skipsFolders then pure ()
                  else
                    if !st.silent then c.blame (o ++ ": " ++ err.text)
                    failed := true
            pure (if failed && !(st.quiet && found) then 2 else if found then 0 else 1)

end Runbook.Shell.Search
