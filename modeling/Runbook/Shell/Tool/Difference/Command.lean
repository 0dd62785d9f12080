import Runbook.Shell.Pattern
import Runbook.Shell.Regex.Read
import Runbook.Shell.Tool.Date
import Runbook.Shell.Tool.Difference.Basic
import Runbook.Shell.Tool.Lines

/-!
# `Shell/Tool/Difference/Command` — comparing files and folders

`diff` compares two files line by line, or the files of two folders by their names. What is to be
overlooked (case, blanks, blank lines) counts when lines are compared, not when they are written.
-/

set_option autoImplicit false

namespace Runbook.Shell.Difference

/-- What is overlooked, and what is told. -/
structure Manner where
  look : Look := {}
  anyCase : Bool := false
  /-- Blanks do not count at all, or only as one; or only at the ends of lines. -/
  noBlanks : Bool := false
  fewBlanks : Bool := false
  noTrailing : Bool := false
  expandsTabs : Bool := false
  noReturns : Bool := false
  noBlankLines : Bool := false
  /-- Changes of nothing but lines that fit are of no interest. -/
  dull : Option Regex := none
  isText : Bool := false
  brief : Bool := false
  tellsSame : Bool := false
  deep : Bool := false
  /-- A file that is missing counts as an empty one. -/
  missingIsEmpty : Bool := false
  excluded : List String := []
  labels : List String := []
  /-- The options as they were given. -/
  given : List String := []

/-! ## Classes of lines -/

/-- A blank. -/
def isSpace (c : Char) : Bool := isNumberSpace c

/-- A line without blanks at its end. -/
def trimmedEnd (cs : List Char) : List Char := (cs.reverse.dropWhile isSpace).reverse

/-- A line with one blank in the place of several. -/
def squeezed : List Char → List Char
  | [] => []
  | c :: rest =>
    if isSpace c then
      match rest with
      | d :: _ => if isSpace d then squeezed rest else ' ' :: squeezed rest
      | [] => [' ']
    else c :: squeezed rest

/-- What counts of a line. -/
def Manner.key (m : Manner) (cs : List Char) (ended : Bool) : String :=
  let cs := if m.noReturns ∧ cs.getLast? = some '\r' then cs.dropLast else cs
  let cs := if m.expandsTabs then withoutTabs true cs else cs
  let cs :=
    if m.noBlanks then cs.filter (!isSpace ·)
    else if m.fewBlanks then squeezed (trimmedEnd cs)
    else if m.noTrailing then trimmedEnd cs
    else cs
  let cs := if m.anyCase then cs.map lowerOf else cs
  let loose := m.noBlanks || m.fewBlanks || m.noTrailing || m.look.form == .script ||
    m.look.form == .forward
  String.ofList (if ended || loose then cs else '\n' :: cs)

/-- The classes of lines of both texts. -/
def classesOf (m : Manner) (a b : Side) : Array Nat × Array Nat :=
  let keys (s : Side) : Array String :=
    s.lines.mapIdx fun i l => m.key l (i + 1 < s.lines.size || s.complete)
  let number (state : Std.HashMap String Nat × Array Nat) (k : String) :
      Std.HashMap String Nat × Array Nat :=
    match state.1[k]? with
    | some n => (state.1, state.2.push n)
    | none => (state.1.insert k state.1.size, state.2.push state.1.size)
  let (known, first) := (keys a).foldl number (∅, #[])
  let (_, second) := (keys b).foldl number (known, #[])
  (first, second)

/-- How many elements are the same at the beginning. -/
def sharedStart (a b : Array (List Char)) (most : Nat) : Nat :=
  ((List.range most).takeWhile fun i => a[i]? == b[i]?).length

/-- How many elements are the same at the end. -/
def sharedEnd (a b : Array (List Char)) (most : Nat) : Nat :=
  ((List.range most).takeWhile fun i => a[a.size - 1 - i]? == b[b.size - 1 - i]?).length

/-- The changes between two texts. Lines at the beginning and at the end that are the same are left
aside, except for those that are shown. -/
def changesBetween (m : Manner) (a b : Side) : List Change :=
  let shown := if m.look.form = .unified ∨ m.look.form = .context then m.look.around else 0
  let full (s : Side) : Array (List Char) :=
    let loose := m.look.form == .script || m.look.form == .forward
    s.lines.mapIdx fun i l => if i + 1 < s.lines.size || s.complete || loose then '\n' :: l else l
  let (x, y) := (full a, full b)
  let least := min x.size y.size
  let start := sharedStart x y least
  let finish := sharedEnd x y (least - start)
  let start := start - min start shown
  let finish := finish - min finish shown
  let (ca, cb) := classesOf m a b
  let part (v : Array Nat) : Array Nat := v.extract start (v.size - finish)
  let dull (s : Side) (i : Nat) : Bool :=
    let l := s.lines.getD i []
    (m.noBlankLines && (if m.noBlanks || m.fewBlanks then l.all isSpace else l.isEmpty)) ||
      m.dull.any fun r => r.occursIn (Subject.ofList l)
  (changes (part ca) (part cb)).map fun c =>
    let c := { c with first := c.first + start, second := c.second + start }
    let all := (List.range c.deleted).all (fun k => dull a (c.first + k)) &&
      (List.range c.inserted).all fun k => dull b (c.second + k)
    { c with ignored := all && (m.noBlankLines || m.dull.isSome) }

/-! ## Files -/

/-- Something that is compared. -/
structure Compared where
  name : String
  text : List Char
  title : String

/-- The lines of a text. -/
def sideOf (x : Compared) : Side :=
  let (ls, complete) := Lines.split '\n' x.text
  { title := x.title, lines := ls.toArray, complete := complete }

/-- Compares two texts, and gives the status. -/
def compareTexts (c : Call) (m : Manner) (heading : Option String) (x y : Compared) : Act Nat := do
  let same : Act Nat := do
    if m.tellsSame then Act.print ("Files " ++ x.name ++ " and " ++ y.name ++ " are identical\n")
    pure 0
  let tellHeading : Act Unit := do
    match heading with
    | some h => Act.print (h ++ "\n")
    | none => pure ()
  if x.text == y.text then
    if m.look.form = .columns && !m.brief && !m.look.changedOnly then
      Act.print (columnsText m.look (sideOf x) (sideOf y) [])
    same
  else
    let isBinary (cs : List Char) : Bool := cs.any (·.toNat == 0)
    if !m.isText && (isBinary x.text || isBinary y.text) then
      if !m.brief then tellHeading
      Act.print ((if m.brief then "Files " else "Binary files ") ++ x.name ++ " and " ++ y.name ++
        " differ\n")
      pure 1
    else
      let a := sideOf x
      let b := sideOf y
      let cs := changesBetween m a b
      if cs.isEmpty && (m.look.form == .script || m.look.form == .forward) then
        for s in [(x, a), (y, b)] do
          if !s.2.complete then c.blame (s.1.name ++ ": No newline at end of file\n")
        pure 2
      else if cs.all (·.ignored) then
        if m.look.form = .columns then Act.print (columnsText m.look a b cs)
        same
      else if m.brief then
        Act.print ("Files " ++ x.name ++ " and " ++ y.name ++ " differ\n")
        pure 1
      else
        tellHeading
        Act.print (report m.look a b cs)
        -- A script cannot tell that the last line has no end.
        let mut status := 1
        if m.look.form = .script || m.look.form = .forward then
          for s in [(x, a), (y, b)] do
            if !s.2.complete then
              c.blame (s.1.name ++ ": No newline at end of file\n")
              status := 2
        pure status

/-- What an operand is. -/
inductive Kind where
  | missing (err : Errno)
  | folder
  | other

/-- What an operand is. -/
def kindOf (o : String) : Act Kind := do
  if o = "-" then pure .other
  else
    match (← Act.disk).find (← Act.shell).here o with
    | .ok (_, n) => pure (if n.isFolder then .folder else .other)
    | .error err => pure (.missing err)

/-- The time of the last change of an operand, as titles tell it. -/
def timeOf (o : String) : Act String := do
  let z ← Date.zone false
  let form (stamp : Nat) : String :=
    let t := Date.ofStamp stamp
    Date.written z t.epoch t.nano "%Y-%m-%d %H:%M:%S.%N %z"
  let d ← Act.disk
  match d.find (← Act.shell).here o with
  | .ok (_, n) => pure (form (if n.isFile then n.stamp else d.clock))
  | .error _ => pure (form d.clock)

/-- The text of an operand. -/
def contentOf (m : Manner) (label : Option String) (o : String) : Act (Except Errno Compared) := do
  let title ← match label with
    | some l => pure l
    | none => do pure (o ++ "\t" ++ (← timeOf o))
  match ← kindOf o with
  | .missing err =>
    if m.missingIsEmpty then pure (.ok ⟨o, [], title⟩) else pure (.error err)
  | _ =>
    match ← Call.whole o with
    | .ok cs => pure (.ok ⟨o, cs, title⟩)
    | .error err => pure (.error err)

/-- Compares two files. -/
def compareFiles (c : Call) (m : Manner) (heading : Option String) (x y : String) : Act Nat := do
  let a ← contentOf m m.labels.head? x
  let b ← contentOf m (m.labels.drop 1).head? y
  match a, b with
  | .ok a, .ok b => compareTexts c m heading a b
  | a, b =>
    for (o, r) in [(x, a), (y, b)] do
      match r with
      | .error err => c.blame (o ++ ": " ++ err.text)
      | .ok _ => pure ()
    pure 2

/-- The path of a name in a folder. -/
def inFolder (folder name : String) : String :=
  if folder.endsWith "/" then folder ++ name else folder ++ "/" ++ name

/-- The names in a folder that are compared. -/
def namesIn (m : Manner) (folder : String) : Act (List String) := do
  let d ← Act.disk
  match d.resolve (← Act.shell).here folder with
  | .ok l =>
    pure ((d.sortedNames l).filter fun n => !(m.excluded.any fun p =>
      Pattern.isMatch {} (Marked.bare p.toList) n.toList))
  | .error _ => pure []

/-- Compares two folders; `fuel` bounds how deep they are. -/
def compareFolders (c : Call) (m : Manner) : (fuel : Nat) → (x y : String) → Act Nat
  | 0, _, _ => pure 2
  | fuel + 1, x, y => do
    let first ← namesIn m x
    let second ← namesIn m y
    let all := (first ++ second.filter (!first.contains ·)).mergeSort fun s t => decide (s ≤ t)
    let mut status := 0
    for n in all do
      let a := inFolder x n
      let b := inFolder y n
      let heading := " ".intercalate ("diff" :: m.given ++ [a, b])
      let one (folder : String) : Act Nat := do
        Act.print ("Only in " ++ folder ++ ": " ++ n ++ "\n")
        pure 1
      let there := first.contains n
      let here := second.contains n
      let kind (o : String) : Act String := do
        match (← Act.disk).find (← Act.shell).here o with
        | .ok (_, node) =>
          pure (match node.content with
            | .folder _ => "directory"
            | .file t => if t = "" then "regular empty file" else "regular file"
            | _ => "special file")
        | .error _ => pure "file"
      let ka ← kindOf a
      let kb ← kindOf b
      let n ← match there, here with
        | true, true =>
          match ka, kb with
          | .folder, .folder =>
            if m.deep then compareFolders c m fuel a b
            else do
              Act.print ("Common subdirectories: " ++ a ++ " and " ++ b ++ "\n")
              pure 0
          | .folder, _ | _, .folder =>
            Act.print ("File " ++ a ++ " is a " ++ (← kind a) ++ " while file " ++ b ++ " is a " ++
              (← kind b) ++ "\n")
            pure 1
          | _, _ => compareFiles c m (some heading) a b
        | true, false =>
          match ka with
          | .folder => if m.missingIsEmpty && m.deep then compareFolders c m fuel a b else one x
          | _ => if m.missingIsEmpty then compareFiles c m (some heading) a b else one x
        | _, _ =>
          match kb with
          | .folder => if m.missingIsEmpty && m.deep then compareFolders c m fuel a b else one y
          | _ => if m.missingIsEmpty then compareFiles c m (some heading) a b else one y
      status := max status n
    pure status

/-! ## The command -/

/-- The flags of `diff`. -/
def flags : Flags :=
  { letters := "0123456789abBcC:dD:eEfF:hHiI:lL:nNpPqrsS:tTuU:vwW:x:X:yZ"
    long := [("normal", .nothing, "normal"), ("brief", .nothing, "q"),
      ("report-identical-files", .nothing, "s"), ("context", .maybe, "c"),
      ("unified", .maybe, "u"), ("ed", .nothing, "e"), ("rcs", .nothing, "n"),
      ("side-by-side", .nothing, "y"), ("width", .value, "W"), ("left-column", .nothing, "left"),
      ("suppress-common-lines", .nothing, "changed"), ("label", .value, "L"),
      ("expand-tabs", .nothing, "t"), ("initial-tab", .nothing, "T"), ("recursive", .nothing, "r"),
      ("new-file", .nothing, "N"), ("exclude", .value, "x"), ("ignore-case", .nothing, "i"),
      ("ignore-tab-expansion", .nothing, "E"), ("ignore-trailing-space", .nothing, "Z"),
      ("ignore-space-change", .nothing, "b"), ("ignore-all-space", .nothing, "w"),
      ("ignore-blank-lines", .nothing, "B"), ("ignore-matching-lines", .value, "I"),
      ("text", .nothing, "a"), ("strip-trailing-cr", .nothing, "returns"),
      ("minimal", .nothing, "d"), ("color", .maybe, "color"), ("show-c-function", .nothing, "p"),
      ("speed-large-files", .nothing, "H"), ("version", .nothing, "v"),
      ("no-dereference", .nothing, "follow"), ("horizon-lines", .value, "horizon")] }

/-- The manner that options ask for. -/
def mannerOf (given : List String) (p : Parsed) : Except String Manner := do
  let mut m : Manner := { given := given.map fileName }
  let mut digits := ""
  for (key, value) in p.options do
    let v := value.getD ""
    let look := m.look
    let number (what : String) : Except String Nat :=
      match natText? v with
      | some n => .ok n
      | none => .error ("invalid " ++ what ++ " '" ++ v ++ "'")
    match key with
    | "normal" => m := { m with look := { look with form := .plain } }
    | "q" => m := { m with brief := true }
    | "s" => m := { m with tellsSame := true }
    | "u" | "U" | "p" =>
      let n ← if value.isSome then number "context length" else pure look.around
      let form := if key = "p" && look.form != .plain then look.form
        else if key = "p" then .context else .unified
      m := { m with look := { look with form := form, around := n } }
    | "c" | "C" =>
      let n ← if value.isSome then number "context length" else pure look.around
      m := { m with look := { look with form := .context, around := n } }
    | "e" => m := { m with look := { look with form := .script } }
    | "f" => m := { m with look := { look with form := .forward } }
    | "n" => m := { m with look := { look with form := .numbered } }
    | "y" => m := { m with look := { look with form := .columns } }
    | "W" => m := { m with look := { look with width := ← number "width" } }
    | "left" => m := { m with look := { look with leftOnly := true } }
    | "changed" => m := { m with look := { look with changedOnly := true } }
    | "t" => m := { m with look := { look with expands := true } }
    | "T" => m := { m with look := { look with tabbed := true } }
    | "L" => m := { m with labels := m.labels ++ [v] }
    | "r" => m := { m with deep := true }
    | "N" => m := { m with missingIsEmpty := true }
    | "x" => m := { m with excluded := m.excluded ++ [v] }
    | "i" => m := { m with anyCase := true }
    | "E" => m := { m with expandsTabs := true }
    | "Z" => m := { m with noTrailing := true }
    | "b" => m := { m with fewBlanks := true }
    | "w" => m := { m with noBlanks := true }
    | "B" => m := { m with noBlankLines := true }
    | "I" =>
      match Regex.read {} v with
      | .ok (r, _) => m := { m with dull := some (match m.dull with
        | some old => .alt old r
        | none => r) }
      | .error fault => throw (v ++ ": " ++ fault.message)
    | "a" => m := { m with isText := true }
    | "returns" => m := { m with noReturns := true }
    | _ => if key.all Char.isDigit then digits := digits ++ key
  match natText? digits with
  | some n => .ok { m with look := { m.look with around := n } }
  | none => .ok m

/-- The program `diff`. -/
def diff : Tool := fun _ c => do
  let refuse (text : String) : Act Nat := do
    c.blame text
    c.blame ("Try '" ++ c.name ++ " --help' for more information.")
    pure 2
  match flags.parse c.args with
  | .error text => refuse text
  | .ok p =>
    if p.has "v" then
      Act.print "diff (GNU diffutils) 3.8\n"
      return 0
    let given := c.args.filter fun a => !p.operands.contains a
    match mannerOf given p with
    | .error text => refuse text
    | .ok m =>
      match p.operands with
      | [] => refuse ("missing operand after '" ++ (c.args.getLast?.getD c.name) ++ "'")
      | [o] => refuse ("missing operand after '" ++ o ++ "'")
      | [x, y] =>
        let base (path : String) : String :=
          (((path.splitOn "/").filter (· != "")).getLast?).getD path
        let kx ← kindOf x
        let ky ← kindOf y
        match kx, ky with
        | .folder, .folder => compareFolders c m Disk.maxDepth x y
        | .folder, .other => compareFiles c m none (inFolder x (base y)) y
        | .other, .folder => compareFiles c m none x (inFolder y (base x))
        | _, _ => compareFiles c m none x y
      | _ :: _ :: z :: _ => refuse ("extra operand '" ++ z ++ "'")

/-!
## Comparing files byte by byte

`cmp` tells where two files differ for the first time, or all places at which they do.
-/

/-- A byte as it is shown. -/
def shownByte (n : Nat) : String :=
  if 128 ≤ n then "M-" ++ shown7 (n - 128) else shown7 n
where
  /-- One of the first 128 bytes as it is shown. -/
  shown7 (n : Nat) : String :=
    if n < 32 then "^" ++ String.singleton (Char.ofNat (n + 64))
    else if n = 127 then "^?"
    else String.singleton (Char.ofNat n)

/-- A byte in octal digits, filled up. -/
def octalByte (width n : Nat) : String := String.ofList (padLeft width ' ' (inBase false 8 n))

/-- The first place at which two lists of bytes differ, the line there, and the bytes; nothing if
one of them ends before. `place` and `line` tell where the lists begin. -/
def firstDifference : (place line : Nat) → List UInt8 → List UInt8 →
    Option (Nat × Nat × Nat × Nat) × Nat × Nat
  | place, line, a :: as, b :: bs =>
    if a = b then firstDifference (place + 1) (if a = 10 then line + 1 else line) as bs
    else (some (place, line, a.toNat, b.toNat), place, line)
  | place, line, _, _ => (none, place, line)

/-- All places at which two lists of bytes differ, with the bytes. -/
def allDifferences : (place : Nat) → List UInt8 → List UInt8 → List (Nat × Nat × Nat)
  | place, a :: as, b :: bs =>
    let rest := allDifferences (place + 1) as bs
    if a = b then rest else (place, a.toNat, b.toNat) :: rest
  | _, _, _ => []

/-- A number of bytes in writing. -/
def bytesOf? (text : String) : Option Nat :=
  let (ds, rest) := text.toList.span Char.isDigit
  let unit : Option Nat := match rest with
    | [] => some 1
    | ['K'] | ['k'] | ['K', 'i', 'B'] => some 1024
    | ['k', 'B'] | ['K', 'B'] => some 1000
    | ['M'] => some 1048576
    | _ => none
  if ds.isEmpty then none else unit.map (ofDigits 10 ds * ·)

/-- The program `cmp`. -/
def cmp : Tool := fun _ c => do
  let refuse (text : String) : Act Nat := do
    c.blame text
    c.blame ("Try '" ++ c.name ++ " --help' for more information.")
    pure 2
  let flags : Flags :=
    { letters := "bci:ln:sv"
      long := [("print-bytes", .nothing, "b"), ("ignore-initial", .value, "i"),
        ("verbose", .nothing, "l"), ("bytes", .value, "n"), ("quiet", .nothing, "s"),
        ("silent", .nothing, "s"), ("version", .nothing, "v")] }
  match flags.parse c.args with
  | .error text => refuse text
  | .ok p =>
    let shows := p.has "b" || p.has "c"
    let skips : Except String (Nat × Nat) :=
      match p.last? "i" with
      | none => .ok (0, 0)
      | some v =>
        let bad : Except String (Nat × Nat) := .error ("invalid --ignore-initial value '" ++ v ++ "'")
        match (v.splitOn ":").map bytesOf? with
        | [some n] => .ok (n, n)
        | [some n, some k] => .ok (n, k)
        | _ => bad
    match skips with
    | .error text => refuse text
    | .ok (skip, skip') =>
      let count : Except String (Option Nat) :=
        match p.last? "n" with
        | none => .ok none
        | some v =>
          match bytesOf? v with
          | some n => .ok (some n)
          | none => .error ("invalid --bytes value '" ++ v ++ "'")
      match count, p.operands with
      | .error text, _ => refuse text
      | _, [] => refuse ("missing operand after '" ++ (c.args.getLast?.getD c.name) ++ "'")
      | .ok count, x :: more =>
        let y := more.headD "-"
        let extra := more.drop 1
        match extra.find? fun o => (bytesOf? o).isNone with
        | some o => return ← refuse ("invalid --ignore-initial value '" ++ o ++ "'")
        | none => pure ()
        match extra.drop 2 with
        | o :: _ => return ← refuse ("extra operand '" ++ o ++ "'")
        | [] => pure ()
        let skip := ((extra[0]?).bind bytesOf?).getD skip
        let skip' := ((extra[1]?).bind bytesOf?).getD skip'
        let mut texts : List (List UInt8) := []
        for o in [x, y] do
          match ← Call.whole o with
          | .ok cs => texts := texts ++ [Raw.toBytes cs]
          | .error err =>
            if !p.has "s" then c.blame (o ++ ": " ++ err.text)
            return 2
        if x = y && skip = skip' then return 0
        let cut (n : Nat) (bs : List UInt8) : List UInt8 :=
          match count with
          | some k => (bs.drop n).take k
          | none => bs.drop n
        let as := cut skip (texts.headD [])
        let bs := cut skip' ((texts.drop 1).headD [])
        if as == bs then return 0
        if p.has "s" then return 1
        let isShorter := as.length < bs.length
        let ending (line : Option Nat) : Act Unit := do
          let (name, size) := if isShorter then (x, as.length) else (y, bs.length)
          if size = 0 then c.blame ("EOF on " ++ name ++ " which is empty")
          else
            let last := ((if isShorter then as else bs).getLast?) == some 10
            c.blame ("EOF on " ++ name ++ " after byte " ++ natText size ++
              (match line with
                | some l => if last then ", line " ++ natText (l - 1) else ", in line " ++ natText l
                | none => ""))
        if p.has "l" then
          let width := (natText (max as.length bs.length)).length
          for (place, m, n) in allDifferences 1 as bs do
            Act.print (String.ofList (padLeft width ' ' (natText place).toList) ++ " " ++ octalByte 3 m ++
              (if shows then " " ++ String.ofList (padRight 4 (shownByte m).toList) else "") ++ " " ++
              octalByte 3 n ++ (if shows then " " ++ shownByte n else "") ++ "\n")
          if as.length != bs.length then ending none
          pure 1
        else
          match firstDifference 1 1 as bs with
          | (some (place, line, m, n), _, _) =>
            Act.print (x ++ " " ++ y ++ " differ: byte " ++
              natText place ++ ", line " ++ natText line ++
              (if shows then " is " ++ octalByte 3 m ++ " " ++ shownByte m ++ " " ++ octalByte 3 n ++
                " " ++ shownByte n
              else "") ++ "\n")
            pure 1
          | (none, _, line) =>
            ending (some line)
            pure 1

end Runbook.Shell.Difference
