import Runbook.Console.Width
import Runbook.Shell.Pattern
import Runbook.Shell.Tool.Order
import Runbook.Shell.Tool.Place

/-!
# `Shell/Tool/Listing` — lists of files

`ls` lists the files that it is given and what is in the folders that it is given: names alone, one
to a line, in columns or in a row, or with all that is known about them.
-/

set_option autoImplicit false

namespace Runbook.Shell.Listing

/-- How names are laid out. -/
inductive Layout where
  | lines
  | long
  /-- Columns that are filled downwards. -/
  | down
  /-- Columns that are filled to the right. -/
  | across
  | commas
  deriving DecidableEq

/-- What marks are put behind names. -/
inductive Marks where
  | none
  | folders
  /-- All but programs. -/
  | types
  | all
  deriving DecidableEq

/-- How names are written. -/
inductive Quoting where
  | plain
  | shell
  | shellAlways
  | shellEscape
  | shellEscapeAlways
  | quotes
  | escapes
  | curly
  deriving DecidableEq

/-- What files are ordered by. -/
inductive By where
  | name
  | time
  | size
  | ending
  | version
  | nothing
  deriving DecidableEq

/-- How sizes are written. -/
inductive Units where
  | plain
  /-- Short, in powers of 1024. -/
  | binary
  /-- Short, in powers of 1000. -/
  | decimal
  deriving DecidableEq

/-- All that options decide. -/
structure Style where
  layout : Layout := .lines
  marks : Marks := .none
  quoting : Quoting := .plain
  /-- Characters that do not print are shown as a question mark. -/
  masked : Bool := false
  order : By := .name
  reverse : Bool := false
  foldersFirst : Bool := false
  /-- Names that begin with a dot are listed, and the two dots themselves. -/
  hidden : Bool := false
  dots : Bool := false
  backups : Bool := true
  ignored : List String := []
  /-- Folders are listed themselves. -/
  itself : Bool := false
  recursive : Bool := false
  follows : Bool := false
  followsGiven : Bool := false
  owner : Bool := true
  group : Bool := true
  numeric : Bool := false
  number : Bool := false
  blocks : Bool := false
  context : Bool := false
  units : Units := .plain
  width : Nat := 80
  tab : Nat := 8
  time : String := "locale"

/-- Something to be listed. -/
structure Item where
  name : String
  place : Location
  node : Node
  /-- What a link leads to. -/
  target : Option Node := none

/-! ## Names -/

/-- A name with escapes for all that does not print, and for some characters besides. -/
def escaped (extra : List Char) (s : String) : List Char :=
  s.toList.flatMap fun c =>
    if c = '\'' then [c]
    else if c = '\\' ∨ extra.contains c then ['\\', c]
    else if !isPrinting c then escapedChar c else [c]

/-- A name as it is written. In front of a list (`isTitle`) a colon is told from that of the title.
-/
def written (s : Style) (name : String) (isTitle : Bool := false) : String :=
  let colons := if isTitle then [':'] else []
  let special := match name.toList with
    | [] => true
    | c :: rest =>
      isFileSpecial true c || rest.any (isFileSpecial false) || (c :: rest).any (colons.contains ·)
  let single : String :=
    if name.toList.contains '\'' && !name.toList.any (['"', '$', '\\', '\x60'].contains ·) then
      "\"" ++ name ++ "\""
    else "'" ++ String.ofList (name.toList.flatMap fun c =>
      if c = '\'' then "'\\''".toList else [c]) ++ "'"
  match s.quoting with
  | .plain =>
    if s.masked then
      String.ofList (name.toList.map fun c => if isPrinting c then c else '?')
    else name
  | .shell => if special then single else name
  | .shellAlways => single
  | .shellEscape => if isTitle then fileTitle name else fileName name
  | .shellEscapeAlways => fileQuoted name
  | .quotes => "\"" ++ String.ofList (escaped ('"' :: colons) name) ++ "\""
  | .escapes => String.ofList (escaped (' ' :: colons) name)
  | .curly => "‘" ++ String.ofList (escaped colons name) ++ "’"

/-- The mark behind a name. -/
def mark (s : Style) (n : Node) : String :=
  match s.marks with
  | .none => ""
  | .folders => if n.isFolder then "/" else ""
  | .types =>
    if n.isFolder then "/" else if n.isLink then "@" else if n.isQueue then "|" else ""
  | .all =>
    if n.isFolder then "/" else if n.isLink then "@" else if n.isQueue then "|"
    else if n.isFile && n.mayRun then "*" else ""

/-- A size in short: at most three digits and a letter, rounded up. -/
def short (base n : Nat) : String :=
  let letters := if base = 1024 then "KMGTPEZY".toList else "kMGTPEZY".toList
  let rec go : List Char → (unit : Nat) → String
    | [], _ => natText n
    | c :: more, unit =>
      if n < unit * base ∨ more.isEmpty then
        let tenths := (n * 10 + unit - 1) / unit
        if tenths < 100 then
          natText (tenths / 10) ++ "." ++ natText (tenths % 10) ++ String.singleton c
        else
          let whole := (n + unit - 1) / unit
          if whole = base ∧ !more.isEmpty then "1.0" ++ String.singleton (more.head?.getD ' ')
          else natText whole ++ String.singleton c
      else go more (unit * base)
  if n < base then natText n else go letters base

/-- A size in bytes. -/
def size (s : Style) (n : Nat) : String :=
  match s.units with
  | .plain => natText n
  | .binary => short 1024 n
  | .decimal => short 1000 n

/-- A number of blocks of half a thousand bytes. -/
def room (s : Style) (blocks : Nat) : String :=
  match s.units with
  | .plain => natText (blocks / 2)
  | _ => size s (blocks * 512)

/-! ## Lists -/

/-- The ending of a name, with its dot. -/
def ending (name : String) : String :=
  let back := name.toList.reverse
  if back.contains '.' then String.ofList ((back.takeWhile (· != '.')).reverse) else ""

/-- Items in order. -/
def sorted (s : Style) (items : List Item) : List Item :=
  let le (a b : Item) : Bool :=
    let byName : Bool := decide (a.name ≤ b.name)
    match s.order with
    | .name | .nothing => byName
    | .time => b.node.stamp < a.node.stamp || (a.node.stamp = b.node.stamp && byName)
    | .size => b.node.size < a.node.size || (a.node.size = b.node.size && byName)
    | .ending =>
      decide (ending a.name < ending b.name) || (ending a.name = ending b.name && byName)
    | .version =>
      match Order.compareVersions a.name.toList b.name.toList with
      | .lt => true
      | .gt => false
      | .eq => byName
  let items := if s.order = .nothing then items else items.mergeSort le
  let items := if s.reverse && s.order != .nothing then items.reverse else items
  if s.foldersFirst then
    let isFolder (x : Item) : Bool := x.node.isFolder || x.target.any (·.isFolder)
    items.filter isFolder ++ items.filter fun x => !isFolder x
  else items

/-- The columns in front of a name. -/
def front (s : Style) (z : Date.Zone) (now : Nat) (d : Disk) (i : Item) : List (Bool × String) :=
  let number := if s.number then [(true, natText (1000 + i.node.serial))] else []
  let blocks := if s.blocks then [(true, room s (Place.blocks i.node))] else []
  let context := if s.context then [(true, "?")] else []
  if s.layout != .long then number ++ blocks ++ context
  else
    let t := Date.ofStamp i.node.stamp
    let recent := i.node.stamp ≤ now && now < i.node.stamp + 15778476000000000
    let form :=
      if s.time.startsWith "+" then
        let forms := (String.ofList (s.time.toList.drop 1)).splitOn "\n"
        if recent then (forms.drop 1).head?.getD (forms.head?.getD "") else forms.head?.getD ""
      else if s.time = "full-iso" then "%Y-%m-%d %H:%M:%S.%N %z"
      else if s.time = "long-iso" then "%Y-%m-%d %H:%M"
      else if s.time = "iso" then (if recent then "%m-%d %H:%M" else "%Y-%m-%d ")
      else if recent then "%b %e %H:%M" else "%b %e  %Y"
    let who := if s.numeric then "0" else "root"
    let bytes : String := match i.node.content with
      | .device .queue => size s 0
      | .device .null => "1, 3"
      | .device _ => "1, 5"
      | _ => size s i.node.size
    let folders := (d.namesAt i.place).filter fun x => d.isFolderAt (i.place ++ [x])
    let links := if i.node.isFolder then folders.length + 2 else d.namesOf i.node
    number ++ blocks ++
      [(false, String.singleton (Place.kindLetter i.node) ++ Permission.letters i.node.mode),
        (true, natText links)] ++
      (if s.owner then [(s.numeric, who)] else []) ++ (if s.group then [(s.numeric, who)] else []) ++
      context ++ [(true, bytes), (false, Date.written z t.epoch t.nano form)]

/-- The columns of items, each as wide as its widest cell. -/
def aligned (rows : List (List (Bool × String))) : List String :=
  let count := rows.foldl (fun n r => max n r.length) 0
  let widths := (List.range count).map fun k =>
    rows.foldl (fun n r => max n ((r.drop k).head?.elim 0 fun c => Console.cells c.2.toList)) 0
  rows.map fun r =>
    String.join ((r.zip widths).map fun ((right, text), w) =>
      let fill := List.replicate (w - Console.cells text.toList) ' '
      (if right then String.ofList fill ++ text else text ++ String.ofList fill) ++ " ")

/-- Blanks and tabs from one column to another. -/
def indent (tab : Nat) : (fuel : Nat) → (from_ target : Nat) → List Char
  | 0, _, _ => []
  | fuel + 1, here, target =>
    if target ≤ here then []
    else if tab ≠ 0 ∧ (here + 1) / tab < target / tab then
      '\t' :: indent tab fuel (here + (tab - here % tab)) target
    else ' ' :: indent tab fuel (here + 1) target

/-- How wide the columns are if there are so many, or nothing if that is too much for a line. -/
def columnWidths? (lengths : Array Nat) (down : Bool) (width count : Nat) : Option (Array Nat) :=
  let n := lengths.size
  let rows := (n + count - 1) / count
  let step (st : Array Nat × Nat) (k : Nat) : Array Nat × Nat :=
    let (ws, total) := st
    let column := if down then k / rows else k % count
    let needed := lengths.getD k 0 + (if column + 1 = count then 0 else 2)
    let old := ws.getD column 3
    if old < needed then (ws.setIfInBounds column needed, total + (needed - old)) else st
  let (ws, total) := (List.range n).foldl step (Array.replicate count 3, count * 3)
  if total < width then some ws else none

/-- Cells in columns. -/
def columns (s : Style) (down : Bool) (cells : List String) : String :=
  let all := cells.toArray
  let lengths := all.map fun c => Console.cells c.toList
  let n := all.size
  let most := min n ((s.width + 2) / 3)
  let count := ((List.range most).reverse.map (· + 1)).find? fun k =>
    1 < k && (columnWidths? lengths down s.width k).isSome
  let count := count.getD 1
  let widths := (columnWidths? lengths down s.width count).getD #[0]
  let rows := (n + count - 1) / count
  let row (r : Nat) : String :=
    let places := (List.range count).filterMap fun k =>
      let place := if down then r + k * rows else r * count + k
      if place < n then some (k, place) else none
    let texts := places.foldl (fun (done, pos) (k, place) =>
      let text := all.getD place ""
      let width := widths.getD k 0
      let isLast := (places.getLast?.map (·.2)) == some place
      let here := pos + lengths.getD place 0
      (done ++ text ++
        (if isLast then "" else String.ofList (indent s.tab (width + 1) here (pos + width))),
        pos + width)) ("", 0)
    texts.1 ++ "\n"
  String.join ((List.range rows).map row)

/-- Cells in a row with marks between them, broken where a line is full. -/
def inRow (s : Style) (separator : String) (cells : List String) : String :=
  let (text, _) := cells.foldl (fun (done, pos) cell =>
    let length := Console.cells cell.toList
    if done = "" then (cell, length)
    else if s.width = 0 ∨ pos + length + 2 < s.width then (done ++ separator ++ " " ++ cell, pos + 2 + length)
    else (done ++ separator ++ "\n" ++ cell, length)) ("", 0)
  if cells.isEmpty then "" else text ++ "\n"

/-- Items in writing. -/
def text (s : Style) (z : Date.Zone) (now : Nat) (d : Disk) (items : List Item) : String :=
  let fronts := aligned (items.map (front s z now d))
  let cells := (items.zip fronts).map fun (i, f) =>
    let name := written s i.name
    let tail : String := match s.layout, i.node.content with
      | .long, .link target =>
        " -> " ++ written s target ++ (i.target.elim "" (mark s))
      | _, _ => mark s i.node
    let fill := if s.layout = .lines ∨ s.layout = .long then f else
      -- In rows the columns in front are not filled up.
      if s.layout = .commas then
        String.join ((front s z now d i).map fun c => c.2 ++ " ") else f
    fill ++ name ++ tail
  match s.layout with
  | .lines | .long => String.join (cells.map (· ++ "\n"))
  | .down => if s.width = 0 then inRow s " " cells else columns s true cells
  | .across => if s.width = 0 then inRow s " " cells else columns s false cells
  | .commas => inRow s "," cells

/-- A name is listed. -/
def isListed (s : Style) (name : String) : Bool :=
  let hits (p : String) : Bool :=
    Pattern.isMatch {} (Marked.bare p.toList) name.toList
  (s.hidden || !name.startsWith ".") && (s.backups || !name.endsWith "~") && !s.ignored.any hits

/-- An item by its name and location. -/
def itemAt? (s : Style) (d : Disk) (name : String) (l : Location) : Option Item :=
  (d.at? l).map fun n =>
    let target := if n.isLink then ((d.find l.dropLast (Disk.pathOf l)).toOption.map (·.2)) else none
    match s.follows, target with
    | true, some t => ⟨name, l, t, none⟩
    | _, _ => ⟨name, l, n, target⟩

/-- The items of a folder, in order. -/
def itemsIn (s : Style) (d : Disk) (l : Location) : List Item :=
  let dots : List Item := if s.dots then
      (itemAt? s d "." l).toList ++ (itemAt? s d ".." l.dropLast).toList
    else []
  let names := (d.namesAt l).filter (isListed s)
  sorted s (dots ++ names.filterMap fun name => itemAt? s d name (l ++ [name]))

/-- The list of a folder, and of the folders in it if that is asked for; `fuel` bounds the depth. -/
def folder (s : Style) (z : Date.Zone) (now : Nat) (d : Disk) (headed : Bool) :
    (fuel : Nat) → (first : Bool) → (path : String) → Location → String
  | 0, _, _, _ => ""
  | fuel + 1, first, path, l =>
    let items := itemsIn s d l
    let total := items.foldl (fun n i => n + Place.blocks i.node) 0
    let head := (if first then "" else "\n") ++ (if headed then written s path true ++ ":\n" else "")
    let sum := if s.layout = .long || s.blocks then "total " ++ room s total ++ "\n" else ""
    let here := head ++ sum ++ text s z now d items
    let inside := if s.recursive then
      (items.filter fun i => i.node.isFolder && i.name != "." && i.name != "..").map fun i =>
        folder s z now d headed fuel false
          (if path.endsWith "/" then path ++ i.name else path ++ "/" ++ i.name) i.place
      else []
    here ++ String.join inside

/-! ## Options -/

/-- A word among some, which may be cut short. -/
def choice {α : Type} (words : List (String × α)) (w : String) : Option α :=
  match words.lookup w with
  | some x => some x
  | none =>
    match words.filter fun x => x.1.startsWith w with
    | [x] => some x.2
    | _ => none

/-- The ways to write names, by their words. -/
def quotings : List (String × Quoting) :=
  [("literal", .plain), ("shell", .shell), ("shell-always", .shellAlways),
    ("shell-escape", .shellEscape), ("shell-escape-always", .shellEscapeAlways), ("c", .quotes),
    ("c-maybe", .quotes), ("escape", .escapes), ("locale", .curly), ("clocale", .curly)]

/-- The orders, by their words. -/
def orders : List (String × By) :=
  [("none", .nothing), ("time", .time), ("size", .size), ("extension", .ending),
    ("version", .version), ("width", .name), ("name", .name)]

/-- The layouts, by their words. -/
def layouts : List (String × Layout) :=
  [("verbose", .long), ("long", .long), ("commas", .commas), ("horizontal", .across),
    ("across", .across), ("vertical", .down), ("single-column", .lines)]

/-- The marks, by their words. -/
def markings : List (String × Marks) :=
  [("none", .none), ("slash", .folders), ("file-type", .types), ("classify", .all)]

/-- A style after one more option, or the option whose value is none. -/
def Style.with (s : Style) (key : String) (value : Option String) : Except String Style :=
  let v := value.getD ""
  let chosen {α : Type} (words : List (String × α)) (f : α → Style) : Except String Style :=
    match choice words v with
    | some x => .ok (f x)
    | none => .error key
  match key with
  | "a" => .ok { s with hidden := true, dots := true }
  | "A" => .ok { s with hidden := true, dots := false }
  | "b" => .ok { s with quoting := .escapes }
  | "B" => .ok { s with backups := false }
  | "c" | "u" => .ok (if s.layout = .long then s else { s with order := .time })
  | "C" => .ok { s with layout := .down }
  | "d" => .ok { s with itself := true }
  | "f" => .ok { s with hidden := true, dots := true, order := .nothing
                        layout := if s.layout = .long then .lines else s.layout }
  | "F" => .ok { s with marks := .all }
  | "classify" => .ok (if ["never", "no", "none", "auto", "tty"].contains v then s
      else { s with marks := .all })
  | "g" => .ok { s with layout := .long, owner := false }
  | "G" => .ok { s with group := false }
  | "h" => .ok { s with units := .binary }
  | "si" => .ok { s with units := .decimal }
  | "H" => .ok { s with followsGiven := true }
  | "i" => .ok { s with number := true }
  | "I" | "hide" => .ok { s with ignored := v :: s.ignored }
  | "l" => .ok { s with layout := .long }
  | "L" => .ok { s with follows := true }
  | "m" => .ok { s with layout := .commas }
  | "n" => .ok { s with layout := .long, numeric := true }
  | "N" => .ok { s with quoting := .plain }
  | "o" => .ok { s with layout := .long, group := false }
  | "p" => .ok { s with marks := .folders }
  | "q" => .ok { s with masked := true }
  | "show" => .ok { s with masked := false }
  | "Q" => .ok { s with quoting := .quotes }
  | "r" => .ok { s with reverse := true }
  | "R" => .ok { s with recursive := true }
  | "s" => .ok { s with blocks := true }
  | "S" => .ok { s with order := .size }
  | "t" => .ok { s with order := .time }
  | "T" => match natText? v with
    | some n => .ok { s with tab := n }
    | none => .error key
  | "U" => .ok { s with order := .nothing }
  | "v" => .ok { s with order := .version }
  | "w" => match natText? v with
    | some n => .ok { s with width := n }
    | none => .error key
  | "x" => .ok { s with layout := .across }
  | "X" => .ok { s with order := .ending }
  | "Z" => .ok { s with context := true }
  | "1" => .ok (if s.layout = .long then s else { s with layout := .lines })
  | "zero" => .ok { s with layout := if s.layout = .long then .long else .lines, quoting := .plain }
  | "file-type" => .ok { s with marks := .types }
  | "full-time" => .ok { s with layout := .long, time := "full-iso" }
  | "group" => .ok { s with foldersFirst := true }
  | "time-style" => .ok { s with time := v }
  | "format" => chosen layouts fun x => { s with layout := x }
  | "indicator" => chosen markings fun x => { s with marks := x }
  | "quoting" => chosen quotings fun x => { s with quoting := x }
  | "sort" => chosen orders fun x => { s with order := x }
  | _ => .ok s

/-- The words that an option takes. -/
def wordsFor (key : String) : String × List (List String) :=
  match key with
  | "format" => ("format", [["verbose", "long"], ["commas"], ["horizontal", "across"], ["vertical"],
      ["single-column"]])
  | "indicator" => ("indicator-style", [["none"], ["slash"], ["file-type"], ["classify"]])
  | "quoting" => ("quoting-style", [["literal"], ["shell"], ["shell-always"], ["shell-escape"],
      ["shell-escape-always"], ["c"], ["c-maybe"], ["escape"], ["locale"], ["clocale"]])
  | _ => ("sort", [["none"], ["time"], ["size"], ["extension"], ["version"], ["width"]])

/-- The flags of `ls`. -/
def flags : Flags :=
  { letters := "abcdfghiklmnopqrstuvw:xABCDFGHI:LNQRST:UXZ1"
    long := [("all", .nothing, "a"), ("almost-all", .nothing, "A"), ("author", .nothing, "author"),
      ("block-size", .value, "block"), ("classify", .maybe, "classify"), ("color", .maybe, "color"),
      ("context", .nothing, "Z"), ("dereference", .nothing, "L"),
      ("dereference-command-line", .nothing, "H"),
      ("dereference-command-line-symlink-to-dir", .nothing, "to-dir"), ("directory", .nothing, "d"),
      ("escape", .nothing, "b"), ("file-type", .nothing, "file-type"), ("format", .value, "format"),
      ("full-time", .nothing, "full-time"), ("group-directories-first", .nothing, "group"),
      ("hide", .value, "hide"), ("hide-control-chars", .nothing, "q"),
      ("human-readable", .nothing, "h"), ("hyperlink", .maybe, "hyperlink"),
      ("ignore", .value, "I"), ("ignore-backups", .nothing, "B"),
      ("indicator-style", .value, "indicator"), ("inode", .nothing, "i"),
      ("kibibytes", .nothing, "k"), ("literal", .nothing, "N"), ("no-group", .nothing, "G"),
      ("numeric-uid-gid", .nothing, "n"), ("quote-name", .nothing, "Q"),
      ("quoting-style", .value, "quoting"), ("recursive", .nothing, "R"), ("reverse", .nothing, "r"),
      ("show-control-chars", .nothing, "show"), ("si", .nothing, "si"), ("size", .nothing, "s"),
      ("sort", .value, "sort"), ("tabsize", .value, "T"), ("time", .value, "time"),
      ("time-style", .value, "time-style"), ("width", .value, "w"), ("zero", .nothing, "zero")] }

/-- The program `ls`, with a style to begin with. -/
def ls (start : Style) : Tool := fun _ c =>
  c.withFlags flags 2 fun p => do
    let start := match (← Act.textOf? "COLUMNS").bind natText? with
      | some n => { start with width := if n = 0 then 80 else n }
      | none => start
    let style := p.options.foldl (fun (s : Except String Style) o =>
      s.bind fun s => s.with o.1 o.2) (.ok start)
    match style with
    | .error key =>
      let v := (p.last? key).getD ""
      if key = "w" then
        c.blame ("invalid line width: " ++ curlyQuoted v)
        pure 2
      else if key = "T" then
        c.blame ("invalid tab size: " ++ curlyQuoted v)
        pure 2
      else
        let (option, words) := wordsFor key
        c.refuseWord 2 ("--" ++ option) words v
    | .ok s =>
      let d ← Act.disk
      let here := (← Act.shell).here
      let z ← Date.zone false
      let operands := if p.operands.isEmpty then ["."] else p.operands
      let mut ok := true
      let mut items : List Item := []
      for o in operands do
        let through := s.follows || s.followsGiven ||
          (s.layout != .long && !s.itself && s.marks != .all)
        let found := match d.find here o (s.follows || s.followsGiven) with
          | .error _ => if s.follows then d.find here o true else d.find here o false
          | x => x
        match found with
        | .error err =>
          c.blame ("cannot access " ++ fileQuoted o ++ ": " ++ err.text)
          ok := false
        | .ok (l, n) =>
          let target := if n.isLink then (d.find here o true).toOption else none
          match through, target with
          | true, some (k, t) =>
            if t.isFolder then items := items ++ [⟨o, k, t, none⟩]
            else items := items ++ [⟨o, l, n, some t⟩]
          | _, t => items := items ++ [⟨o, l, n, t.map (·.2)⟩]
      let isOpened (i : Item) : Bool := i.node.isFolder && !s.itself
      let files := sorted s (items.filter fun i => !isOpened i)
      let folders := sorted s (items.filter isOpened)
      let headed := 1 < operands.length || s.recursive
      let ended (text : String) : String :=
        if p.has "zero" then text.map fun x => if x = '\n' then Char.ofNat 0 else x else text
      Act.print (ended (text s z d.clock d files))
      let mut first := files.isEmpty
      for f in folders do
        Act.print (ended (folder s z d.clock d headed Disk.maxDepth first f.name f.place))
        first := false
      pure (if ok then 0 else 2)

end Runbook.Shell.Listing
