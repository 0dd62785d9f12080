import Runbook.Shell.Regex.Read
import Runbook.Shell.Tool.Lines

/-!
# `Shell/Tool/Show` — programs that pass lines on

`cat`, `tac`, `nl`, `rev`, `head`, `tail`, `tee`.
-/

set_option autoImplicit false

namespace Runbook.Shell.Show

/-! ## `cat` -/

/-- How `cat` shows what it passes on. -/
structure CatStyle where
  numbers : Bool := false
  numbersFilled : Bool := false
  squeezes : Bool := false
  ends : Bool := false
  tabs : Bool := false
  marks : Bool := false

/-- A byte as marks of control characters and others show it. -/
def markedByte (b : UInt8) : List Char :=
  let low (b : UInt8) : List Char :=
    if b < 32 then ['^', Char.ofNat (b.toNat + 64)]
    else if b = 127 then ['^', '?'] else [Char.ofNat b.toNat]
  if b < 128 then low b else 'M' :: '-' :: low (b - 128)

/-- A character as `cat` shows it. -/
def catChar (s : CatStyle) (c : Char) : List Char :=
  if c = '\t' then if s.tabs then ['^', 'I'] else [c]
  else if s.marks && (c.toNat < 32 || 127 ≤ c.toNat) then
    (Raw.bytesOfChar c).flatMap markedByte
  else [c]

/-- Where the numbering of lines stands. -/
structure CatState where
  number : Nat := 1
  /-- Empty lines in a row, up to here. -/
  blank : Nat := 0
  /-- The line at hand has begun. -/
  inLine : Bool := false

/-- The text of some lines, of which the last may lack its end. -/
def catLines (s : CatStyle) : CatState → (done : List Char) → List Char → CatState × List Char
  | st, done, [] => (st, done)
  | st, done, c :: rest =>
    if c = '\n' then
      if !st.inLine then
        if s.squeezes && 1 ≤ st.blank then catLines s { st with blank := st.blank + 1 } done rest
        else
          let (number, head) :=
            if s.numbers && !s.numbersFilled then
              (st.number + 1, padLeft 6 ' ' (natText st.number).toList ++ ['\t'])
            else (st.number, [])
          let head := head ++ (if s.ends then ['$'] else []) ++ ['\n']
          catLines s { number := number, blank := st.blank + 1, inLine := false }
            (head.reverse ++ done) rest
      else
        let tail := (if s.ends then ['$'] else []) ++ ['\n']
        catLines s { st with inLine := false, blank := 0 } (tail.reverse ++ done) rest
    else
      let (number, head) :=
        if !st.inLine && (s.numbers || s.numbersFilled) then
          (st.number + 1, padLeft 6 ' ' (natText st.number).toList ++ ['\t'])
        else (st.number, [])
      catLines s { number := number, blank := 0, inLine := true }
        ((catChar s c).reverse ++ head.reverse ++ done) rest

/-- A file is the one that is written to, behind the place where it is read. -/
def feedsItself (operand : String) : Act Bool := do
  let disk ← Act.disk
  let from_ ←
    if operand = "-" then
      match ← Act.channel? 0 with
      | some (.file file ..) => pure (some file.serial)
      | _ => pure none
    else pure ((disk.find (← Act.shell).here operand).toOption.map (·.2.serial))
  match from_, ← Act.channel? 1 with
  | some serial, some (.file target offset _ _ append _) =>
    let size := (Raw.bytesOfString (disk.textOf target)).length
    pure (serial == target.serial && 0 < (if append then size else offset))
  | _, _ => pure false

/-- The program `cat`. -/
def cat : Tool := fun _ c =>
  c.withFlags
    { letters := "benstuvAET"
      long := [("number-nonblank", .nothing, "b"), ("number", .nothing, "n"),
        ("squeeze-blank", .nothing, "s"), ("show-nonprinting", .nothing, "v"),
        ("show-ends", .nothing, "E"), ("show-tabs", .nothing, "T"), ("show-all", .nothing, "A")] }
    1 fun p => do
    let all := p.has "A"
    let s : CatStyle :=
      { numbers := p.has "n", numbersFilled := p.has "b", squeezes := p.has "s"
        ends := all || p.has "E" || p.has "e", tabs := all || p.has "T" || p.has "t"
        marks := all || p.has "v" || p.has "e" || p.has "t" }
    let isPlain := p.options.all (·.1 == "u")
    let mut state : CatState := {}
    let mut ok := true
    for o in (if p.operands.isEmpty then ["-"] else p.operands) do
      match ← Call.fetch o with
      | .error err =>
        c.blameFile o err
        if o = "-" && err = Errno.badDescriptor then
          c.blame "closing standard input: Bad file descriptor"
        ok := false
      | .ok (cs, cut) =>
        if ← feedsItself o then
          c.blame (fileTitle o ++ ": input file is output file")
          ok := false
        else if isPlain then Act.print (String.ofList cs)
        else
          let (next, done) := catLines s state [] cs
          state := next
          Act.print (String.ofList done.reverse)
        if cut then throw Flow.starved
    pure (if ok then 0 else 1)

/-! ## `tac`, `rev`, `nl` -/

/-- The pieces of a text that separators end, or begin, the last one in front. Separators are looked
for from the end; `found` gives how long one is that begins in front of a text, and `limit` is where
the one behind begins. `here` is the piece at hand. -/
def tacPieces (found : List Char → Option Nat) (before : Bool) : (fuel : Nat) → (front : List Char) →
    (taken : List Char) → (here : List Char) → List (List Char)
  | 0, front, taken, here => [front.reverse ++ taken ++ here]
  | _ + 1, [], taken, here => [taken ++ here]
  | fuel + 1, c :: front, taken, here =>
    -- What has been passed over but is in no separator stands in `taken`.
    match found (c :: taken) with
    | some n =>
      let mark := (c :: taken).take n
      let behind := (c :: taken).drop n ++ here
      if before then (mark ++ behind) :: tacPieces found before fuel front [] []
      else behind :: tacPieces found before fuel front [] mark
    | none => tacPieces found before fuel front (c :: taken) here

/-- The program `tac`. -/
def tac : Tool := fun _ c =>
  c.withFlags
    { letters := "brs:"
      long := [("before", .nothing, "b"), ("regex", .nothing, "r"), ("separator", .value, "s")] }
    1 fun p => do
    let mark := ((p.last? "s").getD "\n").toList
    let mark := if mark.isEmpty then [Char.ofNat 0] else mark
    let expression := if p.has "r" then (Regex.read {} (String.ofList mark)).toOption else none
    if p.has "r" && expression.isNone then
      c.blame "Invalid regular expression"
      return 1
    let found (cs : List Char) : Option Nat :=
      match expression with
      | some (r, _) =>
        match Regex.matchAt? r (.ofList cs) 0 with
        | some (n, _) => if 0 < n then some n else none
        | none => none
      | none => if mark.isPrefixOf cs then some mark.length else none
    let ok ← c.eachText p.operands (fun o err =>
        if err = Errno.isFolder then c.blame (o ++ ": read error: Invalid argument")
        else c.blame ("failed to open '" ++ o ++ "' for reading: " ++ err.text)) fun _ cs => do
      let isPlain := mark == ['\n'] && !p.has "b" && !p.has "r"
      let pieces : List (List Char) :=
        if isPlain then
          let ps := Lines.splitFrom '\n' [] [] cs
          let ended := (ps.getLast?.getD []).isEmpty
          let ps := if ended then ps.dropLast else ps
          (ps.zipIdx.map fun (l, n) =>
            if n + 1 < ps.length ∨ ended then l ++ ['\n'] else l).reverse
        else tacPieces found (p.has "b") (cs.length + 1) cs.reverse [] []
      Act.print (String.ofList pieces.flatten)
    pure (if ok then 0 else 1)

/-- The program `rev`. -/
def rev : Tool := fun _ c =>
  c.withFlags { letters := "hV" } 1 fun p => do
    let ok ← c.eachText p.operands (fun o err =>
        c.blame ("cannot open " ++ o ++ ": " ++ err.text)) fun _ cs => do
      let (ls, ended) := Lines.split '\n' cs
      let text := Lines.join '\n' (ls.map List.reverse)
      Act.print (String.ofList (if ended then text else text.dropLast))
    pure (if ok then 0 else 1)

/-- Which lines are numbered. -/
inductive Counted where
  | all
  | filled
  | none
  /-- Those in which an expression matches. -/
  | matching (r : Regex)

/-- The lines that a text asks for, if it asks for some. -/
def Counted.of? (text : String) : Option (Except Regex.Fault Counted) :=
  match text.toList with
  | ['a'] => some (.ok .all)
  | ['t'] => some (.ok .filled)
  | ['n'] => some (.ok .none)
  | 'p' :: cs => some ((Regex.read {} (String.ofList cs)).map fun (r, _) => .matching r)
  | _ => Option.none

/-- How `nl` numbers lines. -/
structure Numbering where
  body : Counted := .filled
  header : Counted := .none
  footer : Counted := .none
  start : Int := 1
  step : Int := 1
  width : Nat := 6
  separator : String := "\t"
  form : String := "rn"
  delimiter : String := "\\:"
  blanks : Nat := 1
  renews : Bool := true

/-- A number as `nl` writes it. -/
def numberText (s : Numbering) (n : Int) : List Char :=
  let digits := (intText n).toList
  match s.form with
  | "ln" => padRight s.width digits
  | "rz" =>
    if n < 0 then '-' :: padLeft (s.width - 1) '0' digits.tail else padLeft s.width '0' digits
  | _ => padLeft s.width ' ' digits

/-- The lines of a text with numbers, from the parts of a page at hand on. -/
def nlLines (s : Numbering) : (part : Counted) → (number : Int) → (blank : Nat) →
    (done : List (List Char)) → List (List Char) → Counted × Int × List (List Char)
  | part, number, _, done, [] => (part, number, done.reverse)
  | part, number, blank, done, l :: rest =>
    let mark := s.delimiter.toList
    if !mark.isEmpty && l == mark ++ mark ++ mark then
      nlLines s s.header (if s.renews then s.start else number) 0 ([] :: done) rest
    else if !mark.isEmpty && l == mark ++ mark then
      nlLines s s.body (if s.renews then s.start else number) 0 ([] :: done) rest
    else if !mark.isEmpty && l == mark then
      nlLines s s.footer (if s.renews then s.start else number) 0 ([] :: done) rest
    else
      let blank := if l.isEmpty then blank + 1 else 0
      let counts :=
        match part with
        | .all => !l.isEmpty || blank % (max 1 s.blanks) == 0
        | .filled => !l.isEmpty
        | .none => false
        | .matching r => Regex.occursIn r (.ofList l)
      if counts then
        nlLines s part (number + s.step) blank
          ((numberText s number ++ s.separator.toList ++ l) :: done) rest
      else
        nlLines s part number blank
          ((List.replicate (s.width + s.separator.length) ' ' ++ l) :: done) rest

/-- The program `nl`. -/
def nl : Tool := fun _ c =>
  c.withFlags
    { letters := "b:d:f:h:i:l:n:ps:v:w:"
      long := [("body-numbering", .value, "b"), ("section-delimiter", .value, "d"),
        ("footer-numbering", .value, "f"), ("header-numbering", .value, "h"),
        ("line-increment", .value, "i"), ("join-blank-lines", .value, "l"),
        ("number-format", .value, "n"), ("no-renumber", .nothing, "p"),
        ("number-separator", .value, "s"), ("starting-line-number", .value, "v"),
        ("number-width", .value, "w")] }
    1 fun p => do
    let mut styles : List (String × Counted) := []
    for (key, value) in p.options do
      let v := value.getD ""
      let wrong (what : String) : Act Unit := c.blame ("invalid " ++ what ++ ": " ++ curlyQuoted v)
      match key with
      | "b" | "h" | "f" =>
        match Counted.of? v with
        | some (.ok k) => styles := (key, k) :: styles
        | some (.error _) =>
          c.blame "Invalid regular expression"
          return 1
        | none =>
          wrong ((if key = "b" then "body" else if key = "h" then "header" else "footer") ++
            " numbering style")
          c.hint
          return 1
      | "n" =>
        if !(["ln", "rn", "rz"].contains v) then
          wrong "line numbering format"
          c.hint
          return 1
      | "v" | "i" =>
        if (decimalText? v).isNone then
          wrong (if key = "v" then "starting line number" else "line number increment")
          return 1
      | "l" | "w" =>
        let most := if key = "w" then 2147483647 else 9223372036854775807
        let bounded := if (decimalText? v).any (· < 1) then
            .error ": Numerical result out of range"
          else boundedNumber v 1 most
        match bounded with
        | .ok _ => pure ()
        | .error why =>
          c.blame ("invalid line number " ++
            (if key = "w" then "field width" else "of blank lines") ++ ": " ++ curlyQuoted v ++ why)
          return 1
      | _ => pure ()
    let s : Numbering :=
      { body := (styles.lookup "b").getD .filled, header := (styles.lookup "h").getD .none
        footer := (styles.lookup "f").getD .none
        start := ((p.last? "v").bind decimalText?).getD 1
        step := ((p.last? "i").bind decimalText?).getD 1
        width := ((p.last? "w").bind natText?).getD 6
        separator := (p.last? "s").getD "\t", form := (p.last? "n").getD "rn"
        delimiter := match p.last? "d" with
          | some d => if d.length = 1 then d ++ ":" else d
          | none => "\\:"
        blanks := ((p.last? "l").bind natText?).getD 1, renews := !p.has "p" }
    let mut part := s.body
    let mut number := s.start
    let mut ok := true
    for o in (if p.operands.isEmpty then ["-"] else p.operands) do
      match ← Call.fetch o with
      | .error err =>
        c.blameFile o err
        ok := false
      | .ok (cs, cut) =>
        let (next, n, ls) := nlLines s part number 0 [] (Lines.split '\n' cs).1
        part := next
        number := n
        Act.print (Lines.text ls)
        if cut then throw Flow.starved
    pure (if ok then 0 else 1)

/-! ## `head` and `tail` -/

/-- The factor that a suffix of a number stands for. -/
def suffixFactor? (s : List Char) : Option Nat :=
  let unit (c : Char) : Option Nat :=
    match c with
    | 'k' | 'K' => some 1
    | 'm' | 'M' => some 2
    | 'g' | 'G' => some 3
    | 't' | 'T' => some 4
    | 'P' => some 5
    | 'E' => some 6
    | 'Z' => some 7
    | 'Y' => some 8
    | _ => none
  match s with
  | [] => some 1
  | ['b'] => some 512
  | [c] => (unit c).map fun n => Nat.pow 1024 n
  | [c, 'B'] => (unit c).map fun n => Nat.pow 1000 n
  | [c, 'i', 'B'] => (unit c).map fun n => Nat.pow 1024 n
  | _ => none

/-- A number with a suffix. -/
def size? (s : List Char) : Option Nat :=
  let (ds, suffix) := s.span Char.isDigit
  if ds.isEmpty then none else (suffixFactor? suffix).map (ofDigits 10 ds * ·)

/-- How much of a text is wanted, from one of its ends. -/
structure Extent where
  bytes : Bool := false
  count : Nat := 10
  /-- What is counted is left out. -/
  inverse : Bool := false
  /-- What ends a line. -/
  mark : Char := '\n'

/-- The first so many lines of a text, if they are there: the lines and what is behind. -/
def takeLines (mark : Char) : (count : Nat) → (done : List Char) → List Char →
    List Char × Nat × List Char
  | 0, done, rest => (done.reverse, 0, rest)
  | n + 1, done, [] => (done.reverse, n + 1, [])
  | n + 1, done, c :: rest =>
    if c == mark then takeLines mark n (c :: done) rest else takeLines mark (n + 1) (c :: done) rest

/-- A number that stands for an option of `head` or `tail`, spelled out; a letter in it that means
nothing, if there is one. -/
def numberOption (tail : Bool) (a : String) : Option (List String × Option Char) :=
  match a.toList with
  | sign :: d :: cs =>
    if (sign = '-' ∨ (sign = '+' ∧ tail)) ∧ d.isDigit then
      let (ds, letters) := (d :: cs).span Char.isDigit
      let unit := letters.filter fun x => x == 'b' || x == 'k' || x == 'm'
      let count := (if sign = '+' then "+" else "") ++ String.ofList (ds ++ unit.take 1)
      let bytes := letters.contains 'c' || !unit.isEmpty
      let others := letters.filter fun x => x == 'q' || x == 'v' || x == 'f' || x == 'z'
      let known := if tail then "lbcf" else "bkmclqvz"
      some ([if bytes then "-c" else "-n", count] ++ others.map fun x => "-" ++ String.singleton x,
        letters.find? fun x => !known.toList.contains x)
    else none
  | _ => none

/-- The first digit of an option that is a number, among options that may not be such; `isValue`
tells that the first word is the value of an option. -/
def strayNumber? : (isValue : Bool) → List String → Option Char
  | _, [] => none
  | true, _ :: rest => strayNumber? false rest
  | false, a :: rest =>
    match a.toList with
    | ['-', '-'] => none
    | '-' :: d :: cs =>
      if d.isDigit then some d
      else strayNumber? ((d = 'n' ∨ d = 'c' ∨ d = 's') ∧ cs.isEmpty) rest
    | _ => strayNumber? false rest

/-- The words of a call of `head` or `tail` with a number for an option spelled out, or what is
wrong with them. `tail` takes such a number only in front of one operand. -/
def withNumbers (tail : Bool) (args : List String) : Except Char (List String) :=
  let plain : Except Char (List String) :=
    match strayNumber? false args with
    | some d => .error d
    | none => .ok args
  match args with
  | a :: rest =>
    let mayStand := !tail || match rest with
      | [] => true
      | [b] => b = "-" || b = "--" || !b.startsWith "-"
      | [b, _] => b = "--"
      | _ => false
    match numberOption tail a, mayStand with
    | some (words, none), true =>
      match strayNumber? false rest with
      | some d => .error d
      | none => .ok (words ++ rest)
    | some (_, some x), true => if tail then plain else .error x
    | _, _ => plain
  | [] => .ok args

/-- Runs `head` or `tail` with the number spelled out. -/
def Call.withNumbers (c : Call) (tail : Bool) (body : Call → Act Nat) : Act Nat := do
  match Show.withNumbers tail c.args with
  | .ok args => body { c with args := args }
  | .error d =>
    if tail then
      c.blame ("option used in invalid context -- " ++ String.singleton d)
      pure 1
    else c.refuse 1 ("invalid trailing option -- " ++ String.singleton d)

/-- The header of a file among several. -/
def header (first : Bool) (operand : String) : String :=
  (if first then "" else "\n") ++ "==> " ++
    (if operand = "-" then "standard input" else operand) ++ " <==\n"

/-- The flags of `head` and `tail`. -/
def endFlags (tail : Bool) : Flags :=
  { letters := if tail then "c:n:qvfFs:z" else "c:n:qvz"
    long := [("bytes", .value, "c"), ("lines", .value, "n"), ("quiet", .nothing, "q"),
      ("silent", .nothing, "q"), ("verbose", .nothing, "v"), ("zero-terminated", .nothing, "z")] ++
      (if tail then [("follow", .maybe, "f"), ("sleep-interval", .value, "s"), ("pid", .value, "pid"),
        ("retry", .nothing, "r")] else []) }

/-- What part the options ask for, or the text that is no number. -/
def extentOf (tail : Bool) (p : Parsed) : Except (Bool × String) (Extent × Bool) :=
  let mark := if p.has "z" then Char.ofNat 0 else '\n'
  match (p.options.filter fun o => o.1 == "c" || o.1 == "n").getLast? with
  | none => .ok ({ mark := mark }, false)
  | some (key, value) =>
    let v := value.getD ""
    let (sign, digits) := match v.toList with
      | '-' :: rest => ('-', rest)
      | '+' :: rest => ('+', rest)
      | cs => (' ', cs)
    match size? digits with
    | some n =>
      .ok ({ bytes := key == "c", count := n, inverse := !tail && sign == '-', mark := mark },
        tail && sign == '+')
    | none => .error (key == "c", if sign = '-' then String.ofList digits else v)

/-- Reads the beginning of an operand, and leaves the rest of the input there. -/
def firstPart (x : Extent) (operand : String) : Act (Except Errno (List Char)) := do
  let take (cs : List Char) (cut : Bool) : Option (List Char × List Char) :=
    if x.inverse then
      if cut then none
      else if x.bytes then
        let bytes := Raw.split cs
        some (bytes.take (bytes.length - x.count), [])
      else
        let ps := Lines.splitFrom x.mark [] [] cs
        let ended := (ps.getLast?.getD []).isEmpty
        let count := if ended then ps.length - 1 else ps.length
        some ((takeLines x.mark (count - x.count) [] cs).1, [])
    else if x.bytes then
      let rec go : Nat → List Char → List Char → Option (List Char × List Char)
        | 0, done, rest => some (done.reverse, rest)
        | _ + 1, done, [] => if cut then none else some (done.reverse, [])
        | n + 1, done, c :: rest =>
          let size := (Raw.bytesOfChar c).length
          if size ≤ n + 1 then go (n + 1 - size) (c :: done) rest
          else
            let bytes := Raw.split [c]
            some (done.reverse ++ bytes.take (n + 1), bytes.drop (n + 1) ++ rest)
      go x.count [] cs
    else
      let (taken, missing, rest) := takeLines x.mark x.count [] cs
      if cut && 0 < missing then none else some (taken, rest)
  if operand = "-" then Act.takeFrom 0 take
  else
    match ← Act.peekPath operand with
    | .error err => pure (.error err)
    | .ok (cs, cut) =>
      match take cs cut with
      | some (taken, _) => pure (.ok taken)
      | none => throw .starved

/-- The program `head`. -/
def head : Tool := fun _ c => Call.withNumbers c false fun c =>
  c.withFlags (endFlags false) 1 fun p => do
    match extentOf false p with
    | .error (bytes, v) =>
      c.blame ("invalid number of " ++ (if bytes then "bytes" else "lines") ++ ": " ++
        curlyQuoted v)
      pure 1
    | .ok (x, _) =>
      let files := if p.operands.isEmpty then ["-"] else p.operands
      let heads := p.lastOf? ["q", "v"] == some "v" || (1 < files.length && !p.has "q")
      let mut first := true
      let mut ok := true
      for o in files do
        match ← firstPart x o with
        | .ok part =>
          if heads then Act.print (header first o)
          first := false
          Act.print (String.ofList part)
        | .error err =>
          ok := false
          if err = Errno.isFolder then
            if heads then Act.print (header first o)
            first := false
            c.blame ("error reading " ++ fileQuoted o ++ ": " ++ err.text)
          else c.blame ("cannot open " ++ fileQuoted o ++ " for reading: " ++ err.text)
      pure (if ok then 0 else 1)

/-- The last part of a text. -/
def lastPart (x : Extent) (fromStart : Bool) (cs : List Char) : List Char :=
  if x.bytes then
    let bytes := Raw.split cs
    if fromStart then bytes.drop (x.count - 1) else bytes.drop (bytes.length - x.count)
  else if fromStart then (takeLines x.mark (x.count - 1) [] cs).2.2
  else
    let ps := Lines.splitFrom x.mark [] [] cs
    let ended := (ps.getLast?.getD []).isEmpty
    let count := if ended then ps.length - 1 else ps.length
    (takeLines x.mark (count - x.count) [] cs).2.2

/-- The program `tail`. -/
def tail : Tool := fun _ c => Call.withNumbers c true fun c =>
  c.withFlags (endFlags true) 1 fun p => do
    match extentOf true p with
    | .error (bytes, v) =>
      c.blame ("invalid number of " ++ (if bytes then "bytes" else "lines") ++ ": " ++
        curlyQuoted v)
      pure 1
    | .ok (x, fromStart) =>
      let files := if p.operands.isEmpty then ["-"] else p.operands
      let heads := p.lastOf? ["q", "v"] == some "v" || (1 < files.length && !p.has "q")
      let mut first := true
      let mut ok := true
      let mut followed := false
      for o in files do
        match ← Call.fetch o with
        | .ok (cs, cut) =>
          followed := followed || o != "-"
          if heads then Act.print (header first o)
          first := false
          if fromStart then
            Act.print (String.ofList (lastPart x true cs))
            if cut then throw Flow.starved
          else
            if cut then throw Flow.starved
            Act.print (String.ofList (lastPart x false cs))
        | .error err =>
          ok := false
          if err = Errno.isFolder then
            if heads then Act.print (header first o)
            first := false
            c.blame ("error reading " ++ fileQuoted o ++ ": " ++ err.text)
          else c.blame ("cannot open " ++ fileQuoted o ++ " for reading: " ++ err.text)
      if p.has "pid" && !(p.has "f" || p.has "F") then
        c.blame "warning: PID ignored; --pid=PID is useful only when following"
      if p.has "f" || p.has "F" then
        -- Whoever follows a file waits for more of it without end.
        if followed then throw Flow.starved
        if !ok then
          c.blame "no files remaining"
          return 1
      pure (if ok then 0 else 1)

/-! ## `tee` -/

/-- The program `tee`. -/
def tee : Tool := fun _ c =>
  c.withFlags
    { letters := "aip"
      long := [("append", .nothing, "a"), ("ignore-interrupts", .nothing, "i")] }
    1 fun p => do
    let mut ok := true
    let mut ids := #[]
    for o in p.operands do
      let how : Act.Opening :=
        { writes := true, create := true, append := p.has "a", truncate := !p.has "a" }
      match ← Act.openPath o how with
      | .ok id => ids := ids.push id
      | .error err =>
        c.blameFile o err
        ok := false
    match ← Act.readSome 0 with
    | .ok (cs, cut) =>
      let text := String.ofList cs
      for id in ids do
        discard (Act.writeChannel id text)
      Act.print text
      if cut then throw Flow.starved
      pure (if ok then 0 else 1)
    | .error err =>
      c.blame ("read error: " ++ err.text)
      pure 1

end Runbook.Shell.Show
