import Runbook.Shell.Text.Class
import Runbook.Shell.Tool.Lines

/-!
# `Shell/Tool/Characters` — programs that change single bytes

`tr` puts bytes in the place of others; `expand`, `unexpand` and `fold` look at columns.
-/

set_option autoImplicit false

namespace Runbook.Shell.Characters

/-! ## Sets of `tr` -/

/-- A part of a set. -/
inductive Part where
  | bytes (ns : List Nat)
  | class_ (name : String)
  /-- A byte again and again, as often as it takes to fill the set. -/
  | fill (n : Nat)

/-- What is wrong with a set. -/
abbrev Fault := String

/-- A byte of a set, with what is behind it; a backslash may tell its number. -/
def takeByte : List Nat → Option (Nat × Bool × List Nat)
  | [] => none
  | 92 :: rest =>
    match rest with
    | [] => some (92, false, [])
    | n :: more =>
      let isOctal (n : Nat) : Bool := 48 ≤ n && n ≤ 55
      if isOctal n then
        let ds := (n :: more).takeWhile isOctal |>.take 3
        let value := ds.foldl (fun v d => v * 8 + (d - 48)) 0
        if value < 256 then some (value, true, (n :: more).drop ds.length)
        else
          let ds := ds.take 2
          some (ds.foldl (fun v d => v * 8 + (d - 48)) 0, true, (n :: more).drop 2)
      else
        let code := match Char.ofNat n with
          | 'a' => 7
          | 'b' => 8
          | 'f' => 12
          | 'n' => 10
          | 'r' => 13
          | 't' => 9
          | 'v' => 11
          | _ => n
        some (code, true, more)
  | n :: rest => some (n, false, rest)

/-- The text of some bytes. -/
def bytesText (ns : List Nat) : String :=
  String.ofList (Raw.joined (ns.map fun n => if n < 128 then Char.ofNat n else Raw.char n.toUInt8))

/-- The bytes up to two given ones, and what is behind these. -/
def upTo? (a b : Nat) : List Nat → Option (List Nat × List Nat)
  | [] => none
  | x :: rest =>
    if x = a ∧ rest.head? = some b then some ([], rest.drop 1)
    else (upTo? a b rest).map fun (inside, more) => (x :: inside, more)

/-- The parts of a set; `fuel` bounds their number. -/
def takeParts : (fuel : Nat) → List Nat → Except Fault (List Part)
  | 0, _ => .ok []
  | _ + 1, [] => .ok []
  | fuel + 1, cs => do
    -- `[`: a class, a byte that stands for its equals, or a repeated byte.
    let special : Option (Except Fault (Part × List Nat)) :=
      match cs with
      | 91 :: 58 :: rest =>
        match upTo? 58 93 rest with
        | some (name, more) =>
          let n := bytesText name
          if name.isEmpty then some (.error "missing character class name '[::]'")
          else if (classNamed? n).isSome then some (.ok (.class_ n, more))
          else some (.error ("invalid character class " ++ curlyQuoted n))
        | none => none
      | 91 :: 61 :: rest =>
        match upTo? 61 93 rest with
        | some ([b], more) => some (.ok (.bytes [b], more))
        | some ([], _) => some (.error "missing equivalence class character '[==]'")
        | some (bs, _) =>
          some (.error (bytesText bs ++ ": equivalence class operand must be a single character"))
        | none => none
      | 91 :: rest =>
        match takeByte rest with
        | some (b, _, 42 :: more) =>
          let (ds, behind) := more.span fun n => 48 ≤ n && n ≤ 57
          match behind with
          | 93 :: after =>
            let base := if ds.head? = some 48 then 8 else 10
            let count := ds.foldl (fun v d => v * base + (d - 48)) 0
            if ds.isEmpty ∨ count = 0 then some (.ok (.fill b, after))
            else some (.ok (.bytes (List.replicate count b), after))
          | _ => none
        | _ => none
      | _ => none
    match special with
    | some (.ok (part, rest)) => do pure (part :: (← takeParts fuel rest))
    | some (.error f) => .error f
    | none =>
      match takeByte cs with
      | none => .ok []
      | some (a, _, rest) =>
        match rest with
        | 45 :: more =>
          match takeByte more with
          | some (b, _, after) =>
            if b < a then
              .error ("range-endpoints of '" ++ bytesText [a] ++ "-" ++ bytesText [b] ++
                "' are in reverse collating sequence order")
            else do
              pure (.bytes ((List.range (b + 1 - a)).map (a + ·)) :: (← takeParts fuel after))
          | none => .ok [.bytes [a, 45]]
        | _ => do pure (.bytes [a] :: (← takeParts fuel rest))

/-- The bytes of a text. -/
def bytesOf (s : String) : List Nat := (Raw.bytesOfString s).map (·.toNat)

/-- The bytes of a class, in order. -/
def classBytes (name : String) : List Nat :=
  match classNamed? name with
  | some p => (List.range 128).filter fun n => p (Char.ofNat n)
  | none => []

/-- The bytes of a set, filled up to a length. -/
def expandParts (parts : List Part) (length : Nat) : List Nat :=
  let fixed := parts.foldl (fun n p => n + match p with
    | .bytes ns => ns.length
    | .class_ name => (classBytes name).length
    | .fill _ => 0) 0
  parts.flatMap fun
    | .bytes ns => ns
    | .class_ name => classBytes name
    | .fill n => List.replicate (length - fixed) n

/-- The pairs of bytes that two sets stand for. Cases of letters stand beside each other. -/
def pairs (a b : List Part) : Except Fault (List (Nat × Nat)) := do
  let isCase (p : Part) : Bool :=
    match p with
    | .class_ n => n == "upper" || n == "lower"
    | _ => false
  let isClass (p : Part) : Bool :=
    match p with
    | .class_ _ => true
    | _ => false
  if b.any fun p => isClass p && !isCase p then
    .error ("when translating, the only character classes that may appear in\n" ++
      "string2 are 'upper' and 'lower'")
  else
    let upper := (List.range 26).map (65 + ·)
    let lower := (List.range 26).map (97 + ·)
    let caseBytes (n : String) : List Nat := if n = "upper" then upper else lower
    let bytes (isFirst : Bool) (length : Nat) (parts : List Part) : List Nat :=
      (parts.map fun p => match p with
        | .class_ n =>
          if isCase p then
            if isFirst ∧ !(b.any isCase) then [.bytes (classBytes n)] else [.bytes (caseBytes n)]
          else [.class_ n]
        | p => [p]).flatten |> fun ps => expandParts ps length
    let first := bytes true 0 a
    let second := bytes false first.length b
    let misaligned := b.any isCase && !(a.any isCase)
    if misaligned then
      .error "misaligned [:upper:] and/or [:lower:] construct"
    else
      let last := second.getLast?
      pure (first.zipIdx.filterMap fun (x, n) =>
        match second[n]?, last with
        | some y, _ => some (x, y)
        | none, some y => some (x, y)
        | none, none => none)

/-- The number of a byte or an ASCII character; others have none. -/
def byteOf (c : Char) : Nat := if c.toNat < 128 then c.toNat else (Raw.byte? c).elim 0 (·.toNat)

/-- A byte as a character. -/
def charOf (n : Nat) : Char := if n < 128 then Char.ofNat n else Raw.char n.toUInt8

/-- A text as characters of one byte each. -/
def singleBytes (cs : List Char) : List Char :=
  if cs.any fun c => 128 ≤ c.toNat then Raw.split cs else cs

/-- The program `tr`. -/
def tr : Tool := fun _ c =>
  c.withFlags
    { letters := "cCdst", inFront := true
      long := [("complement", .nothing, "c"), ("delete", .nothing, "d"),
        ("squeeze-repeats", .nothing, "s"), ("truncate-set1", .nothing, "t")] }
    1 fun p => do
    let complement := p.has "c" || p.has "C"
    let delete := p.has "d"
    let squeeze := p.has "s"
    let translating := !delete && (2 ≤ p.operands.length || !squeeze)
    let least := if delete == squeeze then 2 else 1
    let most := if delete && !squeeze then 1 else 2
    if p.operands.length < least then
      match p.operands.getLast? with
      | none => c.refuse 1 "missing operand"
      | some o =>
        c.blame ("missing operand after " ++ curlyQuoted o)
        Act.tell ((if squeeze then "Two strings must be given when both deleting and squeezing repeats."
          else "Two strings must be given when translating.") ++ "\n")
        c.hint
        pure 1
    else if most < p.operands.length then
      c.blame ("extra operand " ++ curlyQuoted (p.operands.getD most ""))
      if p.operands.length = 2 then
        Act.tell "Only one string may be given when deleting without squeezing repeats.\n"
      c.hint
      pure 1
    else
      let partsOf (s : String) : Except Fault (List Part) :=
        let bytes := bytesOf s
        takeParts (bytes.length + 1) bytes
      match partsOf (p.operands.getD 0 ""), partsOf (p.operands.getD 1 "") with
      | .error f, _ | _, .error f =>
        c.blame f
        pure 1
      | .ok a, .ok b =>
        let all := List.range 256
        let inFirst : Array Bool :=
          let ns := expandParts a 0
          let marked := ns.foldl (fun (t : Array Bool) n => t.setIfInBounds n true)
            (Array.replicate 256 false)
          if complement then marked.map (!·) else marked
        let inSecond : Array Bool :=
          (expandParts b 256).foldl (fun (t : Array Bool) n => t.setIfInBounds n true)
            (Array.replicate 256 false)
        let mapping : Except Fault (Array Nat) := do
          if !translating then pure all.toArray
          else if b.isEmpty ∧ !p.has "t" then
            .error "when not truncating set1, string2 must be non-empty"
          else if complement then
            let first := all.filter fun n => inFirst.getD n false
            let second := expandParts b first.length
            let last := second.getLast?.getD 0
            pure ((first.zipIdx).foldl (fun (t : Array Nat) (x, n) =>
              t.setIfInBounds x (second.getD n last)) all.toArray)
          else
            let ps ← pairs a b
            let ps := if p.has "t" then ps.take (expandParts b 0).length else ps
            pure (ps.foldl (fun (t : Array Nat) (x, y) => t.setIfInBounds x y) all.toArray)
        match mapping with
        | .error f =>
          c.blame f
          pure 1
        | .ok mapping =>
          let squeezed : Array Bool :=
            if !squeeze then Array.replicate 256 false
            else if p.operands.length = 2 then inSecond else inFirst
          let rec go : (last : Option Nat) → (done : List Char) → List Char → List Char
            | _, done, [] => done.reverse
            | last, done, x :: rest =>
              let n := byteOf x
              if delete && inFirst.getD n false then go last done rest
              else
                let m := if translating then mapping.getD n n else n
                if last == some m && squeezed.getD m false then go last done rest
                else go (some m) (charOf m :: done) rest
          let ok ← c.eachText [] (fun _ err => c.blame ("read error: " ++ err.text)) fun _ cs =>
            Act.print (String.ofList (go none [] (singleBytes cs)))
          pure (if ok then 0 else 1)

/-! ## Columns -/

/-- Where tabs lead: from each of some columns to the next, and then by equal steps. -/
structure Stops where
  fixed : List Nat := []
  step : Option Nat := some 8
  /-- The steps are counted from this column. -/
  origin : Nat := 0

/-- The column that a tab in a column leads to, unless there are no more. -/
def Stops.next? (s : Stops) (column : Nat) : Option Nat :=
  match s.fixed.find? (column < ·), s.step with
  | some n, _ => some n
  | none, some step => some (s.origin + ((column - s.origin) / max 1 step + 1) * max 1 step)
  | none, none => none

/-- The column that a tab in a column leads to; the next one if there are no more stops. -/
def Stops.next (s : Stops) (column : Nat) : Nat := (s.next? column).getD (column + 1)

/-- Stops as an option has them: one number is a step, and several are columns. -/
def stopsOf (texts : List String) : Except String Stops := do
  let parts := texts.flatMap fun t => ((t.toList.map fun c => if c = ' ' then ',' else c).splitOn ',')
  let parts := parts.filter (!·.isEmpty)
  let number (ds : List Char) : Except String Nat := do
    let (front, rest) := ds.span Char.isDigit
    if !rest.isEmpty then
      .error ("tab size contains invalid character(s): " ++ curlyQuoted (String.ofList rest))
    let n := ofDigits 10 front
    if 18446744073709551615 < n then
      .error ("tab stop is too large " ++ curlyQuoted (String.ofList front))
    .ok n
  let isLeading (cs : List Char) : Bool := cs.head? == some '/' || cs.head? == some '+'
  match parts.dropLast.find? isLeading with
  | some (c :: _) =>
    .error ("'" ++ String.singleton c ++ "' specifier only allowed with the last value")
  | _ =>
    let (numbers, last) := match parts.getLast? with
      | some (c :: ds) => if isLeading (c :: ds) then (parts.dropLast, some (c, ds)) else (parts, none)
      | _ => (parts, none)
    let ns ← numbers.mapM number
    let last ← last.mapM fun (c, ds) => (number ds).map fun n => (c, n)
    if ns.contains 0 then .error "tab size cannot be 0"
    if (ns.zip (ns.drop 1)).any fun (a, b) => b ≤ a then .error "tab sizes must be ascending"
    match ns, last with
    | [], none => .ok {}
    | [one], none => .ok { step := some one }
    | _, none => .ok { fixed := ns, step := none }
    | _, some (c, n) =>
      .ok { fixed := ns, step := some n, origin := if c = '+' then ns.getLastD 0 else 0 }

/-- Letters of options that are numbers: a digit, with the others joined to it. -/
def digitLetters : String := String.join ("0123456789".toList.map fun d => String.singleton d ++ "::")

/-- The values of an option, and the options that are numbers, in order. -/
def valuesAndNumbers (p : Parsed) (key : String) : List String :=
  p.options.filterMap fun (k, v) =>
    if k == key then v
    else if k.toList.all Char.isDigit then some (k ++ v.getD "")
    else none

/-- Tabs as spaces. -/
def expandText (s : Stops) (onlyFirst : Bool) : (column : Nat) → (blank : Bool) →
    (done : List Char) → List Char → List Char
  | _, _, done, [] => done.reverse
  | column, blank, done, c :: rest =>
    if c = '\n' then expandText s onlyFirst 0 true (c :: done) rest
    else if c = '\t' && (blank || !onlyFirst) then
      let next := s.next column
      expandText s onlyFirst next blank (List.replicate (next - column) ' ' ++ done) rest
    else if c = '\x08' then
      expandText s onlyFirst (column - 1) blank (c :: done) rest
    else expandText s onlyFirst (column + 1) (blank && (c == ' ' || c == '\t')) (c :: done) rest

/-- The program `expand`. -/
def expand : Tool := fun _ c =>
  c.withFlags
    { letters := "it:" ++ digitLetters
      long := [("initial", .nothing, "i"), ("tabs", .value, "t")] }
    1 fun p => do
    match stopsOf (valuesAndNumbers p "t") with
    | .error text =>
      c.blame text
      pure 1
    | .ok s =>
      let ok ← c.eachText p.operands c.blameFile fun _ cs =>
        Act.print (String.ofList (expandText s (p.has "i") 0 true [] (singleBytes cs)))
      pure (if ok then 0 else 1)

/-- A line whose blanks become tabs. -/
structure Tabbing where
  /-- What has been written, the last character first. -/
  done : List Char := []
  column : Nat := 0
  /-- Blanks that may become a tab. -/
  pending : List Char := []
  /-- A single blank before a stop, which stays a blank if nothing follows it. -/
  single : Bool := false
  afterBlank : Bool := true
  /-- Blanks still become tabs. -/
  going : Bool := true

namespace Tabbing

/-- Writes the blanks that wait. -/
def flush (t : Tabbing) : Tabbing :=
  let text := if 1 < t.pending.length ∧ t.single then '\t' :: t.pending.drop 1 else t.pending
  if text.isEmpty then t
  else { t with done := text.reverse ++ t.done, pending := [], single := false }

/-- Writes a character behind the blanks that wait. -/
def put (all isBlank : Bool) (t : Tabbing) (c : Char) : Tabbing :=
  let t := t.flush
  { t with done := c :: t.done, afterBlank := isBlank, going := t.going && (all || isBlank) }

/-- Takes a character. -/
def step (s : Stops) (all : Bool) (t : Tabbing) (c : Char) : Tabbing :=
  if !t.going then { t with done := c :: t.done }
  else if c = ' ' ∨ c = '\t' then
    match s.next? t.column with
    | none => { t.put all true c with going := false }
    | some next =>
      -- The blanks before the stop have become a tab, but for a single one before the last stop.
      let kept : List Char := if t.single then ['\t'] else []
      if c = '\t' then
        { t with column := next, pending := kept }.put all true '\t'
      else if t.afterBlank ∧ t.column + 1 = next then
        { t with column := next, pending := kept }.put all true '\t'
      else
        { t with
          column := t.column + 1
          pending := t.pending ++ [c]
          single := t.single || t.column + 1 == next
          afterBlank := true }
  else if c = '\x08' then { t with column := t.column - 1 }.put all false c
  else { t with column := t.column + 1 }.put all false c

end Tabbing

/-- Blanks as tabs: those in front, or all runs. -/
def unexpandLine (s : Stops) (all : Bool) (cs : List Char) : List Char :=
  (cs.foldl (Tabbing.step s all) {}).flush.done.reverse

/-- The texts of stops among the options of `unexpand`: values, and numbers of options that are
digits, with commas between them. The number being read is `digits`. -/
def unexpandStops : (digits : String) → List (String × Option String) → List String
  | digits, [] => if digits = "" then [] else [digits]
  | digits, (key, value) :: rest =>
    match value with
    | some v => v :: unexpandStops digits rest
    | none =>
      if key = "," then (if digits = "" then [] else [digits]) ++ unexpandStops "" rest
      else if key.toList.all Char.isDigit then unexpandStops (digits ++ key) rest
      else unexpandStops digits rest

/-- The program `unexpand`. -/
def unexpand : Tool := fun _ c =>
  c.withFlags
    { letters := ",0123456789at:"
      long := [("all", .nothing, "a"), ("first-only", .nothing, "first"), ("tabs", .value, "t")] }
    1 fun p => do
    match stopsOf (unexpandStops "" p.options) with
    | .error text =>
      c.blame text
      pure 1
    | .ok s =>
      let all := (p.has "a" || p.has "t") && !p.has "first"
      let ok ← c.eachText p.operands c.blameFile fun _ cs => do
        let (ls, ended) := Lines.split '\n' (singleBytes cs)
        let text := Lines.join '\n' (ls.map (unexpandLine s all))
        Act.print (String.ofList (if ended then text else text.dropLast))
      pure (if ok then 0 else 1)

/-- A line broken into parts that are not wider than a width; with `atBlanks`, behind the last blank
where there is one. -/
def foldLine (width : Nat) (bytes atBlanks : Bool) : (fuel : Nat) → List Char → List (List Char)
  | 0, cs => [cs]
  | fuel + 1, cs =>
    let step (column : Nat) (c : Char) : Nat :=
      if bytes then column + 1
      else if c = '\x08' then column - 1
      else if c = '\r' then 0
      else if c = '\t' then column + 8 - column % 8 else column + 1
    let rec fit : (column count : Nat) → List Char → Option Nat
      | _, _, [] => none
      | column, count, c :: rest =>
        let next := step column c
        if width < next then some count else fit next (count + 1) rest
    match fit 0 0 cs with
    | none => [cs]
    | some count =>
      let count := max 1 count
      let part := cs.take count
      let cutAt :=
        if atBlanks then
          match part.reverse.findIdx? fun c => c == ' ' || c == '\t' with
          | some n => count - n
          | none => count
        else count
      if cs.length ≤ cutAt then [cs]
      else cs.take cutAt :: foldLine width bytes atBlanks fuel (cs.drop cutAt)

/-- The program `fold`. -/
def fold : Tool := fun _ c =>
  c.withFlags
    { letters := "bsw:" ++ digitLetters
      long := [("bytes", .nothing, "b"), ("spaces", .nothing, "s"), ("width", .value, "w")] }
    1 fun p => do
    let asked := (valuesAndNumbers p "w").getLast?.getD "80"
    match boundedNumber asked 1 18446744073709551606 with
    | .error why =>
      c.blame ("invalid number of columns: " ++ curlyQuoted asked ++ why)
      pure 1
    | .ok width =>
      let ok ← c.eachText p.operands c.blameFile fun _ cs => do
        let (ls, ended) := Lines.split '\n' (singleBytes cs)
        let parts := ls.flatMap fun (l : List Char) => foldLine width (p.has "b") (p.has "s") (l.length + 1) l
        let text := Lines.join '\n' parts
        Act.print (String.ofList (if ended then text else text.dropLast))
      pure (if ok then 0 else 1)

end Runbook.Shell.Characters
