import Runbook.Shell.Text.Real
import Runbook.Shell.Tool.Fields

/-!
# `Shell/Tool/Scale` — numbers with units

`numfmt` reads numbers that may carry the letter of a unit, and writes them with or without one. All
of it is done on exact fractions, so a number is rounded once, in the direction that is asked for.
-/

set_option autoImplicit false

namespace Runbook.Shell.Scale

/-! ## Amounts -/

/-- What letters behind a number mean. -/
inductive Units where
  | none
  | auto
  | decimal
  | binary
  /-- Powers of 1024, whose letters are followed by another one. -/
  | marked
  deriving DecidableEq

/-- The base of a unit's powers. -/
def Units.base : Units → Nat
  | .binary | .marked => 1024
  | _ => 1000

/-- The letters of units, by their powers. -/
def letters : List Char := "KMGTPEZYRQ".toList

/-- A fraction with a sign. -/
structure Amount where
  negative : Bool
  num : Nat
  den : Nat

/-- An amount times a fraction. -/
def Amount.times (a : Amount) (num den : Nat) : Amount :=
  { a with num := a.num * num, den := a.den * den }

/-- The ways to round. -/
inductive Rounding where
  | up
  | down
  | fromZero
  | towardsZero
  | nearest
  deriving DecidableEq

/-- A fraction as a whole number, away from what it is a fraction of. -/
def Rounding.whole (r : Rounding) (a : Amount) : Nat :=
  let below := a.num / a.den
  let above := if a.num % a.den = 0 then below else below + 1
  match r with
  | .up => if a.negative then below else above
  | .down => if a.negative then above else below
  | .fromZero => above
  | .towardsZero => below
  | .nearest => if a.den ≤ 2 * (a.num % a.den) then below + 1 else below

/-- An amount rounded to so many places. -/
def Rounding.at_ (r : Rounding) (places : Nat) (a : Amount) : Amount :=
  let unit := Nat.pow 10 places
  { a with num := r.whole (a.times unit 1), den := unit }

/-- An amount with so many places. A tie goes to the even digit. -/
def Amount.written (a : Amount) (places : Nat) : List Char :=
  let n := Real.roundedQuotient (a.num * Nat.pow 10 places) a.den
  let ds := padLeft (places + 1) '0' (natText n).toList
  let text := if places = 0 then ds
    else ds.take (ds.length - places) ++ '.' :: ds.drop (ds.length - places)
  if a.negative && (a.num != 0) then '-' :: text else text

/-! ## Reading -/

/-- Why a text is no number. -/
inductive Fault where
  | noNumber
  | tooLarge
  | strangeLetter
  | forbiddenLetter
  | missingMark
  | trailing (rest : List Char)

/-- The words for what is wrong with a text. -/
def Fault.message (text : String) : Fault → String
  | .noNumber => "invalid number: " ++ curlyQuoted text
  | .tooLarge => "value too large to be converted: " ++ curlyQuoted text
  | .strangeLetter => "invalid suffix in input: " ++ curlyQuoted text
  | .forbiddenLetter =>
    "rejecting suffix in input: " ++ curlyQuoted text ++ " (consider using --from)"
  | .missingMark => "missing 'i' suffix in input: " ++ curlyQuoted text ++ " (e.g Ki/Mi/Gi)"
  | .trailing rest =>
    "invalid suffix in input " ++ curlyQuoted text ++ ": " ++ curlyQuoted (String.ofList rest)

/-- The digits that a number may have in front of its point. -/
def mostDigits : Nat := 33

/-- The amount that a text spells in units, and the places behind its point. -/
def read (u : Units) (cs : List Char) : Except Fault (Amount × Nat) := do
  let (negative, cs) := match cs with
    | '-' :: rest => (true, rest)
    | _ => (false, cs)
  let (ds, rest) := cs.span Char.isDigit
  let significant := ds.dropWhile (· == '0')
  if mostDigits < significant.length then throw .tooLarge
  let (behind, rest) ← match rest with
    | '.' :: more =>
      let (es, final) := more.span Char.isDigit
      if es.isEmpty then throw .noNumber else pure (es, final)
    | _ => if ds.isEmpty then throw .noNumber else pure ([], rest)
  let a : Amount :=
    { negative := negative, num := ofDigits 10 (ds ++ behind), den := Nat.pow 10 behind.length }
  match rest with
  | [] => if u = .marked then throw .missingMark else pure (a, behind.length)
  | _ =>
    match rest.dropWhile fun c => c == ' ' || c == '\t' with
    | [] => throw .strangeLetter
    | c :: more =>
      let place := letters.idxOf c
      if letters.length ≤ place then throw .strangeLetter
      if u = .none then throw .forbiddenLetter
      let (base, more) ← match u, more with
        | .auto, 'i' :: final => pure (1024, final)
        | .marked, 'i' :: final => pure (1024, final)
        | .marked, _ => throw .missingMark
        | _, _ => pure (u.base, more)
      if !more.isEmpty then throw (.trailing more)
      pure (a.times (Nat.pow base (place + 1)) 1, 0)

/-! ## Writing -/

/-- All that options decide. -/
structure Style where
  source : Units := .none
  target : Units := .none
  sourceUnit : Nat := 1
  targetUnit : Nat := 1
  rounding : Rounding := .fromZero
  /-- What stands before and behind a number. -/
  lead : String := ""
  trail : String := ""
  ending : String := ""
  width : Nat := 0
  left : Bool := false
  /-- Numbers are filled with zeros up to a width. -/
  zeros : Nat := 0
  places : Option Nat := none
  mark : Option Char := none
  spans : List Fields.Span := [(1, some 1)]
  strict : String := "abort"
  lineMark : Char := '\n'
  debug : Bool := false

/-- How often a base divides an amount until it is less than the base; `fuel` bounds it. -/
def powerOf (base : Nat) (a : Amount) : (fuel power : Nat) → Nat
  | 0, power => power
  | fuel + 1, power =>
    if a.num < a.den * Nat.pow base (power + 1) then power else powerOf base a fuel (power + 1)

/-- The places that an amount is rounded to before it is written with a letter. -/
def placesOf (s : Style) (power : Nat) (scaled : Amount) : Nat :=
  match s.places with
  | some n => min (power * 3) n
  | none => if scaled.num < 10 * scaled.den then 1 else 0

/-- Digits filled with zeros behind the sign. -/
def zeroFilled (width : Nat) (cs : List Char) : List Char :=
  match cs with
  | '-' :: ds => '-' :: padLeft (width - 1) '0' ds
  | ds => padLeft width '0' ds

/-- The text of an amount that was read with so many places; why it has none. -/
def text (s : Style) (a : Amount) (places : Nat) : Except String (List Char) :=
  let large := (if a.negative then "-" else "") ++
    String.ofList (Real.generalDigits 6 false false a.num a.den)
  let size := powerOf 10 a 400 0
  let used := s.places.getD places
  if s.target = .none then
    if 18 < size + used then
      .error ("value" ++ (if used = 0 then "" else "/precision") ++
        " too large to be printed: '" ++ large ++ (if used = 0 then "" else "/" ++ natText used) ++
        "' (consider using --to)")
    else .ok (zeroFilled s.zeros ((s.rounding.at_ used a).written used))
  else if 32 < size then
    .error ("value too large to be printed: '" ++ large ++ "' (cannot handle values > 999Q)")
  else
    let base := s.target.base
    let power := powerOf base a 100 0
    let scaled := a.times 1 (Nat.pow base power)
    let rounded := s.rounding.at_ (placesOf s power scaled) scaled
    -- Rounding may lead to the next power.
    let (power, rounded) := if base * rounded.den ≤ rounded.num then
      (power + 1, rounded.times 1 base) else (power, rounded)
    let pointed := rounded.num != 0 && rounded.num < 10 * rounded.den && 0 < power
    let digits := rounded.written (s.places.getD (if pointed then 1 else 0))
    let letter := if power = 0 then []
      else letters.getD (power - 1) '?' :: (if s.target = .marked then ['i'] else [])
    .ok (zeroFilled s.zeros digits ++ letter)

/-- The text of a field with its number converted; why it cannot be. -/
def converted (s : Style) (field : List Char) (first : Bool) : Except String (List Char) := do
  let bare :=
    if s.ending ≠ "" ∧ s.ending.toList.isSuffixOf field ∧ s.ending.length < field.length then
      field.take (field.length - s.ending.length)
    else field
  let cs := bare.dropWhile fun c => c == ' ' || c == '\t'
  let (a, places) ← (read s.source cs).mapError (Fault.message (String.ofList cs))
  let a := if s.sourceUnit = 1 ∧ s.targetUnit = 1 then a else a.times s.sourceUnit s.targetUnit
  let body := (← text s a places) ++ s.ending.toList
  -- A number in a column keeps the width of the column.
  let width := if 0 < s.width then s.width
    else if s.mark.isNone && (cs.length < bare.length || !first) then bare.length
    else 0
  let filled := if s.left then padRight width body else padLeft width ' ' body
  pure (s.lead.toList ++ filled ++ s.trail.toList)

/-- The fields of a line: blanks belong to the field behind them, unless a mark parts fields. -/
def fieldsOf (mark : Option Char) : (fuel : Nat) → List Char → List (List Char)
  | 0, _ => []
  | fuel + 1, cs =>
    match mark with
    | some m =>
      let (here, rest) := cs.span (· != m)
      match rest with
      | [] => [here]
      | _ :: more => here :: fieldsOf mark fuel more
    | none =>
      let isBlank (c : Char) : Bool := c == ' ' || c == '\t' || c == '\n'
      let (blanks, rest) := cs.span isBlank
      let (word, rest) := rest.span fun c => !isBlank c
      match rest with
      | [] => [blanks ++ word]
      | _ :: more => (blanks ++ word) :: fieldsOf mark fuel more

/-- Converts the fields of a line, which may have an end; whether all of them could be, and whether
to go on. -/
def line (c : Call) (s : Style) (ended : Bool) (cs : List Char) : Act (Bool × Bool) := do
  let fields := fieldsOf s.mark (cs.length + 1) cs
  let between := String.singleton (s.mark.getD ' ')
  let rec go : (n : Nat) → (ok : Bool) → List (List Char) → Act (Bool × Bool)
    | _, ok, [] => pure (ok, true)
    | n, ok, f :: rest => do
      if 1 < n then Act.print between
      if !Fields.inSpans s.spans n then
        Act.print (String.ofList f)
        go (n + 1) ok rest
      else
        match converted s f (n = 1) with
        | .ok t =>
          Act.print (String.ofList t)
          go (n + 1) ok rest
        | .error fault =>
          if s.strict != "ignore" then c.blame fault
          if s.strict = "abort" then pure (false, false)
          else
            Act.print (String.ofList f)
            go (n + 1) false rest
  let (ok, goesOn) ← go 1 true fields
  if goesOn && ended then Act.print (String.singleton s.lineMark)
  pure (ok, goesOn)

/-! ## Options -/

/-- The start of the directive in a format: what stands before it, and the rest behind the sign. -/
def directive? : (before : List Char) → List Char → Option (List Char × List Char)
  | _, [] => none
  | before, '%' :: '%' :: rest => directive? ('%' :: '%' :: before) rest
  | before, '%' :: rest => some (before.reverse, rest)
  | before, c :: rest => directive? (c :: before) rest

/-- The style with a format, or what is wrong with that. -/
def Style.withFormat (s : Style) (format : String) : Except String Style := do
  match directive? [] format.toList with
  | none => throw ("format " ++ curlyQuoted format ++ " has no % directive")
  | some (lead, rest) =>
    let (marks, rest) := rest.span fun c => c == ' ' || c == '\'' || c == '0'
    let (left, rest) := match rest with
      | '-' :: more => (true, more)
      | _ => (false, rest)
    let (ds, rest) := rest.span Char.isDigit
    let width := ofDigits 10 ds
    let s := if width = 0 then s
      else if left then { s with width := width, left := true }
      else if marks.contains '0' then { s with zeros := width }
      else { s with width := width, left := false }
    if rest.isEmpty then throw ("format " ++ curlyQuoted format ++ " ends in %")
    let (places, rest) ← match rest with
      | '.' :: more =>
        if more.head?.any fun c => c == '-' || c == '+' || c == ' ' then
          throw ("invalid precision in format " ++ curlyQuoted format)
        else
          let (es, final) := more.span Char.isDigit
          pure (some (ofDigits 10 es), final)
      | _ => pure (none, rest)
    match rest with
    | 'f' :: trail =>
      if (directive? [] trail).isSome then
        throw ("format " ++ curlyQuoted format ++ " has too many % directives")
      else
        pure { s with
          places := places, lead := String.ofList lead, trail := String.ofList trail }
    | _ =>
      throw ("invalid format " ++ curlyQuoted format ++
        ", directive must be %[0]['][-][N][.][N]f")

/-- The number of a unit, with a letter perhaps. -/
def unitSize? (t : String) : Option Nat :=
  match read .auto t.toList with
  | .ok (a, _) => if a.negative ∨ a.num % a.den ≠ 0 ∨ a.num = 0 then none else some (a.num / a.den)
  | .error _ => (read .auto ('1' :: t.toList)).toOption.map fun (a, _) => a.num

/-- The fields of a list. -/
def spansOf (list : String) : Except String (List Fields.Span) :=
  if list = "-" then .ok [(1, none)]
  else Fields.spansOf true list

/-- The flags of `numfmt`. -/
def flags : Flags :=
  { letters := "d:z"
    long := [("debug", .nothing, "debug"), ("delimiter", .value, "d"), ("field", .value, "field"),
      ("format", .value, "format"), ("from", .value, "from"), ("from-unit", .value, "from-unit"),
      ("grouping", .nothing, "grouping"), ("header", .maybe, "header"),
      ("invalid", .value, "invalid"), ("padding", .value, "padding"), ("round", .value, "round"),
      ("suffix", .value, "suffix"), ("to", .value, "to"), ("to-unit", .value, "to-unit"),
      ("zero-terminated", .nothing, "z")] }

/-- The words of the options that take some. -/
def words : List (String × List (List String)) :=
  let targets := [["none"], ["si"], ["iec"], ["iec-i"]]
  [("from", [["none"], ["auto"], ["si"], ["iec"], ["iec-i"]]), ("to", targets),
    ("round", [["up"], ["down"], ["from-zero"], ["towards-zero"], ["nearest"]]),
    ("invalid", [["abort"], ["fail"], ["warn"], ["ignore"]])]

/-- The units that a word means. -/
def unitsOf (word : String) : Units :=
  match word with
  | "auto" => .auto
  | "si" => .decimal
  | "iec" => .binary
  | "iec-i" => .marked
  | _ => .none

/-- The rounding that a word means. -/
def roundingOf (word : String) : Rounding :=
  match word with
  | "up" => .up
  | "down" => .down
  | "towards-zero" => .towardsZero
  | "nearest" => .nearest
  | _ => .fromZero

/-- What is wrong with the value of an option, and whether it is told where to learn more. -/
def fault? (key v : String) : Option (String × Bool) :=
  match key with
  | "from-unit" | "to-unit" =>
    if (unitSize? v).isNone then some ("invalid unit size: " ++ curlyQuoted v, false) else none
  | "d" => if 1 < v.length then some ("the delimiter must be a single character", false) else none
  | "padding" =>
    match decimalText? v with
    | some 0 | none => some ("invalid padding value " ++ curlyQuoted v, false)
    | some _ => none
  | "header" =>
    match natText? v with
    | some 0 | none => some ("invalid header value " ++ curlyQuoted v, false)
    | some _ => none
  | "field" =>
    match spansOf v with
    | .ok _ => none
    | .error e => some (e, true)
  | _ => none

/-- The style with an option. -/
def Style.with (s : Style) (key v : String) : Style :=
  let word := ((words.lookup key).bind fun ws => (meant ws v).toOption).getD v
  match key with
  | "from" => { s with source := unitsOf word }
  | "to" => { s with target := unitsOf word }
  | "from-unit" => { s with sourceUnit := (unitSize? v).getD 1 }
  | "to-unit" => { s with targetUnit := (unitSize? v).getD 1 }
  | "round" => { s with rounding := roundingOf word }
  | "invalid" => { s with strict := word }
  | "d" => { s with mark := some (v.toList.headD '\x00') }
  | "z" => { s with lineMark := '\x00' }
  | "suffix" => { s with ending := v }
  | "field" => { s with spans := (spansOf v).toOption.getD [] }
  | "padding" =>
    let n := (decimalText? v).getD 0
    { s with width := n.natAbs, left := n < 0 }
  | "debug" => { s with debug := true }
  | _ => s

/-- The program `numfmt`. -/
def numfmt : Tool := fun _ c =>
  c.withFlags flags 1 fun p => do
    for (key, v) in p.options do
      if let some v := v then
        if let some ws := words.lookup key then
          if !(meant ws v).isOk then return ← c.refuseWord 1 ("--" ++ key) ws v
        if let some (text, hints) := fault? key v then
          if hints then return ← c.refuse 1 text
          c.blame text
          return 1
    let style := p.options.foldl (fun (s : Style) o => s.with o.1 (o.2.getD "")) {}
    let .ok style := match p.last? "format" with
        | some f => style.withFormat f
        | none => .ok style
      | match (p.last? "format").map style.withFormat with
        | some (.error text) =>
          c.blame text
          pure 1
        | _ => pure 1
    let converting := ["from", "to", "format", "padding", "grouping", "from-unit", "to-unit",
      "suffix"]
    if style.debug && !converting.any p.has then
      c.blame "no conversion option specified"
    let header := if p.has "header" then ((p.last? "header").bind natText?).getD 1 else 0
    let rec go (ended : Bool) : (ok : Bool) → List (List Char) → Act Nat
      | ok, [] => pure (if ok || style.strict != "fail" then 0 else 2)
      | ok, l :: rest => do
        match ← line c style (ended || !rest.isEmpty) l with
        | (good, true) => go ended (ok && good) rest
        | (_, false) => pure 2
    if !p.operands.isEmpty then go true true (p.operands.map String.toList)
    else
      match ← Call.whole "-" with
      | .error err =>
        c.blame ("error reading input: " ++ err.text)
        pure 1
      | .ok cs =>
        let (ls, ended) := Lines.split style.lineMark cs
        for l in ls.take header do
          Act.print (String.ofList l ++ String.singleton style.lineMark)
        go ended true (ls.drop header)

end Runbook.Shell.Scale
