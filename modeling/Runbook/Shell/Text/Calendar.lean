import Runbook.Shell.Text.Moment
import Runbook.Shell.Text.Numeral

/-!
# `Shell/Text/Calendar` — moments in free writing

A text may name a moment by a date, a time of day, a zone, a day of the week and distances from
there, in many ways and in any order (`Calendar.read?`). What is not named is taken from the present
moment; a text that names a day but no time means its beginning.
-/

set_option autoImplicit false

namespace Runbook.Shell.Calendar

/-- A piece of a text: digits with or without a sign in front, letters, or another character. -/
inductive Piece where
  | digits (sign : Option Char) (ds : List Char)
  | letters (cs : List Char)
  | mark (c : Char)
  deriving DecidableEq

/-- A text without what stands in brackets. -/
def withoutNotes : (depth : Nat) → List Char → List Char
  | _, [] => []
  | depth, '(' :: rest => withoutNotes (depth + 1) rest
  | depth, ')' :: rest => if depth = 0 then ')' :: withoutNotes 0 rest else withoutNotes (depth - 1) rest
  | depth, c :: rest => if depth = 0 then c :: withoutNotes 0 rest else withoutNotes depth rest

/-- The pieces of a text; `fuel` bounds their number. -/
def pieces : (fuel : Nat) → List Char → List Piece
  | 0, _ => []
  | _ + 1, [] => []
  | fuel + 1, c :: rest =>
    if isNumberSpace c then pieces fuel rest
    else if c.isDigit then
      .digits none (c :: rest.takeWhile Char.isDigit) :: pieces fuel (rest.dropWhile Char.isDigit)
    else if c.isAlpha then
      let isPart (d : Char) : Bool := d.isAlpha || d == '.'
      .letters ((c :: rest.takeWhile isPart).filter (· != '.') |>.map Char.toLower) ::
        pieces fuel (rest.dropWhile isPart)
    else if c = '+' ∨ c = '-' then
      let behind := rest.dropWhile isNumberSpace
      if behind.head?.any Char.isDigit then
        .digits (some c) (behind.takeWhile Char.isDigit) ::
          pieces fuel (behind.dropWhile Char.isDigit)
      else pieces fuel rest
    else .mark c :: pieces fuel rest

/-- Units of time: in months, in days or in seconds. -/
inductive Unit_ where
  | months (n : Int)
  | days (n : Int)
  | seconds (n : Int)

/-- What has been read. -/
structure Reading where
  date : Option (Int × Nat × Nat) := none
  /-- The year was not among the parts of the date. -/
  noYear : Bool := false
  time : Option (Int × Nat × Nat × Nat) := none
  zone : Option Int := none
  /-- A day of the week, and which one from here on. -/
  day : Option (Nat × Int) := none
  months : Int := 0
  days : Int := 0
  seconds : Int := 0
  moved : Bool := false

/-- Numbers in words that count units. -/
def ordinals : List (String × Int) :=
  [("last", -1), ("this", 0), ("next", 1), ("first", 1), ("third", 3), ("fourth", 4), ("fifth", 5),
    ("sixth", 6), ("seventh", 7), ("eighth", 8), ("ninth", 9), ("tenth", 10), ("eleventh", 11),
    ("twelfth", 12)]

/-- The units, by the words for one of them. -/
def units : List (String × Unit_) :=
  [("year", .months 12), ("month", .months 1), ("fortnight", .days 14), ("week", .days 7),
    ("day", .days 1), ("hour", .seconds 3600), ("minute", .seconds 60), ("min", .seconds 60),
    ("second", .seconds 1), ("sec", .seconds 1)]

/-- The unit of a word. -/
def unit? (w : String) : Option Unit_ :=
  match units.lookup w with
  | some u => some u
  | none =>
    if w.endsWith "s" then units.lookup (String.ofList w.toList.dropLast) else none

/-- The number of a month, by its name or the beginning of it. -/
def month? (w : String) : Option Nat :=
  let names := Moment.months.map String.toLower
  match names.findIdx? fun n => n == w || String.ofList (n.toList.take 3) == w with
  | some i => some (i + 1)
  | none => if w = "sept" then some 9 else none

/-- The number of a day of the week. -/
def weekday? (w : String) : Option Nat :=
  let names := Moment.weekdays.map String.toLower
  match names.findIdx? fun n => n == w || String.ofList (n.toList.take 3) == w with
  | some i => some i
  | none => [("tues", 2), ("wednes", 3), ("thur", 4), ("thurs", 4)].lookup w

/-- Zones by their names, in seconds. -/
def zones : List (String × Int) :=
  [("utc", 0), ("gmt", 0), ("ut", 0), ("wet", 0), ("z", 0), ("bst", 3600), ("cet", 3600),
    ("cest", 7200), ("eet", 7200), ("eest", 10800), ("msk", 10800), ("ist", 19800), ("jst", 32400),
    ("est", -18000), ("edt", -14400), ("cst", -21600), ("cdt", -18000), ("mst", -25200),
    ("mdt", -21600), ("pst", -28800), ("pdt", -25200), ("akst", -32400), ("hst", -36000)]

/-- The zone of a word. Single letters name zones too. -/
def zone? (w : String) : Option Int :=
  match zones.lookup w with
  | some z => some z
  | none =>
    match w.toList with
    | [c] =>
      let n : Int := c.toNat
      if 'a' ≤ c ∧ c ≤ 'i' then some ((n - 96) * 3600)
      else if 'k' ≤ c ∧ c ≤ 'm' then some ((n - 97) * 3600)
      else if 'n' ≤ c ∧ c ≤ 'y' then some ((109 - n) * 3600)
      else none
    | _ => none

/-- A year in digits; two digits mean one that is near. -/
def yearOf (ds : List Char) : Int :=
  let n := ofDigits 10 ds
  if ds.length ≤ 2 then (if n < 69 then n + 2000 else n + 1900) else n

/-- A distance from universal time in digits: hours, or hours and minutes. -/
def offsetOf (sign : Char) (ds : List Char) (minutes : Option (List Char)) : Int :=
  let n := ofDigits 10 ds
  let m : Nat := match minutes with
    | some ms => n * 60 + ofDigits 10 ms
    | none => if ds.length ≤ 2 then n * 60 else n / 100 * 60 + n % 100
  if sign = '-' then -(m * 60 : Nat) else (m * 60 : Nat)

/-- The hour on a clock of twelve hours. -/
def onClock? (hour : Nat) (half : String) : Option Nat :=
  if hour = 0 ∨ 12 < hour then none
  else if half = "am" then some (hour % 12) else some (hour % 12 + 12)

/-- A reading with a time of day. -/
def Reading.atTime (r : Reading) (hour minute second nano : Nat) : Option Reading :=
  if r.time.isSome ∨ 23 < hour ∨ 59 < minute ∨ 60 < second then none
  else some { r with time := some (hour, minute, second, nano) }

/-- A reading with a date. -/
def Reading.onDate (r : Reading) (year : Int) (month day : Nat) : Option Reading :=
  if r.date.isSome then none else some { r with date := some (year, month, day) }

/-- A reading farther away by some units. -/
def Reading.move (r : Reading) (n : Int) (u : Unit_) : Reading :=
  match u with
  | .months k => { r with months := r.months + n * k, moved := true }
  | .days k => { r with days := r.days + n * k, moved := true }
  | .seconds k => { r with seconds := r.seconds + n * k, moved := true }

/-- A time of day from its hour on, with what stands behind. -/
def takeTime (r : Reading) (hour : List Char) (ps : List Piece) : Option (Reading × List Piece) :=
  let h := ofDigits 10 hour
  let finish (minute second nano : Nat) (ps : List Piece) : Option (Reading × List Piece) :=
    match ps with
    | .letters w :: rest =>
      let half := String.ofList w
      if half = "am" ∨ half = "pm" then do
        let h ← onClock? h half
        let r ← r.atTime h minute second nano
        some (r, rest)
      else do
        let r ← r.atTime h minute second nano
        some (r, ps)
    | .digits (some sign) ds :: .mark ':' :: .digits none ms :: rest => do
      let r ← r.atTime h minute second nano
      some ({ r with zone := some (offsetOf sign ds (some ms)) }, rest)
    | .digits (some sign) ds :: rest => do
      let r ← r.atTime h minute second nano
      match rest with
      | .letters w :: _ =>
        if (unit? (String.ofList w)).isSome then some (r, ps)
        else some ({ r with zone := some (offsetOf sign ds none) }, rest)
      | _ => some ({ r with zone := some (offsetOf sign ds none) }, rest)
    | _ => do
      let r ← r.atTime h minute second nano
      some (r, ps)
  match ps with
  | .mark ':' :: .digits none m :: .mark ':' :: .digits none s :: .mark x :: .digits none f :: rest =>
    if x = '.' ∨ x = ',' then
      finish (ofDigits 10 m) (ofDigits 10 s) (ofDigits 10 ((f ++ List.replicate 9 '0').take 9)) rest
    else finish (ofDigits 10 m) (ofDigits 10 s) 0 (.mark x :: .digits none f :: rest)
  | .mark ':' :: .digits none m :: .mark ':' :: .digits none s :: rest =>
    finish (ofDigits 10 m) (ofDigits 10 s) 0 rest
  | .mark ':' :: .digits none m :: rest => finish (ofDigits 10 m) 0 0 rest
  | .letters w :: rest => do
    let h ← onClock? h (String.ofList w)
    let r ← r.atTime h 0 0 0
    some (r, rest)
  | _ => none

/-- A distance that is meant backwards if a word behind it tells so. -/
def moved (r : Reading) (n : Int) (u : Unit_) (rest : List Piece) : Reading × List Piece :=
  match rest with
  | .letters ['a', 'g', 'o'] :: rest => (r.move (-n) u, rest)
  | _ => (r.move n u, rest)

/-- What a number without a sign begins. -/
def takeNumber (r : Reading) (ds : List Char) (ps : List Piece) : Option (Reading × List Piece) :=
  let n := ofDigits 10 ds
  -- A number by itself.
  let alone : Option (Reading × List Piece) :=
    if r.date.isSome && r.noYear && !r.moved && (r.time.isSome || 2 < ds.length) then
      match r.date with
      | some (_, m, d) => some ({ r with date := some (yearOf ds, m, d), noYear := false }, ps)
      | none => none
    else if 4 < ds.length then do
      let k := ds.length - 4
      let r ← r.onDate (yearOf (ds.take k)) (ofDigits 10 ((ds.drop k).take 2))
        (ofDigits 10 (ds.drop (k + 2)))
      some (r, ps)
    else do
      let r ← if ds.length ≤ 2 then r.atTime n 0 0 0 else r.atTime (n / 100) (n % 100) 0 0
      some (r, ps)
  match ps with
  | .mark ':' :: _ => takeTime r ds ps
  | .mark '/' :: .digits none b :: .mark '/' :: .digits none e :: rest => do
    let r ← if 4 ≤ ds.length then r.onDate (yearOf ds) (ofDigits 10 b) (ofDigits 10 e)
      else r.onDate (yearOf e) n (ofDigits 10 b)
    some (r, rest)
  | .mark '/' :: .digits none b :: rest => do
    let r ← r.onDate 0 n (ofDigits 10 b)
    some ({ r with noYear := true }, rest)
  | .digits (some '-') b :: .digits (some '-') e :: rest => do
    let r ← r.onDate (yearOf ds) (ofDigits 10 b) (ofDigits 10 e)
    match rest with
    | .letters ['t'] :: .digits none h :: more =>
      match takeTime r h more with
      | some x => some x
      | none => none
    | _ => some (r, rest)
  | .letters w :: rest =>
    let word := String.ofList w
    match month? word, unit? word, weekday? word with
    | some m, _, _ =>
      match rest with
      | .digits (some '-') e :: rest => do
        let r ← r.onDate (yearOf e) m n
        some (r, rest)
      | .digits none e :: rest =>
        if (rest.head? == some (.mark ':')) then do
          let r ← r.onDate 0 m n
          some ({ r with noYear := true }, .digits none e :: rest)
        else do
          let r ← r.onDate (yearOf e) m n
          some (r, rest)
      | _ => do
        let r ← r.onDate 0 m n
        some ({ r with noYear := true }, rest)
    | none, some u, _ => some (moved r n u rest)
    | none, none, some d => some ({ r with day := some (d, n) }, rest)
    | none, none, none => if word = "am" ∨ word = "pm" then takeTime r ds ps else alone
  | _ => alone

/-- What a word begins. -/
def takeWord (r : Reading) (w : String) (ps : List Piece) : Option (Reading × List Piece) :=
  match w with
  | "now" | "today" => some ({ r with moved := true }, ps)
  | "tomorrow" => some (r.move 1 (.days 1), ps)
  | "yesterday" => some (r.move (-1) (.days 1), ps)
  | _ =>
    match ordinals.lookup w, month? w, weekday? w, unit? w, zone? w with
    | some n, _, _, _, _ =>
      match ps with
      | .letters x :: rest =>
        match unit? (String.ofList x), weekday? (String.ofList x) with
        | some u, _ => some (moved r n u rest)
        | none, some d => some ({ r with day := some (d, n) }, rest)
        | none, none => none
      | _ => none
    | none, some m, _, _, _ =>
      match ps with
      | .digits none d :: .mark ',' :: .digits none y :: rest => do
        let r ← r.onDate (yearOf y) m (ofDigits 10 d)
        some (r, rest)
      | .digits (some '-') d :: .digits (some '-') y :: rest => do
        let r ← r.onDate (yearOf y) m (ofDigits 10 d)
        some (r, rest)
      | .digits none d :: rest => do
        let r ← r.onDate 0 m (ofDigits 10 d)
        some ({ r with noYear := true }, rest)
      | _ => none
    | none, none, some d, _, _ =>
      let rest := if ps.head? == some (.mark ',') then ps.drop 1 else ps
      some ({ r with day := some (d, 0) }, rest)
    | none, none, none, some u, _ => some (moved r 1 u ps)
    | none, none, none, none, some z =>
      if r.zone.isSome then none
      else
        match ps with
        | .letters ['d', 's', 't'] :: rest => some ({ r with zone := some (z + 3600) }, rest)
        | .digits (some sign) ds :: .mark ':' :: .digits none ms :: rest =>
          some ({ r with zone := some (z + offsetOf sign ds (some ms)) }, rest)
        | .digits (some sign) ds :: rest =>
          match rest with
          | .letters x :: _ =>
            if (unit? (String.ofList x)).isSome then some ({ r with zone := some z }, ps)
            else some ({ r with zone := some (z + offsetOf sign ds none) }, rest)
          | _ => some ({ r with zone := some (z + offsetOf sign ds none) }, rest)
        | _ => some ({ r with zone := some z }, ps)
    | none, none, none, none, none => none

/-- All that pieces say; `fuel` bounds their number. -/
def readFrom : (fuel : Nat) → Reading → List Piece → Option Reading
  | 0, _, _ => none
  | _ + 1, r, [] => some r
  | fuel + 1, r, p :: rest =>
    match p with
    | .digits none ds => (takeNumber r ds rest).bind fun (r, rest) => readFrom fuel r rest
    | .digits (some sign) ds =>
      let n : Int := ofDigits 10 ds
      let n := if sign = '-' then -n else n
      match rest with
      | .letters w :: more =>
        match unit? (String.ofList w) with
        | some u =>
          let (r, rest) := moved r n u more
          readFrom fuel r rest
        | none => none
      | _ => none
    | .letters w => (takeWord r (String.ofList w) rest).bind fun (r, rest) => readFrom fuel r rest
    | .mark ',' => readFrom fuel r rest
    | .mark _ => none

/-- How many days a month has. -/
def daysIn (year : Int) (month : Nat) : Nat :=
  let next := if month = 12 then Moment.daysTo (year + 1) 1 1 else Moment.daysTo year (month + 1) 1
  (next - Moment.daysTo year month 1).toNat

/-- The moment that has been read, given the present one and how far its zone is ahead of universal
time. -/
def Reading.moment? (r : Reading) (now : Moment) (ahead : Int) : Option (Int × Nat) :=
  let here := Moment.ofEpoch (now.epoch + ahead) 0
  let (year, month, day) := match r.date with
    | some (y, m, d) => (if r.noYear then here.year else y, m, d)
    | none => (here.year, here.month, here.day)
  if month = 0 ∨ 12 < month ∨ day = 0 ∨ daysIn year month < day then none
  else
    let fresh := r.moved && r.date.isNone && r.day.isNone
    let (h, m, s, nano) : Int × Nat × Nat × Nat := match r.time with
      | some (h, m, s, nano) => (h, m, s, nano)
      | none => if fresh then (here.hour, here.minute, here.second, now.nano) else (0, 0, 0, 0)
    if s = 60 then none
    else
      let start := Moment.daysTo year month day
      let wday : Int := (start + 4) % 7
      let start := match r.day, r.date with
        | some (d, n), none =>
          let ahead := (d - wday + 7) % 7
          start + ahead + 7 * (n - (if 0 < n ∧ wday ≠ d then 1 else 0))
        | _, _ => start
      -- Months are counted from the day that has been found; days that are too many go on.
      let at_ := Moment.ofEpoch (start * 86400) 0
      let count := at_.year * 12 + (at_.month - 1 : Int) + r.months
      let first := Moment.daysTo (Int.fdiv count 12) ((count % 12).toNat + 1) 1
      let days := first + (at_.day - 1 : Int) + r.days
      let local_ := days * 86400 + h * 3600 + m * 60 + s + r.seconds
      some (local_ - r.zone.getD ahead, nano)

/-- The moment that a text names: its seconds, and the parts of a second in billionths. -/
def read? (now : Moment) (ahead : Int) (text : String) : Option (Int × Nat) :=
  let cs := text.toList.dropWhile isNumberSpace
  match cs with
  | '@' :: rest =>
    let (negative, digits) := match rest with
      | '-' :: ds => (true, ds)
      | '+' :: ds => (false, ds)
      | ds => (false, ds)
    let (whole, more) := digits.span Char.isDigit
    let (fraction, final) := match more with
      | '.' :: f | ',' :: f => f.span Char.isDigit
      | _ => ([], more)
    if whole.isEmpty || final.any (!isNumberSpace ·) then none
    else
      let nano := ofDigits 10 ((fraction ++ List.replicate 9 '0').take 9)
      let n : Int := ofDigits 10 whole
      if greatestWord < n then none
      else if negative then
        if nano = 0 then some (-n, 0) else some (-n - 1, 1000000000 - nano)
      else some (n, nano)
  | _ =>
    let ps := pieces (cs.length + 1) (withoutNotes 0 cs)
    (readFrom (ps.length + 1) {} ps).bind fun r => r.moment? now ahead

/-- The moment of a stamp: month, day, hour and minute, with the year in front or not, and with the
seconds behind a point or not. -/
def ofStamp? (now : Moment) (ahead : Int) (text : String) : Option Int :=
  let (digits, seconds) := text.toList.span (· != '.')
  let second : Option Nat := match seconds with
    | [] => some 0
    | ['.', a, b] => if a.isDigit ∧ b.isDigit then some (ofDigits 10 [a, b]) else none
    | _ => none
  if !digits.all Char.isDigit then none
  else
    let (year, rest) : Option (List Char) × List Char :=
      match digits.length with
      | 8 => (none, digits)
      | 10 => (some (digits.take 2), digits.drop 2)
      | 12 => (some (digits.take 4), digits.drop 4)
      | _ => (none, [])
    if rest.isEmpty then none
    else do
      let part (n : Nat) : Nat := ofDigits 10 ((rest.drop n).take 2)
      let r : Reading := { date := some ((year.map yearOf).getD now.year, part 0, part 2) }
      let r ← r.atTime (part 4) (part 6) (← second) 0
      let (epoch, _) ← r.moment? now ahead
      some epoch

end Runbook.Shell.Calendar
