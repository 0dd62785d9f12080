import Runbook.Shell.Text.Numeral

/-!
# `Shell/Text/Moment` — moments and their formats

A moment is a number of seconds since the beginning of 1970 in universal time. A format says with
signs how it is written: year, month, day and so on.
-/

set_option autoImplicit false

namespace Runbook.Shell

/-- A moment by the calendar. -/
structure Moment where
  /-- Seconds since the beginning of 1970. -/
  epoch : Int
  nano : Nat := 0
  year : Int
  month : Nat
  day : Nat
  hour : Nat
  minute : Nat
  second : Nat
  deriving Inhabited

namespace Moment

/-- The number of days from the beginning of 1970 to a day. -/
def daysTo (year : Int) (month day : Nat) : Int :=
  -- Years begin in March here, so that the day that some years have more is the last one.
  let y : Int := if month ≤ 2 then year - 1 else year
  let era := Int.fdiv y 400
  let yearOfEra := y - era * 400
  let monthOfYear : Nat := (month + 9) % 12
  let dayOfYear : Int := ((153 * monthOfYear + 2) / 5 + day : Nat) - 1
  let dayOfEra := yearOfEra * 365 + Int.fdiv yearOfEra 4 - Int.fdiv yearOfEra 100 + dayOfYear
  era * 146097 + dayOfEra - 719468

/-- The moment of a count of seconds. -/
def ofEpoch (epoch : Int) (nano : Nat) : Moment :=
  let days := Int.fdiv epoch 86400
  let seconds := (epoch - days * 86400).toNat
  let z := days + 719468
  let era := Int.fdiv z 146097
  let dayOfEra := z - era * 146097
  let yearOfEra :=
    Int.fdiv (dayOfEra - Int.fdiv dayOfEra 1460 + Int.fdiv dayOfEra 36524 - Int.fdiv dayOfEra 146096)
      365
  let dayOfYear :=
    dayOfEra - (365 * yearOfEra + Int.fdiv yearOfEra 4 - Int.fdiv yearOfEra 100)
  let m := Int.fdiv (5 * dayOfYear + 2) 153
  let day := dayOfYear - Int.fdiv (153 * m + 2) 5 + 1
  let month := if m < 10 then m + 3 else m - 9
  { epoch, nano
    year := yearOfEra + era * 400 + (if month ≤ 2 then 1 else 0)
    month := month.toNat
    day := day.toNat
    hour := seconds / 3600
    minute := seconds / 60 % 60
    second := seconds % 60 }

/-- The moment of a date and a time of day. -/
def ofCalendar (year : Int) (month day hour minute second : Nat) : Moment :=
  ofEpoch (daysTo year month day * 86400 + hour * 3600 + minute * 60 + second) 0

/-- The days of the week, Sunday first. -/
def weekdays : List String :=
  ["Sunday", "Monday", "Tuesday", "Wednesday", "Thursday", "Friday", "Saturday"]

/-- The months. -/
def months : List String :=
  ["January", "February", "March", "April", "May", "June", "July", "August", "September", "October",
    "November", "December"]

/-- The number of the day in its week, Sunday being zero. -/
def weekday (t : Moment) : Nat := ((Int.fdiv t.epoch 86400 + 4) % 7).toNat

/-- The number of the day in its year, from zero. -/
def yearDay (t : Moment) : Nat := (daysTo t.year t.month t.day - daysTo t.year 1 1).toNat

/-- The week of the standard calendar, with its year. -/
def isoWeek (t : Moment) : Int × Nat :=
  let days := Int.fdiv t.epoch 86400
  -- The Thursday of the week decides.
  let thursday := days - ((t.weekday + 6) % 7 : Nat) + 3
  let u := ofEpoch (thursday * 86400) 0
  (u.year, u.yearDay / 7 + 1)

/-- How a field of a format is filled up. -/
structure Filling where
  pad : Option Char := none
  width : Option Nat := none
  upper : Bool := false
  swap : Bool := false

/-- A number filled up to a width, or as a filling says. -/
def number (f : Filling) (pad : Char) (width : Nat) (n : Int) : List Char :=
  let digits := (natText n.natAbs).toList
  let pad := match f.pad with
    | some '-' => none
    | some '_' => some ' '
    | some '0' => some '0'
    | _ => some pad
  let width := f.width.getD width
  let sign := if n < 0 then ['-'] else []
  match pad with
  | some ' ' => padLeft width ' ' (sign ++ digits)
  | some c => sign ++ padLeft (width - sign.length) c digits
  | none => sign ++ digits

/-- A text as a filling says. -/
def text (f : Filling) (s : String) : List Char :=
  let cs := if f.upper then s.toList.map Char.toUpper
    else if f.swap then s.toList.map Char.toUpper else s.toList
  padLeft (f.width.getD 0) (if f.pad = some '0' then '0' else ' ') cs

/-- The first letters of a name. -/
def short (s : String) : String := String.ofList (s.toList.take 3)

/-- A moment in a format; `fuel` bounds how often a sign stands for a format. -/
def format (t : Moment) : (fuel : Nat) → List Char → List Char
  | 0, _ => []
  | _ + 1, [] => []
  | fuel + 1, '%' :: rest =>
    let (flags, behind) := rest.span fun c => "-_0^#+".toList.contains c
    let (digits, behind) := behind.span Char.isDigit
    let f : Filling :=
      { pad := (flags.filter fun c => "-_0".toList.contains c).getLast?
        width := if digits.isEmpty then none else some (ofDigits 10 digits)
        upper := flags.contains '^'
        swap := flags.contains '#' }
    let behind := match behind with
      | 'E' :: more | 'O' :: more => more
      | _ => behind
    let colons := behind.takeWhile (· == ':')
    let twelve := if t.hour % 12 = 0 then 12 else t.hour % 12
    match behind.drop colons.length with
    | [] => '%' :: rest
    | c :: more =>
      let weekday := weekdays.getD t.weekday ""
      let month := months.getD (t.month - 1) ""
      let shown : List Char :=
        match c with
        | '%' => ['%']
        | 'n' => ['\n']
        | 't' => ['\t']
        | 'Y' => number f '0' 4 t.year
        | 'C' => number f '0' 2 (Int.fdiv t.year 100)
        | 'y' => number f '0' 2 (t.year % 100)
        | 'm' => number f '0' 2 t.month
        | 'd' => number f '0' 2 t.day
        | 'e' => number f ' ' 2 t.day
        | 'H' => number f '0' 2 t.hour
        | 'k' => number f ' ' 2 t.hour
        | 'I' => number f '0' 2 twelve
        | 'l' => number f ' ' 2 twelve
        | 'M' => number f '0' 2 t.minute
        | 'S' => number f '0' 2 t.second
        | 's' => number f '0' 1 t.epoch
        | 'N' =>
          let ds := padLeft 9 '0' (natText t.nano).toList
          match f.width with
          | some w => ds.take w
          | none => ds
        | 'j' => number f '0' 3 (t.yearDay + 1)
        | 'u' => number f '0' 1 (if t.weekday = 0 then 7 else t.weekday)
        | 'w' => number f '0' 1 t.weekday
        | 'U' => number f '0' 2 ((t.yearDay + 7 - t.weekday) / 7 : Nat)
        | 'W' => number f '0' 2 ((t.yearDay + 7 - (t.weekday + 6) % 7) / 7 : Nat)
        | 'V' => number f '0' 2 t.isoWeek.2
        | 'G' => number f '0' 4 t.isoWeek.1
        | 'g' => number f '0' 2 (t.isoWeek.1 % 100)
        | 'q' => number f '0' 1 ((t.month + 2) / 3 : Nat)
        | 'a' => text f (short weekday)
        | 'A' => text f weekday
        | 'b' | 'h' => text f (short month)
        | 'B' => text f month
        | 'p' => if f.swap then (if t.hour < 12 then "am" else "pm").toList
          else text f (if t.hour < 12 then "AM" else "PM")
        | 'P' => text f (if t.hour < 12 then "am" else "pm")
        | 'Z' => if f.swap then "utc".toList else text f "UTC"
        | 'z' =>
          match colons.length with
          | 0 => "+0000".toList
          | 1 => "+00:00".toList
          | 2 => "+00:00:00".toList
          | _ => "+00".toList
        | 'D' => format t fuel "%m/%d/%y".toList
        | 'x' => format t fuel "%m/%d/%y".toList
        | 'F' => format t fuel "%Y-%m-%d".toList
        | 'T' | 'X' => format t fuel "%H:%M:%S".toList
        | 'R' => format t fuel "%H:%M".toList
        | 'r' => format t fuel "%I:%M:%S %p".toList
        | 'c' => format t fuel "%a %b %e %H:%M:%S %Y".toList
        | '+' => format t fuel "%a %b %e %H:%M:%S %Z %Y".toList
        | _ => '%' :: rest.take (rest.length - more.length)
      shown ++ format t fuel more
  | fuel + 1, c :: rest => c :: format t fuel rest

/-- A moment in a format. -/
def written (t : Moment) (form : String) : String :=
  String.ofList (t.format (form.length + 64) form.toList)

end Moment

end Runbook.Shell
