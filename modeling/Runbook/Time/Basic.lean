import Runbook.Double

/-!
# `Time` — dates, clocks and offsets

A `Timestamp` is a date and a time of day with the distance of its zone from UTC, where that is
known. The calendar is the Gregorian one, extended to the years 1 to 9999; a day has no leap
seconds. Each type carries the proof that its numbers are in range, so a value that exists is a
value that can be written, and the functions `of?` are the only way in from plain numbers.
-/

set_option autoImplicit false

namespace Runbook.Time

/-- A year with a twenty-ninth of February. -/
def isLeap (year : Nat) : Bool := year % 4 == 0 && (year % 100 != 0 || year % 400 == 0)

/-- The days of a month. -/
def daysIn (year month : Nat) : Nat :=
  if month = 2 then (if isLeap year then 29 else 28)
  else if month = 4 ∨ month = 6 ∨ month = 9 ∨ month = 11 then 30
  else 31

/-- A month and a day that the calendar of a year has. -/
def OnCalendar (year month day : Nat) : Prop :=
  1 ≤ month ∧ month ≤ 12 ∧ 1 ≤ day ∧ day ≤ daysIn year month

instance (year month day : Nat) : Decidable (OnCalendar year month day) :=
  inferInstanceAs (Decidable (_ ∧ _))

/-- A day. -/
structure Date where
  year : Nat
  month : Nat
  day : Nat
  year_mem : 1 ≤ year ∧ year ≤ 9999
  onCalendar : OnCalendar year month day
  deriving DecidableEq

/-- The day that three numbers name. -/
def Date.of? (year month day : Nat) : Option Date :=
  if hy : 1 ≤ year ∧ year ≤ 9999 then
    if hc : OnCalendar year month day then some ⟨year, month, day, hy, hc⟩ else none
  else none

/-- A time of day, to the microsecond. -/
structure Clock where
  hour : Nat
  minute : Nat
  second : Nat
  micro : Nat
  hour_lt : hour < 24
  minute_lt : minute < 60
  second_lt : second < 60
  micro_lt : micro < 1000000
  deriving DecidableEq

/-- The time of day that four numbers name. -/
def Clock.of? (hour minute second micro : Nat) : Option Clock :=
  if h : hour < 24 ∧ minute < 60 ∧ second < 60 ∧ micro < 1000000 then
    some ⟨hour, minute, second, micro, h.1, h.2.1, h.2.2.1, h.2.2.2⟩
  else none

/-- The start of a day. -/
def Clock.midnight : Clock := ⟨0, 0, 0, 0, by decide, by decide, by decide, by decide⟩

/-- How far the clocks of a zone are ahead of UTC: whole minutes, less than a day. -/
structure Offset where
  minutes : Int
  lt_day : minutes.natAbs < 1440
  deriving DecidableEq

/-- The offset of so many minutes. -/
def Offset.of? (minutes : Int) : Option Offset :=
  if h : minutes.natAbs < 1440 then some ⟨minutes, h⟩ else none

/-- The offset of UTC. -/
def Offset.utc : Offset := ⟨0, by decide⟩

/-- A point in time, or a date and a time in a zone that is not known. -/
structure Timestamp where
  date : Date
  clock : Clock
  offset : Option Offset
  deriving DecidableEq

/-- The point in time that numbers name, in UTC. -/
def Timestamp.utc? (year month day hour minute second micro : Nat) : Option Timestamp := do
  let date ← Date.of? year month day
  let clock ← Clock.of? hour minute second micro
  pure { date, clock, offset := some .utc }

/-! ## The numbers of a value name it -/

theorem Date.of?_self (d : Date) : Date.of? d.year d.month d.day = some d := by
  rw [Date.of?, dif_pos d.year_mem, dif_pos d.onCalendar]

theorem Clock.of?_self (c : Clock) : Clock.of? c.hour c.minute c.second c.micro = some c := by
  rw [Clock.of?, dif_pos ⟨c.hour_lt, c.minute_lt, c.second_lt, c.micro_lt⟩]

theorem Offset.of?_self (o : Offset) : Offset.of? o.minutes = some o := by
  rw [Offset.of?, dif_pos o.lt_day]

/-!
## Counts of seconds

A tasks file may give a point in time as a count of seconds since the start of 1970, UTC. A count
beyond twenty thousand million, in either direction, is taken as milliseconds: as seconds it would
lie in the twenty-seventh century. What comes after the year 9999 or before the year 0 is out of
range; the year 0 itself is in range, but not in the calendar.
-/

/-- The greatest magnitude that counts seconds; beyond it a count is one of milliseconds. -/
def watershed : Nat := 20000000000

/-- The first and the last second in range. -/
def firstSecond : Int := -62167219200

@[inherit_doc firstSecond]
def lastSecond : Int := 253402300799

/-- Days from the first of January of year 1 to the first of January 1970. -/
def daysToEpoch : Nat := 719162

/-- The month and the day of the month, both counted from one, of a day of a year; `past` are the
days gone by since the start of the year, and the search goes through `months`. -/
def monthAndDay (year : Nat) : (months : List Nat) → (past : Nat) → Nat × Nat
  | [], past => (12, past + 1)
  | month :: later, past =>
    if past < daysIn year month then (month, past + 1)
    else monthAndDay year later (past - daysIn year month)

/-- The day that lies so many days after the first of January of year 1. -/
def dateAfter? (days : Nat) : Option Date :=
  let cycle := days % 146097
  let century := min (cycle / 36524) 3
  let inCentury := cycle - century * 36524
  let inLeap := inCentury % 1461
  let single := min (inLeap / 365) 3
  let year := days / 146097 * 400 + century * 100 + inCentury / 1461 * 4 + single + 1
  let (month, day) := monthAndDay year (List.range' 1 12) (inLeap - single * 365)
  Date.of? year month day

/-- The time of day after so many seconds. -/
def clockAfter? (seconds micro : Nat) : Option Clock :=
  Clock.of? (seconds / 3600) (seconds / 60 % 60) (seconds % 60) micro

/-- A count as seconds and microseconds. -/
def normalise (count : Int) (micro : Nat) : Int × Nat :=
  if count.natAbs ≤ watershed then (count + micro / 1000000, micro % 1000000)
  else
    let total := (count % 1000).toNat * 1000 + micro
    (count / 1000 + total / 1000000, total % 1000000)

/-- Why a text or a number is not read as a timestamp. -/
inductive Unreadable where
  /-- It is no timestamp. -/
  | malformed
  /-- It is well formed, but in the year 0. -/
  | yearZero
  deriving DecidableEq, Repr

/-- The point in time that a count names; `micro` microseconds are added. -/
def Timestamp.ofEpoch (count : Int) (micro : Nat) : Except Unreadable Timestamp :=
  let (seconds, micro) := normalise count micro
  if firstSecond ≤ seconds ∧ seconds ≤ lastSecond then
    let total := seconds + daysToEpoch * 86400
    if total < 0 then .error .yearZero
    else
      match dateAfter? (total.toNat / 86400), clockAfter? (total.toNat % 86400) micro with
      | some date, some clock => .ok { date, clock, offset := some .utc }
      | _, _ => .error .malformed
  else .error .malformed

/-- The point in time that a count with a fraction names, given by its magnitude in double
precision. Whether it counts milliseconds is seen from the whole of it, so what is left of it may
be taken for milliseconds once more. -/
def Timestamp.ofFraction (negative : Bool) (count : Nat × Nat) : Except Unreadable Timestamp :=
  let seconds :=
    if watershed * count.2 < count.1 then Double.div count (1000, 1) else count
  let (floor, rest) := Double.split negative seconds
  Timestamp.ofEpoch floor (Double.round (Double.mul rest (1000000, 1)))

end Runbook.Time
