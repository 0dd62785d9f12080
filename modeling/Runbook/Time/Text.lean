import Runbook.Text.Cut
import Runbook.Text.Numeral
import Runbook.Time.Basic

/-!
# `Time/Text` — timestamps in writing

A timestamp is written `2026-01-04T12:00:00`, with six more digits behind a point when it has
microseconds, and with its offset when it has one. The tasks file and the messages differ only in
how an offset of zero is written (`Z` or `+00:00`).

Reading takes more than is written: any of `T`, `t`, `_` and a blank between date and time, seconds
left out, a fraction of any length behind a point or a comma (digits beyond the sixth are dropped),
an offset without its colon; a date alone, which means its midnight; and a count of seconds. Nothing
may stand before or behind. A date in year 0 is well formed, but not in the calendar, and is told
apart from what is no timestamp at all.
-/

set_option autoImplicit false

namespace Runbook.Time

open Runbook.Text

/-! ## Writing -/

/-- A day in writing. -/
def Date.render (d : Date) : List Char :=
  padded 4 d.year ++ '-' :: padded 2 d.month ++ '-' :: padded 2 d.day

/-- A time of day in writing. -/
def Clock.render (c : Clock) : List Char :=
  padded 2 c.hour ++ ':' :: padded 2 c.minute ++ ':' :: padded 2 c.second ++
    (if c.micro = 0 then [] else '.' :: padded 6 c.micro)

/-- An offset in writing; `utc` stands for an offset of zero. -/
def Offset.render (utc : String) (o : Offset) : List Char :=
  if o.minutes = 0 then utc.toList
  else
    (if o.minutes < 0 then '-' else '+') ::
      padded 2 (o.minutes.natAbs / 60) ++ ':' :: padded 2 (o.minutes.natAbs % 60)

/-- A timestamp in writing; `utc` stands for an offset of zero. -/
def Timestamp.renderWith (utc : String) (t : Timestamp) : String :=
  String.ofList (t.date.render ++ 'T' :: t.clock.render ++
    (match t.offset with
    | some o => o.render utc
    | none => []))

/-- A timestamp as the tasks file has it. -/
def Timestamp.stored (t : Timestamp) : String := t.renderWith "Z"

/-- A timestamp as reports have it. -/
def Timestamp.reported (t : Timestamp) : String := t.renderWith "+00:00"

/-- The date and the time of a timestamp to the minute, for the eye. -/
def Timestamp.brief (t : Timestamp) : String :=
  String.ofList (decimal t.date.year ++ '-' :: padded 2 t.date.month ++
    '-' :: padded 2 t.date.day ++ ' ' :: padded 2 t.clock.hour ++ ':' :: padded 2 t.clock.minute)

/-! ## Reading -/

/-- The number that two digits denote, and what follows them. -/
def twoDigits : List Char → Option (Nat × List Char)
  | a :: b :: rest => if a.isDigit && b.isDigit then some (ofDecimal [a, b], rest) else none
  | _ => none

/-- The numbers of a date: four digits, two and two, with hyphens between them. -/
def readDate (cs : List Char) : Option ((Nat × Nat × Nat) × List Char) := do
  let (century, cs) ← twoDigits cs
  let (year, cs) ← twoDigits cs
  let cs ← after? ['-'] cs
  let (month, cs) ← twoDigits cs
  let cs ← after? ['-'] cs
  let (day, cs) ← twoDigits cs
  pure ((century * 100 + year, month, day), cs)

/-- The microseconds that the digits behind a point denote. -/
def microsOf (ds : List Char) : Nat := ofDecimal (ds.take 6) * Nat.pow 10 (6 - min 6 ds.length)

/-- The fraction of a second, if there is one: a point or a comma and at least one digit. -/
def readFraction : List Char → Option (Nat × List Char)
  | [] => some (0, [])
  | c :: rest =>
    if c = '.' ∨ c = ',' then
      let ds := rest.takeWhile Char.isDigit
      if ds.isEmpty then none else some (microsOf ds, rest.dropWhile Char.isDigit)
    else some (0, c :: rest)

/-- The seconds of a time of day, if there are any, with their fraction. -/
def readSeconds : List Char → Option ((Nat × Nat) × List Char)
  | ':' :: rest => do
    let (second, cs) ← twoDigits rest
    let (micro, cs) ← readFraction cs
    pure ((second, micro), cs)
  | cs => some ((0, 0), cs)

/-- A time of day. -/
def readClock (cs : List Char) : Option (Clock × List Char) := do
  let (hour, cs) ← twoDigits cs
  let cs ← after? [':'] cs
  let (minute, cs) ← twoDigits cs
  let ((second, micro), cs) ← readSeconds cs
  let clock ← Clock.of? hour minute second micro
  pure (clock, cs)

/-- The minutes of an offset behind its sign: hours and minutes, with or without a colon. -/
def readOffsetMinutes (cs : List Char) : Option Nat := do
  let (hours, cs) ← twoDigits cs
  let (minutes, cs) ← twoDigits ((after? [':'] cs).getD cs)
  if cs.isEmpty && minutes < 60 then some (hours * 60 + minutes) else none

/-- The offset at the end of a timestamp, if there is one. -/
def readOffset : List Char → Option (Option Offset)
  | [] => some none
  | c :: rest =>
    if c = 'Z' ∨ c = 'z' then if rest.isEmpty then some (some .utc) else none
    else if c = '+' then do
      let minutes ← readOffsetMinutes rest
      let offset ← Offset.of? minutes
      pure (some offset)
    else if c = '-' ∨ c = '\u2212' then do
      let minutes ← readOffsetMinutes rest
      let offset ← Offset.of? (-minutes)
      pure (some offset)
    else none

/-- A time of day and its offset, behind the mark between date and time. -/
def readTime : List Char → Option (Clock × Option Offset)
  | [] => some (.midnight, none)
  | c :: rest =>
    if c = 'T' ∨ c = 't' ∨ c = '_' ∨ c = ' ' then do
      let (clock, cs) ← readClock rest
      let offset ← readOffset cs
      pure (clock, offset)
    else none

/-- A date, alone or with a time. -/
def readCalendar (cs : List Char) : Except Unreadable Timestamp :=
  match readDate cs with
  | none => .error .malformed
  | some ((year, month, day), rest) =>
    match readTime rest, Date.of? year month day with
    | some (clock, offset), some date => .ok { date, clock, offset }
    | some _, none =>
      if year = 0 ∧ OnCalendar year month day then .error .yearZero else .error .malformed
    | none, _ => .error .malformed

/-- The magnitude of a number with digits behind its point, added up digit by digit. Digits beyond
the thirtieth are too small to matter. -/
def withFraction (whole : Nat) (ds : List Char) : Nat × Nat :=
  let places := (ds.take 30).foldl (fun (sum, unit) d =>
      (Double.add sum (Double.div (digitValue d, 1) unit), Double.mul unit (10, 1)))
    (Double.nearest whole 1, (10, 1))
  places.1

/-- A count of seconds behind its sign: digits, and perhaps a point and more digits. -/
def readUnsignedCount? (negative : Bool) (cs : List Char) :
    Option (Except Unreadable Timestamp) :=
  let whole := cs.takeWhile Char.isDigit
  let seconds := ofDecimal whole
  if whole.isEmpty ∨ wordBound ≤ seconds then none
  else
    match cs.dropWhile Char.isDigit with
    | [] => some (Timestamp.ofEpoch (if negative then -(seconds : Int) else seconds) 0)
    | '.' :: ds =>
      if ds.all Char.isDigit then some (Timestamp.ofFraction negative (withFraction seconds ds)) else none
    | _ => none

/-- A count of seconds with its sign, if it has one. -/
def readCount? : List Char → Option (Except Unreadable Timestamp)
  | '-' :: rest => readUnsignedCount? true rest
  | '+' :: rest => readUnsignedCount? false rest
  | cs => readUnsignedCount? false cs

/-- The timestamp that a text denotes. -/
def Timestamp.read (s : String) : Except Unreadable Timestamp :=
  match readCount? s.toList with
  | some read => read
  | none => readCalendar s.toList

end Runbook.Time
