import Runbook.Datum.Basic
import Runbook.Text.Blank
import Runbook.Time.Text

/-!
# `Datum/Check` — from data to what it means

A file that people may edit is checked before it is used, and all that is wrong with it is told at
once: each `Fault` has a place, the keys that lead to it from the top, and a kind. `Checked` is the
result of a check. Checks of independent parts are put together with `<*>`, which keeps the faults
of both, in the order of the parts.

A field may have two spellings. The first of them wins when both are there, whatever stands behind
the second, and fields with other names are passed over. So what a check gives depends on the fields
by name only, not on their order or on what else is there.

The scalar checks are generous in what they take for a number or a truth value; the `as…` functions
say how far that goes.
-/

set_option autoImplicit false

namespace Runbook

open Runbook.Text

/-- A step from a value to a part of it. -/
inductive Key where
  | field (name : String)
  | item (index : Nat)
  deriving DecidableEq, Repr

/-- How a value fails to be what it should be. -/
inductive Misfit where
  /-- The file does not denote any value. -/
  | unreadable
  | missing
  | notRecord
  | notList
  | notText
  /-- A text that should be a task id and is none. -/
  | notTaskId
  /-- A text or a number that stands for no truth value. -/
  | noTruth
  | notTruth
  /-- A text that is no numeral. -/
  | noNumeral
  | tooLarge
  | fractional
  | infinite
  | notInteger
  | notPositive
  | notPath
  | noKind
  /-- A text that is no timestamp. -/
  | noTimestamp
  /-- A timestamp outside the calendar. -/
  | offCalendar
  | notTimestamp
  deriving DecidableEq, Repr

/-- Something wrong, and where. -/
structure Fault where
  place : List Key
  misfit : Misfit
  deriving DecidableEq, Repr

/-- The result of a check: what a value means, or all that is wrong with it. -/
inductive Checked (α : Type) where
  | valid (a : α)
  | invalid (faults : List Fault)
  deriving DecidableEq, Repr

namespace Checked

variable {α β : Type}

/-- Two checks beside each other. -/
protected def seq (f : Checked (α → β)) (x : Checked α) : Checked β :=
  match f, x with
  | .valid f, .valid a => .valid (f a)
  | .invalid faults, .valid _ => .invalid faults
  | .valid _, .invalid faults => .invalid faults
  | .invalid faults, .invalid more => .invalid (faults ++ more)

instance : Applicative Checked where
  pure := .valid
  seq f x := Checked.seq f (x ())

/-- A check that depends on what an earlier one gave. -/
protected def bind (x : Checked α) (f : α → Checked β) : Checked β :=
  match x with
  | .valid a => f a
  | .invalid faults => .invalid faults

/-- One fault, at the value itself. -/
def fault (m : Misfit) : Checked α := .invalid [⟨[], m⟩]

/-- A check of the part that a key leads to. -/
def under (key : Key) : Checked α → Checked α
  | .valid a => .valid a
  | .invalid faults => .invalid (faults.map fun f => { f with place := key :: f.place })

/-- A value that is there, or else a fault. -/
def ofOption (m : Misfit) : Option α → Checked α
  | some a => .valid a
  | none => fault m

/-- What a check gives, if nothing is wrong. -/
def toOption : Checked α → Option α
  | .valid a => some a
  | .invalid _ => none

end Checked

namespace Datum

variable {α : Type}

/-! ## Scalars -/

/-- The integers that a format holds in a word; those beyond are integers all the same, but stand
for nothing else. -/
structure Words where
  first : Int
  last : Int
  deriving DecidableEq, Repr

/-- The words of JSON have at most eighteen digits. -/
def Words.json : Words := ⟨-999999999999999999, 999999999999999999⟩

/-- The words of TOML have 64 bits. -/
def Words.toml : Words := ⟨-(wordBound : Int), wordBound - 1⟩

/-- An integer is a word. -/
def Words.holds (words : Words) (n : Int) : Bool := words.first ≤ n && n ≤ words.last

/-- A text. -/
def asText : Datum → Checked String
  | .text s => .valid s
  | _ => .fault .notText

/-- A text or null. -/
def asTextOrNull : Datum → Checked (Option String)
  | .null => .valid none
  | .text s => .valid (some s)
  | _ => .fault .notText

/-- The text of a path. -/
def asPath : Datum → Checked String
  | .text s => .valid s
  | _ => .fault .notPath

/-- The words that stand for a truth value, in any case. -/
def truthOfWord? (s : String) : Option Bool :=
  let word := String.ofList (s.toList.map Char.toLower)
  if ["0", "off", "f", "false", "n", "no"].contains word then some false
  else if ["1", "on", "t", "true", "y", "yes"].contains word then some true
  else none

/-- The numbers 0 and 1 stand for truth values. -/
def truthOfInt? (n : Int) : Option Bool :=
  if n = 0 then some false else if n = 1 then some true else none

/-- A truth value, or a word or a whole number that stands for one. -/
def asBool (words : Words) : Datum → Checked Bool
  | .bool b => .valid b
  | .text s => .ofOption .noTruth (truthOfWord? s)
  | .number (.integer i) =>
    if words.holds i then .ofOption .noTruth (truthOfInt? i) else .fault .notTruth
  | .number n =>
    match n.whole? with
    | some i =>
      if i.natAbs < wordBound then .ofOption .noTruth (truthOfInt? i) else .fault .notTruth
    | none => .fault .notTruth
  | _ => .fault .notTruth

/-- The blanks that may stand around a numeral. -/
def isPadding (c : Char) : Bool := isBlank c && !(28 ≤ c.toNat && c.toNat ≤ 31)

/-- The most characters that a strict numeral has, its sign included. -/
def maxNumeral : Nat := 4300

/-- The number that a text denotes as a strict numeral: a minus sign or none, and digits without a
zero in front of others. What is no numeral at its end may still be too long at its beginning. -/
def ofStrictNumeral (cs : List Char) : Except Misfit Int :=
  let (sign, behind) := cs.span (· == '-')
  let (ds, rest) := behind.span Char.isDigit
  if 1 < sign.length ∨ ds.isEmpty ∨ (1 < ds.length ∧ ds.head? = some '0') then .error .noNumeral
  else if maxNumeral < sign.length + ds.length then .error .tooLarge
  else if !rest.isEmpty then .error .noNumeral
  else .ok (if sign.isEmpty then ofDecimal ds else -(ofDecimal ds : Int))

/-- What follows the zeros at the front of a loose numeral, given the zero or the underscore passed
last. A point keeps what stands before it, and so does the end. -/
def dropZerosBehind (last : Char) : List Char → Option (List Char)
  | [] => some [last]
  | c :: rest =>
    if c = '0' ∨ c = '_' then dropZerosBehind c rest
    else if c.isDigit ∨ c = '-' then some (c :: rest)
    else if c = '.' then some (last :: c :: rest)
    else none

/-- A loose numeral without the zeros at its front; it begins with a digit or a minus sign. -/
def dropZeros : List Char → Option (List Char)
  | [] => none
  | c :: rest =>
    if c = '0' then dropZerosBehind c rest
    else if c.isDigit ∨ c = '-' then some (c :: rest)
    else none

/-- A loose numeral without a point that nothing but zeros follow. -/
def dropFraction (cs : List Char) : List Char :=
  match cs.span (· != '.') with
  | (whole, '.' :: zeros) => if !zeros.isEmpty && zeros.all (· == '0') then whole else cs
  | _ => cs

/-- Underscores in a numeral stand alone and between other characters. -/
def wellGrouped : List Char → Bool
  | [] => true
  | ['_'] => false
  | '_' :: '_' :: _ => false
  | _ :: rest => wellGrouped rest

/-- A loose numeral without its underscores, if they stand well. -/
def dropUnderscores (cs : List Char) : List Char :=
  if cs.head? ≠ some '_' ∧ wellGrouped cs then cs.filter (· != '_') else cs

/-- The strict numeral that a loose one amounts to: it may have a sign, zeros in front, a fraction
of zeros, and underscores. -/
def strictOf? (cs : List Char) : Option (List Char) :=
  let plain (cs : List Char) : Option (List Char) :=
    (dropZeros cs).map fun cs => dropUnderscores (dropFraction cs)
  match cs with
  | '+' :: '-' :: _ => none
  | '+' :: rest => plain rest
  | '-' :: rest => (plain rest).map ('-' :: ·)
  | _ => plain cs

/-- The number that a text denotes. Only a text that is a strict numeral as it stands can be too
large; a loose one of that length is none. -/
def intOfText (s : String) : Checked Int :=
  match ofStrictNumeral s.toList with
  | .ok n => .valid n
  | .error .tooLarge => .fault .tooLarge
  | .error _ =>
    let cs := ((s.toList.dropWhile isPadding).reverse.dropWhile isPadding).reverse
    match (strictOf? cs).map ofStrictNumeral with
    | some (.ok n) => .valid n
    | _ => .fault .noNumeral

/-- An integer, or what stands for one: a truth value, a whole number, a numeral. -/
def asInt : Datum → Checked Int
  | .bool b => .valid (if b then 1 else 0)
  | .text s => intOfText s
  | .number (.integer n) => .valid n
  | .number (.infinity _) | .number .nan => .fault .infinite
  | .number n =>
    match n.whole? with
    | some i => if i.natAbs < wordBound then .valid i else .fault .tooLarge
    | none => .fault .fractional
  | _ => .fault .notInteger

/-- An integer above zero. -/
def asPositive (d : Datum) : Checked Nat :=
  d.asInt.bind fun n => if 0 < n then .valid n.toNat else .fault .notPositive

/-- A timestamp that was read, or why it was not. -/
def ofReading (misfit : Misfit) : Except Time.Unreadable Time.Timestamp → Checked Time.Timestamp
  | .ok t => .valid t
  | .error .malformed => .fault misfit
  | .error .yearZero => .fault .offCalendar

/-- A timestamp in writing, or a count of seconds. -/
def asTimestamp : Datum → Checked Time.Timestamp
  | .text s => ofReading .noTimestamp (Time.Timestamp.read s)
  | .number (.integer i) =>
    if Words.json.holds i then ofReading .offCalendar (Time.Timestamp.ofEpoch i 0)
    else .fault .notTimestamp
  | .number n =>
    match n.seconds? with
    | some (seconds, micros) => ofReading .offCalendar (Time.Timestamp.ofEpoch seconds micros)
    | none => .fault .offCalendar
  | _ => .fault .notTimestamp

/-! ## Lists and records -/

/-- The items of a list, the first of them at a given index. -/
def checkItems (check : Datum → Checked α) : (index : Nat) → List Datum → Checked (List α)
  | _, [] => .valid []
  | index, d :: ds =>
    List.cons <$> (check d).under (.item index) <*> checkItems check (index + 1) ds

/-- A list whose items pass a check. -/
def asListOf (check : Datum → Checked α) : Datum → Checked (List α)
  | .list ds => checkItems check 0 ds
  | _ => .fault .notList

/-- A record whose fields pass a check. -/
def asRecordOf (check : Fields → Checked α) : Datum → Checked α
  | .record fields => check fields
  | _ => .fault .notRecord

end Datum

/-- The name of a field: its usual spelling, and another one that is taken as well. -/
structure FieldName where
  usual : String
  other : String
  deriving DecidableEq, Repr

/-- A name with one spelling. -/
def FieldName.plain (name : String) : FieldName := ⟨name, name⟩

namespace Fields

variable {α : Type}

/-- The field with a name, and the spelling it was found under. -/
def lookup (fields : Fields) (name : FieldName) : Option (String × Datum) :=
  match fields.get? name.usual with
  | some d => some (name.usual, d)
  | none => (fields.get? name.other).map fun d => (name.other, d)

/-- A field that passes a check, or else what stands for it when it is not there. -/
def check (fields : Fields) (name : FieldName) (absent : Checked α) (check : Datum → Checked α) :
    Checked α :=
  match fields.lookup name with
  | some (spelling, d) => (check d).under (.field spelling)
  | none => absent

/-- A field that has to be there. -/
def require (fields : Fields) (name : FieldName) (check : Datum → Checked α) : Checked α :=
  fields.check name ((Checked.fault .missing).under (.field name.usual)) check

/-- A field that may be left out. -/
def default (fields : Fields) (name : FieldName) (value : α) (check : Datum → Checked α) :
    Checked α :=
  fields.check name (.valid value) check

end Fields

end Runbook
