import Runbook.Double
import Runbook.Text.Numeral

/-!
# `Datum` — what a data file says

The tasks file is JSON and the settings file is TOML; both denote a `Datum`. JSON has no dates and
TOML has no null, so each reader uses all constructors but one.

A record keeps its fields in the order of the file, repeated ones included, and looking up a field
finds the last one of the name.

A number that is written without a point and an exponent is an integer of any size. Any other is
kept as the decimal it was written as: a sign, the digits, and a power of ten, so that it can be
written again as it was. The questions that are asked of it are asked of the double-precision number
nearest to the decimal, and the range is that of those numbers: a magnitude that rounds beyond the
largest of them is an infinity, and one far below the least is a zero. This also keeps the powers of
ten that the questions compute small.
-/

set_option autoImplicit false

namespace Runbook

/-! ## Numbers -/

section

open Runbook.Text

/-- A number of a data format. -/
inductive Number where
  | integer (n : Int)
  /-- The digits times ten to the exponent, negated if `negative`. -/
  | decimal (negative : Bool) (digits : Nat) (exponent : Int)
  | infinity (negative : Bool)
  | nan
  deriving DecidableEq, Repr

namespace Number

/-- The least magnitude that rounds to infinity in double precision. -/
def overflow : Nat := Nat.pow 2 1024 - Nat.pow 2 970

/-- The decimal that some digits and an exponent denote, within the range of double precision. -/
def ofParts (negative : Bool) (digits : Nat) (exponent : Int) : Number :=
  -- `places` is the count of digits before the point.
  let places := (Text.decimal digits).length + exponent
  if digits = 0 ∨ places < -400 then .decimal negative 0 0
  else if 309 < places then .infinity negative
  else if places = 309 ∧
      overflow * Nat.pow 10 (-exponent).toNat ≤ digits * Nat.pow 10 exponent.toNat then
    .infinity negative
  else .decimal negative digits exponent

/-- The magnitude of a decimal in double precision, as a fraction. -/
def magnitude (digits : Nat) (exponent : Int) : Nat × Nat :=
  Double.nearest (digits * Nat.pow 10 exponent.toNat) (Nat.pow 10 (-exponent).toNat)

/-- The integer that a number is, if it is whole. -/
def whole? : Number → Option Int
  | .integer n => some n
  | .decimal negative digits exponent =>
    let (num, den) := magnitude digits exponent
    if num % den = 0 then some (if negative then -(num / den : Nat) else (num / den : Nat))
    else none
  | .infinity _ | .nan => none

/-- A number as a time in seconds: the second it falls in, and the distance of its fraction from
zero in microseconds, to the nearest one. -/
def seconds? : Number → Option (Int × Nat)
  | .integer n => some (n, 0)
  | .decimal negative digits exponent =>
    let (num, den) := magnitude digits exponent
    let micros := Double.nearest (num % den * 1000000) den
    let floor : Int :=
      if negative then (if num % den = 0 then -(num / den : Nat) else -(num / den : Nat) - 1)
      else (num / den : Nat)
    some (floor, Double.round micros)
  | .infinity _ | .nan => none

/-- The digits of a decimal without trailing zeros, and the exponent that goes with them. -/
def shorten (exponent : Int) : (cs : List Char) → List Char × Int
  | cs =>
    let kept := (cs.reverse.dropWhile (· == '0')).reverse
    (kept, exponent + (cs.length - kept.length))

/-- A decimal in writing: positional while the point stands within sixteen digits of the front,
with an exponent of at least two digits otherwise. -/
def renderDecimal (negative : Bool) (digits : Nat) (exponent : Int) : List Char :=
  let sign := if negative then ['-'] else []
  if digits = 0 then sign ++ "0.0".toList
  else
    let (ds, exp) := shorten exponent (Text.decimal digits)
    -- The value is `0.ds` times ten to `point`.
    let point := ds.length + exp
    if -4 < point ∧ point ≤ 16 then
      if point ≤ 0 then sign ++ "0.".toList ++ List.replicate (-point).toNat '0' ++ ds
      else if ds.length ≤ point.toNat then
        sign ++ ds ++ List.replicate (point.toNat - ds.length) '0' ++ ".0".toList
      else sign ++ ds.take point.toNat ++ '.' :: ds.drop point.toNat
    else
      let power := point - 1
      let mantissa :=
        match ds with
        | d :: more => if more.isEmpty then [d] else d :: '.' :: more
        | [] => []
      sign ++ mantissa ++ 'e' :: (if power < 0 then '-' else '+') :: padded 2 power.natAbs

/-- A number in writing. -/
def render : Number → List Char
  | .integer n => signed n
  | .decimal negative digits exponent => renderDecimal negative digits exponent
  | .infinity negative => (if negative then "-Infinity" else "Infinity").toList
  | .nan => "NaN".toList

end Number

end

/-! ## Data -/

/-- The value that a data file or a part of one denotes. -/
inductive Datum where
  | null
  | bool (b : Bool)
  | number (n : Number)
  | text (s : String)
  /-- A date, a time or both; only that it is one matters. -/
  | moment
  | list (items : List Datum)
  | record (fields : List (String × Datum))
  deriving Inhabited, Repr

/-- The fields of a record. -/
abbrev Fields := List (String × Datum)

/-- The last field with a name. -/
def Fields.get? (fields : Fields) (name : String) : Option Datum :=
  (fields.reverse.find? (·.1 == name)).map (·.2)

/-- The fields with a value under a name: in the place of a field of that name, or else at the
end. -/
def Fields.set (fields : Fields) (name : String) (d : Datum) : Fields :=
  if fields.any (·.1 == name) then fields.map fun f => if f.1 = name then (name, d) else f
  else fields ++ [(name, d)]

/-- What was set is found. -/
theorem Fields.get?_set_self (fields : Fields) (name : String) (d : Datum) :
    (fields.set name d).get? name = some d := by
  unfold Fields.set Fields.get?
  split
  · next h =>
    obtain ⟨f, hf, hname⟩ := List.any_eq_true.1 h
    rw [← List.map_reverse, List.find?_map]
    cases hfind : fields.reverse.find? (fun f => f.1 == name) with
    | none =>
      have := List.find?_eq_none.1 hfind f (List.mem_reverse.2 hf)
      exact absurd hname this
    | some g =>
      have hg : g.1 = name := by simpa using List.find?_some hfind
      have same : ((fun f : String × Datum => f.1 == name) ∘
          fun f => if f.1 = name then (name, d) else f) = fun f => f.1 == name := by
        funext f
        by_cases hf : f.1 = name <;> simp [hf]
      rw [same, hfind]
      simp [hg]
  · simp

/-- The fields with all of some more set in them. -/
def Fields.setAll (fields more : Fields) : Fields :=
  more.foldl (fun all f => all.set f.1 f.2) fields

/-- An integer. -/
def Datum.int (n : Int) : Datum := .number (.integer n)

/-- A count. -/
def Datum.nat (n : Nat) : Datum := .int n

/-- A text, or null where there is none. -/
def Datum.text? : Option String → Datum
  | some s => .text s
  | none => .null

end Runbook
