import Runbook.Double
import Runbook.Shell.Text.Numeral

/-!
# `Shell/Text/Real` — real numbers in writing

Formats print real numbers with so many digits behind the point, with an exponent, or in whichever
form is shorter. All of it is done on exact fractions, so a number is rounded once, when it is
written, and a tie goes to the even digit.
-/

set_option autoImplicit false

namespace Runbook.Shell

open Runbook.Text

/-- A real number as commands know it. -/
inductive Real where
  /-- A fraction, negated if `negative`. -/
  | finite (negative : Bool) (num den : Nat)
  | infinite (negative : Bool)
  | nan
  deriving Inhabited, DecidableEq

namespace Real

/-- A whole number. -/
def ofInt (n : Int) : Real := .finite (n < 0) n.natAbs 1

/-- The number rounded to the precision that most commands calculate with. -/
def extended : Real → Real
  | .finite negative num den =>
    let (top, bottom) := Double.rounded 64 (-16445) num den
    .finite negative top bottom
  | r => r

/-- A number with a sign in front of it. -/
def isNegative : Real → Bool
  | .finite negative .. | .infinite negative => negative
  | .nan => false

/-- A fraction scaled by a power of a base. -/
def scaled (base num den : Nat) (power : Int) : Nat × Nat :=
  (num * Nat.pow base power.toNat, den * Nat.pow base (-power).toNat)

/-- The quotient of two numbers as a whole number; a tie goes to the even one. -/
def roundedQuotient (num den : Nat) : Nat :=
  let rest := num % den
  let up := den < 2 * rest || (2 * rest == den && num / den % 2 == 1)
  num / den + if up then 1 else 0

/-! ## Reading -/

/-- The letters of a word at the front of a text, in any case; what follows them. -/
def afterWord? (word : String) (cs : List Char) : Option (List Char) :=
  if ((cs.take word.length).map Char.toLower) = word.toList then some (cs.drop word.length)
  else none

/-- The exponent behind a letter, if there is one, and the rest. -/
def takeExponent (letter : Char) (cs : List Char) : Int × List Char :=
  match cs with
  | c :: rest =>
    if c.toLower = letter then
      let (negative, behind) := takeSign rest
      let (ds, more) := behind.span Char.isDigit
      if ds.isEmpty then (0, cs)
      else
        let n := min (ofDecimal ds) 100000
        (if negative then -(n : Int) else n, more)
    else (0, cs)
  | [] => (0, cs)

/-- Digits in a base with a point among them: their value without the point, how many stand behind
it, and the rest. -/
def takePointed? (base : Nat) (cs : List Char) : Option (Nat × Nat × List Char) :=
  let (whole, rest) := spanDigits base cs
  let (behind, rest) :=
    match rest with
    | '.' :: more =>
      let (ds, final) := spanDigits base more
      if whole.isEmpty && ds.isEmpty then ([], rest) else (ds, final)
    | _ => ([], rest)
  if whole.isEmpty && behind.isEmpty then none
  else some (ofDigits base (whole ++ behind), behind.length, rest)

/-- A number without a sign. -/
def takeUnsigned? (negative : Bool) (cs : List Char) : Option (Real × List Char) :=
  let inHex : Option (Real × List Char) :=
    match cs with
    | '0' :: x :: rest =>
      if x.toLower = 'x' then
        (takePointed? 16 rest).map fun (n, places, rest) =>
          let (power, rest) := takeExponent 'p' rest
          let (top, bottom) := scaled 2 n 1 (power - 4 * places)
          (.finite negative top bottom, rest)
      else none
    | _ => none
  match inHex with
  | some found => some found
  | none =>
    match takePointed? 10 cs with
    | some (n, places, rest) =>
      let (power, rest) := takeExponent 'e' rest
      let (top, bottom) := scaled 10 n 1 (power - places)
      some (.finite negative top bottom, rest)
    | none =>
      match afterWord? "infinity" cs <|> afterWord? "inf" cs with
      | some rest => some (.infinite negative, rest)
      | none => (afterWord? "nan" cs).map fun rest => (.nan, rest)

/-- The number at the front of a text, and the rest. -/
def take? (cs : List Char) : Option (Real × List Char) :=
  let (negative, behind) := takeSign (cs.dropWhile isNumberSpace)
  takeUnsigned? negative behind

/-! ## Writing -/

/-- A fraction with so many digits behind the point. -/
def fixedDigits (places : Nat) (point : Bool) (num den : Nat) : List Char :=
  let n := roundedQuotient (num * Nat.pow 10 places) den
  let whole := decimal (n / Nat.pow 10 places)
  if places = 0 then whole ++ (if point then ['.'] else [])
  else whole ++ '.' :: padded places (n % Nat.pow 10 places)

/-- The power of ten that the first digit of a fraction stands for. -/
def leadingPower (num den : Nat) : Int :=
  if num = 0 then 0
  else
    let guess : Int := (decimal num).length - (decimal den).length
    let (top, bottom) := scaled 10 num den (-guess)
    if top < bottom then guess - 1 else guess

/-- The digits of a fraction that stand before and behind the point when one stands before it, and
the power of ten that goes with them. -/
def scientificParts (places : Nat) (num den : Nat) : Nat × Int :=
  let power := leadingPower num den
  let (top, bottom) := scaled 10 num den (places - power)
  let n := roundedQuotient top bottom
  if n = Nat.pow 10 (places + 1) then (n / 10, power + 1) else (n, power)

/-- An exponent of at least two digits. -/
def exponentText (letter : Char) (power : Int) : List Char :=
  letter :: (if power < 0 then '-' else '+') :: padded 2 power.natAbs

/-- A fraction with one digit before the point, so many behind it, and an exponent. -/
def scientificDigits (places : Nat) (point capital : Bool) (num den : Nat) : List Char :=
  let (n, power) := scientificParts places num den
  let ds := padded (places + 1) n
  ds.take 1 ++ (if places = 0 then (if point then ['.'] else []) else '.' :: ds.drop 1) ++
    exponentText (if capital then 'E' else 'e') power

/-- Digits without the zeros at their end, and without a point behind which nothing stands. -/
def withoutZeros (cs : List Char) : List Char :=
  if cs.contains '.' then
    let kept := (cs.reverse.dropWhile (· == '0')).reverse
    if kept.getLast? == some '.' then kept.dropLast else kept
  else cs

/-- A fraction with so many digits in all, in the shorter of both forms. -/
def generalDigits (count : Nat) (point capital : Bool) (num den : Nat) : List Char :=
  let count := max count 1
  let (_, power) := scientificParts (count - 1) num den
  if -4 ≤ power ∧ power < count then
    let ds := fixedDigits ((count : Int) - 1 - power).toNat point num den
    if point then ds else withoutZeros ds
  else
    let ds := scientificDigits (count - 1) point capital num den
    if point then ds
    else
      let (front, back) := ds.span fun c => c != 'e' && c != 'E'
      withoutZeros front ++ back

/-- A form of real numbers in writing. -/
inductive Form where
  | fixed
  | scientific
  | general
  | hexadecimal
  deriving DecidableEq

/-- A fraction in hexadecimal digits with a binary exponent. -/
def hexDigits (places : Option Nat) (capital : Bool) (num den : Nat) : List Char :=
  let lead := if capital then "0X".toList else "0x".toList
  let mark := if capital then 'P' else 'p'
  if num = 0 then lead ++ '0' :: mark :: "+0".toList
  else
    -- The first digit has four bits.
    let guess : Int := num.log2 - den.log2
    let power :=
      if num * Nat.pow 2 (-guess).toNat < den * Nat.pow 2 guess.toNat then guess - 1 else guess
    let shown := places.getD 15
    let (top, bottom) := scaled 2 num den (3 - power + 4 * shown)
    let n := roundedQuotient top bottom
    let ds := inBase capital 16 n
    let behind := padLeft shown '0' (ds.drop (ds.length - shown))
    let behind :=
      if places.isNone then (behind.reverse.dropWhile (· == '0')).reverse else behind
    let e := power - 3
    lead ++ ds.take (ds.length - shown) ++ (if behind.isEmpty then [] else '.' :: behind) ++
      mark :: (if e < 0 then '-' else '+') :: decimal e.natAbs

/-- The magnitude of a number in writing. A format without a precision has six places. -/
def magnitude (form : Form) (precision : Option Nat) (point capital : Bool) : Real → List Char
  | .infinite _ => (if capital then "INF" else "inf").toList
  | .nan => (if capital then "NAN" else "nan").toList
  | .finite _ num den =>
    match form with
    | .fixed => fixedDigits (precision.getD 6) point num den
    | .scientific => scientificDigits (precision.getD 6) point capital num den
    | .general => generalDigits (precision.getD 6) point capital num den
    | .hexadecimal => hexDigits precision capital num den

/-- A number in double precision. -/
def ofFloat (x : Float) : Real :=
  let bits := x.toBits.toNat
  let negative := bits / Nat.pow 2 63 = 1
  let exponent := bits / Nat.pow 2 52 % 2048
  let fraction := bits % Nat.pow 2 52
  if exponent = 2047 then (if fraction = 0 then .infinite negative else .nan)
  else
    let (m, e) : Nat × Int :=
      if exponent = 0 then (fraction, -1074) else (fraction + Nat.pow 2 52, exponent - 1075)
    let (top, bottom) := scaled 2 m 1 e
    .finite negative top bottom

/-- The number in double precision that is nearest. -/
def toFloat : Real → Float
  | .infinite negative => if negative then -1.0 / 0.0 else 1.0 / 0.0
  | .nan => 0.0 / 0.0
  | .finite negative num den =>
    let (top, bottom) := Double.nearest num den
    -- The bottom is a power of two, and the top has no more than 53 bits that count.
    let shift := top.log2 - 60
    let x := (Float.ofNat (top / Nat.pow 2 shift)).scaleB (shift - bottom.log2 : Int)
    if negative then -x else x

end Real

end Runbook.Shell
