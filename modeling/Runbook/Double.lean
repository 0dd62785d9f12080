/-!
# `Double` — magnitudes in double precision

Numbers that are no integers are meant in double precision, and so are the steps of a calculation
with them. A magnitude is a fraction, a numerator over a denominator; `nearest` rounds one to the
numbers that double precision has, and each operation rounds its exact result.
-/

set_option autoImplicit false

namespace Runbook.Double

/-- The number nearest to a fraction among those with so many binary digits, none of which stands
below the place `least`, as a fraction; ties go to the even neighbour. -/
def rounded (bits : Nat) (least : Int) (num den : Nat) : Nat × Nat :=
  if num = 0 then (0, 1)
  else
    -- `power` is the exponent of the leading bit, and `last` that of the last bit kept.
    let guess : Int := num.log2 - den.log2
    let power :=
      if num * Nat.pow 2 (-guess).toNat < den * Nat.pow 2 guess.toNat then guess - 1 else guess
    let last := max (power - (bits - 1 : Nat)) least
    let top := num * Nat.pow 2 (-last).toNat
    let bottom := den * Nat.pow 2 last.toNat
    let rest := top % bottom
    let up := bottom < 2 * rest || (2 * rest == bottom && top / bottom % 2 == 1)
    let kept := top / bottom + if up then 1 else 0
    (kept * Nat.pow 2 last.toNat, Nat.pow 2 (-last).toNat)

/-- The double-precision number nearest to a fraction, as a fraction. Nothing is said of magnitudes
beyond the range. -/
def nearest (num den : Nat) : Nat × Nat := rounded 53 (-1074) num den

/-- A sum. -/
def add (x y : Nat × Nat) : Nat × Nat := nearest (x.1 * y.2 + y.1 * x.2) (x.2 * y.2)

/-- A product. -/
def mul (x y : Nat × Nat) : Nat × Nat := nearest (x.1 * y.1) (x.2 * y.2)

/-- A quotient. -/
def div (x y : Nat × Nat) : Nat × Nat := nearest (x.1 * y.2) (x.2 * y.1)

/-- The whole number nearest to a magnitude; a half is rounded up. -/
def round (x : Nat × Nat) : Nat := (2 * x.1 + x.2) / (2 * x.2)

/-- A signed magnitude as the whole number below it and the distance to it. -/
def split (negative : Bool) (x : Nat × Nat) : Int × (Nat × Nat) :=
  let whole := x.1 / x.2
  let rest := x.1 % x.2
  if negative then
    if rest = 0 then (-(whole : Int), (0, 1)) else (-(whole : Int) - 1, nearest (x.2 - rest) x.2)
  else (whole, nearest rest x.2)

end Runbook.Double
