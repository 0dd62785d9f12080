import Runbook.Shell.Script.Basic
import Runbook.Shell.Text.Numeral

/-!
# `Shell/Expand/Brace` — alternatives in braces

A word with a list in braces stands for several words, one for each entry; two numbers or letters
with two dots between them stand for the run from one to the other. What is quoted or replaced is
left alone, so words are looked at character by character only where they are bare.
-/

set_option autoImplicit false

namespace Runbook.Shell.Brace

/-- A word with every bare character as a piece of its own. -/
def spread (w : Word) : Word :=
  w.flatMap fun
    | .bare cs => cs.map fun c => .bare [c]
    | p => [p]

/-- The bare character that a piece is. -/
def charOf? : Piece → Option Char
  | .bare [c] => some c
  | _ => none

/-- A piece is a bare character. -/
def isChar (c : Char) (p : Piece) : Bool := charOf? p == some c

/-- The entries of a list behind its opening brace, and what is behind the closing one. -/
def entries? : (depth : Nat) → (here : Word) → (done : List Word) → Word →
    Option (List Word × Word)
  | _, _, _, [] => none
  | depth, here, done, p :: rest =>
    match charOf? p with
    | some '\x7b' => entries? (depth + 1) (p :: here) done rest
    | some '\x7d' =>
      match depth with
      | 0 => some ((here.reverse :: done).reverse, rest)
      | depth + 1 => entries? depth (p :: here) done rest
    | some ',' =>
      if depth = 0 then entries? 0 [] (here.reverse :: done) rest
      else entries? depth (p :: here) done rest
    | _ => entries? depth (p :: here) done rest

/-- The parts of a text between double dots. -/
def dotted : (here : List Char) → List Char → List (List Char)
  | here, [] => [here.reverse]
  | here, '.' :: '.' :: rest => here.reverse :: dotted [] rest
  | here, c :: rest => dotted (c :: here) rest

/-- The integer that a text is, with a sign or without. -/
def integer? (cs : List Char) : Option Int :=
  match takeDecimal? cs with
  | some (n, []) => if cs.head?.any isNumberSpace then none else some n
  | _ => none

/-- The numbers from one to another in steps; `fuel` bounds their count. -/
def steps (step : Int) : (fuel : Nat) → (here last : Int) → List Int
  | 0, _, _ => []
  | fuel + 1, here, last =>
    if (0 < step ∧ last < here) ∨ (step < 0 ∧ here < last) then []
    else here :: steps step fuel (here + step) last

/-- The run from one number to another. -/
def run (first last step : Int) : List Int :=
  let size := if step = 0 then 1 else step.natAbs
  let signed : Int := if first ≤ last then size else -size
  steps signed ((last - first).natAbs / size + 1) first last

/-- A number that makes all numbers of a run as wide as itself. -/
def isPadded (cs : List Char) : Bool :=
  match cs with
  | '-' :: '0' :: _ => true
  | '0' :: _ :: _ => true
  | _ => false

/-- A number with zeros in front of it up to a width. -/
def padded (width : Nat) (n : Int) : List Char :=
  let digits := (natText n.natAbs).toList
  if n < 0 then '-' :: padLeft (width - 1) '0' digits else padLeft width '0' digits

/-- The texts that a run in braces stands for. -/
def runOf? (cs : List Char) : Option (List (List Char)) :=
  let build (a b : List Char) (step : Int) : Option (List (List Char)) :=
    match integer? a, integer? b with
    | some m, some n =>
      let width := if isPadded a || isPadded b then max a.length b.length else 0
      some ((run m n step).map (padded width))
    | none, none =>
      match a, b with
      | [c], [d] =>
        if c.isAlpha ∧ d.isAlpha then
          some ((run c.toNat d.toNat step).map fun n => [Char.ofNat n.toNat])
        else none
      | _, _ => none
    | _, _ => none
  match dotted [] cs with
  | [a, b] => build a b 1
  | [a, b, s] =>
    match integer? s with
    | some step => build a b step
    | none => none
  | _ => none

/-- The words that a word with braces stands for; `fuel` bounds its length. -/
def expandFrom : (fuel : Nat) → Word → List Word
  | 0, w => [w]
  | fuel + 1, w =>
    let (before, rest) := w.span fun p => !isChar '\x7b' p
    match rest with
    | [] => [w]
    | brace :: inside =>
      let literal : List Word := (expandFrom fuel inside).map fun v => before ++ brace :: v
      match entries? 0 [] [] inside with
      | none => literal
      | some (parts, behind) =>
        let choices : Option (List Word) :=
          match parts with
          | [one] =>
            match one.mapM charOf? with
            | some cs => (runOf? cs).map fun texts => texts.map fun t => [.bare t]
            | none => none
          | _ => some (parts.flatMap (expandFrom fuel))
        match choices with
        | none => literal
        | some choices =>
          let ends := expandFrom fuel behind
          choices.flatMap fun c => ends.map fun v => before ++ c ++ v

/-- Runs of bare characters put together again. -/
def gathered (w : Word) : Word :=
  w.foldr (fun p rest =>
    match p, rest with
    | .bare a, .bare b :: more => .bare (a ++ b) :: more
    | _, _ => p :: rest) []

/-- The words that a word with braces stands for. -/
def expand (w : Word) : List Word :=
  let hasBrace := w.any fun
    | .bare cs => cs.contains '\x7b'
    | _ => false
  if hasBrace then
    let parts := spread w
    (expandFrom (parts.length + 1) parts).map gathered
  else [w]

end Runbook.Shell.Brace
