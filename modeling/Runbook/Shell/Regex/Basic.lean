import Runbook.Shell.Text.Class

/-!
# `Shell/Regex` — regular expressions and what they match

An expression matches from a place of a text up to other places (`Regex.ends`). All of them are
found, and with each the parts of the text that the groups of the expression stand for. A match is
the longest one at the first place where there is one at all.

Of several ways to the same end one is preferred: the first alternative goes before the second, and
once more before no more. At most one way is kept for each place, so the work is bounded by the size
of the expression and of the text.
-/

set_option autoImplicit false

namespace Runbook.Shell

/-- A place that is matched by looking at what stands around it. -/
inductive Edge where
  | lineStart
  | lineEnd
  | textStart
  | textEnd
  | wordStart
  | wordEnd
  | wordEdge
  | notWordEdge
  deriving DecidableEq

/-- A regular expression. -/
inductive Regex where
  | empty
  /-- One character with a property. -/
  | one (p : Char → Bool)
  | cat (a b : Regex)
  | alt (a b : Regex)
  /-- Any number of times. -/
  | star (r : Regex)
  /-- At most so many times. -/
  | upTo (most : Nat) (r : Regex)
  | group (n : Nat) (r : Regex)
  /-- Any text but those that are matched. -/
  | other (r : Regex)
  /-- The text that a group stands for, perhaps in another case. -/
  | back (n : Nat) (anyCase : Bool)
  | edge (e : Edge)
  /-- Any number of times up to a bound, rather few than many. -/
  | few (most : Option Nat) (r : Regex)
  /-- The preferred way of those that there are, and no other. -/
  | firstOf (r : Regex)
  /-- What stands before a place, or behind it, is matched, or is not. -/
  | look (before wanted : Bool) (r : Regex)
  /-- The match is said to begin here. -/
  | keep

instance : Inhabited Regex := ⟨.empty⟩

/-- The text in which an expression is looked for. -/
structure Subject where
  text : Array Char
  /-- Line ends are edges too, not only the ends of the text. -/
  multiline : Bool := false
  /-- The text does not begin where its line begins. -/
  midLine : Bool := false

namespace Subject

/-- A subject that is a whole text. -/
def ofList (cs : List Char) : Subject := { text := cs.toArray }

/-- The character before a place. -/
def before? (s : Subject) (place : Nat) : Option Char :=
  if place = 0 then none else s.text[place - 1]?

/-- A character that words consist of. -/
def isWordChar (c : Char) : Bool := isLetter c || c.isDigit || c == '_'

/-- A place is an edge. -/
def isEdge (s : Subject) (place : Nat) : Edge → Bool
  | .lineStart =>
    (place == 0 && !s.midLine) || (s.multiline && s.before? place == some '\n')
  | .lineEnd => place == s.text.size || (s.multiline && s.text[place]? == some '\n')
  | .textStart => place == 0 && !s.midLine
  | .textEnd => place == s.text.size
  | .wordStart => !(s.before? place).any isWordChar && (s.text[place]?).any isWordChar
  | .wordEnd => (s.before? place).any isWordChar && !(s.text[place]?).any isWordChar
  | .wordEdge => (s.before? place).any isWordChar != (s.text[place]?).any isWordChar
  | .notWordEdge => (s.before? place).any isWordChar == (s.text[place]?).any isWordChar

/-- The text between two places. -/
def between (s : Subject) (first last : Nat) : List Char := (s.text.extract first last).toList

end Subject

/-- The parts that groups stand for, by their number, the latest first. -/
abbrev Groups := List (Nat × Nat × Nat)

/-- A place that a match may end at, and the groups on the way to it. -/
abbrev End := Nat × Groups

namespace Regex

/-- The first end of a list at each place. -/
def firsts (xs : List End) : List End :=
  match xs with
  | [] | [_] => xs
  | _ =>
    let size := xs.foldl (fun n x => max n (x.1 + 1)) 0
    (xs.foldl (fun (kept, seen) x =>
        if seen.getD x.1 true then (kept, seen) else (x :: kept, seen.setIfInBounds x.1 true))
      (([] : List End), Array.replicate size false)).1.reverse

/-- The ends that a further step reaches from some ends. -/
def andThen (step : End → List End) (xs : List End) : List End :=
  match xs with
  | [x] => step x
  | _ => firsts (xs.flatMap step)

/-- The ends of any number of steps. Places that were reached before are not gone on from. -/
def closure (step : End → List End) : (fuel : Nat) → (seen : List Nat) → End → List End × List Nat
  | 0, seen, x => ([x], seen)
  | fuel + 1, seen, x =>
    let (far, seen) := (step x).foldl (fun (far, seen) y =>
        if seen.contains y.1 then (far, seen)
        else
          let (more, seen) := closure step fuel (y.1 :: seen) y
          (far ++ more, seen)) ([], seen)
    (far ++ [x], seen)

/-- The ends of at most so many steps. -/
def repeated (step : End → List End) : (most : Nat) → End → List End
  | 0, x => [x]
  | most + 1, x =>
    let further := (step x).filter (·.1 != x.1)
    firsts (further.flatMap (repeated step most) ++ [x])

/-- The ends of any number of steps, those of few steps first. Places that were reached before are
not gone on from. -/
def closureOfFew (step : End → List End) : (fuel : Nat) → (seen : List Nat) → End →
    List End × List Nat
  | 0, seen, x => ([x], seen)
  | fuel + 1, seen, x =>
    (step x).foldl (fun (far, seen) y =>
        if seen.contains y.1 then (far, seen)
        else
          let (more, seen) := closureOfFew step fuel (y.1 :: seen) y
          (far ++ more, seen)) ([x], seen)

/-- The ends of at most so many steps, those of few steps first. -/
def repeatedFew (step : End → List End) : (most : Nat) → End → List End
  | 0, x => [x]
  | most + 1, x =>
    let further := (step x).filter (·.1 != x.1)
    firsts (x :: further.flatMap (repeatedFew step most))

/-- The number of characters with a property from a place on. -/
def runLength (s : Subject) (p : Char → Bool) : (fuel : Nat) → (place : Nat) → Nat
  | 0, _ => 0
  | fuel + 1, place =>
    match s.text[place]? with
    | some c => if p c then runLength s p fuel (place + 1) + 1 else 0
    | none => 0

/-- The text of a group occurs at a place. -/
def occursAt (s : Subject) (anyCase : Bool) (part : List Char) (place : Nat) : Bool :=
  let here := s.between place (place + part.length)
  here == part || (anyCase && here.map lowerOf == part.map lowerOf)

/-- Where a match from a place may end, the preferred way first. -/
def ends (s : Subject) : Regex → End → List End
  | .empty, x => [x]
  | .one p, (place, gs) =>
    match s.text[place]? with
    | some c => if p c then [(place + 1, gs)] else []
    | none => []
  | .cat a b, x =>
    match ends s a x with
    | [] => []
    | xs => andThen (ends s b) xs
  | .alt a b, x => firsts (ends s a x ++ ends s b x)
  | .star (.one p), (place, gs) =>
    let n := runLength s p (s.text.size - place) place
    (List.range (n + 1)).reverse.map fun k => (place + k, gs)
  | .star r, x => (closure (ends s r) (s.text.size - x.1 + 1) [x.1] x).1
  | .upTo most r, x => repeated (ends s r) most x
  | .group n r, x => (ends s r x).map fun (last, gs) => (last, (n, x.1, last) :: gs)
  | .other r, (place, gs) =>
    let matched := (ends s r (place, gs)).map (·.1)
    ((List.range (s.text.size + 1 - place)).reverse.map (place + ·)).filterMap fun last =>
      if matched.contains last then none else some (last, gs)
  | .back n anyCase, (place, gs) =>
    match gs.find? (·.1 == n) with
    | some (_, first, last) =>
      let part := s.between first last
      if occursAt s anyCase part place then [(place + part.length, gs)] else []
    | none => []
  | .edge e, x => if s.isEdge x.1 e then [x] else []
  | .few none (.one p), (place, gs) =>
    (List.range (runLength s p (s.text.size - place) place + 1)).map fun k => (place + k, gs)
  | .few none r, x => (closureOfFew (ends s r) (s.text.size - x.1 + 1) [x.1] x).1
  | .few (some most) r, x => repeatedFew (ends s r) most x
  | .firstOf r, x => (ends s r x).take 1
  | .look true wanted r, (place, gs) =>
    let found := (List.range (place + 1)).any fun k =>
      (ends s r (place - k, gs)).any (·.1 == place)
    if found == wanted then [(place, gs)] else []
  | .look false true r, (place, gs) =>
    match ends s r (place, gs) with
    | (_, found) :: _ => [(place, found)]
    | [] => []
  | .look false false r, x => if (ends s r x).isEmpty then [x] else []
  | .keep, (place, gs) => [(place, (0, place, place) :: gs)]

/-- The longest match from a place. -/
def matchAt? (r : Regex) (s : Subject) (place : Nat) : Option End :=
  (ends s r (place, [])).foldl (fun best x =>
    match best with
    | some y => if y.1 < x.1 then some x else best
    | none => some x) none

/-- The first match from a place on, looked for at so many places: where it begins and ends, and its
groups. -/
def searchFrom (r : Regex) (s : Subject) : (fuel : Nat) → (place : Nat) → Option (Nat × End)
  | 0, _ => none
  | fuel + 1, place =>
    match r.matchAt? s place with
    | some found => some (place, found)
    | none => searchFrom r s fuel (place + 1)

/-- The first match from a place on. -/
def search? (r : Regex) (s : Subject) (place : Nat) : Option (Nat × End) :=
  searchFrom r s (s.text.size + 1 - place) place

/-- There is a match. -/
def occursIn (r : Regex) (s : Subject) : Bool := (r.search? s 0).isSome

/-- An expression so many times over. -/
def times (r : Regex) : (count : Nat) → Regex
  | 0 => .empty
  | 1 => r
  | count + 2 => .cat r (times r (count + 1))

/-- An expression from `least` to `most` times. -/
def between (r : Regex) (least : Nat) : (most : Option Nat) → Regex
  | none => if least = 0 then .star r else .cat (r.times least) (.star r)
  | some most =>
    if most ≤ least then r.times least
    else if least = 0 then .upTo most r
    else .cat (r.times least) (.upTo (most - least) r)

/-- A character as an expression. -/
def char (anyCase : Bool) (c : Char) : Regex :=
  if anyCase && (lowerOf c != c || upperOf c != c) then
    .one fun d => d == c || d == lowerOf c || d == upperOf c
  else .one (· == c)

/-- A text as an expression. -/
def literal (anyCase : Bool) : List Char → Regex
  | [] => .empty
  | [c] => char anyCase c
  | c :: rest => .cat (char anyCase c) (literal anyCase rest)

/-- The part of a subject that a group stands for. -/
def groupText (s : Subject) (gs : Groups) (n : Nat) : Option (List Char) :=
  (gs.find? (·.1 == n)).map fun (_, first, last) => s.between first last

end Regex

end Runbook.Shell
