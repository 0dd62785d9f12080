import Runbook.Shell.Regex.Read

/-!
# `Shell/Pattern` — patterns of names

A pattern is matched against a whole text: a star stands for any text, a question mark for any
character, and a set in square brackets for one of its members. With extended patterns a list of
alternatives in parentheses may follow a sign that says how often they may occur. Characters that
were quoted stand for themselves, so a pattern comes as characters with marks.

Patterns are read as regular expressions, which do the matching.
-/

set_option autoImplicit false

namespace Runbook.Shell

/-- Characters, with a mark at those that were quoted. -/
abbrev Marked := List (Char × Bool)

namespace Marked

/-- A text without marks. -/
def bare (cs : List Char) : Marked := cs.map fun c => (c, false)

/-- A text with marks. -/
def quoted (cs : List Char) : Marked := cs.map fun c => (c, true)

/-- The characters alone. -/
def text (m : Marked) : List Char := m.map (·.1)

/-- The characters as a string. -/
def string (m : Marked) : String := String.ofList m.text

end Marked

namespace Pattern

/-- How patterns are read. -/
structure Style where
  /-- Alternatives in parentheses are known. -/
  extended : Bool := false
  anyCase : Bool := false

/-- The characters up to an unquoted sign `mark ]`, and what is behind. -/
def upToClass? (mark : Char) : Marked → Option (List Char × Marked)
  | [] => none
  | (c, _) :: rest =>
    match rest with
    | (d, _) :: more =>
      if c = mark ∧ d = ']' then some ([], more)
      else (upToClass? mark rest).map fun (inside, final) => (c :: inside, final)
    | [] => none

/-- The members of a set up to its end, as a property. A set without an end is none. -/
def takeMembers? (style : Style) (p : Char → Bool) : (fuel : Nat) → (first : Bool) → Marked →
    Option ((Char → Bool) × Marked)
  | 0, _, _ => none
  | _ + 1, _, [] => none
  | fuel + 1, first, (c, q) :: rest =>
    let rs : Regex.Style := { anyCase := style.anyCase }
    if c = ']' ∧ !q ∧ !first then some (p, rest)
    else
      let cls : Option ((Char → Bool) × Marked) :=
        match c, q, rest with
        | '[', false, (':', false) :: more =>
          (upToClass? ':' more).map fun (name, final) =>
            (((classNamed? (String.ofList name)).getD fun _ => false), final)
        | '[', false, ('=', false) :: more =>
          match upToClass? '=' more with
          | some ([d], final) => some ((· == d), final)
          | _ => none
        | _, _, _ => none
      match cls with
      | some (r, final) => takeMembers? style (fun d => p d || r d) fuel false final
      | none =>
        let (low, rest) : Char × Marked :=
          match c, q, rest with
          | '\\', false, (d, _) :: more => (d, more)
          | _, _, _ => (c, rest)
        match rest with
        | ('-', false) :: (']', false) :: _ | ('-', true) :: _ =>
          takeMembers? style (fun d => p d || Regex.inRange rs low low d) fuel false rest
        | ('-', false) :: ('\\', false) :: (high, _) :: more
        | ('-', false) :: (high, _) :: more =>
          takeMembers? style (fun d => p d || Regex.inRange rs low high d) fuel false more
        | _ => takeMembers? style (fun d => p d || Regex.inRange rs low low d) fuel false rest

/-- A set behind its opening bracket, as a property, and what is behind it. -/
def takeSet? (style : Style) (m : Marked) : Option ((Char → Bool) × Marked) :=
  match m with
  | ('!', false) :: rest | ('^', false) :: rest =>
    (takeMembers? style (fun _ => false) (rest.length + 1) true rest).map fun (p, final) =>
      (fun c => !p c, final)
  | _ => takeMembers? style (fun _ => false) (m.length + 1) true m

/-- The alternatives between parentheses, behind the opening one, and what is behind the closing
one. `depth` counts parentheses that are open inside. -/
def takeAlternatives? : (depth : Nat) → (here : Marked) → Marked → Option (List Marked × Marked)
  | _, _, [] => none
  | depth, here, (c, q) :: rest =>
    if !q && c == ')' then
      match depth with
      | 0 => some ([here.reverse], rest)
      | depth + 1 => takeAlternatives? depth ((c, q) :: here) rest
    else if !q && c == '|' && depth == 0 then
      (takeAlternatives? 0 [] rest).map fun (more, final) => (here.reverse :: more, final)
    else takeAlternatives? (if !q && c == '(' then depth + 1 else depth) ((c, q) :: here) rest

/-- Alternatives behind a sign. -/
def alternation (sign : Char) (alternatives : List Regex) : Regex :=
  let r : Regex :=
    match alternatives with
    | [] => .empty
    | r :: rs => rs.foldl .alt r
  match sign with
  | '?' => .upTo 1 r
  | '*' => .star r
  | '+' => .cat r (.star r)
  | '!' => .other r
  | _ => r

/-- The expression for a pattern; `fuel` bounds its length and depth. -/
def toRegex (style : Style) : (fuel : Nat) → Marked → Regex
  | 0, _ => .empty
  | _ + 1, [] => .empty
  | fuel + 1, (c, true) :: rest => .cat (Regex.char style.anyCase c) (toRegex style fuel rest)
  | fuel + 1, (c, false) :: rest =>
    let plain (c : Char) (rest : Marked) : Regex :=
      .cat (Regex.char style.anyCase c) (toRegex style fuel rest)
    let extended : Option Regex :=
      if style.extended && "?*+@!".toList.contains c then
        match rest with
        | ('(', false) :: more =>
          (takeAlternatives? 0 [] more).map fun (alternatives, final) =>
            .cat (alternation c (alternatives.map (toRegex style fuel)))
              (toRegex style fuel final)
        | _ => none
      else none
    match extended with
    | some r => r
    | none =>
      match c with
      | '*' => .cat (.star (.one fun _ => true)) (toRegex style fuel rest)
      | '?' => .cat (.one fun _ => true) (toRegex style fuel rest)
      | '[' =>
        match takeSet? style rest with
        | some (p, final) => .cat (.one p) (toRegex style fuel final)
        | none => plain '[' rest
      | '\\' =>
        match rest with
        | (d, _) :: more => plain d more
        | [] => plain '\\' []
      | _ => plain c rest

/-- The expression for a pattern. -/
def regex (style : Style) (m : Marked) : Regex := toRegex style (m.length + 1) m

/-- A pattern matches a whole text. -/
def isMatch (style : Style) (m : Marked) (cs : List Char) : Bool :=
  ((regex style m).ends (.ofList cs) (0, [])).any (·.1 == cs.length)

/-- Something in a text makes it a pattern. -/
def isPattern (style : Style) : Marked → Bool
  | [] => false
  | (c, q) :: rest =>
    (!q && (c == '*' || c == '?' || (c == '[' && (takeSet? style rest).isSome) ||
      (style.extended && (c == '+' || c == '@' || c == '!') &&
        rest.head? == some ('(', false)))) || isPattern style rest

/-- The lengths of the beginnings of a text that a pattern matches. -/
def prefixLengths (style : Style) (m : Marked) (cs : List Char) : List Nat :=
  ((regex style m).ends (.ofList cs) (0, [])).map (·.1)

/-- A text without the shortest or the longest beginning that a pattern matches. -/
def dropFront (style : Style) (longest : Bool) (m : Marked) (cs : List Char) : List Char :=
  match prefixLengths style m cs with
  | [] => cs
  | n :: ns => cs.drop (ns.foldl (if longest then max else min) n)

/-- A text without the shortest or the longest end that a pattern matches. -/
def dropBack (style : Style) (longest : Bool) (m : Marked) (cs : List Char) : List Char :=
  let r := regex style m
  let s := Subject.ofList cs
  let places := List.range (cs.length + 1)
  let places := if longest then places else places.reverse
  match places.find? fun k => (r.ends s (k, [])).any (·.1 == cs.length) with
  | some k => cs.take k
  | none => cs

/-- A text in which matches of an expression are replaced from a place on, all of them or the first
one. `put` gives the replacement for what is matched. -/
def replaceFrom (r : Regex) (s : Subject) (all : Bool) (put : List Char → List Char) :
    (fuel : Nat) → (place : Nat) → List Char
  | 0, place => s.between place s.text.size
  | fuel + 1, place =>
    match r.search? s place with
    | none => s.between place s.text.size
    | some (first, last, _) =>
      if last = first then
        -- Nothing is matched here, so a character is passed over.
        s.between place (first + 1) ++
          (if first < s.text.size then replaceFrom r s all put fuel (first + 1) else [])
      else
        s.between place first ++ put (s.between first last) ++
          (if all then replaceFrom r s all put fuel last else s.between last s.text.size)

end Pattern

end Runbook.Shell
