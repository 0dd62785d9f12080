import Runbook.Shell.Regex.Basic
import Runbook.Shell.Text.Numeral

/-!
# `Shell/Regex/Read` — regular expressions in writing

There are two ways to write an expression. In the basic one groups, intervals and alternatives are
marked with backslashes, and an operator with nothing before it stands for itself; in the extended
one it is the other way round. Programs differ in what they make of expressions that are not quite
right (`Style`).
-/

set_option autoImplicit false

namespace Runbook.Shell.Regex

/-- How expressions are written. -/
structure Style where
  extended : Bool := false
  anyCase : Bool := false
  /-- What an operator with nothing before it is: nothing at all (true) or an error (false). In the
  basic way it stands for itself. -/
  lenient : Bool := true
  /-- A bracket that closes no group stands for itself. -/
  looseClose : Bool := true
  /-- Braces that hold no interval stand for themselves. -/
  looseBrace : Bool := true
  /-- Backslashes have a meaning between square brackets too. -/
  escapedSets : Bool := false
  /-- The escapes for words and blanks are known. -/
  wordEscapes : Bool := true
  deriving DecidableEq

/-- What is wrong with an expression. -/
inductive Fault where
  | openSet
  /-- A set of which there is no more than the beginning. -/
  | bareSet
  | openGroup
  | closedGroup
  | openInterval
  | badInterval
  | badClass
  | classOutside
  | badRange
  | badReference
  | trailingBackslash
  | nothingBefore
  | tooBig
  deriving DecidableEq, Repr

/-- The words for a fault. -/
def Fault.message : Fault → String
  | .bareSet => "Invalid regular expression"
  | .openSet => "Unmatched [, [^, [:, [., or [="
  | .openGroup => "Unmatched ( or \\("
  | .closedGroup => "Unmatched ) or \\)"
  | .openInterval => "Unmatched \\\x7b"
  | .badInterval => "Invalid content of \\\x7b\\\x7d"
  | .badClass => "Invalid character class name"
  | .classOutside => "character class syntax is [[:space:]], not [:space:]"
  | .badRange => "Invalid range end"
  | .badReference => "Invalid back reference"
  | .trailingBackslash => "Trailing backslash"
  | .nothingBefore => "Invalid preceding regular expression"
  | .tooBig => "Regular expression too big"

/-! ## Sets -/

/-- The character that an escape inside a set stands for. -/
def setEscape (c : Char) : Char :=
  match c with
  | 'n' => '\n'
  | 't' => '\t'
  | 'r' => '\r'
  | 'f' => Char.ofNat 12
  | 'v' => Char.ofNat 11
  | 'a' => Char.ofNat 7
  | 'b' => Char.ofNat 8
  | _ => c

/-- The text up to two characters, and the rest behind them. -/
def upTo? (a b : Char) : List Char → Option (List Char × List Char)
  | [] => none
  | c :: rest =>
    match rest with
    | d :: more =>
      if c = a ∧ d = b then some ([], more)
      else (upTo? a b rest).map fun (inside, final) => (c :: inside, final)
    | [] => none

/-- A member of a set: a character that may begin a range, or a class. -/
inductive Member where
  | char (c : Char)
  | cls (p : Char → Bool)

/-- One member of a set, and the rest. -/
def takeMember (style : Style) : List Char → Except Fault (Member × List Char)
  | '[' :: ':' :: rest =>
    match upTo? ':' ']' rest with
    | none => .error .openSet
    | some (name, final) =>
      match classNamed? (String.ofList name) with
      | some p =>
        let p := if style.anyCase && (name == "upper".toList || name == "lower".toList) then
          fun c => isCapital c || isSmall c else p
        .ok (.cls p, final)
      | none => .error .badClass
  | '[' :: '=' :: rest =>
    match upTo? '=' ']' rest with
    | some ([c], final) => .ok (.cls (· == c), final)
    | _ => .error .openSet
  | '[' :: '.' :: rest =>
    match upTo? '.' ']' rest with
    | some ([c], final) => .ok (.char c, final)
    | _ => .error .openSet
  | '\\' :: c :: rest =>
    if style.escapedSets then .ok (.char (setEscape c), rest) else .ok (.char '\\', c :: rest)
  | c :: rest => .ok (.char c, rest)
  | [] => .error .openSet

/-- A character is in a range. -/
def inRange (style : Style) (first last c : Char) : Bool :=
  (first ≤ c && c ≤ last) ||
    (style.anyCase &&
      ((first ≤ lowerOf c && lowerOf c ≤ last) || (first ≤ upperOf c && upperOf c ≤ last)))

/-- The members of a set up to its end, as a property, and the rest. -/
def takeMembers (style : Style) (p : Char → Bool) : (fuel : Nat) → (first : Bool) → List Char →
    Except Fault ((Char → Bool) × List Char)
  | 0, _, _ => .error .openSet
  | _ + 1, _, [] => .error .openSet
  | fuel + 1, first, c :: rest =>
    if c = ']' ∧ !first then .ok (p, rest)
    else do
      let (member, rest) ← takeMember style (c :: rest)
      match member, rest with
      | .cls q, _ => takeMembers style (fun d => p d || q d) fuel false rest
      | .char low, '-' :: ']' :: _ =>
        takeMembers style (fun d => p d || inRange style low low d) fuel false rest
      | .char low, '-' :: more =>
        let (top, rest) ← takeMember style more
        match top with
        | .char high =>
          if high < low then .error .badRange
          else takeMembers style (fun d => p d || inRange style low high d) fuel false rest
        | .cls _ => .error .badRange
      | .char low, _ => takeMembers style (fun d => p d || inRange style low low d) fuel false rest

/-- A set behind its opening bracket, as a property, and the rest. -/
def takeSet (style : Style) (cs : List Char) : Except Fault ((Char → Bool) × List Char) := do
  let negated := cs.head? == some '^'
  let cs := if negated then cs.drop 1 else cs
  if cs.isEmpty then throw .bareSet
  let (p, rest) ← takeMembers style (fun _ => false) (cs.length + 1) true cs
  pure (if negated then fun c => !p c else p, rest)

/-- A set that looks like a class but is none: `[:name:]` by itself. -/
def looksLikeClass (cs : List Char) : Bool :=
  match cs with
  | ':' :: rest =>
    let name := rest.takeWhile Char.isAlpha
    rest.drop name.length |>.take 2 |> (· == [':', ']'])
  | _ => false

/-! ## Intervals -/

/-- The bounds of an interval behind its brace, and the rest. -/
def takeInterval (style : Style) (cs : List Char) :
    Except Fault ((Nat × Option Nat) × List Char) := do
  let (ds, rest) := cs.span Char.isDigit
  let least := if ds.isEmpty then none else some (ofDigits 10 ds)
  let (most, rest) : Option (Option Nat) × List Char :=
    match rest with
    | ',' :: more =>
      let (es, final) := more.span Char.isDigit
      (some (if es.isEmpty then none else some (ofDigits 10 es)), final)
    | _ => (none, rest)
  let rest : Option (List Char) :=
    if style.extended then
      match rest with
      | '\x7d' :: final => some final
      | _ => none
    else
      match rest with
      | '\\' :: '\x7d' :: final => some final
      | _ => none
  match rest with
  | none => .error (if cs.isEmpty || rest.isNone && !cs.contains '\x7d' then .openInterval
      else .badInterval)
  | some final =>
    match least, most with
    | none, none => .error .badInterval
    | none, some most => .ok ((0, most), final)
    | some least, none => .ok ((least, some least), final)
    | some least, some most =>
      if most.any (· < least) then .error .badInterval else .ok ((least, most), final)

/-! ## Expressions -/

/-- What has been read so far: the number of groups opened, and those that are closed. -/
structure Progress where
  rest : List Char
  groups : Nat := 0
  closed : List Nat := []

/-- The operators on the expression before them, by the characters that spell them. -/
inductive Operator where
  | star
  | plus
  | maybe
  | interval (least : Nat) (most : Option Nat)

/-- An expression under an operator. -/
def Operator.on (op : Operator) (r : Regex) : Regex :=
  match op with
  | .star => r.between 0 none
  | .plus => r.between 1 none
  | .maybe => r.between 0 (some 1)
  | .interval least most => r.between least most

/-- The operator at the front of a text, if there is one, and the rest. -/
def takeOperator? (style : Style) (cs : List Char) : Except Fault (Option (Operator × List Char)) :=
  let interval (rest : List Char) : Except Fault (Option (Operator × List Char)) :=
    match takeInterval style rest with
    | .ok ((least, most), final) =>
      if 32767 < least ∨ most.any (32767 < ·) then .error .tooBig
      else .ok (some (.interval least most, final))
    | .error fault =>
      if style.extended && style.looseBrace &&
          !(rest.takeWhile fun c => c.isDigit || c == ',').isEmpty &&
          (rest.dropWhile fun c => c.isDigit || c == ',').head? == some '\x7d' then .error fault
      else if style.extended && style.looseBrace then .ok none
      else .error fault
  match cs with
  | '*' :: rest => .ok (some (.star, rest))
  | '+' :: rest => .ok (if style.extended then some (.plus, rest) else none)
  | '?' :: rest => .ok (if style.extended then some (.maybe, rest) else none)
  | '\x7b' :: rest => if style.extended then interval rest else .ok none
  | '\\' :: '+' :: rest => .ok (if style.extended then none else some (.plus, rest))
  | '\\' :: '?' :: rest => .ok (if style.extended then none else some (.maybe, rest))
  | '\\' :: '\x7b' :: rest => if style.extended then .ok none else interval rest
  | _ => .ok none

/-- An expression and all operators behind it. -/
def withOperators (style : Style) (r : Regex) : (fuel : Nat) → List Char →
    Except Fault (Regex × List Char)
  | 0, cs => .ok (r, cs)
  | fuel + 1, cs => do
    match ← takeOperator? style cs with
    | some (op, rest) => withOperators style (op.on r) fuel rest
    | none => .ok (r, cs)

/-- What a text begins with, where expressions may end or go on. -/
inductive Joint where
  | bar (rest : List Char)
  | close (rest : List Char)
  | none

/-- The joint at the front of a text. -/
def jointOf (style : Style) : List Char → Joint
  | '|' :: rest => if style.extended then .bar rest else .none
  | ')' :: rest => if style.extended then .close rest else .none
  | '\\' :: '|' :: rest => if style.extended then .none else .bar rest
  | '\\' :: ')' :: rest => if style.extended then .none else .close rest
  | '\n' :: _ => .none
  | _ => .none

/-- The opening of a group at the front of a text. -/
def afterOpen? (style : Style) : List Char → Option (List Char)
  | '(' :: rest => if style.extended then some rest else none
  | '\\' :: '(' :: rest => if style.extended then none else some rest
  | _ => none

/-- A dollar sign stands at the end of an expression, so that it is no plain character. -/
def endsHere (style : Style) (depth : Nat) (rest : List Char) : Bool :=
  style.extended || rest.isEmpty ||
    match jointOf style rest with
    | .bar _ => true
    | .close _ => depth != 0
    | .none => rest.head? == some '\n'

/-- An escape that stands for an edge, a class or a reference. -/
def escaped (style : Style) (p : Progress) (c : Char) : Except Fault Regex :=
  let wordLike (r : Regex) : Except Fault Regex :=
    .ok (if style.wordEscapes then r else char style.anyCase c)
  match c with
  | 'w' => wordLike (.one Subject.isWordChar)
  | 'W' => wordLike (.one fun d => !Subject.isWordChar d)
  | 's' => wordLike (.one ((classNamed? "space").getD fun _ => false))
  | 'S' => wordLike (.one fun d => !((classNamed? "space").getD fun _ => false) d)
  | 'b' => wordLike (.edge .wordEdge)
  | 'B' => wordLike (.edge .notWordEdge)
  | '<' => wordLike (.edge .wordStart)
  | '>' => wordLike (.edge .wordEnd)
  | '\x60' => wordLike (.edge .textStart)
  | '\'' => wordLike (.edge .textEnd)
  | _ =>
    if '1' ≤ c ∧ c ≤ '9' then
      let n := c.toNat - 48
      if p.closed.contains n then .ok (.back n style.anyCase) else .error .badReference
    else .ok (char style.anyCase c)

/-- The readers of one level of groups call themselves for the next one. -/
abbrev Level := Progress → Except Fault (Regex × Progress)

/-- One expression without operators; `first` if nothing stands before it. -/
def atom (style : Style) (inner : Level) (depth : Nat) (first : Bool) (p : Progress) :
    Except Fault (Regex × Progress) :=
  match afterOpen? style p.rest with
  | some rest => do
    let n := p.groups + 1
    let (r, after) ← inner { p with rest, groups := n }
    match jointOf style after.rest with
    | .close final => pure (.group n r, { after with rest := final, closed := n :: after.closed })
    | _ => .error .openGroup
  | none =>
    match p.rest with
    | '^' :: rest =>
      if style.extended || first then .ok (.edge .lineStart, { p with rest })
      else .ok (char style.anyCase '^', { p with rest })
    | '$' :: rest =>
      if endsHere style depth rest then .ok (.edge .lineEnd, { p with rest })
      else .ok (char style.anyCase '$', { p with rest })
    | '.' :: rest => .ok (.one fun _ => true, { p with rest })
    | '[' :: rest => do
      let (q, final) ← takeSet style rest
      if looksLikeClass rest then .error .classOutside
      else .ok (.one q, { p with rest := final })
    | ['\\'] => .error .trailingBackslash
    | '\\' :: c :: rest => do
      let r ← escaped style p c
      .ok (r, { p with rest })
    | c :: rest => .ok (char style.anyCase c, { p with rest })
    | [] => .ok (.empty, p)

/-- An operator with nothing before it, where it does not stand for itself. -/
def strayOperator (style : Style) (p : Progress) : Except Fault (Option Progress) := do
  if style.extended then
    match ← takeOperator? style p.rest with
    | some (_, rest) =>
      if style.lenient then pure (some { p with rest }) else .error .nothingBefore
    | none => pure none
  else pure none

/-- Expressions one after another, up to a joint or the end. `first` if nothing stands before. -/
def sequence (style : Style) (inner : Level) (depth : Nat) : (fuel : Nat) → (first : Bool) →
    (r : Regex) → Level
  | 0, _, r, p => .ok (r, p)
  | fuel + 1, first, r, p => do
    if p.rest.isEmpty then pure (r, p)
    else
      match jointOf style p.rest with
      | .bar _ => pure (r, p)
      | .close rest =>
        if depth != 0 then pure (r, p)
        else if style.extended && style.looseClose then
          let (here, final) ← withOperators style (char style.anyCase ')') p.rest.length rest
          sequence style inner depth fuel false (.cat r here) { p with rest := final }
        else .error .closedGroup
      | .none =>
        match ← (if first then strayOperator style p else pure none) with
        | some p => sequence style inner depth fuel first r p
        | none =>
          let (here, after) ← atom style inner depth first p
          let bare : Bool :=
            !style.extended && (match here with | .edge .lineStart => first | _ => false)
          -- In the basic way a star behind the start of a line stands for itself.
          if bare then sequence style inner depth fuel true (.cat r here) after
          else if first && !style.extended && p.rest.head? == some '*' then
            let (here, final) ← withOperators style here p.rest.length after.rest
            sequence style inner depth fuel false (.cat r here) { after with rest := final }
          else
            let (here, final) ← withOperators style here p.rest.length after.rest
            sequence style inner depth fuel false (.cat r here) { after with rest := final }

/-- Alternatives, up to the end of their group. -/
def alternatives (style : Style) (inner : Level) (depth : Nat) : (fuel : Nat) → Level
  | 0, p => .ok (.empty, p)
  | fuel + 1, p => do
    let (a, after) ← sequence style inner depth (p.rest.length + 1) true .empty p
    match jointOf style after.rest with
    | .bar rest =>
      let (b, final) ← alternatives style inner depth fuel { after with rest }
      pure (.alt a b, final)
    | _ => pure (a, after)

/-- The reader for what stands in so many groups, with room for more. -/
def level (style : Style) : (room depth : Nat) → Level
  | 0, _, _ => .error .tooBig
  | room + 1, depth, p =>
    alternatives style (level style room (depth + 1)) depth (p.rest.length + 1) p

/-- The expression that a text spells, and the number of its groups. -/
def read (style : Style) (s : String) : Except Fault (Regex × Nat) := do
  let cs := s.toList
  let (r, p) ← level style (cs.length + 1) 0 { rest := cs }
  pure (r, p.groups)

end Runbook.Shell.Regex
