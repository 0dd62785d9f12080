import Runbook.Shell.Regex.Read

/-!
# `Shell/Regex/Ordered` — expressions whose ways are ordered

A richer way to write expressions, in which the order of alternatives matters: the match is the
first way that leads to one, not the longest. Repetitions may prefer few times over many or give
nothing back, a place may be matched by what stands around it, and flags inside an expression change
what is behind them. Classes and words are those of ASCII.
-/

set_option autoImplicit false

namespace Runbook.Shell.Regex.Ordered

/-- What is wrong with an expression. -/
inductive Fault where
  | openGroup
  | closedGroup
  | openSet
  | nothingBefore
  | disordered
  | tooMany
  | trailingBackslash
  | badRange
  | classRange
  | badClass
  | classOutside
  | collating
  | badName
  | nameStart
  | noName
  | sameName
  | badFlag
  | badReference
  | endlessLook
  | badProperty
  | brokenProperty
  | trailingControl
  | tooLarge
  | notOctal
  | noDigits
  | openComment
  | badVerb
  | unsupported
  | badEscape
  | escapeInSet
  | noReference
  | noNamedReference
  deriving DecidableEq, Repr

/-- The words for a fault. -/
def Fault.message : Fault → String
  | .openGroup => "missing closing parenthesis"
  | .closedGroup => "unmatched closing parenthesis"
  | .openSet => "missing terminating ] for character class"
  | .nothingBefore => "quantifier does not follow a repeatable item"
  | .disordered => "numbers out of order in \x7b\x7d quantifier"
  | .tooMany => "number too big in \x7b\x7d quantifier"
  | .trailingBackslash => "\\ at end of pattern"
  | .badRange => "range out of order in character class"
  | .classRange => "invalid range in character class"
  | .badClass => "unknown POSIX class name"
  | .classOutside => "POSIX named classes are supported only within a class"
  | .collating => "POSIX collating elements are not supported"
  | .badName => "syntax error in subpattern name (missing terminator?)"
  | .nameStart => "subpattern name must start with a non-digit"
  | .noName => "subpattern name expected"
  | .sameName => "two named subpatterns have the same name (PCRE2_DUPNAMES not set)"
  | .badFlag => "unrecognized character after (? or (?-"
  | .badReference => "reference to non-existent subpattern"
  | .endlessLook => "lookbehind assertion is not fixed length"
  | .badProperty => "unknown property after \\P or \\p"
  | .brokenProperty => "malformed \\P or \\p sequence"
  | .trailingControl => "\\c at end of pattern"
  | .tooLarge => "character code point value in \\x\x7b\x7d or \\o\x7b\x7d is too large"
  | .notOctal => "non-octal character in \\o\x7b\x7d (closing brace missing?)"
  | .noDigits => "digits missing in \\x\x7b\x7d or \\o\x7b\x7d or \\N\x7bU+\x7d"
  | .openComment => "missing ) after (?# comment"
  | .badVerb => "(*VERB) not recognized or malformed"
  | .unsupported => "PCRE2 does not support \\F, \\L, \\l, \\N\x7bname\x7d, \\U, or \\u"
  | .badEscape => "unrecognized character follows \\"
  | .escapeInSet => "escape sequence is invalid in character class"
  | .noReference =>
    "\\g is not followed by a braced, angle-bracketed, or quoted name/number or by a plain number"
  | .noNamedReference => "\\k is not followed by a braced, angle-bracketed, or quoted name"

/-- What flags say at a place of an expression. -/
structure Mode where
  anyCase : Bool := false
  /-- A point matches the end of a line too. -/
  points : Bool := false
  /-- The ends of lines are edges. -/
  multiline : Bool := false
  /-- Blanks and notes mean nothing. -/
  spaced : Bool := false

/-- How far the reading has come. -/
structure State where
  rest : List Char
  groups : Nat := 0
  names : List (String × Nat) := []
  /-- The groups that are referred to. -/
  used : List Nat := []
  /-- Characters stand for themselves. -/
  quoting : Bool := false

/-- A part of the reading. -/
abbrev Reading := StateT State (Except Fault)

/-- What is left to be read. -/
def peek : Reading (List Char) := return (← get).rest

/-- Goes on at a place. -/
def goOn (rest : List Char) : Reading Unit := modify fun s => { s with rest }

/-! ## Classes -/

/-- A character of words. -/
def isWord (c : Char) : Bool := c.isAlphanum || c == '_'

/-- A blank, ends of lines included. -/
def isSpace (c : Char) : Bool := c == ' ' || (9 ≤ c.toNat && c.toNat ≤ 13)

/-- A blank inside a line. -/
def isFlatSpace (c : Char) : Bool :=
  let n := c.toNat
  n == 9 || n == 32 || n == 0xA0 || n == 0x1680 || n == 0x180E || (0x2000 ≤ n && n ≤ 0x200A) ||
    n == 0x202F || n == 0x205F || n == 0x3000

/-- An end of a line. -/
def isTallSpace (c : Char) : Bool :=
  let n := c.toNat
  (10 ≤ n && n ≤ 13) || n == 0x85 || n == 0x2028 || n == 0x2029

/-- The class that a letter behind a backslash stands for. -/
def classOf? (c : Char) : Option (Char → Bool) :=
  let small (l : Char) : Option (Char → Bool) :=
    match l with
    | 'd' => some Char.isDigit
    | 'w' => some isWord
    | 's' => some isSpace
    | 'h' => some isFlatSpace
    | 'v' => some isTallSpace
    | _ => none
  if c.isUpper then (small c.toLower).map fun p d => !p d else small c

/-- The class of a name, within ASCII. -/
def asciiClass? (name : String) : Option (Char → Bool) :=
  let plain (p : Char → Bool) : Char → Bool := fun c => c.toNat < 0x80 && p c
  match name with
  | "ascii" => some fun c => c.toNat < 0x80
  | "word" => some isWord
  | _ => (classNamed? name).map plain

/-- The characters with a property, by the name of the property. -/
def property? (name : String) : Option (Char → Bool) :=
  let within (first last : Nat) (c : Char) : Bool := first ≤ c.toNat && c.toNat ≤ last
  let isMark (c : Char) : Bool := within 0x300 0x36F c || within 0x20D0 0x20F0 c
  let sign (c : Char) : Bool := if c.toNat < 0x80 then "$+<=>^\x60|~".toList.contains c
    else isForeignSign c && !within 0x2010 0x2027 c && !isFlatSpace c
  match name with
  | "Any" => some fun _ => true
  | "L" => some fun c => isLetter c && !isMark c
  | "L&" => some fun c => isCapital c || isSmall c
  | "Lu" => some isCapital
  | "Ll" => some isSmall
  | "M" | "Mn" => some isMark
  | "N" | "Nd" => some Char.isDigit
  | "P" => some fun c =>
    if c.toNat < 0x80 then 32 < c.toNat && c.toNat < 127 && !c.isAlphanum && !sign c
    else within 0x2010 0x2027 c || within 0x3001 0x3003 c || "¡§«¶·»¿".toList.contains c
  | "Pd" => some fun c => c == '-' || within 0x2010 0x2015 c
  | "S" => some sign
  | "Sc" => some fun c => c == '$' || within 0xA2 0xA5 c || within 0x20A0 0x20C0 c
  | "Z" | "Zs" => some fun c => isFlatSpace c && c != '\t'
  | "C" | "Cc" => some fun c => c.toNat < 0x20 || within 0x7F 0x9F c
  | "Latin" => some fun c => isLetter c && c.toNat < 0x250
  | "Greek" => some fun c => isLetter c && (within 0x370 0x3FF c || within 0x1F00 0x1FFF c)
  | "Cyrillic" => some fun c => isLetter c && within 0x400 0x52F c
  | "Han" => some fun c => within 0x4E00 0x9FFF c || within 0x3400 0x4DBF c
  | "Hiragana" => some (within 0x3041 0x309F)
  | "Katakana" => some (within 0x30A1 0x30FF)
  | "Xan" => some fun c => isLetter c || c.isDigit
  | "Xwd" => some Subject.isWordChar
  | "Xsp" | "Xps" => some fun c => isSpace c || isFlatSpace c
  | _ => none

/-- One character with a property, or with one of its cases having it. -/
def oneOf (m : Mode) (p : Char → Bool) : Char → Bool :=
  if m.anyCase then fun c => p c || p (lowerOf c) || p (upperOf c) else p

/-! ## Escapes -/

/-- A digit of a base. -/
def isDigitIn (base : Nat) (c : Char) : Bool := (digitOf? c).any (· < base)

/-- A number between braces, in a base. -/
def braced (base : Nat) (fault : Fault) : Reading Char := do
  let (ds, after) := (← peek).span (isDigitIn base)
  if ds.isEmpty ∧ (after.isEmpty ∨ base = 16) then throw .noDigits
  else
    match after with
    | '\x7d' :: rest =>
      let n := ofDigits base ds
      if 0x10FFFF < n then throw .tooLarge
      goOn rest
      pure (Char.ofNat n)
    | _ => throw fault

/-- The name of a property behind its letter. -/
def propertyName : Reading String := do
  match ← peek with
  | '\x7b' :: rest =>
    let (name, after) := rest.span (· != '\x7d')
    match after with
    | _ :: final =>
      goOn final
      pure (String.ofList name)
    | [] => throw .brokenProperty
  | c :: rest =>
    goOn rest
    pure (String.singleton c)
  | [] => throw .brokenProperty

/-- What an escape stands for, apart from edges and references. -/
inductive Escaped where
  | char (c : Char)
  | cls (p : Char → Bool)
  | other

/-- The character or the class of an escape, behind its letter. -/
def escape (c : Char) : Reading Escaped := do
  match c with
  | 't' => pure (.char '\t')
  | 'n' => pure (.char '\n')
  | 'r' => pure (.char '\r')
  | 'f' => pure (.char (Char.ofNat 12))
  | 'e' => pure (.char (Char.ofNat 27))
  | 'a' => pure (.char (Char.ofNat 7))
  | '0' =>
    let ds := ((← peek).take 2).takeWhile (isDigitIn 8)
    goOn ((← peek).drop ds.length)
    pure (.char (Char.ofNat (ofDigits 8 ds)))
  | 'x' =>
    match ← peek with
    | '\x7b' :: rest =>
      goOn rest
      pure (.char (← braced 16 .noDigits))
    | rest =>
      let ds := (rest.take 2).takeWhile (isDigitIn 16)
      goOn (rest.drop ds.length)
      pure (.char (Char.ofNat (ofDigits 16 ds)))
  | 'o' =>
    match ← peek with
    | '\x7b' :: rest =>
      goOn rest
      pure (.char (← braced 8 .notOctal))
    | _ => throw .noDigits
  | 'c' =>
    match ← peek with
    | d :: rest =>
      goOn rest
      pure (.char (Char.ofNat (d.toUpper.toNat.xor 64)))
    | [] => throw .trailingControl
  | 'p' | 'P' =>
    let name ← propertyName
    let (negated, name) := match name.toList with
      | '^' :: rest => (true, String.ofList rest)
      | _ => (false, name)
    match property? name with
    | some p => pure (.cls (if negated != (c == 'P') then fun d => !p d else p))
    | none => throw .badProperty
  | 'F' | 'L' | 'l' | 'U' | 'u' => throw .unsupported
  | 'i' | 'I' | 'j' | 'J' | 'm' | 'M' | 'O' | 'q' | 'T' | 'Y' | 'y' => throw .badEscape
  | _ =>
    match classOf? c with
    | some p => pure (.cls p)
    | none => pure (if c.isAlphanum then .other else .char c)

/-! ## Sets -/

/-- A class by its name between square brackets. -/
def namedClass (rest : List Char) : Reading (Option (Char → Bool)) := do
  match Regex.upTo? ':' ']' rest with
  | none => pure none
  | some (name, final) =>
    let (negated, name) := match name with
      | '^' :: more => (true, more)
      | _ => (false, name)
    if !name.all Char.isAlpha then pure none
    else
      match asciiClass? (String.ofList name) with
      | some p =>
        goOn final
        pure (some (if negated then fun c => !p c else p))
      | none => throw .badClass

/-- One member of a set; nothing if it is no more than a mark for quoting. -/
def member : Reading (Option Member) := do
  let s ← get
  match s.quoting, s.rest with
  | _, [] => throw .openSet
  | _, '\\' :: 'E' :: rest =>
    set { s with rest, quoting := false }
    pure none
  | true, c :: rest =>
    goOn rest
    pure (some (.char c))
  | false, '[' :: ':' :: rest =>
    match ← namedClass rest with
    | some p => pure (some (.cls p))
    | none =>
      goOn (':' :: rest)
      pure (some (.char '['))
  | false, '[' :: c :: rest =>
    if (c = '.' ∨ c = '=') ∧ (Regex.upTo? c ']' rest).isSome then throw .collating
    goOn (c :: rest)
    pure (some (.char '['))
  | false, '\\' :: 'Q' :: rest =>
    set { s with rest, quoting := true }
    pure none
  | false, ['\\'] => throw .trailingBackslash
  | false, '\\' :: c :: rest =>
    goOn rest
    if c = 'b' then pure (some (.char (Char.ofNat 8)))
    else if '1' ≤ c ∧ c ≤ '7' then
      let ds := c :: (rest.take 2).takeWhile (isDigitIn 8)
      goOn (rest.drop (ds.length - 1))
      pure (some (.char (Char.ofNat (ofDigits 8 ds))))
    else if c.isDigit && c != '0' then pure (some (.char c))
    else
      match ← escape c with
      | .char d => pure (some (.char d))
      | .cls p => pure (some (.cls p))
      | .other => throw .escapeInSet
  | false, c :: rest =>
    goOn rest
    pure (some (.char c))

/-- The members of a set up to its end, as a property. -/
def members (m : Mode) (p : Char → Bool) : (fuel : Nat) → (first : Bool) →
    Reading (Char → Bool)
  | 0, _ => throw .openSet
  | fuel + 1, first => do
    let s ← get
    match s.rest with
    | [] => throw .openSet
    | c :: rest =>
      if c = ']' ∧ !first ∧ !s.quoting then
        goOn rest
        pure p
      else
        let isRange : Reading Bool := do
          let t ← get
          pure (!t.quoting && t.rest.head? == some '-' && (t.rest.drop 1).head? != some ']')
        match ← member with
        | none => members m p fuel first
        | some (.cls q) =>
          -- A class that a range seems to begin with is a mistake, unless a class is behind it.
          if (← isRange) && 1 < (← peek).length then throw .classRange
          members m (fun d => p d || q d) fuel false
        | some (.char low) =>
          if ← isRange then
            let dash ← peek
            goOn (dash.drop 1)
            match ← member with
            | none => members m (fun d => p d || d == low || d == '-') fuel false
            | some (.cls _) => throw .classRange
            | some (.char high) =>
              if high < low then throw .badRange
              else members m (fun d => p d || (low ≤ d && d ≤ high)) fuel false
          else members m (fun d => p d || d == low) fuel false

/-- A set behind its opening bracket. -/
def set_ (m : Mode) : Reading Regex := do
  let cs ← peek
  let negated := cs.head? == some '^'
  let cs := if negated then cs.drop 1 else cs
  goOn cs
  let p := oneOf m (← members m (fun _ => false) (cs.length + 1) true)
  pure (.one (if negated then fun c => !p c else p))

/-! ## Groups and references -/

/-- A reference to a group. -/
def reference (m : Mode) (n : Nat) : Reading Regex := do
  modify fun s => { s with used := n :: s.used }
  pure (.back n m.anyCase)

/-- The name of a group up to a mark. -/
def groupName (close : Char) (cs : List Char) : Reading String := do
  let (name, after) := cs.span isWord
  match name.head? with
  | none => throw .noName
  | some c =>
    if c.isDigit then throw .nameStart
    match after with
    | d :: rest =>
      if d ≠ close then throw .badName
      goOn rest
      pure (String.ofList name)
    | [] => throw .badName

/-- A reference by a name. -/
def namedReference (m : Mode) (close : Char) (cs : List Char) : Reading Regex := do
  let name ← groupName close cs
  match (← get).names.lookup name with
  | some n => reference m n
  | none => throw .badReference

/-- The mark that closes what another opens. -/
def closing? (c : Char) : Option Char :=
  match c with
  | '\x7b' => some '\x7d'
  | '<' => some '>'
  | '\'' => some '\''
  | _ => none

/-- A reference behind its letter: a number, perhaps counted from the latest group, or a name. -/
def markedReference (m : Mode) (byName : Bool) : Reading Regex := do
  let fault := if byName then Fault.noNamedReference else .noReference
  let cs ← peek
  let number (cs : List Char) : Option (Int × List Char) :=
    let (minus, cs) := match cs with
      | '-' :: rest => (true, rest)
      | _ => (false, cs)
    let (ds, rest) := cs.span Char.isDigit
    if ds.isEmpty then none
    else some (if minus then -(ofDigits 10 ds : Int) else (ofDigits 10 ds : Int), rest)
  let counted (n : Int) : Reading Regex := do
    let s ← get
    let n := if n < 0 then (s.groups : Int) + 1 + n else n
    if n ≤ 0 then throw .badReference
    reference m n.toNat
  match cs with
  | [] => throw fault
  | c :: rest =>
    match closing? c with
    | some close =>
      match byName, number rest with
      | false, some (n, d :: final) =>
        if d ≠ close then throw fault
        goOn final
        counted n
      | _, _ => namedReference m close rest
    | none =>
      match byName, number cs with
      | false, some (n, final) =>
        goOn final
        counted n
      | _, _ => throw fault

/-- The number of characters that an expression matches, if it is always the same. -/
def fixedLength? : Regex → Option Nat
  | .empty | .edge _ | .look _ _ _ | .keep => some 0
  | .one _ => some 1
  | .cat a b => do pure ((← fixedLength? a) + (← fixedLength? b))
  | .alt a b => do
    let n ← fixedLength? a
    if (← fixedLength? b) = n then pure n else none
  | .group _ r | .firstOf r => fixedLength? r
  | .star _ | .upTo _ _ | .few _ _ | .other _ | .back _ _ => none

/-- Every alternative has a length of its own. -/
def hasLengths : Regex → Bool
  | .alt a b => hasLengths a && hasLengths b
  | r => (fixedLength? r).isSome

/-! ## Parts -/

/-- What a part of an expression is. -/
inductive Part where
  /-- An expression, which may be repeated or not. -/
  | item (r : Regex) (repeats : Bool)
  /-- Flags for all that is behind, up to the end of the group. -/
  | mode (m : Mode)
  | nothing

/-- The place between characters of words and others. -/
def wordEdge (wanted : Bool) : Regex :=
  let word : Regex := .one isWord
  let here (a b : Bool) : Regex := .cat (.look true a word) (.look false b word)
  if wanted then .alt (here true false) (here false true)
  else .alt (here true true) (here false false)

/-- The start or the end of a line. -/
def lineEdge (m : Mode) (start : Bool) : Regex :=
  let edge : Regex := .edge (if start then .lineStart else .lineEnd)
  if m.multiline then .alt edge (.look start true (.one (· == '\n'))) else edge

/-- One character as an expression. -/
def plain (m : Mode) (c : Char) : Regex := Regex.char m.anyCase c

/-- A reference that is written as a number behind a backslash, or a character by its number. -/
def numbered (m : Mode) (c : Char) : Reading Regex := do
  let (ds, rest) := (← peek).span Char.isDigit
  let n := ofDigits 10 (c :: ds)
  let octal := (c :: ds).takeWhile (isDigitIn 8) |>.take 3
  if n < 10 ∨ c = '8' ∨ c = '9' ∨ n ≤ (← get).groups then
    goOn rest
    reference m n
  else
    goOn ((← peek).drop (octal.length - 1))
    pure (plain m (Char.ofNat (ofDigits 8 octal)))

/-- What a letter behind a backslash stands for. -/
def escapedPart (m : Mode) (c : Char) : Reading Part := do
  match c with
  | 'Q' =>
    modify fun s => { s with quoting := true }
    pure .nothing
  | 'E' => pure .nothing
  | 'b' => pure (.item (wordEdge true) false)
  | 'B' => pure (.item (wordEdge false) false)
  | 'A' | 'G' => pure (.item (.edge .textStart) false)
  | 'z' => pure (.item (.edge .textEnd) false)
  | 'Z' =>
    pure (.item (.alt (.edge .textEnd)
      (.look false true (.cat (.one (· == '\n')) (.edge .textEnd)))) false)
  | 'K' => pure (.item .keep false)
  | 'N' =>
    match ← peek with
    | '\x7b' :: 'U' :: '+' :: rest =>
      goOn rest
      pure (.item (plain m (← braced 16 .noDigits)) true)
    | '\x7b' :: d :: _ =>
      if d.isDigit then pure (.item (.one (· != '\n')) true) else throw .unsupported
    | _ => pure (.item (.one (· != '\n')) true)
  | 'R' =>
    pure (.item (.firstOf (.alt (.cat (.one (· == '\r')) (.one (· == '\n'))) (.one isTallSpace)))
      true)
  | 'X' | 'C' => pure (.item (.one fun _ => true) true)
  | 'g' => pure (.item (← markedReference m false) true)
  | 'k' => pure (.item (← markedReference m true) true)
  | _ =>
    if '1' ≤ c ∧ c ≤ '9' then pure (.item (← numbered m c) true)
    else
      match ← escape c with
      | .char d => pure (.item (plain m d) true)
      | .cls p => pure (.item (.one p) true)
      | .other => throw .badEscape

/-- The flags behind a question mark, up to the mark that ends them. -/
def flags (m : Mode) (on : Bool) : List Char → Option (Mode × List Char)
  | [] => none
  | c :: rest =>
    match c with
    | 'i' => flags { m with anyCase := on } on rest
    | 's' => flags { m with points := on } on rest
    | 'm' => flags { m with multiline := on } on rest
    | 'x' => flags { m with spaced := on } on rest
    | 'n' | 'U' | 'J' => flags m on rest
    | '^' => flags {} on rest
    | '-' => flags m false rest
    | _ => some (m, c :: rest)

/-- The reader of what stands in a group. -/
abbrev Level := Mode → Reading Regex

/-- What a group holds, up to its closing bracket. -/
def inside (inner : Level) (m : Mode) : Reading Regex := do
  let r ← inner m
  match ← peek with
  | ')' :: rest =>
    goOn rest
    pure r
  | _ => throw .openGroup

/-- A group with a number. -/
def capture (inner : Level) (m : Mode) (name : Option String) : Reading Regex := do
  let n := (← get).groups + 1
  match name with
  | some name =>
    if ((← get).names.lookup name).isSome then throw .sameName
    modify fun s => { s with names := (name, n) :: s.names }
  | none => pure ()
  modify fun s => { s with groups := n }
  pure (.group n (← inside inner m))

/-- A group behind its opening bracket. -/
def group (inner : Level) (m : Mode) : Reading Part := do
  let item (r : Regex) : Part := .item r true
  let looking (before wanted : Bool) (rest : List Char) : Reading Part := do
    goOn rest
    let r ← inside inner m
    if before && !hasLengths r then throw .endlessLook
    pure (item (.look before wanted r))
  match ← peek with
  | '*' :: c :: _ =>
    if c.isAlpha ∨ c = ':' then throw .badVerb
    pure (item (← capture inner m none))
  | '?' :: '#' :: rest =>
    match rest.dropWhile (· != ')') with
    | _ :: final =>
      goOn final
      pure .nothing
    | [] => throw .openComment
  | '?' :: ':' :: rest =>
    goOn rest
    pure (item (← inside inner m))
  | '?' :: '|' :: rest =>
    goOn rest
    pure (item (← inside inner m))
  | '?' :: '>' :: rest =>
    goOn rest
    pure (item (.firstOf (← inside inner m)))
  | '?' :: '=' :: rest => looking false true rest
  | '?' :: '!' :: rest => looking false false rest
  | '?' :: '<' :: '=' :: rest => looking true true rest
  | '?' :: '<' :: '!' :: rest => looking true false rest
  | '?' :: 'P' :: '=' :: rest => pure (item (← namedReference m ')' rest))
  | '?' :: 'P' :: '<' :: rest | '?' :: '<' :: rest =>
    pure (item (← capture inner m (some (← groupName '>' rest))))
  | '?' :: '\'' :: rest => pure (item (← capture inner m (some (← groupName '\'' rest))))
  | '?' :: rest =>
    match flags m true rest with
    | some (new, ')' :: final) =>
      goOn final
      pure (.mode new)
    | some (new, ':' :: final) =>
      goOn final
      pure (item (← inside inner new))
    | some (_, []) | none => throw .openGroup
    | some _ => throw .badFlag
  | _ => pure (item (← capture inner m none))

/-- The next part of an expression. -/
def part (inner : Level) (m : Mode) : Reading Part := do
  let s ← get
  match s.quoting, s.rest with
  | _, [] => pure .nothing
  | true, '\\' :: 'E' :: rest =>
    set { s with rest, quoting := false }
    pure .nothing
  | true, c :: rest =>
    goOn rest
    pure (.item (plain m c) true)
  | false, c :: rest =>
    goOn rest
    match c with
    | '^' => pure (.item (lineEdge m true) false)
    | '$' => pure (.item (lineEdge m false) false)
    | '.' => pure (.item (.one (if m.points then fun _ => true else (· != '\n'))) true)
    | '(' => group inner m
    | '[' =>
      if looksLikeClass rest then throw .classOutside
      pure (.item (← set_ m) true)
    | '\\' =>
      match rest with
      | [] => throw .trailingBackslash
      | d :: more =>
        goOn more
        escapedPart m d
    | _ =>
      if m.spaced ∧ isSpace c then pure .nothing
      else if m.spaced ∧ c = '#' then
        goOn (rest.dropWhile (· != '\n'))
        pure .nothing
      else pure (.item (plain m c) true)

/-! ## Repetitions -/

/-- The bounds of a repetition between braces, behind the brace, and the rest. -/
def bounds? (cs : List Char) : Option ((Nat × Option Nat) × List Char) :=
  let (ds, rest) := cs.span Char.isDigit
  if ds.isEmpty then none
  else
    let least := ofDigits 10 ds
    match rest with
    | '\x7d' :: final => some ((least, some least), final)
    | ',' :: more =>
      let (es, final) := more.span Char.isDigit
      match final with
      | '\x7d' :: final =>
        some ((least, if es.isEmpty then none else some (ofDigits 10 es)), final)
      | _ => none
    | _ => none

/-- The bounds that an operator sets, at the front of a text, and the rest. -/
def quantifier? (cs : List Char) : Except Fault (Option ((Nat × Option Nat) × List Char)) :=
  match cs with
  | '*' :: rest => .ok (some ((0, none), rest))
  | '+' :: rest => .ok (some ((1, none), rest))
  | '?' :: rest => .ok (some ((0, some 1), rest))
  | '\x7b' :: rest =>
    match bounds? rest with
    | some ((least, most), final) =>
      if 65535 < least ∨ most.any (65535 < ·) then .error .tooMany
      else if most.any (· < least) then .error .disordered
      else .ok (some ((least, most), final))
    | none => .ok none
  | _ => .ok none

/-- An expression from `least` to `most` times, rather few than many. -/
def fewTimes (r : Regex) (least : Nat) (most : Option Nat) : Regex :=
  let more : Regex := .few (most.map (· - least)) r
  if most == some least then r.times least
  else if least = 0 then more
  else .cat (r.times least) more

/-- The text behind blanks and notes, where they mean nothing. -/
def behindSpace (m : Mode) : (fuel : Nat) → List Char → List Char
  | 0, cs => cs
  | _ + 1, [] => []
  | fuel + 1, c :: rest =>
    if m.spaced ∧ isSpace c then behindSpace m fuel rest
    else if m.spaced ∧ c = '#' then behindSpace m fuel (rest.dropWhile (· != '\n'))
    else c :: rest

/-- An expression with the operator behind it, if there is one. -/
def repeated (m : Mode) (r : Regex) (repeats : Bool) : Reading Regex := do
  let s ← get
  -- The end of quoted text is no part of its own.
  let s := match s.quoting, s.rest with
    | true, '\\' :: 'E' :: rest => { s with rest, quoting := false }
    | _, _ => s
  if s.quoting then pure r
  else
    let cs := behindSpace m s.rest.length s.rest
    match ← (quantifier? cs : Except Fault _) with
    | none =>
      set { s with rest := cs }
      pure r
    | some ((least, most), rest) =>
      if !repeats then throw .nothingBefore
      let (r, rest) := match rest with
        | '?' :: final => (fewTimes r least most, final)
        | '+' :: final => (.firstOf (r.between least most), final)
        | _ => (r.between least most, rest)
      set { s with rest }
      pure r

/-- Parts one after another, up to the end of an alternative, and the flags behind them. -/
def sequence (inner : Level) : (fuel : Nat) → Mode → (done : Regex) → Reading (Regex × Mode)
  | 0, m, done => pure (done, m)
  | fuel + 1, m, done => do
    let s ← get
    let stops := !s.quoting && (s.rest.head? == some '|' || s.rest.head? == some ')')
    if s.rest.isEmpty || stops then pure (done, m)
    else
      if !s.quoting then
        if let some _ := ← (quantifier? s.rest : Except Fault _) then throw .nothingBefore
      match ← part inner m with
      | .nothing => sequence inner fuel m done
      | .mode new => sequence inner fuel new done
      | .item r repeats =>
        let r ← repeated m r repeats
        sequence inner fuel m (.cat done r)

/-- Alternatives, up to the end of their group. -/
def alternatives (inner : Level) : (fuel : Nat) → Level
  | 0, _ => pure .empty
  | fuel + 1, m => do
    let (a, m) ← sequence inner ((← peek).length + 1) m .empty
    match ← peek with
    | '|' :: rest =>
      goOn rest
      pure (.alt a (← alternatives inner fuel m))
    | _ => pure a

/-- The reader for groups of a depth. -/
def level : (room : Nat) → Level
  | 0 => fun _ => throw .openGroup
  | room + 1 => fun m => do alternatives (level room) ((← peek).length + 1) m

/-- The expression that a text spells. Only its preferred way is a match. -/
def read (anyCase : Bool) (s : String) : Except Fault Regex := do
  let cs := s.toList
  let reading : Reading Regex := do
    let r ← level (cs.length + 1) { anyCase }
    if !(← peek).isEmpty then throw .closedGroup
    let s ← get
    if s.used.any (s.groups < ·) then throw .badReference
    pure r
  reading.run' { rest := cs }

/-- The place where the match of a way begins, if it is not where the way does. -/
def start (first : Nat) (gs : Groups) : Nat :=
  match gs.find? (·.1 == 0) with
  | some (_, place, _) => place
  | none => first

end Runbook.Shell.Regex.Ordered
