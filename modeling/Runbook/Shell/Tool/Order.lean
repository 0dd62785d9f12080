import Runbook.Shell.Text.Real
import Runbook.Shell.Tool.Fields

/-!
# `Shell/Tool/Order` — programs about the order of lines

`sort` compares lines by keys, each a part of a line that is compared in a manner of its own; `uniq`
compares neighbours; `tsort` orders names by pairs of them, and `shuf` mixes lines.
-/

set_option autoImplicit false

namespace Runbook.Shell.Order

/-- How keys are compared. -/
structure Style where
  blanks : Bool := false
  dictionary : Bool := false
  folds : Bool := false
  general : Bool := false
  human : Bool := false
  printing : Bool := false
  months : Bool := false
  numeric : Bool := false
  random : Bool := false
  version : Bool := false
  reverse : Bool := false
  /-- Blanks in front of the end of a key are left out. -/
  endBlanks : Bool := false

/-- The style with the meaning of a letter. -/
def Style.with? (s : Style) (atEnd : Bool) (c : Char) : Option Style :=
  match c with
  | 'b' => some (if atEnd then { s with endBlanks := true } else { s with blanks := true })
  | 'd' => some { s with dictionary := true }
  | 'f' => some { s with folds := true }
  | 'g' => some { s with general := true }
  | 'h' => some { s with human := true }
  | 'i' => some { s with printing := true }
  | 'M' => some { s with months := true }
  | 'n' => some { s with numeric := true }
  | 'R' => some { s with random := true }
  | 'V' => some { s with version := true }
  | 'r' => some { s with reverse := true }
  | _ => none

/-- A part of a line: from a character of a field to one of another. -/
structure Key where
  startField : Nat := 1
  startChar : Nat := 1
  endField : Option Nat := none
  endChar : Nat := 0
  style : Style := {}
  /-- The key says itself how it is compared. -/
  ownStyle : Bool := false

/-- The letters of ways to compare that do not go together, if some do not. -/
def Style.conflict? (s : Style) : Option String :=
  let chosen := [s.numeric, s.general, s.human, s.months,
    s.version || s.random || s.dictionary || s.printing]
  if (chosen.filter id).length ≤ 1 then none
  else
    let letters := [(s.dictionary, 'd'), (s.folds, 'f'), (s.general, 'g'), (s.human, 'h'),
      (s.printing && !s.dictionary, 'i'), (s.months, 'M'), (s.numeric, 'n'), (s.random, 'R'),
      (s.version, 'V')]
    some (String.ofList (letters.filterMap fun (isSet, c) => if isSet then some c else none))

/-- What `sort` has against a key. -/
inductive KeyFault where
  | told (text : String)
  | stray (key : String)

/-- A key as an option has it: a field and a character, letters, and the same for the end. -/
def keyOf (text : String) : Except KeyFault Key := do
  let number (what : String) (cs : List Char) : Except KeyFault (Nat × List Char) :=
    let (ds, rest) := cs.span Char.isDigit
    if ds.isEmpty then
      .error (.told ("invalid number " ++ what ++ ": invalid count at start of " ++
        curlyQuoted (String.ofList cs)))
    else .ok (ofDigits 10 ds, rest)
  let zero (what : String) : Except KeyFault Unit :=
    .error (.told (what ++ ": invalid field specification " ++ curlyQuoted text))
  let letters (atEnd : Bool) (s : Style) (cs : List Char) : Style × Bool × List Char :=
    let (ls, rest) := cs.span fun c => (s.with? atEnd c).isSome
    (ls.foldl (fun s c => (s.with? atEnd c).getD s) s, !ls.isEmpty, rest)
  let (f, rest) ← number "at field start" text.toList
  if f = 0 then zero "field number is zero"
  let (c, rest) ←
    match rest with
    | '.' :: more => do
      let (c, rest) ← number "after '.'" more
      if c = 0 then zero "character offset is zero"
      pure (c, rest)
    | _ => pure (1, rest)
  let (style, own, rest) := letters false {} rest
  match rest with
  | [] => pure { startField := f, startChar := c, style := style, ownStyle := own }
  | ',' :: more => do
    let (g, rest) ← number "after ','" more
    if g = 0 then zero "field number is zero"
    let (d, rest) ←
      match rest with
      | '.' :: more => number "after '.'" more
      | _ => pure (0, rest)
    let (style, own2, rest) := letters true style rest
    if !rest.isEmpty then
      .error (.told ("stray character in field spec: invalid field specification " ++
        curlyQuoted text))
    else
      pure { startField := f, startChar := c, endField := some g, endChar := d, style := style
             ownStyle := own || own2 }
  | _ => .error (.told ("stray character in field spec: invalid field specification " ++
      curlyQuoted text))

/-! ## Comparing -/

/-- A blank between fields. -/
def isFieldBlank (c : Char) : Bool := c == ' ' || c == '\t' || c == '\n'

/-- What is behind so many fields of a line. -/
def skipFields (mark : Option Char) : (count : Nat) → List Char → List Char
  | 0, cs => cs
  | n + 1, cs =>
    match mark with
    | some m => skipFields mark n ((cs.dropWhile (· != m)).drop 1)
    | none => skipFields mark n ((cs.dropWhile isFieldBlank).dropWhile (!isFieldBlank ·))

/-- The characters of a line that a key takes. -/
def keyText (mark : Option Char) (k : Key) (line : List Char) : List Char :=
  let start := skipFields mark (k.startField - 1) line
  let start := if k.style.blanks then start.dropWhile isFieldBlank else start
  let start := start.drop (k.startChar - 1)
  match k.endField with
  | none => start
  | some f =>
    let behind :=
      if k.endChar = 0 then
        let inField := skipFields mark (f - 1) line
        match mark with
        | some m => inField.dropWhile (· != m)
        | none => (inField.dropWhile isFieldBlank).dropWhile (!isFieldBlank ·)
      else
        let inField := skipFields mark (f - 1) line
        let inField := if k.style.endBlanks then inField.dropWhile isFieldBlank else inField
        inField.drop k.endChar
    start.take (start.length - behind.length)

/-- A number at the front of a text: its sign, its digits before the point without zeros in front,
those behind it, and what follows. -/
def decimalParts (cs : List Char) : Bool × List Char × List Char × List Char :=
  let cs := cs.dropWhile isFieldBlank
  let (negative, cs) := match cs with
    | '-' :: rest => (true, rest)
    | _ => (false, cs)
  let (whole, rest) := cs.span Char.isDigit
  let (fraction, rest) := match rest with
    | '.' :: more => more.span Char.isDigit
    | _ => ([], rest)
  (negative, whole.dropWhile (· == '0'),
    (fraction.reverse.dropWhile (· == '0')).reverse, rest)

/-- The order of two numbers without signs. -/
def compareDigits (a b : List Char × List Char) : Ordering :=
  let text (cs : List Char) : String := String.ofList cs
  match compare a.1.length b.1.length with
  | .eq =>
    match compare (text a.1) (text b.1) with
    | .eq => compare (text a.2) (text b.2)
    | o => o
  | o => o

/-- The order of two texts as numbers. -/
def compareNumbers (a b : List Char) : Ordering :=
  let (na, wa, fa, _) := decimalParts a
  let (nb, wb, fb, _) := decimalParts b
  let zeroA := wa.isEmpty && fa.isEmpty
  let zeroB := wb.isEmpty && fb.isEmpty
  let na := na && !zeroA
  let nb := nb && !zeroB
  match na, nb with
  | true, false => .lt
  | false, true => .gt
  | false, false => compareDigits (wa, fa) (wb, fb)
  | true, true => compareDigits (wb, fb) (wa, fa)

/-- The rank of the unit behind a number. -/
def unitRank (cs : List Char) : Nat :=
  match cs with
  | c :: _ =>
    match "KMGTPEZYRQ".toList.findIdx? (· == c) with
    | some n => n + 1
    | none => if c = 'k' then 1 else 0
  | [] => 0

/-- The order of two numbers with units. -/
def compareHuman (a b : List Char) : Ordering :=
  let rank (cs : List Char) : Int :=
    let (negative, whole, fraction, rest) := decimalParts cs
    let r : Int := if whole.isEmpty && fraction.isEmpty then 0 else (unitRank rest : Int) + 1
    if negative then -r else r
  match compare (rank a) (rank b) with
  | .eq => compareNumbers a b
  | o => o

/-- The number of the month whose name a text begins with, or 0. -/
def monthOf (cs : List Char) : Nat :=
  let name := String.ofList (((cs.dropWhile isFieldBlank).take 3).map Char.toUpper)
  match ["JAN", "FEB", "MAR", "APR", "MAY", "JUN", "JUL", "AUG", "SEP", "OCT", "NOV",
      "DEC"].findIdx? (· == name) with
  | some n => n + 1
  | none => 0

/-- The order of two texts as numbers of any form: what is no number comes first. -/
def compareGeneral (a b : List Char) : Ordering :=
  let value (cs : List Char) : Option Float :=
    (Real.take? (cs.dropWhile isFieldBlank)).map fun p => p.1.toFloat
  match value a, value b with
  | none, none => .eq
  | none, some _ => .lt
  | some _, none => .gt
  | some x, some y =>
    if x < y then .lt else if y < x then .gt
    else if x == y then .eq
    else if x.isNaN && y.isNaN then .eq else if x.isNaN then .lt else .gt

/-- The rank of a character between numbers of versions; a tilde comes before the end. -/
def versionRank (c : Char) : Nat :=
  if c.isDigit then 0 else if c.isAlpha then c.toNat else if c = '~' then 0 else c.toNat + 1114112

/-- The order of two versions, part by part; `fuel` bounds the number of parts. -/
def compareVersionParts : (fuel : Nat) → List Char → List Char → Ordering
  | 0, _, _ => .eq
  | fuel + 1, a, b =>
    if a.isEmpty && b.isEmpty then .eq
    else
      let (xa, ra) := a.span (!Char.isDigit ·)
      let (xb, rb) := b.span (!Char.isDigit ·)
      -- The end of a text comes behind a tilde and before everything else.
      let rank (cs : List Char) (n : Nat) : Int :=
        match cs[n]? with
        | some c => if c = '~' then -1 else (versionRank c : Int) + 1
        | none => 0
      let rec words : (fuel n : Nat) → Ordering
        | 0, _ => .eq
        | fuel + 1, n =>
          match compare (rank xa n) (rank xb n) with
          | .eq => words fuel (n + 1)
          | o => o
      match words (max xa.length xb.length) 0 with
      | .eq =>
        let (da, ra) := ra.span Char.isDigit
        let (db, rb) := rb.span Char.isDigit
        match compare (ofDigits 10 da) (ofDigits 10 db) with
        | .eq => compareVersionParts fuel ra rb
        | o => o
      | o => o

/-- A version without the suffix of a file name. -/
def withoutSuffix (cs : List Char) : List Char :=
  -- A suffix is parts of a dot, a letter or a tilde, and letters, digits and tildes.
  let isPart (p : List Char) : Bool :=
    match p with
    | c :: rest => (c.isAlpha || c == '~') && rest.all fun x => x.isAlphanum || x == '~'
    | [] => false
  let rec go : (fuel : Nat) → List Char → List Char
    | 0, cs => cs
    | fuel + 1, cs =>
      let r := cs.reverse
      let (part, rest) := r.span (· != '.')
      match rest with
      | '.' :: before => if isPart part.reverse ∧ !before.isEmpty then go fuel before.reverse else cs
      | _ => cs
  go cs.length cs

/-- The order of two versions. -/
def compareVersions (a b : List Char) : Ordering :=
  if a == b then .eq
  else if a.isEmpty then .lt
  else if b.isEmpty then .gt
  else
    let special (cs : List Char) : Nat :=
      if cs == ['.'] then 0 else if cs == ['.', '.'] then 1
      else if cs.head? == some '.' then 2 else 3
    match compare (special a) (special b) with
    | .eq =>
      let room := a.length + b.length + 1
      match compareVersionParts room (withoutSuffix a) (withoutSuffix b) with
      | .eq => compareVersionParts room a b
      | o => o
    | o => o

/-- The order of two keys. -/
def compareKeys (s : Style) (a b : List Char) : Ordering :=
  let o : Ordering :=
    if s.numeric then compareNumbers a b
    else if s.general then compareGeneral a b
    else if s.human then compareHuman a b
    else if s.months then compare (monthOf a) (monthOf b)
    else if s.version then compareVersions a b
    else
      let prepared (cs : List Char) : String :=
        let cs := if s.dictionary then cs.filter fun c => c.isAlphanum || isFieldBlank c else cs
        let cs := if s.printing then cs.filter isPrinting else cs
        String.ofList (if s.folds then cs.map Char.toUpper else cs)
      compare (prepared a) (prepared b)
  if s.reverse then o.swap else o

/-- A line with the texts of its keys. -/
structure Entry where
  line : List Char
  keys : List (List Char)

/-- The order of two lines by some keys, and last by all of them, unless that is not wanted. -/
def compareEntries (keys : List Key) (plain : Style) (stable : Bool) (a b : Entry) : Ordering :=
  let rec go : List Key → List (List Char) → List (List Char) → Ordering
    | k :: ks, x :: xs, y :: ys =>
      match compareKeys k.style x y with
      | .eq => go ks xs ys
      | o => o
    | _, _, _ => .eq
  match go keys a.keys b.keys with
  | .eq =>
    if stable then .eq
    else
      let o := compare (String.ofList a.line) (String.ofList b.line)
      if plain.reverse then o.swap else o
  | o => o

/-- The flags of `sort`. -/
def sortFlags : Flags :=
  { letters := "bdfgiMhnRrVcCmo:sS:t:T:uzk:"
    long := [("ignore-leading-blanks", .nothing, "b"), ("dictionary-order", .nothing, "d"),
      ("ignore-case", .nothing, "f"), ("general-numeric-sort", .nothing, "g"),
      ("ignore-nonprinting", .nothing, "i"), ("month-sort", .nothing, "M"),
      ("human-numeric-sort", .nothing, "h"), ("numeric-sort", .nothing, "n"),
      ("random-sort", .nothing, "R"), ("reverse", .nothing, "r"), ("version-sort", .nothing, "V"),
      ("check", .maybe, "c"), ("merge", .nothing, "m"), ("output", .value, "o"),
      ("stable", .nothing, "s"), ("buffer-size", .value, "S"), ("field-separator", .value, "t"),
      ("unique", .nothing, "u"), ("zero-terminated", .nothing, "z"), ("key", .value, "k"),
      ("parallel", .value, "S"), ("sort", .value, "sort")] }

/-- The ways to compare, by their names. -/
def sortWays : List (List String) :=
  [["general-numeric"], ["human-numeric"], ["month"], ["numeric"], ["random"], ["version"]]

/-- The program `sort`. -/
def sort : Tool := fun _ c =>
  c.withFlags sortFlags 2 fun p => do
    let separator := (p.last? "t").map (·.toList)
    let keysRead : Except KeyFault (List Key) := (p.all "k").mapM keyOf
    match separator, keysRead with
    | some [], _ =>
      c.blame "empty tab"
      pure 2
    | some (a :: b :: more), _ =>
      if a = '\\' ∧ b = '0' ∧ more.isEmpty then pure 2
      else
        c.blame ("multi-character tab " ++ curlyQuoted (String.ofList (a :: b :: more)))
        pure 2
    | _, .error (.told text) | _, .error (.stray text) =>
      c.blame text
      pure 2
    | mark, .ok keys =>
      let mark := mark.bind List.head?
      let named : Option Char := match (p.last? "sort").bind fun w => (meant sortWays w).toOption with
        | some "general-numeric" => some 'g'
        | some "human-numeric" => some 'h'
        | some "month" => some 'M'
        | some "numeric" => some 'n'
        | some "random" => some 'R'
        | some "version" => some 'V'
        | _ => none
      let plain := (p.options.filterMap (fun o => o.1.toList.head?) ++ named.toList).foldl
        (fun (s : Style) ch => if ch = 's' ∨ ch = 'c' ∨ ch = 'm' then s
          else (s.with? false ch).getD s) {}
      let plain := { plain with endBlanks := plain.blanks }
      let keys := keys.map fun k => if k.ownStyle then k else { k with style := plain }
      let keys := if keys.isEmpty then [{ style := plain }] else keys
      let conflict (letters : String) : Act Nat := do
        c.blame ("options '-" ++ letters ++ "' are incompatible")
        pure 2
      for (key, words) in [("sort", sortWays), ("c", [["quiet", "silent"], ["diagnose-first"]])] do
        if let some w := p.last? key then
          if !(meant words w).isOk then
            return ← c.refuseWord 2 (if key = "c" then "--check" else "--sort") words w
      if p.has "c" && p.has "C" then return ← conflict "cC"
      if let some letters := keys.findSome? fun k => k.style.conflict? then
        return ← conflict letters
      if (p.has "c" || p.has "C") && p.has "o" then
        return ← conflict (if p.has "C" then "Co" else "co")
      let unique := p.has "u"
      let stable := p.has "s" || unique
      let lineMark := if p.has "z" then Char.ofNat 0 else '\n'
      let entry (l : List Char) : Entry := ⟨l, keys.map fun k => keyText mark k l⟩
      let order (a b : Entry) : Ordering := compareEntries keys plain stable a b
      let checks := p.has "c" || p.has "C"
      match checks, p.operands with
      | true, _ :: x :: _ =>
        c.blame ("extra operand " ++ curlyQuoted x ++ " not allowed with -" ++
          (if p.has "C" then "C" else "c"))
        pure 2
      | _, _ =>
        let mut lines := #[]
        for o in (if p.operands.isEmpty then ["-"] else p.operands) do
          match ← Call.whole o with
          | .ok cs => lines := lines ++ (Lines.split lineMark cs).1.toArray
          | .error err =>
            if err = Errno.isFolder then c.blame ("read failed: " ++ fileTitle o ++ ": " ++ err.text)
            else c.blame ("cannot read: " ++ fileTitle o ++ ": " ++ err.text)
            return 2
        let entries := lines.toList.map entry
        if checks then
          let rec disorder : Nat → List Entry → Option (Nat × Entry)
            | n, a :: b :: rest =>
              let o := order a b
              if o == .gt || (unique && o == .eq) then some (n + 1, b) else disorder (n + 1) (b :: rest)
            | _, _ => none
          match disorder 1 entries with
          | none => pure 0
          | some (n, x) =>
            if !p.has "C" && (p.last? "c").all (fun v => v == "diagnose-first") then
              c.blame ((p.operands.head?.getD "-") ++ ":" ++ natText n ++ ": disorder: " ++
                String.ofList x.line)
            pure 1
        else
          let sorted := entries.mergeSort fun a b => order a b != .gt
          let kept :=
            if unique then
              (sorted.foldl (fun (done : List Entry) x =>
                match done with
                | y :: _ => if order y x == .eq then done else x :: done
                | [] => [x]) []).reverse
            else sorted
          let text := String.ofList (Lines.join lineMark (kept.map (·.line)))
          match p.last? "o" with
          | some f =>
            match ← Act.openPath f { writes := true, create := true, truncate := true } with
            | .ok id =>
              discard (Act.writeChannel id text)
              pure 0
            | .error err =>
              c.blame ("open failed: " ++ f ++ ": " ++ err.text)
              pure 2
          | none =>
            Act.print text
            pure 0

/-! ## `uniq` -/

/-- Lines that are alike, in runs. -/
def runs (same : List Char → List Char → Bool) : List (List Char) → List (List (List Char))
  | ls =>
    (ls.foldl (fun (done : List (List (List Char))) l =>
      match done with
      | (x :: xs) :: rest => if same x l then (x :: xs ++ [l]) :: rest else [l] :: done
      | _ => [l] :: done) []).reverse

/-- The program `uniq`. -/
def uniq : Tool := fun _ c =>
  c.withFlags
    { letters := "cdDuif:s:w:z"
      long := [("count", .nothing, "c"), ("repeated", .nothing, "d"),
        ("all-repeated", .maybe, "D"), ("unique", .nothing, "u"), ("ignore-case", .nothing, "i"),
        ("skip-fields", .value, "f"), ("skip-chars", .value, "s"), ("check-chars", .value, "w"),
        ("group", .maybe, "group"), ("zero-terminated", .nothing, "z")] }
    1 fun p => do
    let number (key what : String) : Except String (Option Nat) :=
      match p.last? key with
      | none => .ok none
      | some t =>
        match natText? t with
        | some n => .ok (some n)
        | none => .error (t ++ ": invalid number of " ++ what)
    match number "f" "fields to skip", number "s" "bytes to skip", number "w" "bytes to compare" with
    | .error m, _, _ | _, .error m, _ | _, _, .error m =>
      c.blame m
      pure 1
    | .ok f, .ok s, .ok w =>
      match p.operands with
      | _ :: _ :: x :: _ => c.extraOperand x 1
      | _ =>
        if p.has "c" && p.has "D" then
          c.refuse 1 "printing all duplicated lines and repeat counts is meaningless"
        else
          let mark := if p.has "z" then Char.ofNat 0 else '\n'
          let input := p.operands.head?.getD "-"
          match ← Call.fetch input with
          | .error err =>
            if err = Errno.isFolder then
              c.blame ("error reading " ++ fileQuoted input ++ ": " ++ err.text)
            else c.blameFile input err
            pure 1
          | .ok (cs, cut) =>
            let skip (cs : List Char) : List Char :=
              let rec fields : Nat → List Char → List Char
                | 0, cs => cs
                | n + 1, cs => fields n ((cs.dropWhile isFieldBlank).dropWhile (!isFieldBlank ·))
              fields (f.getD 0) cs
            let part (cs : List Char) : List Char :=
              let cs := (skip cs).drop (s.getD 0)
              let cs := match w with
                | some n => cs.take n
                | none => cs
              if p.has "i" then cs.map Char.toLower else cs
            let rec group : (here : List (List Char)) → (key : List Char) →
                (done : List (List (List Char))) → List (List Char) → List (List (List Char))
              | here, _, done, [] => (if here.isEmpty then done else here.reverse :: done).reverse
              | here, key, done, l :: rest =>
                let k := part l
                if !here.isEmpty && k == key then group (l :: here) key done rest
                else group [l] k (if here.isEmpty then done else here.reverse :: done) rest
            let groups := group [] [] [] (Lines.split mark cs).1
            let head (g : List (List Char)) : List Char := g.head?.getD []
            let countText (g : List (List Char)) : List Char :=
              if p.has "c" then padLeft 7 ' ' (natText g.length).toList ++ [' '] else []
            let shown : List (List Char) :=
              if p.has "D" then
                let many := groups.filter fun g => 1 < g.length
                match p.last? "D" with
                | some "prepend" => many.flatMap fun g => [] :: g
                | some "separate" => (many.intersperse [[]]).flatten
                | _ => many.flatten
              else if p.has "group" then
                match p.last? "group" with
                | some "prepend" => groups.flatMap fun g => [] :: g
                | some "append" => groups.flatMap fun g => g ++ [[]]
                | some "both" => (if groups.isEmpty then [] else [[]]) ++ groups.flatMap fun g => g ++ [[]]
                | _ => (groups.intersperse [[]]).flatten
              else
                (groups.filter fun g =>
                  (!p.has "d" || 1 < g.length) && (!p.has "u" || g.length == 1)).map fun g =>
                  countText g ++ head g
            let text := String.ofList (Lines.join mark shown)
            match p.operands with
            | [_, output] =>
              if output = "-" then Act.print text
              else
                match ← Act.openPath output { writes := true, create := true, truncate := true } with
                | .ok id => discard (Act.writeChannel id text)
                | .error err =>
                  c.blameFile output err
                  return 1
            | _ => Act.print text
            if cut then throw Flow.starved
            pure 0

/-! ## `tsort` -/

/-- Names in an order that pairs of names ask for: those without predecessors first, in turns. If
there are none left, a loop is broken at the first name. -/
def topological (less : List (String × String)) : (fuel : Nat) → List String →
    List String × List (List String)
  | 0, names => (names, [])
  | fuel + 1, names =>
    match names with
    | [] => ([], [])
    | first :: _ =>
      let blocked (n : String) : Bool :=
        less.any fun (a, b) => b == n && a != n && names.contains a
      match names.find? fun n => !blocked n with
      | some n =>
        let (rest, loops) := topological less fuel (names.filter (· != n))
        (n :: rest, loops)
      | none =>
        let (rest, loops) := topological less fuel (names.filter (· != first))
        (first :: rest, [first] :: loops)

/-- Names level by level: those that nothing is left in front of come first. -/
def layers (less : List (String × String)) : (fuel : Nat) → (queue : List String) →
    (left : List String) → (used : List (String × String)) → List String
  | 0, queue, _, _ => queue
  | fuel + 1, queue, left, pairs =>
    match queue with
    | [] => []
    | n :: rest =>
      let (gone, kept) := pairs.partition fun p => p.1 == n
      -- The latest pair of a name is looked at first.
      let freed := (gone.reverse.map (·.2)).filter fun m => !(kept.any fun p => p.2 == m)
      let freed := freed.eraseDups
      n :: layers less fuel (rest ++ freed) (left.filter fun m => !freed.contains m) kept

/-- The program `tsort`. -/
def tsort : Tool := fun _ c =>
  c.withFlags { letters := "", long := Flags.common } 1 fun p => do
    match p.operands with
    | _ :: x :: _ => c.extraOperand x 1
    | operands =>
      let input := operands.head?.getD "-"
      match ← Call.whole input with
      | .error err =>
        c.blameFile input err
        pure 1
      | .ok cs =>
        let words := ((cs.map fun ch => if ch = '\n' ∨ ch = '\t' then ' ' else ch).splitOn ' ').filter
          (!·.isEmpty) |>.map String.ofList
        if words.length % 2 = 1 then
          c.blame (fileTitle input ++ ": input contains an odd number of tokens")
          pure 1
        else
          let rec paired : List String → List (String × String)
            | a :: b :: rest => (a, b) :: paired rest
            | _ => []
          let all := paired words
          let pairs := (all.filter fun p => p.1 != p.2).eraseDups
          let names := words.eraseDups.mergeSort fun a b => decide (a ≤ b)
          let roots := names.filter fun n => !(pairs.any fun p => p.2 == n)
          let ordered := layers pairs (names.length + 1) roots names pairs
          if ordered.length = names.length then
            Act.print (String.join (ordered.map (· ++ "\n")))
            pure 0
          else
            let (ordered, loops) := topological pairs (names.length + 1) names
            for l in loops do
              c.blame (input ++ ": input contains a loop:")
              for n in l do c.blame n
            Act.print (String.join (ordered.map (· ++ "\n")))
            pure 1

/-! ## `shuf` -/

/-- The program `shuf`: the order is as good as any other. -/
def shuf : Tool := fun _ c =>
  c.withFlags
    { letters := "ei:n:o:rz"
      long := [("echo", .nothing, "e"), ("input-range", .value, "i"), ("head-count", .value, "n"),
        ("output", .value, "o"), ("repeat", .nothing, "r"), ("random-source", .value, "source"),
        ("zero-terminated", .nothing, "z")] }
    1 fun p => do
    let seed := (← Act.shell).seed
    let lines : Except String (List (List Char)) ←
      if p.has "e" then pure (.ok (p.operands.map (·.toList)))
      else
        match p.last? "i" with
        | some range =>
          match (range.splitOn "-").map natText? with
          | [some a, some b] =>
            if b + 1 < a then pure (.error ("invalid input range: " ++ curlyQuoted range))
            else pure (.ok ((List.range (b + 1 - a)).map fun n => (natText (a + n)).toList))
          | _ => pure (.error ("invalid input range: " ++ curlyQuoted range))
        | none =>
          match ← Call.whole (p.operands.head?.getD "-") with
          | .ok cs => pure (.ok (Lines.split '\n' cs).1)
          | .error err => pure (.error (fileTitle (p.operands.head?.getD "-") ++ ": " ++ err.text))
    match lines with
    | .error m =>
      c.blame m
      pure 1
    | .ok ls =>
      let keyed := ls.zipIdx.map fun (l, n) => (((n + seed) * 1103515245 + 12345) % 1000003, l)
      let mixed := (keyed.mergeSort fun a b => decide (a.1 ≤ b.1)).map (·.2)
      let mixed := match (p.last? "n").bind natText? with
        | some n => mixed.take n
        | none => mixed
      Act.print (Lines.text mixed)
      pure 0

end Runbook.Shell.Order
