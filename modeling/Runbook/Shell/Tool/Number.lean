import Runbook.Shell.Regex.Read
import Runbook.Shell.Text.Format
import Runbook.Shell.Tool.Lines

/-!
# `Shell/Tool/Number` — programs that compute

`seq`, `expr`, `factor`.
-/

set_option autoImplicit false

namespace Runbook.Shell.Number

/-! ## `seq` -/

/-- A number of `seq` in writing: its value as a quotient, and how many places and characters it
takes. Without places it is written as short as possible. -/
structure Term where
  num : Int
  den : Nat
  width : Nat
  places : Option Nat

/-- How many characters are in front of an exponent, and the exponent. -/
def exponentOf? (cs : List Char) : Option (List Char × Int) :=
  match cs.span fun c => c != 'e' && c != 'E' with
  | (front, _ :: rest) =>
    match takeDecimal? rest with
    | some (n, _) => some (front, n)
    | none => some (front, 0)
  | (_, []) => none

/-- A term from its text. -/
def termOf? (text : String) : Option Term :=
  let cs := text.toList.dropWhile fun c => isNumberSpace c || c == '+'
  match Real.take? cs with
  | some (.infinite negative, []) =>
    -- Nobody counts that far.
    some ⟨if negative then -Nat.pow 10 18 else Nat.pow 10 18, 1, 0, some 0⟩
  | some (.finite negative num den, []) =>
    let value : Int := if negative then -num else num
    if cs.any fun c => c == 'x' || c == 'X' then
      some ⟨value, den, 0, if cs.contains '.' || cs.contains 'p' then none else some 0⟩
    else
      let exponent := exponentOf? cs
      let front := (exponent.map (·.1)).getD cs
      let (whole, fraction) := front.span (· != '.')
      let pointed := !fraction.isEmpty
      let fractionLength := fraction.length - 1
      let isBare := match whole.getLast? with
        | some d => !d.isDigit
        | none => true
      let width : Int :=
        cs.length + (if !pointed then 0 else if fractionLength = 0 then -1 else if isBare then 1 else 0)
      let (width, places) : Int × Nat :=
        match exponent with
        | none => (width, fractionLength)
        | some (front, power) =>
          let width := width - (cs.length - front.length : Nat)
          if power < 0 then
            let extra : Int := if pointed then (if fractionLength = 0 then 1 else 0) else 1
            (width + extra + -power, fractionLength + power.natAbs)
          else
            let places := fractionLength - min fractionLength power.toNat
            let less : Int := if pointed && places == 0 && fractionLength != 0 then -1 else 0
            (width + less + (power - min (fractionLength : Int) power), places)
      some ⟨value, den, width.toNat, some places⟩
  | _ => none

/-- A quotient with so many places. -/
def placed (num : Int) (den places : Nat) : List Char :=
  let digits := Real.fixedDigits places false num.natAbs den
  if num < 0 then '-' :: digits else digits

/-- The words of a call of `seq`: what looks like a negative number is no option. -/
def seqWords : List String → List String
  | [] => []
  | a :: rest =>
    match a.toList with
    | ['-', '-'] => a :: rest
    | '-' :: c :: _ =>
      if c.isDigit || c == '.' then "--" :: a :: rest
      else if a = "-s" ∨ a = "-f" then
        match rest with
        | v :: more => a :: v :: seqWords more
        | [] => [a]
      else a :: seqWords rest
    | _ => "--" :: a :: rest

/-- What a format of `seq` lacks, if it is not right. -/
def formatFault? (format : String) : Option String :=
  let rec directives : Nat → List Char → List (List Char)
    | 0, _ => []
    | _ + 1, [] => []
    | fuel + 1, '%' :: '%' :: rest => directives fuel rest
    | fuel + 1, '%' :: rest => rest :: directives fuel rest
    | fuel + 1, _ :: rest => directives fuel rest
  match directives (format.length + 1) format.toList with
  | [] => some ("format " ++ curlyQuoted format ++ " has no % directive")
  | first :: more =>
    let isFlag (c : Char) : Bool := "-+#0 '".toList.contains c
    let rest := (first.dropWhile isFlag).dropWhile Char.isDigit
    let rest := match rest with
      | '.' :: places => places.dropWhile Char.isDigit
      | _ => rest
    let rest := if rest.head? == some 'L' then rest.drop 1 else rest
    match rest with
    | [] => some ("format " ++ curlyQuoted format ++ " ends in %")
    | c :: _ =>
      if !"efgaEFGA".toList.contains c then
        some ("format " ++ curlyQuoted format ++ " has unknown %" ++ String.singleton c ++
          " directive")
      else if !more.isEmpty then
        some ("format " ++ curlyQuoted format ++ " has too many % directives")
      else none

/-- The program `seq`. -/
def seq : Tool := fun _ c =>
  { c with args := seqWords c.args }.withFlags
    { letters := "f:s:w", inFront := true
      long := [("format", .value, "f"), ("separator", .value, "s"), ("equal-width", .nothing, "w")] }
    1 fun p => do
    let refused (o : String) : Act Nat :=
      c.refuse 1 (if (Real.take? o.toList).any fun (r : Real × List Char) => r.1 = Real.nan ∧ r.2.isEmpty then
          "invalid " ++ curlyQuoted "not-a-number" ++ " argument: " ++ curlyQuoted o
        else "invalid floating point argument: " ++ curlyQuoted o)
    match p.operands with
    | [] => c.refuse 1 "missing operand"
    | _ :: _ :: _ :: extra :: _ => c.refuse 1 ("extra operand " ++ curlyQuoted extra)
    | operands =>
      let format := p.last? "f"
      match format.bind formatFault? with
      | some fault => do
        c.blame fault
        pure 1
      | none =>
        if format.isSome && p.has "w" then
          c.refuse 1 "format string may not be specified when printing equal width strings"
        else
          match operands.find? fun o => (termOf? o).isNone with
          | some o => refused o
          | none =>
            let one : Term := ⟨1, 1, 1, some 0⟩
            let (first, step, last) : Term × Term × Term :=
              match operands.filterMap termOf? with
              | [last] => (one, one, last)
              | [first, last] => (first, one, last)
              | first :: step :: last :: _ => (first, step, last)
              | [] => (one, one, one)
            if step.num = 0 then
              c.refuse 1 ("invalid Zero increment value: " ++
                curlyQuoted ((operands.drop 1).head?.getD ""))
            else
              let places : Option Nat :=
                match first.places, step.places, last.places with
                | some a, some b, some _ => some (max a b)
                | _, _, _ => none
              let width : Nat :=
                match places with
                | some n =>
                  if !p.has "w" then 0
                  else
                    let extra (t : Term) : Nat := if t.places == some 0 && 0 < n then 1 else 0
                    let a := first.width + (n - first.places.getD 0) + extra first
                    let b := last.width + n - last.places.getD 0 + extra last
                    let b := if last.places.getD 0 != 0 && n == 0 then b - 1 else b
                    max a b
                | none => 0
              -- All terms over one denominator.
              let den := first.den * step.den * last.den
              let a := first.num * (step.den * last.den : Nat)
              let d := step.num * (first.den * last.den : Nat)
              let z := last.num * (first.den * step.den : Nat)
              let count : Nat :=
                if 0 < d then (if z < a then 0 else ((z - a) / d).toNat + 1)
                else (if a < z then 0 else ((a - z) / -d).toNat + 1)
              let separator := (p.last? "s").getD "\n"
              let shown (n : Nat) : String :=
                let v := a + d * n
                match format with
                | some f =>
                  let text := String.ofList (placed v den 40)
                  String.join ((printFormat .rich f [text]).1.map fun (x : Printed) =>
                    match x with
                    | .text s => s
                    | _ => "")
                | none =>
                  let digits := match places with
                    | some n => placed v den n
                    | none =>
                      let body := Real.generalDigits 6 false false v.natAbs den
                      if v < 0 then '-' :: body else body
                  let padded :=
                    if digits.length < width then
                      let zeros := List.replicate (width - digits.length) '0'
                      match digits with
                      | '-' :: ds => '-' :: zeros ++ ds
                      | _ => zeros ++ digits
                    else digits
                  String.ofList padded
              -- Written in parts, since nobody may want all of them.
              let rec write : (fuel : Nat) → (n : Nat) → Act Unit
                | 0, _ => pure ()
                | fuel + 1, n => do
                  let part := min 4096 (count - n)
                  if 0 < part then
                    let texts := (List.range part).map fun k =>
                      shown (n + k) ++ (if n + k + 1 = count then "\n" else separator)
                    Act.print (String.join texts)
                    if (← get).world.fault.isNone then write fuel (n + part)
              write (count / 4096 + 1) 0
              pure 0

/-! ## `expr` -/

/-- Why an expression has no value. -/
inductive ExprFault where
  | told (text : String)
  /-- The words are no expression. -/
  | misread (text : String)

/-- A value and the words that are left, or what is wrong. -/
abbrev Expr := Except ExprFault (String × List String)

/-- A value that stands for false. -/
def isNothing (s : String) : Bool :=
  s = "" || (let cs := s.toList
    let ds := if cs.head? == some '-' then cs.drop 1 else cs
    !ds.isEmpty && ds.all (· == '0'))

/-- A text as an integer. -/
def integer? (s : String) : Option Int :=
  let cs := s.toList
  let (negative, ds) := match cs with
    | '-' :: rest => (true, rest)
    | _ => (false, cs)
  if ds.isEmpty || !ds.all Char.isDigit then none
  else
    let n : Int := ofDigits 10 ds
    some (if negative then -n else n)

/-- What the beginning of a text gives under a basic expression: the first group, or how long it is.
-/
def matched (text pattern : String) : Except ExprFault String :=
  match Regex.read { lenient := true } pattern with
  | .error fault => .error (.told fault.message)
  | .ok (r, groups) =>
    let s := Subject.ofList text.toList
    match r.matchAt? s 0 with
    | some (last, gs) =>
      if 0 < groups then .ok ((Regex.groupText s gs 1).elim "" String.ofList) else .ok (natText last)
    | none => .ok (if 0 < groups then "" else "0")

/-- A comparison of two texts, as numbers if both are. -/
def compared (op a b : String) : Bool :=
  let order : Ordering := match integer? a, integer? b with
    | some m, some n => compare m n
    | _, _ => compare a b
  match op with
  | "<" => order == .lt
  | "<=" => order != .gt
  | ">" => order == .gt
  | ">=" => order != .lt
  | "!=" => order != .eq
  | _ => order == .eq

/-- The value of two integers. -/
def arithmetic (op a b : String) : Except ExprFault String :=
  match integer? a, integer? b with
  | some m, some n =>
    match op with
    | "+" => .ok (intText (m + n))
    | "-" => .ok (intText (m - n))
    | "*" => .ok (intText (m * n))
    | "/" => if n = 0 then .error (.told "division by zero") else .ok (intText (Int.tdiv m n))
    | _ => if n = 0 then .error (.told "division by zero") else .ok (intText (Int.tmod m n))
  | _, _ => .error (.told "non-integer argument")

/-- The operators, from the loosest to the tightest. -/
def exprLevels : List (List String) :=
  [["|"], ["&"], ["<", "<=", "=", "==", "!=", ">=", ">"], ["+", "-"], ["*", "/", "%"], [":"]]

/-- The value of two values. -/
def combined (op a b : String) : Except ExprFault String :=
  match op with
  | "|" => .ok (if isNothing a then (if isNothing b then "0" else b) else a)
  | "&" => .ok (if isNothing a || isNothing b then "0" else a)
  | ":" => matched a b
  | "+" | "-" | "*" | "/" | "%" => arithmetic op a b
  | _ => .ok (if compared op a b then "1" else "0")

/-- The words of an expression that were read last, for the message that one is missing. -/
def missingAfter (all rest : List String) : ExprFault :=
  let read := all.take (all.length - rest.length)
  match read.getLast? with
  | some w => .misread ("missing argument after " ++ curlyQuoted w)
  | none => .misread "missing argument"

/-- A value and all that operators of one level put behind it. A part that does not count is not
computed. -/
def chained (ops : List String) (part : (counts : Bool) → List String → Expr) (counts : Bool) :
    (fuel : Nat) → String × List String → Expr
  | 0, x => .ok x
  | fuel + 1, (a, rest) =>
    match rest with
    | op :: more =>
      if ops.contains op then do
        let goesOn := counts &&
          (if op = "|" then isNothing a else if op = "&" then !isNothing a else true)
        let (b, rest) ← part goesOn more
        let v ← if counts then combined op a b else .ok a
        chained ops part counts fuel (v, rest)
      else .ok (a, rest)
    | [] => .ok (a, rest)

/-- A value from words on, by the operators of some levels; `fuel` bounds the depth. -/
def value (all : List String) : (fuel : Nat) → (counts : Bool) → List (List String) →
    List String → Expr
  | 0, _, _, ws => .error (missingAfter all ws)
  | fuel + 1, counts, [], ws =>
    match ws with
    | [] => .error (missingAfter all ws)
    | "+" :: w :: rest => .ok (w, rest)
    | "(" :: rest => do
      let (v, rest) ← value all fuel counts exprLevels rest
      match rest with
      | ")" :: rest => .ok (v, rest)
      | w :: _ => .error (.misread ("expecting ')' instead of " ++ curlyQuoted w))
      | [] =>
        .error (.misread ("expecting ')' after " ++ curlyQuoted (all.getLast?.getD "")))
    | ")" :: _ => .error (.misread "unexpected ')'")
    | "length" :: rest => do
      let (v, rest) ← value all fuel counts [] rest
      .ok (natText v.length, rest)
    | "match" :: rest => do
      let (a, rest) ← value all fuel counts [] rest
      let (b, rest) ← value all fuel counts [] rest
      if counts then .ok (← matched a b, rest) else .ok ("", rest)
    | "index" :: rest => do
      let (a, rest) ← value all fuel counts [] rest
      let (b, rest) ← value all fuel counts [] rest
      let set := b.toList
      let n := (a.toList.findIdx? fun x => set.contains x).elim 0 (· + 1)
      .ok (natText n, rest)
    | "substr" :: rest => do
      let (a, rest) ← value all fuel counts [] rest
      let (m, rest) ← value all fuel counts [] rest
      let (n, rest) ← value all fuel counts [] rest
      match integer? m, integer? n with
      | some m, some n =>
        if m ≤ 0 ∨ n ≤ 0 then .ok ("", rest)
        else .ok (String.ofList ((a.toList.drop (m.toNat - 1)).take n.toNat), rest)
      | _, _ => .ok ("", rest)
    | w :: rest => .ok (w, rest)
  | fuel + 1, counts, ops :: levels, ws => do
    let first ← value all fuel counts levels ws
    chained ops (fun counts ws => value all fuel counts levels ws) counts ws.length first

/-- The program `expr`. -/
def expr : Tool := fun _ c => do
  let words := if c.args.head? = some "--" then c.args.drop 1 else c.args
  if words.isEmpty then c.refuse 2 "missing operand"
  else
    let fault (f : ExprFault) : Act Nat := do
      match f with
      | .told text => c.blame text
      | .misread text => c.blame ("syntax error: " ++ text)
      pure 2
    match value words (words.length * 8 + 16) true exprLevels words with
    | .ok (v, []) =>
      Act.print (v ++ "\n")
      pure (if isNothing v then 1 else 0)
    | .ok (_, w :: _) => fault (.misread ("unexpected argument " ++ curlyQuoted w))
    | .error f => fault f

/-! ## `factor` -/

/-- The prime factors of a number from a divisor on; `fuel` bounds the steps. -/
def factorsFrom : (fuel : Nat) → (divisor n : Nat) → List Nat
  | 0, _, n => if n ≤ 1 then [] else [n]
  | fuel + 1, d, n =>
    if n ≤ 1 then []
    else if n < d * d then [n]
    else if n % d = 0 then d :: factorsFrom fuel d (n / d)
    else factorsFrom fuel (if d = 2 then 3 else d + 2) n

/-- The program `factor`. -/
def factor : Tool := fun _ c =>
  c.withFlags { letters := "", long := [("help", .nothing, "help"), ("version", .nothing, "version")] } 1 fun p => do
    let mut ok := true
    let mut words := p.operands
    if words.isEmpty then
      match ← Act.readAll 0 with
      | .ok cs => words := (Lines.words isNumberSpace cs).map String.ofList
      | .error _ => words := []
    for w in words do
      let digits := w.toList.dropWhile fun x => isNumberSpace x || x == '+'
      if digits.isEmpty || !digits.all Char.isDigit then
        c.blame (curlyQuoted w ++ " is not a valid positive integer")
        ok := false
      else
        let n := ofDigits 10 digits
        let fs := factorsFrom 2000000 2 n
        Act.print (natText n ++ ":" ++ String.join (fs.map (" " ++ natText ·)) ++ "\n")
    pure (if ok then 0 else 1)

end Runbook.Shell.Number
