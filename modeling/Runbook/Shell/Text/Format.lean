import Runbook.Shell.Text.Moment
import Runbook.Shell.Text.Quote
import Runbook.Shell.Text.Raw
import Runbook.Shell.Text.Real

/-!
# `Shell/Text/Format` — texts by format

A format is a text with directives, each of which is replaced by an argument in a certain form. The
format is used again as long as there are arguments left. What is wrong with an argument is told,
and its place is taken by what can be made of it.
-/

set_option autoImplicit false

namespace Runbook.Shell

/-- Who prints by format, which decides about the directives and the wording of messages. -/
inductive Voice where
  | rich
  | plain
  /-- A program of its own. -/
  | program
  deriving DecidableEq, Repr

/-- What printing by format amounts to, in order. -/
inductive Printed where
  | text (s : String)
  | fault (s : String)
  /-- A variable that gets the number of bytes so far. -/
  | size (name : String)
  deriving Repr

/-- Where printing by format stands. -/
structure Printing where
  voice : Voice
  arguments : List String
  /-- What has been printed, the latest first. -/
  done : List Printed := []
  failed : Bool := false
  /-- Nothing is printed any more. -/
  stopped : Bool := false

namespace Printing

/-- Prints a text. -/
def put (p : Printing) (cs : List Char) : Printing :=
  if cs.isEmpty then p else { p with done := .text (String.ofList cs) :: p.done }

/-- Tells a fault. -/
def blame (p : Printing) (message : String) : Printing :=
  { p with done := .fault message :: p.done, failed := true }

/-- The next argument, if there is one. -/
def next (p : Printing) : Option String × Printing :=
  match p.arguments with
  | a :: rest => (some a, { p with arguments := rest })
  | [] => (none, p)

/-- The fault of an argument of which nothing can be read. -/
def blameNone (p : Printing) (a : String) : Printing :=
  match p.voice with
  | .rich => p.blame (a ++ ": invalid number")
  | .plain => p.blame (a ++ ": expected numeric value")
  | .program => p.blame (curlyQuoted a ++ ": expected a numeric value")

/-- The fault of an argument of which a part is left over. -/
def blameRest (p : Printing) (a : String) : Printing :=
  match p.voice with
  | .rich => p.blame (a ++ ": invalid number")
  | .plain => p.blame (a ++ ": not completely converted")
  | .program => p.blame (curlyQuoted a ++ ": value not completely converted")

/-- The fault of an argument that is too great. -/
def blameRange (p : Printing) (a : String) : Printing :=
  match p.voice with
  | .rich =>
    { p with done := .fault ("warning: " ++ a ++ ": Numerical result out of range") :: p.done }
  | .plain => p.blame (a ++ ": Numerical result out of range")
  | .program => p.blame (curlyQuoted a ++ ": Numerical result out of range")

/-- The number of the character behind a quote. -/
def quotedNumber? (voice : Voice) : List Char → Option Int
  | q :: cs =>
    if q = '\'' ∨ q = '"' then
      match cs with
      | c :: _ =>
        if voice = .rich ∨ voice = .program then some c.toNat
        else some (((Raw.bytesOfChar c).head?.map (·.toNat)).getD 0 : Nat)
      | [] => some 0
    else none
  | [] => none

/-- The next argument as an integer. -/
def integer (p : Printing) (isSigned : Bool) : Int × Printing :=
  match p.next with
  | (none, p) => (0, p)
  | (some a, p) =>
    match quotedNumber? p.voice a.toList with
    | some n => (n, p)
    | none =>
      if a = "" then (0, if p.voice = .program then p.blameNone a else p)
      else
        match takeInteger? a.toList with
        | none => (0, p.blameNone a)
        | some (n, rest) =>
          let (low, high) : Int × Int :=
            if isSigned then (leastWord, greatestWord)
            else (-18446744073709551615, 18446744073709551615)
          let p := if n < low ∨ high < n then p.blameRange a else p
          let p := if rest.isEmpty then p else p.blameRest a
          (max low (min high n), p)

/-- The next argument as a real number. -/
def real (p : Printing) : Real × Printing :=
  match p.next with
  | (none, p) => (.ofInt 0, p)
  | (some a, p) =>
    match quotedNumber? p.voice a.toList with
    | some n => (.ofInt n, p)
    | none =>
      if a = "" then (.ofInt 0, if p.voice = .program then p.blameNone a else p)
      else
        match Real.take? a.toList with
        | none => (.ofInt 0, p.blameNone a)
        | some (x, rest) =>
          let x := if p.voice = .plain then Real.ofFloat x.toFloat else x.extended
          (x, if rest.isEmpty then p else p.blameRest a)

/-- A directive of a format. -/
structure Directive where
  left : Bool := false
  plus : Bool := false
  space : Bool := false
  alternative : Bool := false
  zero : Bool := false
  width : Nat := 0
  precision : Option Nat := none

/-- A text filled up to the width of a directive, in bytes. -/
def Directive.fill (d : Directive) (cs : List Char) : List Char :=
  let missing := d.width - Raw.size cs
  if d.left then cs ++ List.replicate missing ' ' else List.replicate missing ' ' ++ cs

/-- A number with a sign, filled up to the width of a directive. -/
def Directive.fillNumber (d : Directive) (sign body : List Char) (zeros : Bool) : List Char :=
  if d.zero && zeros && !d.left then
    sign ++ padLeft (d.width - sign.length) '0' body
  else d.fill (sign ++ body)

/-- The first bytes of a text. -/
def firstBytes (count : Nat) (cs : List Char) : List Char :=
  if Raw.size cs ≤ count then cs else (Raw.split cs).take count

/-- The sign of a number. -/
def Directive.signOf (d : Directive) (negative : Bool) : List Char :=
  if negative then ['-'] else if d.plus then ['+'] else if d.space then [' '] else []

/-- An integer in the form of a letter. -/
def integerText (d : Directive) (letter : Char) (n : Int) : List Char :=
  let digits (base : Nat) (capital : Bool) (n : Nat) : List Char :=
    if n = 0 ∧ d.precision = some 0 then [] else padLeft (d.precision.getD 1) '0' (inBase capital base n)
  match letter with
  | 'd' | 'i' => d.fillNumber (d.signOf (n < 0)) (digits 10 false n.natAbs) d.precision.isNone
  | _ =>
    let m := unsignedWord n
    match letter with
    | 'o' =>
      let ds := digits 8 false m
      let ds := if d.alternative && ds.head? != some '0' then '0' :: ds else ds
      d.fillNumber [] ds d.precision.isNone
    | 'x' =>
      d.fillNumber (if d.alternative && m != 0 then ['0', 'x'] else []) (digits 16 false m)
        d.precision.isNone
    | 'X' =>
      d.fillNumber (if d.alternative && m != 0 then ['0', 'X'] else []) (digits 16 true m)
        d.precision.isNone
    | _ => d.fillNumber [] (digits 10 false m) d.precision.isNone

/-- A real number in the form of a letter. -/
def realText (d : Directive) (letter : Char) (x : Real) : List Char :=
  let form : Real.Form :=
    match letter.toLower with
    | 'f' => .fixed
    | 'e' => .scientific
    | 'a' => .hexadecimal
    | _ => .general
  let isFinite := match x with
    | .finite .. => true
    | _ => false
  let body := Real.magnitude form d.precision d.alternative letter.isUpper x
  d.fillNumber (d.signOf x.isNegative) body isFinite

/-- A number in a directive, or an argument in its place, and the rest of the format. -/
def takeSize (p : Printing) (cs : List Char) : Option Int × List Char × Printing :=
  match cs with
  | '*' :: rest =>
    let (n, p) := p.integer true
    (some n, rest, p)
  | _ =>
    let (ds, rest) := cs.span Char.isDigit
    (if ds.isEmpty then none else some (ofDigits 10 ds), rest, p)

/-- One directive, whose sign has been read. Nothing is left if printing has to end. -/
def directive (p : Printing) (cs : List Char) : Printing × List Char :=
  let (flags, rest) := cs.span fun c =>
    "-+ #0".toList.contains c || (c == '\'' && p.voice != .plain)
  let d : Directive :=
    { left := flags.contains '-'
      plus := flags.contains '+'
      space := flags.contains ' '
      alternative := flags.contains '#'
      zero := flags.contains '0' }
  let (width, rest, p) := p.takeSize rest
  let d := match width with
    | some n => if n < 0 then { d with left := true, width := n.natAbs } else { d with width := n.toNat }
    | none => d
  let (d, rest, p) : Directive × List Char × Printing :=
    match rest with
    | '.' :: more =>
      let (n, more, p) := p.takeSize more
      match n with
      | some n => ({ d with precision := if n < 0 then none else some n.toNat }, more, p)
      | none => ({ d with precision := some 0 }, more, p)
    | _ => (d, rest, p)
  let rest := if p.voice = .plain then rest
    else rest.dropWhile fun c => "hjlLtz".toList.contains c
  let shown := '%' :: cs.take (cs.length - rest.length)
  match rest with
  | [] =>
    let message := match p.voice with
      | .rich => "\x60" ++ String.ofList shown ++ "': missing format character"
      | .plain => "missing format character"
      | .program => String.ofList shown ++ ": invalid conversion specification"
    ({ p.blame message with stopped := true }, [])
  | c :: more =>
    let bad : Printing × List Char :=
      let message := match p.voice with
        | .rich => "\x60" ++ String.singleton c ++ "': invalid format character"
        | .plain => String.ofList (shown ++ [c]) ++ ": invalid directive"
        | .program => String.ofList (shown ++ [c]) ++ ": invalid conversion specification"
      ({ p.blame message with stopped := true }, [])
    match c with
    | 's' =>
      let (a, p) := p.next
      let cs := (a.getD "").toList
      let cs := match d.precision with
        | some n => firstBytes n cs
        | none => cs
      (p.put (d.fill cs), more)
    | 'c' =>
      let (a, p) := p.next
      match a.getD "" |>.toList with
      | [] => (p.put (d.fill [Char.ofNat 0]), more)
      | c :: _ => (p.put (d.fill ((Raw.split [c]).take 1)), more)
    | 'b' =>
      let (a, p) := p.next
      let cs := (a.getD "").toList
      let (text, stop, missing) := unescape (p.voice != .plain) .argument (cs.length + 1) [] [] cs
      let p := missing.foldl (fun p l =>
        p.blame ("missing " ++ (if l = 'x' then "hex" else "unicode") ++ " digit for \\" ++
          String.singleton l)) p
      let text := match d.precision with
        | some n => firstBytes n text
        | none => text
      ({ p.put (d.fill text) with stopped := stop }, if stop then [] else more)
    | 'q' =>
      if p.voice = .plain then bad
      else
        let (a, p) := p.next
        let quoted :=
          if p.voice = .rich then backslashed (a.getD "") else fileName (a.getD "")
        let text := match d.precision with
          | some n => firstBytes n quoted.toList
          | none => quoted.toList
        (p.put (d.fill text), more)
    | 'Q' =>
      if p.voice ≠ .rich then bad
      else
        let (a, p) := p.next
        -- A precision is that of the text before it is quoted.
        let text := match d.precision with
          | some n => String.ofList (firstBytes n (a.getD "").toList)
          | none => a.getD ""
        (p.put ({ d with precision := none }.fill (backslashed text).toList), more)
    | 'n' =>
      if p.voice ≠ .rich then bad
      else
        match p.next with
        | (some a, p) => ({ p with done := .size a :: p.done }, more)
        | (none, p) => (p, more)
    | '(' =>
      match p.voice, more.span (· != ')') with
      | .rich, (form, ')' :: 'T' :: final) =>
        let (n, p) := if p.arguments.isEmpty then (-1, p) else p.integer true
        let t := Moment.ofEpoch (if n < 0 then 0 else n) 0
        (p.put (d.fill (t.written (String.ofList form)).toList), final)
      | _, _ => bad
    | _ =>
      if "dioxXu".toList.contains c then
        let (n, p) := p.integer (c == 'd' || c == 'i')
        (p.put (integerText d c n), more)
      else if "fFeEgGaA".toList.contains c then
        let (x, p) := p.real
        (p.put (realText d c x), more)
      else bad

/-- Prints by the rest of a format once. -/
def once (p : Printing) : (fuel : Nat) → List Char → Printing
  | 0, _ => p
  | _ + 1, [] => p
  | fuel + 1, '%' :: '%' :: rest => once (p.put ['%']) fuel rest
  | fuel + 1, '%' :: rest =>
    let (p, rest) := p.directive rest
    if p.stopped then p else once p fuel rest
  | fuel + 1, '\\' :: rest =>
    match p.voice, rest with
    | .program, 'c' :: _ => { p with stopped := true }
    | _, _ =>
      match takeEscape (p.voice != .plain) .format rest with
      | (.text cs, more) => once (p.put cs) fuel more
      | (.stop, _) => { p with stopped := true }
      | (.missing l, more) =>
        let p := match p.voice with
          | .program => { p.blame "missing hexadecimal number in escape" with stopped := true }
          | _ =>
            { p with done := .fault ("missing " ++ (if l = 'x' then "hex" else "unicode") ++
                " digit for \\" ++ String.singleton l) :: p.done }
        if p.stopped then p else once (p.put ['\\', l]) fuel more
  | fuel + 1, cs =>
    let (plain, rest) := cs.span fun c => c != '%' && c != '\\'
    once (p.put plain) fuel rest

/-- Prints by a format as long as there are arguments; `fuel` bounds their number. -/
def all (format : List Char) : (fuel : Nat) → Printing → Printing
  | 0, p => p
  | fuel + 1, p =>
    let before := p.arguments.length
    let p := p.once (format.length + 1) format
    if p.stopped || p.arguments.isEmpty || p.arguments.length == before then p
    else all format fuel p

end Printing

/-- What printing by a format amounts to, whether something failed, and the arguments left over. -/
def printFormat (voice : Voice) (format : String) (arguments : List String) :
    List Printed × Bool × List String :=
  let p := Printing.all format.toList (arguments.length + 1) { voice, arguments }
  (p.done.reverse, p.failed, if p.stopped then [] else p.arguments)

end Runbook.Shell
