import Std.Data.HashMap
import Runbook.Shell.Text.Format
import Runbook.Shell.Tool.Rules.Basic

/-!
# `Shell/Tool/Rules/Cell` — values and tables

A value is a number, a text, or a piece of input that counts as a number if it looks like one. A
table holds values by keys. Its keys come in the order of the shelves that their hashes put them on,
and on each shelf the key that was looked up last stands in front.

Texts consist of bytes, each of which is a character here.
-/

set_option autoImplicit false

namespace Runbook.Shell.Rules

open Runbook.Shell.Printing (Directive integerText realText)

/-- A value. -/
inductive Cell where
  | unset
  | number (x : Float)
  | text (cs : List Char)
  /-- A part of the input. -/
  | input (cs : List Char)

instance : Inhabited Cell := ⟨.unset⟩

/-! ## Numbers -/

/-- The whole number that a real one is, unless it has more than 64 bits. -/
def wholeNumber? (x : Float) : Option Int :=
  match Real.ofFloat x with
  | .finite negative num den =>
    if num % den ≠ 0 then none
    else
      let n : Int := if negative then -(num / den : Nat) else (num / den : Nat)
      if leastWord ≤ n ∧ n ≤ 18446744073709551616 then some (min n 18446744073709551615) else none
  | _ => none

/-- A number without what stands behind its point. -/
def truncated (x : Float) : Float := if x < 0.0 then x.ceil else x.floor

/-- A number in an integer form, what is too great cut off. -/
def wordOf (x : Float) : Int :=
  match Real.ofFloat (truncated x) with
  | .finite negative num den =>
    if negative then
      if 9223372036854775808 < num / den then -9223372036854775807 else -(num / den : Nat)
    else min (num / den : Nat) 18446744073709551615
  | .infinite negative => if negative then -9223372036854775807 else 18446744073709551615
  | .nan => leastWord

/-- The number at the front of a text. -/
def numberOf (cs : List Char) : Float :=
  let short := cs.length ≤ 15 && cs.all Char.isDigit
  if short then Float.ofNat (ofDigits 10 cs)
  else
    match Real.take? cs with
    | some (x, _) => x.toFloat
    | none => 0.0

/-- The blanks between fields. -/
def isGap (c : Char) : Bool := c == ' ' || c == '\t' || c == '\n'

/-- The number that a piece of input looks like. It begins with a sign, a point or a digit and ends
with a digit or a point. -/
def inputNumber? (cs : List Char) : Option Float :=
  let inner := cs.dropWhile isGap
  match inner with
  | [] => none
  | c :: _ =>
    if !(c.isDigit || c == '+' || c == '-' || c == '.') then none
    else
      let inner := (inner.reverse.dropWhile isGap).reverse
      if !((inner.getLast?).any fun d => d.isDigit || d == '.') then none
      else if inner.length ≤ 15 && inner.all Char.isDigit then some (Float.ofNat (ofDigits 10 inner))
      else
        match Real.take? inner with
        | some (x, []) => some x.toFloat
        | _ => none

namespace Cell

/-- A value as a number. -/
def toNumber : Cell → Float
  | .unset => 0.0
  | .number x => x
  | .text cs | .input cs => numberOf cs

/-- The number that a value is, unless it is a text. -/
def number? : Cell → Option Float
  | .unset => some 0.0
  | .number x => some x
  | .text _ => none
  | .input cs => inputNumber? cs

/-- A value counts as true. -/
def isTrue : Cell → Bool
  | .unset => false
  | .number x => x != 0.0
  | .text cs => !cs.isEmpty
  | .input cs =>
    match inputNumber? cs with
    | some x => x != 0.0
    | none => !cs.isEmpty

/-- A truth as a value. -/
def ofBool (b : Bool) : Cell := .number (if b then 1.0 else 0.0)

end Cell

/-! ## Formats -/

/-- A real number as a directive says. What operations that have no result give is written with a
sign. -/
def realWritten (d : Directive) (letter : Char) (x : Float) : List Char :=
  if x.isNaN then d.fill "-nan".toList else realText d letter (Real.ofFloat x)

/-- A number as a directive of integers says. -/
def wordWritten (d : Directive) (letter : Char) (x : Float) : List Char :=
  let n := wordOf x
  if (letter = 'd' ∨ letter = 'i') ∧ greatestWord < n then integerText d 'u' n
  else integerText d letter n

/-- What prints by a format. -/
structure Formatting where
  /-- Who prints, as faults tell. -/
  name : String
  format : List Char
  /-- The format of numbers. -/
  numbers : List Char

/-- A number in a format that has a single directive for real numbers; `fuel` bounds its length. -/
def numberIn (x : Float) : (fuel : Nat) → List Char → List Char
  | 0, _ => []
  | _ + 1, [] => []
  | fuel + 1, '%' :: '%' :: rest => '%' :: numberIn x fuel rest
  | fuel + 1, '%' :: rest =>
    let (flags, rest) := rest.span fun c => "-+ #0".toList.contains c
    let (width, rest) := rest.span Char.isDigit
    let (precision, rest) : Option Nat × List Char := match rest with
      | '.' :: more =>
        let (ds, final) := more.span Char.isDigit
        (some (ofDigits 10 ds), final)
      | _ => (none, rest)
    let d : Directive :=
      { left := flags.contains '-', plus := flags.contains '+', space := flags.contains ' '
        alternative := flags.contains '#', zero := flags.contains '0'
        width := ofDigits 10 width, precision := precision }
    match rest with
    | c :: rest =>
      if "dioxXu".toList.contains c then wordWritten d c x ++ numberIn x fuel rest
      else realWritten d c x ++ numberIn x fuel rest
    | [] => []
  | fuel + 1, c :: rest => c :: numberIn x fuel rest

/-- A number as a text: whole numbers in full, others in a format. -/
def numberText (format : List Char) (x : Float) : List Char :=
  match wholeNumber? x with
  | some n => (intText n).toList
  | none => numberIn x (format.length + 1) format

namespace Cell

/-- A value as a text, numbers in a format. -/
def toText (format : List Char) : Cell → List Char
  | .unset => []
  | .number x => numberText format x
  | .text cs | .input cs => cs

end Cell

namespace Formatting

/-- The fault of arguments that are missing. -/
def tooFew (f : Formatting) : String :=
  "not enough arguments passed to " ++ f.name ++ "(\"" ++ String.ofList (Raw.joined f.format) ++ "\")"

/-- A number in a directive, or an argument in its place. -/
def takeSize (f : Formatting) (cs : List Char) (args : List Cell) :
    Except String (Option Int × List Char × List Cell) :=
  match cs with
  | '*' :: rest =>
    match args with
    | a :: more => .ok (some (wordOf a.toNumber), rest, more)
    | [] => .error f.tooFew
  | _ =>
    let (ds, rest) := cs.span Char.isDigit
    .ok (if ds.isEmpty then none else some (ofDigits 10 ds), rest, args)

/-- One directive, whose sign has been read; `count` were done before. It gives what is printed, the
rest of the format, and the values left over. -/
def directive (f : Formatting) (count : Nat) (rest : List Char) (args : List Cell) :
    Except String (List Char × List Char × List Cell) := do
  let (flags, rest) := rest.span fun c => "-+ #0".toList.contains c
  let (width, rest, args) ← f.takeSize rest args
  let (precision, rest, args) : Option Int × List Char × List Cell ← match rest with
    | '.' :: more => do
      let (n, more, args) ← f.takeSize more args
      pure (some (n.getD 0), more, args)
    | _ => pure (none, rest, args)
  let rest := rest.dropWhile fun c => c == 'l' || c == 'h'
  let w := width.getD 0
  let d : Directive :=
    { left := flags.contains '-' || w < 0, plus := flags.contains '+'
      space := flags.contains ' ', alternative := flags.contains '#'
      zero := flags.contains '0', width := w.natAbs
      precision := match precision with
        | some n => if n < 0 then none else some n.toNat
        | none => none }
  let improper : String :=
    "improper conversion(number " ++ natText (count + 1) ++ ") in " ++ f.name ++ "(\"" ++
      String.ofList (Raw.joined f.format) ++ "\")"
  match rest with
  | [] => .error improper
  | c :: rest =>
    if !("diouxXcsfFeEgG".toList.contains c) then .error improper
    else
      match args with
      | [] => .error f.tooFew
      | a :: args =>
        let here : List Char :=
          match c with
          | 's' =>
            let cs := a.toText f.numbers
            d.fill (match d.precision with
              | some n => cs.take n
              | none => cs)
          | 'c' =>
            match a.number?, a with
            | some x, _ => d.fill [byteChar (wordOf x).toNat]
            | none, a => d.fill [(a.toText f.numbers).headD (Char.ofNat 0)]
          | _ =>
            if "diouxX".toList.contains c then wordWritten d c a.toNumber
            else realWritten d c a.toNumber
        .ok (here, rest, args)

/-- Prints values by the rest of a format, `count` directives of which have been done; `fuel` bounds
its length. What is printed before a fault is kept. -/
def from_ (f : Formatting) : (fuel : Nat) → (count : Nat) → List Char → List Cell →
    List Char × Option String
  | 0, _, _, _ => ([], none)
  | _ + 1, _, [], _ => ([], none)
  | fuel + 1, count, '%' :: '%' :: rest, args =>
    let (cs, fault) := from_ f fuel count rest args
    ('%' :: cs, fault)
  | fuel + 1, count, '%' :: rest, args =>
    match f.directive count rest args with
    | .error fault => ([], some fault)
    | .ok (here, rest, args) =>
      let (cs, fault) := from_ f fuel (count + 1) rest args
      (here ++ cs, fault)
  | fuel + 1, count, cs, args =>
    let (plain, rest) := cs.span (· != '%')
    let (cs, fault) := from_ f fuel count rest args
    (plain ++ cs, fault)

/-- Prints values by a format; the fault that ends it, if there is one. -/
def all (f : Formatting) (args : List Cell) : List Char × Option String :=
  f.from_ (f.format.length + 1) 0 f.format args

end Formatting

/-! ## Tables -/

/-- A table. -/
structure Table where
  cells : Std.HashMap String Cell := ∅
  /-- The number of shelves. -/
  size : Nat := 64
  /-- The keys on their shelves. -/
  shelves : Array (List String) := Array.replicate 64 []
  /-- Whole numbers that are keys, by their last digits. -/
  numbers : Array (List Int) := Array.replicate 64 []
  /-- All keys stand on the shelves, not only those that are no numbers. -/
  spelled : Bool := false

namespace Table

/-- The hash of a key. -/
def hash (key : String) : Nat :=
  (Raw.bytesOfString key).foldl
    (fun h b => Nat.xor h b.toNat * 16777619 % 4294967296) 2166136261

/-- The shelf of a key. -/
def shelfOf (t : Table) (key : String) : Nat := hash key % t.size

/-- The place of a whole number among the numbers. -/
def placeOf (t : Table) (n : Int) : Nat := (n % t.size).toNat

/-- Puts a key in front of its shelf. -/
def put (t : Table) (key : String) : Table :=
  { t with shelves := t.shelves.modify (t.shelfOf key) (key :: ·) }

/-- Puts all numbers on the shelves that do not stand there. -/
def spell (t : Table) : Table :=
  if t.spelled then t
  else
    let t := t.numbers.foldl (fun t ns => ns.foldl (fun t n => t.put (intText n)) t) t
    { t with spelled := true }

/-- Twice as many shelves for a table that holds many keys. -/
def grown (t : Table) : Table :=
  if t.cells.size ≤ 12 * t.size then t
  else
    let size := 2 * t.size
    let empty : Array (List String) := Array.replicate size []
    let none_ : Array (List Int) := Array.replicate size []
    { t with
      size := size
      shelves := t.shelves.foldl (fun a keys =>
        keys.foldr (fun k a => a.modify (hash k % size) (k :: ·)) a) empty
      numbers := t.numbers.foldl (fun a ns =>
        ns.foldr (fun (n : Int) a => a.modify (n % (size : Int)).toNat (n :: ·)) a) none_ }

/-- Looks a key up, which is there afterwards. -/
def visit (t : Table) (key : String) : Table :=
  let t := t.spell
  if t.cells.contains key then
    let shelf := t.shelfOf key
    if (t.shelves[shelf]?.bind List.head?) == some key then t
    else { t with shelves := t.shelves.modify shelf fun ks => key :: ks.filter (· != key) }
  else grown { t.put key with cells := t.cells.insert key .unset }

/-- Looks a whole number up as a key, which is there afterwards. -/
def visitNumber (t : Table) (n : Int) : Table :=
  let place := t.placeOf n
  if (t.numbers[place]?).any (·.contains n) then
    { t with numbers := t.numbers.modify place fun ns => n :: ns.filter (· != n) }
  else
    let t :=
      if t.spelled then t.visit (intText n)
      else grown { t with cells := t.cells.insert (intText n) .unset }
    { t with numbers := t.numbers.modify (t.placeOf n) (n :: ·) }

/-- A table without a key. -/
def erase (t : Table) (key : String) : Table :=
  let cells := t.cells.erase key
  if cells.isEmpty then {}
  else
    let t := { t with
      cells := cells, shelves := t.shelves.modify (t.shelfOf key) fun ks => ks.filter (· != key) }
    match takeInteger? key.toList with
    | some (n, []) =>
      { t with numbers := t.numbers.modify (t.placeOf n) fun ns => ns.filter fun m => intText m != key }
    | _ => t

/-- The keys in order. -/
def keys (t : Table) : List String := t.spell.shelves.toList.flatten

/-- Sets the value of a key that is there. -/
def set_ (t : Table) (key : String) (c : Cell) : Table := { t with cells := t.cells.insert key c }

/-- Gives a key a value. -/
def insert (t : Table) (key : String) (c : Cell) : Table := (t.visit key).set_ key c

/-- Gives a whole number a value. -/
def insertNumber (t : Table) (n : Int) (c : Cell) : Table := (t.visitNumber n).set_ (intText n) c

end Table

end Runbook.Shell.Rules
