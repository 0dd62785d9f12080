import Runbook.Shell.Text.Real
import Runbook.Shell.Tool.Digest.Rounds
import Runbook.Shell.Tool.Lines

/-!
# `Shell/Tool/Dump` — bytes as numbers

`od` writes its input in lines of so many bytes, as numbers, characters or names, in as many ways as
are asked for. Fields of different ways stand below each other where they tell the same bytes. Lines
that repeat the one before are left out.
-/

set_option autoImplicit false

namespace Runbook.Shell.Dump

/-- A way to show bytes. -/
inductive Way where
  | named
  | characters
  | signed
  | unsigned
  | octal
  | hexadecimal
  | real
  deriving DecidableEq

/-- What is shown in a line. -/
structure Format where
  way : Way
  /-- The bytes of a field. -/
  size : Nat
  /-- The characters stand behind the line. -/
  trails : Bool := false

/-- The names of the first characters. -/
def names : List String :=
  ["nul", "soh", "stx", "etx", "eot", "enq", "ack", "bel", "bs", "ht", "nl", "vt", "ff", "cr", "so",
    "si", "dle", "dc1", "dc2", "dc3", "dc4", "nak", "syn", "etb", "can", "em", "sub", "esc", "fs",
    "gs", "rs", "us", "sp"]

/-- A byte can be shown as it is. -/
def isPrintable (b : UInt8) : Bool := 32 ≤ b && b < 127

/-- The mark of a byte that is written with a backslash. -/
def escape? (b : UInt8) : Option String :=
  match b with
  | 0 => some "\\0"
  | 7 => some "\\a"
  | 8 => some "\\b"
  | 9 => some "\\t"
  | 10 => some "\\n"
  | 11 => some "\\v"
  | 12 => some "\\f"
  | 13 => some "\\r"
  | _ => none

/-- A byte in three octal digits. -/
def octal3 (b : UInt8) : List Char := padLeft 3 '0' (inBase false 8 b.toNat)

namespace Format

/-- The columns of a field. -/
def width (f : Format) : Nat :=
  match f.way with
  | .named | .characters => 3
  | .hexadecimal => 2 * f.size
  | .octal => (8 * f.size + 2) / 3
  | .signed => [4, 6, 0, 11, 0, 0, 0, 20].getD (f.size - 1) 0
  | .unsigned => [3, 5, 0, 10, 0, 0, 0, 20].getD (f.size - 1) 0
  | .real => if f.size = 4 then 15 else 24

/-- A number of so many bits of which the first tells the sign. -/
def signedValue (bits n : Nat) : Int := if 2 * n < Nat.pow 2 bits then n else n - Nat.pow 2 bits

/-- The number in single precision that four bytes are. -/
def single (bits : Nat) : Real :=
  let negative := bits / Nat.pow 2 31 = 1
  let exponent := bits / Nat.pow 2 23 % 256
  let fraction := bits % Nat.pow 2 23
  if exponent = 255 then (if fraction = 0 then .infinite negative else .nan)
  else
    let (m, e) : Nat × Int :=
      if exponent = 0 then (fraction, -149) else (fraction + Nat.pow 2 23, exponent - 150)
    let (top, bottom) := Real.scaled 2 m 1 e
    .finite negative top bottom

/-- The value that decimal digits denote, rounded to a precision, is some fraction. -/
def denotes (precision : Nat) (least : Int) (num den : Nat) (digits : List Char) : Bool :=
  match Real.take? digits with
  | some (.finite _ a b, _) =>
    let (top, bottom) := Double.rounded precision least a b
    top * den == num * bottom
  | _ => false

/-- A real number with as few digits as tell it from others. -/
def realText (size : Nat) (x : Real) : List Char :=
  let (precision, least, few) : Nat × Int × Nat := if size = 4 then (24, -149, 6) else (53, -1074, 15)
  match x with
  | .finite negative num den =>
    let isSmall := num * Nat.pow 2 (if size = 4 then 126 else 1022) < den
    let few := if isSmall then 1 else few
    let texts := (List.range 17).map fun n => Real.generalDigits (few + n) false false num den
    let text := (texts.find? (denotes precision least num den)).getD (texts.getLastD [])
    (if negative then ['-'] else []) ++ text
  | r => (if r.isNegative then ['-'] else []) ++ Real.magnitude .general none false false r

/-- The bytes of a field in writing. -/
def field (f : Format) (big : Bool) (bytes : List UInt8) : List Char :=
  let n := if big then Digest.bigValue bytes else Digest.littleValue bytes
  match f.way with
  | .hexadecimal => padLeft f.width '0' (inBase false 16 n)
  | .octal => padLeft f.width '0' (inBase false 8 n)
  | .unsigned => (natText n).toList
  | .signed => (intText (signedValue (8 * f.size) n)).toList
  | .real => realText f.size (if f.size = 4 then single n else Real.ofFloat (Float.ofBits (UInt64.ofNat n)))
  | .named =>
    let low := n % 128
    if low = 127 then "del".toList
    else match names[low]? with
      | some name => name.toList
      | none => [Char.ofNat low]
  | .characters =>
    let b := UInt8.ofNat n
    match escape? b with
    | some e => e.toList
    | none => if isPrintable b then [Char.ofNat b.toNat] else octal3 b

end Format

/-- How a dump is written. -/
structure Layout where
  formats : List Format
  /-- The bytes of a line. -/
  width : Nat
  big : Bool := false
  /-- The base of the places, and how wide they are; there may be none. -/
  radix : Option (Nat × Nat) := some (8, 7)
  repeats : Bool := false

namespace Layout

/-- The columns that the widest way needs for a line. -/
def columns (l : Layout) : Nat :=
  l.formats.foldl (fun n f => max n ((f.width + 1) * (l.width / f.size))) 0

/-- A place in writing. -/
def place (l : Layout) (n : Nat) : List Char :=
  match l.radix with
  | some (base, width) => padLeft width '0' (inBase false base n)
  | none => []

/-- The fields of a line in one way. `count` is how many fields a full line has; what is not filled
is left out. -/
def fields (l : Layout) (f : Format) (bytes : List UInt8) : List Char :=
  let count := l.width / f.size
  let pad := l.columns - f.width * count
  let blank := (l.width - bytes.length) / f.size
  let groups := Digest.pieces f.size (bytes ++ List.replicate (l.width - bytes.length) 0)
  let text := ((groups.take (count - blank)).zipIdx.flatMap fun (g, n) =>
    let i := count - n
    let here := pad * i / count
    let next := pad * (i - 1) / count
    padLeft (here - next + f.width) ' ' (f.field l.big g))
  let trail :=
    if f.trails then
      List.replicate (blank * f.width + pad * blank / count) ' ' ++ "  >".toList ++
        (bytes.map fun b => if isPrintable b then Char.ofNat b.toNat else '.') ++ ['<']
    else []
  text ++ trail

/-- The lines of some bytes in all ways. -/
def block (l : Layout) (n : Nat) (bytes : List UInt8) : List Char :=
  let indent := match l.radix with
    | some (_, width) => List.replicate width ' '
    | none => []
  l.formats.zipIdx.flatMap fun (f, i) =>
    (if i = 0 then l.place n else indent) ++ l.fields f bytes ++ ['\n']

/-- The dump of bytes from a place on; `before` is the line before, and `marked` tells that it has
been marked as repeated. -/
def lines (l : Layout) : (fuel n : Nat) → (before : Option (List UInt8)) → (marked : Bool) →
    List UInt8 → List Char
  | 0, _, _, _, _ => []
  | fuel + 1, n, before, marked, bytes =>
    if bytes.isEmpty then []
    else
      let here := bytes.take l.width
      let rest := bytes.drop l.width
      if !l.repeats && here.length == l.width && before == some here then
        (if marked then [] else ['*', '\n']) ++ lines l fuel (n + l.width) before true rest
      else l.block n here ++ lines l fuel (n + l.width) (some here) false rest

/-- The whole dump of bytes that begin at a place. -/
def text (l : Layout) (start : Nat) (bytes : List UInt8) : String :=
  let last := l.place (start + bytes.length)
  String.ofList (l.lines bytes.length start none false bytes ++
    if last.isEmpty then [] else last ++ ['\n'])

end Layout

/-! ## Options -/

/-- The size that a letter stands for. -/
def sizeOfLetter? (c : Char) : Option Nat :=
  match c with
  | 'C' => some 1
  | 'S' => some 2
  | 'I' => some 4
  | 'L' => some 8
  | _ => none

/-- The ways that a text asks for, or what is wrong with it; `fuel` bounds their number. -/
def formats (whole : String) : (fuel : Nat) → List Char → Except String (List Format)
  | 0, _ => .ok []
  | _ + 1, [] => .ok []
  | fuel + 1, c :: rest => do
    let invalid : Except String (List Format) :=
      .error ("invalid character '" ++ String.singleton c ++ "' in type string " ++ curlyQuoted whole)
    let finish (way : Way) (size : Nat) (rest : List Char) : Except String (List Format) := do
      let (trails, rest) := match rest with
        | 'z' :: rest => (true, rest)
        | _ => (false, rest)
      let more ← formats whole fuel rest
      .ok (⟨way, size, trails⟩ :: more)
    let sized (way : Way) (isReal : Bool) : Except String (List Format) := do
      let (ds, behind) := rest.span Char.isDigit
      let wrong (n : Nat) : Except String (List Format) :=
        .error ("invalid type string " ++ curlyQuoted whole ++ ";\nthis system doesn't provide a " ++
          natText n ++ "-byte " ++ (if isReal then "floating point" else "integral") ++ " type")
      if !ds.isEmpty then
        let n := ofDigits 10 ds
        let known := if isReal then [4, 8] else [1, 2, 4, 8]
        if known.contains n then finish way n behind else wrong n
      else
        match behind with
        | l :: behind' =>
          if isReal then
            match l with
            | 'F' => finish way 4 behind'
            | 'D' => finish way 8 behind'
            | _ => finish way 8 behind
          else
            match sizeOfLetter? l with
            | some n => finish way n behind'
            | none => finish way 4 behind
        | [] => finish way (if isReal then 8 else 4) []
    match c with
    | 'a' => finish .named 1 rest
    | 'c' => finish .characters 1 rest
    | 'd' => sized .signed false
    | 'u' => sized .unsigned false
    | 'o' => sized .octal false
    | 'x' => sized .hexadecimal false
    | 'f' => sized .real true
    | _ => invalid

/-- The texts that letters stand for. -/
def shorthands : List (String × String) :=
  [("a", "a"), ("b", "o1"), ("c", "c"), ("d", "u2"), ("e", "fD"), ("f", "fF"), ("h", "x2"), ("i", "dI"),
    ("l", "dL"), ("o", "o2"), ("s", "d2"), ("x", "x2"), ("B", "oS"), ("D", "u4"), ("F", "fD"), ("H", "x4"),
    ("I", "dL"), ("L", "dL"), ("O", "o4"), ("X", "x4")]

/-- A number of bytes in writing: in any base, with a letter for a unit. -/
def count? (text : String) : Option Nat :=
  let cs := text.toList
  let (base, digits) := baseOf cs
  let (ds, unit) := spanDigits base digits
  let unit : Option Nat := match unit with
    | [] => some 1
    | ['b'] => some 512
    | ['k'] | ['K'] | ['K', 'i', 'B'] => some 1024
    | ['k', 'B'] | ['K', 'B'] => some 1000
    | ['m'] | ['M'] | ['M', 'i', 'B'] => some 1048576
    | ['M', 'B'] => some 1000000
    | _ => none
  if ds.isEmpty then none else unit.map (ofDigits base ds * ·)

/-- The texts of at least so many characters that end with a zero byte, with their places. -/
def strings (least : Nat) : (place : Nat) → (here : List UInt8) → List UInt8 →
    List (Nat × List UInt8)
  | _, _, [] => []
  | place, here, b :: rest =>
    if b = 0 then
      let more := strings least (place + 1) [] rest
      if least ≤ here.length then (place - here.length, here.reverse) :: more else more
    else if isPrintable b then strings least (place + 1) (b :: here) rest
    else strings least (place + 1) [] rest

/-- Where the places of a dump are told from a letter. -/
def radixOf? (text : String) : Option (Option (Nat × Nat)) :=
  match text.toList.head? with
  | some 'd' => some (some (10, 7))
  | some 'o' => some (some (8, 7))
  | some 'x' => some (some (16, 6))
  | some 'n' => some none
  | _ => none

/-- The letters that stand for ways. -/
def wayLetters : String := String.join (shorthands.map (·.1))

/-- The program `od`. -/
def od : Tool := fun _ c =>
  c.withFlags
    { letters := "A:j:N:S:t:vw::" ++ wayLetters
      long := [("address-radix", .value, "A"), ("skip-bytes", .value, "j"), ("read-bytes", .value, "N"),
        ("strings", .maybe, "S"), ("format", .value, "t"), ("output-duplicates", .nothing, "v"),
        ("width", .maybe, "w"), ("endian", .value, "E"), ("traditional", .nothing, "traditional")] }
    1 fun p => do
    let bad (text : String) : Act Nat := do
      c.blame text
      pure 1
    let some radix := radixOf? ((p.last? "A").getD "o")
      | bad ("invalid output address radix '" ++ ((p.last? "A").getD "").take 1 ++
          "'; it must be one character from [doxn]")
    for key in ["j", "N", "S", "w"] do
      if let some v := p.last? key then
        if (count? v).isNone then return ← bad ("invalid -" ++ key ++ " argument '" ++ v ++ "'")
    let number (key : String) : Option Nat := (p.last? key).bind count?
    let asked := p.options.filterMap fun (k, v) =>
      if k == "t" then v else shorthands.lookup k
    let ways : Except String (List Format) :=
      (asked.mapM fun t => formats t t.length t.toList).map List.flatten
    match ways with
    | .error text => bad text
    | .ok ways =>
      let ways := if ways.isEmpty then [⟨.octal, 2, false⟩] else ways
      let unit := ways.foldl (fun n f => Nat.lcm n f.size) 1
      let wanted := if p.has "w" then some ((number "w").getD 32) else none
      let width := match wanted with
        | none => if 16 ≤ unit then unit else unit * (16 / unit)
        | some n => if 0 < n && n % unit == 0 then n else unit
      let mut bytes : List UInt8 := []
      let mut ok := true
      let mut opened := false
      for o in (if p.operands.isEmpty then ["-"] else p.operands) do
        match ← Call.whole o with
        | .error err =>
          c.blameFile o err
          ok := false
          opened := opened || err = Errno.isFolder
        | .ok cs =>
          bytes := bytes ++ Raw.toBytes cs
          opened := true
      if !opened then return 1
      let skip := (number "j").getD 0
      if bytes.length < skip then
        if ok then return ← bad "cannot skip past end of combined input" else return 1
      bytes := bytes.drop skip
      if let some n := number "N" then bytes := bytes.take n
      if let some n := wanted then
        if n != width then
          c.blame ("warning: invalid width " ++ natText n ++ "; using " ++ natText width ++ " instead")
      let layout : Layout :=
        { formats := ways, width := width, radix := radix, repeats := p.has "v"
          big := (p.last? "E").any (·.startsWith "b") }
      if p.has "S" then
        for (place, text) in strings ((number "S").getD 3) skip [] bytes do
          let shown := text.map fun b => Char.ofNat b.toNat
          let front := layout.place place
          Act.print (String.ofList (front ++ (if front.isEmpty then [] else [' ']) ++ shown ++ ['\n']))
      else Act.print (layout.text skip bytes)
      pure (if ok then 0 else 1)

end Runbook.Shell.Dump
