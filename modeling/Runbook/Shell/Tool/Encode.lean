import Runbook.Shell.Tool.Lines
import Runbook.Shell.Tool.Digest.Rounds

/-!
# `Shell/Tool/Encode` — bytes in letters

`base64`, `base32` and `basenc` write bytes with a small alphabet, some bits to a letter, and read
what has been written so. A group of letters that is not full is filled up with marks.
-/

set_option autoImplicit false

namespace Runbook.Shell.Encode

/-- A way to write bytes in letters. -/
structure Code where
  alphabet : String
  /-- The bits that a letter stands for. -/
  bits : Nat
  /-- The letters of a group. -/
  group : Nat
  /-- Groups are filled up. -/
  fills : Bool := true
  /-- The bit that counts least comes first. -/
  reversed : Bool := false

namespace Code

/-- The letters of the alphabet with which most codes begin. -/
def letters : String := "ABCDEFGHIJKLMNOPQRSTUVWXYZ"

/-- Six bits to a letter. -/
def base64 : Code := { alphabet := letters ++ letters.toLower ++ "0123456789+/", bits := 6, group := 4 }

/-- Six bits to a letter, with letters that may stand in addresses. -/
def base64url : Code := { base64 with alphabet := letters ++ letters.toLower ++ "0123456789-_" }

/-- Five bits to a letter. -/
def base32 : Code := { alphabet := letters ++ "234567", bits := 5, group := 8 }

/-- Five bits to a letter, in the order of the digits. -/
def base32hex : Code := { base32 with alphabet := "0123456789ABCDEFGHIJKLMNOPQRSTUV" }

/-- Four bits to a letter. -/
def base16 : Code := { alphabet := "0123456789ABCDEF", bits := 4, group := 2, fills := false }

/-- A bit to a letter, the one that counts most first. -/
def base2msbf : Code := { alphabet := "01", bits := 1, group := 8, fills := false }

/-- A bit to a letter, the one that counts least first. -/
def base2lsbf : Code := { base2msbf with reversed := true }

/-- The bytes of a full group. -/
def bytesOfGroup (k : Code) : Nat := k.bits * k.group / 8

/-- The letter of a value. -/
def letter (k : Code) (n : Nat) : Char := k.alphabet.toList.getD n '?'

/-- A value in letters, the one that counts most first. -/
def digits (k : Code) : (count n : Nat) → List Char → List Char
  | 0, _, later => later
  | count + 1, n, later =>
    let size := Nat.pow 2 k.bits
    digits k count (n / size) (k.letter (n % size) :: later)

/-- A group of bytes in letters. -/
def encodeGroup (k : Code) (bytes : List UInt8) : List Char :=
  let missing := k.bytesOfGroup - bytes.length
  let n := Digest.bigValue (bytes ++ List.replicate missing 0)
  let ds := k.digits k.group n []
  let shown := (bytes.length * 8 + k.bits - 1) / k.bits
  if k.reversed then ds.reverse
  else ds.take shown ++ if k.fills then List.replicate (k.group - shown) '=' else []

/-- Bytes in letters. -/
def encode (k : Code) (bytes : List UInt8) : List Char :=
  (Digest.pieces k.bytesOfGroup bytes).flatMap k.encodeGroup

/-- The value of a letter. -/
def value? (k : Code) (c : Char) : Option Nat := k.alphabet.toList.findIdx? (· == c)

/-- The number of letters of a group that stand for so many whole bytes. -/
def lettersFor (k : Code) (bytes : Nat) : Nat := (bytes * 8 + k.bits - 1) / k.bits

/-- The bytes of a group of letters, and whether the group is right. Bytes in front of a wrong
letter are given as well. -/
def decodeGroup (k : Code) (cs : List Char) : List UInt8 × Bool :=
  let known := cs.takeWhile fun c => (k.value? c).isSome
  let order := if k.reversed then known.reverse else known
  let n := order.foldl (fun n c => n * Nat.pow 2 k.bits + (k.value? c).getD 0) 0
  let whole := known.length * k.bits / 8
  let bytes := (Digest.bigBytes k.bytesOfGroup
    (n * Nat.pow 2 (k.bits * (k.group - known.length)))).take whole
  let rest := cs.drop known.length
  let isFull := cs.length == k.group
  let isFilled := k.fills && rest.all (· == '=') && 0 < whole &&
    known.length == k.lettersFor whole
  if k.bits == 5 && !isFull then ([], false)
  else if k.bits == 1 && known.length < k.group then ([], false)
  else (bytes, isFull && (rest.isEmpty || isFilled))

/-- The bytes that letters stand for, and whether all letters are right. -/
def decode (k : Code) : (fuel : Nat) → List Char → List UInt8 × Bool
  | 0, cs => ([], cs.isEmpty)
  | _ + 1, [] => ([], true)
  | fuel + 1, cs =>
    let (bytes, isRight) := k.decodeGroup (cs.take k.group)
    if isRight then
      let (more, isRight) := decode k fuel (cs.drop k.group)
      (bytes ++ more, isRight)
    else (bytes, false)

end Code

/-! ## Groups of five letters -/

/-- The letters of the code that has 85 of them. -/
def letters85 : String :=
  "0123456789abcdefghijklmnopqrstuvwxyzABCDEFGHIJKLMNOPQRSTUVWXYZ.-:+=^!/*?&<>()[]\x7b\x7d@%$#"

/-- Bytes in groups of five letters. -/
def encode85 (bytes : List UInt8) : List Char :=
  (Digest.pieces 4 bytes).flatMap fun p =>
    let n := Digest.bigValue p
    [52200625, 614125, 7225, 85, 1].map fun d => letters85.toList.getD (n / d % 85) '?'

/-- The bytes that groups of five letters stand for, and whether all letters are right. -/
def decode85 (cs : List Char) : List UInt8 × Bool :=
  let values := (Digest.pieces 5 cs).map fun p =>
    (p.mapM fun c => letters85.toList.findIdx? (· == c)).bind fun ds =>
      let n := ds.foldl (fun n d => n * 85 + d) 0
      if ds.length == 5 && n < Nat.pow 2 32 then some (Digest.bigBytes 4 n) else none
  ((values.takeWhile Option.isSome).flatMap (·.getD []), values.all Option.isSome)

/-! ## The programs -/

/-- Letters in lines of a width; nothing is broken if it is zero. -/
def wrapped (width : Nat) (cs : List Char) : List Char :=
  if width = 0 then cs else (Digest.pieces width cs).flatMap (· ++ ['\n'])

/-- The codes that a program chooses from by options. -/
def named : List (String × Code) :=
  [("base64", .base64), ("base64url", .base64url), ("base32", .base32), ("base32hex", .base32hex),
    ("base16", .base16), ("base2msbf", .base2msbf), ("base2lsbf", .base2lsbf)]

/-- The program that writes bytes in a code, or one that is chosen by an option. -/
def run (code : Option Code) : Tool := fun _ c =>
  c.withFlags
    { letters := "diw:"
      long := [("decode", .nothing, "d"), ("ignore-garbage", .nothing, "i"), ("wrap", .value, "w")] ++
        (if code.isNone then
          ("z85", .nothing, "z85") :: named.map fun (n, _) => (n, Taking.nothing, n)
        else []) }
    1 fun p => do
    let width := match p.last? "w" with
      | none => some 76
      | some w => natText? w
    let some width := width
      | c.blame ("invalid wrap size: " ++ curlyQuoted ((p.last? "w").getD ""))
        return 1
    let chosen := p.lastOf? ("z85" :: named.map (·.1))
    let is85 := chosen == some "z85"
    let code := match code with
      | some k => some k
      | none => if is85 then some Code.base64 else chosen.bind fun n => named.lookup n
    let some code := code | c.refuse 1 "missing encoding type"
    if let some extra := p.operands[1]? then return ← c.extraOperand extra 1
    let o := p.operands.headD "-"
    match ← Call.whole o with
    | .error err =>
      if err = Errno.isFolder then c.blame ("read error: " ++ err.text) else c.blameFile o err
      pure 1
    | .ok cs =>
      if p.has "d" then
        let isLetter (x : Char) : Bool :=
          if is85 then letters85.toList.contains x
          else (code.value? x).isSome || (x == '=' && code.fills)
        let cs := (Raw.split cs).filter fun x => x != '\n' && (!p.has "i" || isLetter x)
        let (bytes, isRight) := if is85 then decode85 cs else code.decode cs.length cs
        Act.print (Raw.stringOfBytes bytes)
        if isRight then pure 0
        else
          c.blame "invalid input"
          pure 1
      else
        let bytes := Raw.toBytes cs
        if is85 && bytes.length % 4 != 0 then
          Act.print (String.ofList (wrapped width (encode85 (bytes.take (bytes.length / 4 * 4)))))
          c.blame "invalid input (length must be multiple of 4 characters)"
          pure 1
        else
          let text := if is85 then encode85 bytes else code.encode bytes
          Act.print (String.ofList (wrapped width text))
          pure 0

end Runbook.Shell.Encode
