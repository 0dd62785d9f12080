import Runbook.Shell.Text.Numeral
import Runbook.Shell.Text.Raw

/-!
# `Shell/Tool/Archive/Member` — members of archives

An archive is a row of members. Each has a head of one block that tells its name, kind and size, and
then its text in whole blocks (`Member.blocks`). What has no room in a head stands in a member of its
own in front of it.

What is read from an archive comes as a row of members, with what is wrong between them
(`membersOf`).
-/

set_option autoImplicit false

namespace Runbook.Shell.Archive

/-- What a member is. -/
inductive Kind where
  | file
  /-- A further name of a member. -/
  | same (target : String)
  | link (target : String)
  | character
  | folder
  | queue
  deriving DecidableEq

/-- A member of an archive. The names of folders end with a slash. -/
structure Member where
  name : String
  kind : Kind
  mode : Nat
  /-- The time of the latest change. -/
  seconds : Nat
  owner : Nat := 0
  group : Nat := 0
  ownerName : String := "root"
  groupName : String := "root"
  text : Array UInt8 := #[]

/-- The bytes of a block. -/
def blockSize : Nat := 512

/-- The bytes of an archive are a multiple of this number. -/
def recordSize : Nat := 10240

/-- Bytes in a field, which is filled up with zeros. -/
def field (width : Nat) (bytes : List UInt8) : List UInt8 :=
  let bytes := bytes.take width
  bytes ++ List.replicate (width - bytes.length) 0

/-- A text in a field. -/
def textField (width : Nat) (s : String) : List UInt8 := field width (Raw.bytesOfString s)

/-- A number in a field: octal digits, and a zero. -/
def numberField (width n : Nat) : List UInt8 :=
  textField width (String.ofList (padLeft (width - 1) '0' (inBase false 8 n)))

/-- Bytes up to the end of a block. -/
def wholeBlocks (bytes : Array UInt8) : Array UInt8 :=
  let beyond := bytes.size % blockSize
  if beyond = 0 then bytes else bytes ++ Array.replicate (blockSize - beyond) 0

/-- The places of the sum in a head. -/
def isSumPlace (n : Nat) : Bool := 148 ≤ n && n < 156

/-- The sum of the bytes of a head, its own places taken as blanks. -/
def sumOf (head : Array UInt8) : Nat :=
  (head.toList.zipIdx.foldl (fun n (b, k) => n + if isSumPlace k then 32 else b.toNat)) 0

/-- How heads are written. -/
inductive Format where
  /-- Members in front hold what has no room. -/
  | long
  /-- A name may stand in two fields. -/
  | standard
  /-- Only what is in all heads. -/
  | plain
  deriving DecidableEq

/-- A name in two fields, if there is a slash where it can be parted. -/
def parted? (name : String) : Option (String × String) :=
  let size (cs : List Char) : Nat := (Raw.toBytes cs).length
  let cs := name.toList
  if size cs ≤ 100 then some ("", name)
  else
    let last := if name.endsWith "/" then cs.length - 1 else cs.length
    let cut := (List.range last).reverse.find? fun n => cs[n]? == some '/' && size (cs.take n) ≤ 155
    cut.bind fun n =>
      if n ≠ 0 && size (cs.drop (n + 1)) ≤ 100 then
        some (String.ofList (cs.take n), String.ofList (cs.drop (n + 1)))
      else none

/-- The letter and the target of a kind. -/
def Kind.mark : Kind → Char × String
  | .file => ('0', "")
  | .same t => ('1', t)
  | .link t => ('2', t)
  | .character => ('3', "")
  | .folder => ('5', "")
  | .queue => ('6', "")

/-- Why a member cannot be written. -/
def Member.refusal? (f : Format) (m : Member) : Option String :=
  let long (s : String) (room : Nat) : Bool := room < (Raw.bytesOfString s).length
  match f with
  | .long => none
  | .standard =>
    if (parted? m.name).isNone then
      some ("file name is too long " ++
        (if long m.name 256 then "(max 256)" else "(cannot be split)") ++ "; not dumped")
    else if long m.kind.mark.2 100 then some "link name is too long; not dumped"
    else none
  | .plain =>
    if long m.name 99 then some "file name is too long (max 99); not dumped"
    else if long m.kind.mark.2 99 then some "link name is too long; not dumped"
    else none

/-- A head. -/
def head (f : Format) (m : Member) (size : Nat) : Array UInt8 :=
  let (letter, target) := m.kind.mark
  let (lead, name) := match f with
    | .standard => (parted? m.name).getD ("", m.name)
    | _ => ("", m.name)
  let front := textField 100 name ++ numberField 8 m.mode ++ numberField 8 m.owner ++
    numberField 8 m.group ++ numberField 12 size ++ numberField 12 m.seconds
  let mark := if f = .plain && letter = '0' then [0] else textField 1 (String.singleton letter)
  let users := textField 32 m.ownerName ++ textField 32 m.groupName
  let back := mark ++ textField 100 target ++
    (match f with
    | .long => textField 8 "ustar  " ++ users ++ List.replicate 183 0
    | .standard =>
      textField 6 "ustar" ++ textField 2 "00" ++ users ++ List.replicate 16 0 ++
        textField 155 lead ++ List.replicate 12 0
    | .plain => List.replicate 255 0)
  let sum := sumOf (front ++ List.replicate 8 32 ++ back).toArray
  (front ++ numberField 7 sum ++ [32] ++ back).toArray

/-- A member that holds a name which has no room in a head. -/
def longName (letter : UInt8) (name : String) : Array UInt8 :=
  let bytes := (Raw.bytesOfString name ++ [0]).toArray
  let m : Member := { name := "././@LongLink", kind := .file, mode := 0o644, seconds := 0 }
  let plain := (head .long m bytes.size).set! 156 letter
  let sum := (numberField 7 (sumOf plain)).zipIdx
  sum.foldl (fun b (x, n) => b.set! (148 + n) x) plain ++ wholeBlocks bytes

/-- A member as blocks. -/
def Member.blocks (f : Format) (m : Member) : Array UInt8 :=
  let isLong (s : String) : Bool := f = .long && 100 < (Raw.bytesOfString s).length
  (if isLong m.kind.mark.2 then longName 75 m.kind.mark.2 else #[]) ++
    (if isLong m.name then longName 76 m.name else #[]) ++
    head f m m.text.size ++ wholeBlocks m.text

/-! ## Reading -/

/-- What is met in an archive. -/
inductive Met where
  /-- A member, with the number of its block and what it takes. -/
  | member (block : Nat) (m : Member) (bytes : Array UInt8)
  /-- Blocks that are no member; `first` tells that nothing was in front of them. -/
  | skipped (first : Bool)
  /-- A block of zeros, and not a second one. -/
  | loneZero (block : Nat)
  /-- The blocks of zeros that end an archive. -/
  | zeros (block : Nat)
  /-- Nothing that could be a member. -/
  | nothing
  /-- The end in the middle of a member. -/
  | cut

/-- The bytes in front of a zero. -/
def upToZero (bytes : Array UInt8) (first length : Nat) : List UInt8 :=
  (bytes.extract first (first + length)).toList.takeWhile (· != 0)

/-- The number in a field, which may be octal digits or bytes. -/
def numberAt (bytes : Array UInt8) (first length : Nat) : Nat :=
  let bs := (bytes.extract first (first + length)).toList
  match bs with
  | b :: rest =>
    if 128 ≤ b then rest.foldl (fun n b => n * 256 + b.toNat) 0
    else
      let ds := (bs.dropWhile (· == 32)).takeWhile fun b => 48 ≤ b && b < 56
      ds.foldl (fun n b => n * 8 + (b.toNat - 48)) 0
  | [] => 0

/-- What stands in front of a member about it. -/
structure Extras where
  name : Option String := none
  target : Option String := none
  seconds : Option Nat := none
  first : Option Nat := none

/-- Records of a length, a key and a value each; `fuel` bounds their number. -/
def recordsOf : (fuel : Nat) → List Char → List (String × String)
  | 0, _ => []
  | fuel + 1, cs =>
    let (ds, rest) := cs.span Char.isDigit
    if ds.isEmpty then []
    else
      let length := ofDigits 10 ds
      let body := (Raw.split (rest.drop 1)).take (length - ds.length - 2)
      let behind := (Raw.split rest).drop (length - ds.length)
      let (key, value) := (Raw.joined body).span (· != '=')
      (String.ofList key, String.ofList (value.drop 1)) :: recordsOf fuel (Raw.joined behind)

/-- What records tell about the member behind. -/
def Extras.add (x : Extras) (text : List UInt8) : Extras :=
  let cs := Raw.ofBytes text
  let records := recordsOf cs.length cs
  { x with
    name := (records.lookup "path").orElse fun _ => x.name
    target := (records.lookup "linkpath").orElse fun _ => x.target
    seconds := ((records.lookup "mtime").map fun t =>
      ofDigits 10 (t.toList.takeWhile Char.isDigit)).orElse fun _ => x.seconds }

/-- The member that a head at a place tells. -/
def memberAt (bytes : Array UInt8) (place : Nat) (x : Extras) : Member :=
  let text (first length : Nat) : String :=
    Raw.stringOfBytes (upToZero bytes (place + first) length)
  let isPosix := (bytes.extract (place + 257) (place + 263)).toList == textField 6 "ustar"
  let lead := if isPosix then text 345 155 else ""
  let name := x.name.getD (if lead = "" then text 0 100 else lead ++ "/" ++ text 0 100)
  let target := x.target.getD (text 157 100)
  let letter := Char.ofNat (bytes.getD (place + 156) 0).toNat
  let kind : Kind := match letter with
    | '1' => .same target
    | '2' => .link target
    | '3' | '4' => .character
    | '5' => .folder
    | '6' => .queue
    | _ => if name.endsWith "/" then .folder else .file
  let size := numberAt bytes (place + 124) 12
  { name := if kind = .folder && !name.endsWith "/" then name ++ "/" else name
    kind := kind, mode := numberAt bytes (place + 100) 8 % 4096
    seconds := x.seconds.getD (numberAt bytes (place + 136) 12)
    owner := numberAt bytes (place + 108) 8, group := numberAt bytes (place + 116) 8
    ownerName := text 265 32, groupName := text 297 32
    text := if kind = .file then
        bytes.extract (place + blockSize) (place + blockSize + size)
      else #[] }

/-- What is met from a place on; `fuel` bounds the number of blocks. -/
def metFrom (zerosMatter : Bool) (bytes : Array UInt8) : (fuel : Nat) → (place : Nat) → (first : Bool) →
    (skipping : Bool) → Extras → List Met
  | 0, _, _, _, _ => []
  | fuel + 1, place, first, skipping, x =>
    if bytes.size < place + blockSize then
      if first && !skipping then [.nothing] else []
    else
      let block := bytes.extract place (place + blockSize)
      let next := place + blockSize
      if block.all (· == 0) then
        if !zerosMatter then metFrom zerosMatter bytes fuel next false false x
        else if (bytes.extract next (next + blockSize)).all (· == 0) && next + blockSize ≤ bytes.size
        then [.zeros (place / blockSize)]
        else [.loneZero (place / blockSize + 1)]
      else if numberAt bytes (place + 148) 8 ≠ sumOf block then
        if skipping then metFrom zerosMatter bytes fuel next first true x
        else .skipped first :: metFrom zerosMatter bytes fuel next first true x
      else
        let size := numberAt bytes (place + 124) 12
        let letter := Char.ofNat (block.getD 156 0).toNat
        let holds := !"123456".toList.contains letter
        let whole := if holds then (size + blockSize - 1) / blockSize * blockSize else 0
        if bytes.size < next + whole then
          if "LKxg".toList.contains letter then [.cut]
          else
            let m := memberAt bytes place x
            let there := (bytes.size - next) / blockSize * blockSize
            [.member (place / blockSize) { m with text := m.text.extract 0 there }
              (bytes.extract place bytes.size), .cut]
        else
          let text := (bytes.extract next (next + size)).toList
          let upTo := Raw.stringOfBytes (text.takeWhile (· != 0))
          let behind := next + whole
          let start := x.first.getD place
          match letter with
          | 'L' =>
            metFrom zerosMatter bytes fuel behind false false
              { x with name := some upTo, first := some start }
          | 'K' =>
            metFrom zerosMatter bytes fuel behind false false
              { x with target := some upTo, first := some start }
          | 'x' =>
            metFrom zerosMatter bytes fuel behind false false
              { x.add text with first := some start }
          | 'g' => metFrom zerosMatter bytes fuel behind false false x
          | _ =>
            .member (place / blockSize) (memberAt bytes place x) (bytes.extract start behind) ::
              metFrom zerosMatter bytes fuel behind false false {}

/-- What is met in an archive. -/
def membersOf (zerosMatter : Bool) (bytes : Array UInt8) : List Met :=
  metFrom zerosMatter bytes (bytes.size / blockSize + 1) 0 true false {}

end Runbook.Shell.Archive
