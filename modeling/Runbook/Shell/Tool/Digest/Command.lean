import Runbook.Shell.Tool.Digest.Rounds
import Runbook.Shell.Tool.Lines

/-!
# `Shell/Tool/Digest/Command` — digests of files

Programs write the digest of each file with its name, and compare files with digests that have been
written before.
-/

set_option autoImplicit false

namespace Runbook.Shell.Digest

/-- A digest that programs can write. -/
structure Kind where
  /-- The name that stands in front of a file in the tagged form. -/
  tag : String
  /-- The number of its bytes. -/
  size : Nat
  digest : List UInt8 → List UInt8

/-- The digests by the names of their algorithms. -/
def kinds : List (String × Kind) :=
  [("md5", ⟨"MD5", 16, md5⟩), ("sha1", ⟨"SHA1", 20, sha1⟩), ("sha224", ⟨"SHA224", 28, sha224⟩),
    ("sha256", ⟨"SHA256", 32, sha256⟩), ("sha384", ⟨"SHA384", 48, sha384⟩),
    ("sha512", ⟨"SHA512", 64, sha512⟩), ("blake2b", ⟨"BLAKE2b", 64, blake2b 64⟩)]

/-- The digest BLAKE2b of so many bits. -/
def blakeOf (bits : Nat) : Kind :=
  if bits = 0 ∨ bits = 512 then ⟨"BLAKE2b", 64, blake2b 64⟩
  else ⟨"BLAKE2b-" ++ natText bits, bits / 8, blake2b (bits / 8)⟩

/-- Bytes in hexadecimal digits. -/
def hex (bytes : List UInt8) : String :=
  String.ofList (bytes.flatMap fun b =>
    [digitChars false (b.toNat / 16), digitChars false (b.toNat % 16)])

/-- The name of a file on a line of its own, and whether it had to be changed for that. -/
def lineName (name : String) : String × Bool :=
  let cs := name.toList.flatMap fun x =>
    if x == '\n' then ['\\', 'n'] else if x == '\\' then ['\\', '\\']
    else if x == '\r' then ['\\', 'r'] else [x]
  (String.ofList cs, cs != name.toList)

/-- The name that a name on a line of its own stands for. -/
def nameOfLine : List Char → Option (List Char)
  | [] => some []
  | '\\' :: 'n' :: rest => (nameOfLine rest).map ('\n' :: ·)
  | '\\' :: 'r' :: rest => (nameOfLine rest).map ('\r' :: ·)
  | '\\' :: '\\' :: rest => (nameOfLine rest).map ('\\' :: ·)
  | '\\' :: _ => none
  | c :: rest => (nameOfLine rest).map (c :: ·)

/-- How digests are written. -/
structure Style where
  tagged : Bool := false
  binary : Bool := false
  /-- The byte zero ends lines, and names are left as they are. -/
  zero : Bool := false

/-- The line of a file. -/
def Style.line (s : Style) (k : Kind) (name : String) (bytes : List UInt8) : String :=
  let (shown, changed) := if s.zero then (name, false) else lineName name
  let digest := k.digest bytes
  let text := hex digest
  (if changed then "\\" else "") ++
    (if s.tagged then k.tag ++ " (" ++ shown ++ ") = " ++ text
    else text ++ (if s.binary then " *" else "  ") ++ shown) ++
    (if s.zero then "\x00" else "\n")

/-! ## Comparing -/

/-- A line with the digest of a file. -/
structure Entry where
  kind : Kind
  digest : String
  name : String

/-- What is in hexadecimal digits only, of some length. -/
def isHex (size : Nat) (cs : List Char) : Bool :=
  cs.length == 2 * size && cs.all fun c => (digitOf? c).any (· < 16)

/-- What a tagged line tells, from the tag on. -/
def taggedEntry? (known : List Kind) (cs : List Char) : Option (Kind × List Char × List Char) :=
  known.firstM fun k =>
    match (cs.take k.tag.length == k.tag.toList, cs.drop k.tag.length) with
    | (true, rest) =>
      let rest := if rest.head? == some ' ' then rest.drop 1 else rest
      match rest with
      | '(' :: rest =>
        let (back, name) := (rest.reverse.span (· != ')'))
        let digest := back.reverse.dropWhile fun c => c == ' ' || c == '\t'
        match digest, name with
        | '=' :: digest, ')' :: name =>
          let digest := digest.dropWhile fun c => c == ' ' || c == '\t'
          if isHex k.size digest then some (k, digest, name.reverse) else none
        | _, _ => none
      | _ => none
    | _ => none

/-- What a line tells; `plain` is the digest that lines without a tag hold. -/
def entry? (known : List Kind) (plain : Option Kind) (line : List Char) : Option Entry := do
  let line := if line.getLast? == some '\r' then line.dropLast else line
  let line := line.dropWhile fun c => c == ' ' || c == '\t'
  let escaped := line.head? == some '\\'
  let line := if escaped then line.drop 1 else line
  let readName (cs : List Char) : Option (List Char) := if escaped then nameOfLine cs else some cs
  match taggedEntry? known line with
  | some (k, digest, name) =>
    let name ← readName name
    some ⟨k, (String.ofList digest).toLower, String.ofList name⟩
  | none =>
    let k ← plain
    let (digest, rest) := line.span fun c => c != ' ' && c != '\t'
    let bits := digest.length * 4
    let k := if k.tag.startsWith "BLAKE2b" && bits % 8 == 0 && 8 ≤ bits && bits ≤ 512 then blakeOf bits
      else k
    if !isHex k.size digest then none
    else
      match rest with
      | _ :: mark :: name =>
        let name := if mark == ' ' || mark == '*' then name else mark :: name
        let name ← readName name
        if name.isEmpty then none else some ⟨k, (String.ofList digest).toLower, String.ofList name⟩
      | _ => none

/-- How files are compared. -/
structure Checking where
  quiet : Bool := false
  status : Bool := false
  warns : Bool := false
  strict : Bool := false
  ignoresMissing : Bool := false

/-- What has been seen while files are compared. -/
structure Tally where
  proper : Bool := false
  wrongLines : Nat := 0
  differing : Nat := 0
  unread : Nat := 0
  matched : Bool := false

/-- A warning about some number of things. -/
def warn (c : Call) (n : Nat) (one many : String) : Act Unit := do
  if 0 < n then c.blame ("WARNING: " ++ natText n ++ " " ++ if n = 1 then one else many)

/-- Compares the file of an entry, and tells how. -/
def checkEntry (c : Call) (how : Checking) (tally : Tally) (e : Entry) : Act Tally := do
  let (shown, changed) := lineName e.name
  let shown := (if changed then "\\" else "") ++ shown
  match ← Call.whole e.name with
  | .error err =>
    if how.ignoresMissing && err = Errno.noEntry then return tally
    c.blameFile e.name err
    if !how.status then Act.print (shown ++ ": FAILED open or read\n")
    return { tally with unread := tally.unread + 1 }
  | .ok cs =>
    let isSame := hex (e.kind.digest (Raw.toBytes cs)) == e.digest
    if !how.status then
      if !isSame then Act.print (shown ++ ": FAILED\n")
      else if !how.quiet then Act.print (shown ++ ": OK\n")
    return if isSame then { tally with matched := true }
      else { tally with differing := tally.differing + 1 }

/-- Compares the files whose digests stand in an operand; it gives whether all is right. -/
def check (c : Call) (how : Checking) (known : List Kind) (plain : Option Kind)
    (operand : String) : Act Bool := do
  let title := if operand = "-" then "'standard input'" else fileTitle operand
  match ← Call.whole operand with
  | .error err =>
    c.blameFile operand err
    return false
  | .ok cs =>
    let mut tally : Tally := {}
    for (line, n) in (Lines.split '\n' cs).1.zipIdx do
      if line.head? == some '#' then continue
      match entry? known plain line with
      | none =>
        tally := { tally with wrongLines := tally.wrongLines + 1 }
        if how.warns then
          c.blame (title ++ ": " ++ natText (n + 1) ++ ": improperly formatted " ++
            (plain.map (·.tag)).getD "" ++ " checksum line")
      | some e =>
        tally := { tally with proper := true }
        tally ← checkEntry c how tally e
    if !tally.proper then
      c.blame (title ++ ": no properly formatted checksum lines found")
      return false
    if !how.status then
      warn c tally.wrongLines "line is improperly formatted" "lines are improperly formatted"
      warn c tally.unread "listed file could not be read" "listed files could not be read"
      warn c tally.differing "computed checksum did NOT match" "computed checksums did NOT match"
      if how.ignoresMissing && !tally.matched then c.blame (title ++ ": no file was verified")
    return tally.differing == 0 && tally.unread == 0 && (!how.strict || tally.wrongLines == 0) &&
      (!how.ignoresMissing || tally.matched)

/-! ## The programs -/

/-- Does something with the bytes of each operand; it gives whether all could be read. -/
def eachFile (c : Call) (operands : List String) (f : String → List UInt8 → Act Unit) : Act Bool := do
  let mut ok := true
  for o in (if operands.isEmpty then ["-"] else operands) do
    match ← Call.whole o with
    | .error err =>
      c.blameFile o err
      ok := false
    | .ok cs => f o (Raw.toBytes cs)
  pure ok

/-- The long options that all these programs know. -/
def checkingOptions : List (String × Taking × String) :=
  [("check", .nothing, "c"), ("quiet", .nothing, "quiet"), ("status", .nothing, "status"),
    ("strict", .nothing, "strict"), ("ignore-missing", .nothing, "missing"), ("warn", .nothing, "w"),
    ("zero", .nothing, "z"), ("tag", .nothing, "tag")]

/-- How options tell that files are to be compared. -/
def checkingOf (p : Parsed) : Checking :=
  { quiet := p.has "quiet", status := p.lastOf? ["status", "w", "quiet"] == some "status"
    warns := p.has "w", strict := p.has "strict", ignoresMissing := p.has "missing" }

/-- What is wrong with options that go together with comparing. -/
def checkingFault? (p : Parsed) : Option String :=
  if p.has "c" then none
  else
    [("missing", "ignore-missing"), ("status", "status"), ("w", "warn"), ("quiet", "quiet"),
      ("strict", "strict")].findSome? fun (key, name) =>
        if p.has key then
          some ("the --" ++ name ++ " option is meaningful only when verifying checksums")
        else none

/-- The program that writes one kind of digest. -/
def digestTool (kind : Kind) : Tool := fun _ c =>
  let isBlake := kind.tag == "BLAKE2b"
  c.withFlags
    { letters := if isBlake then "l:bctwz" else "bctwz"
      long := checkingOptions ++ [("binary", .nothing, "b"), ("text", .nothing, "t")] ++
        (if isBlake then [("length", .value, "l")] else []) }
    1 fun p => do
    let length := (p.last? "l").getD "0"
    let bits := (natText? length).getD 0
    let invalid : Act Unit := c.blame ("invalid length: " ++ curlyQuoted length)
    if bits % 8 != 0 then
      invalid
      c.blame "length is not a multiple of 8"
      return 1
    if 512 < bits then
      invalid
      c.blame ("maximum digest length for " ++ curlyQuoted "BLAKE2b" ++ " is 512 bits")
      return 1
    let kind := if isBlake then blakeOf bits else kind
    let mode := p.lastOf? ["b", "t", "tag"]
    let isTagged := p.has "tag"
    if isTagged && mode == some "t" then return ← c.refuse 1 "--tag does not support --text mode"
    if p.has "z" && p.has "c" then
      return ← c.refuse 1 "the --zero option is not supported when verifying checksums"
    if isTagged && p.has "c" then
      return ← c.refuse 1 "the --tag option is meaningless when verifying checksums"
    if p.has "c" && (p.has "b" || p.has "t") then
      return ← c.refuse 1
        "the --binary and --text options are meaningless when verifying checksums"
    if let some fault := checkingFault? p then return ← c.refuse 1 fault
    if p.has "c" then
      let mut ok := true
      for o in (if p.operands.isEmpty then ["-"] else p.operands) do
        let fine ← check c (checkingOf p) [kind] (some kind) o
        ok := ok && fine
      return if ok then 0 else 1
    let style : Style := { tagged := isTagged, binary := mode == some "b", zero := p.has "z" }
    let ok ← eachFile c p.operands fun name bytes => Act.print (style.line kind name bytes)
    return if ok then 0 else 1

/-- The line of a check sum that is followed by a size in blocks. -/
def sumLine (folded : Bool) (bytes : List UInt8) (name : Option String) : String :=
  let behind := match name with
    | some n => " " ++ n
    | none => ""
  if folded then
    natText (foldedSum bytes) ++ " " ++ natText ((bytes.length + 511) / 512) ++ behind ++ "\n"
  else
    String.ofList (padLeft 5 '0' (natText (turningSum bytes)).toList) ++ " " ++
      String.ofList (padLeft 5 ' ' (natText ((bytes.length + 1023) / 1024)).toList) ++ behind ++ "\n"

/-- The program `sum`. -/
def sum : Tool := fun _ c =>
  c.withFlags { letters := "rs", long := [("sysv", .nothing, "s")] } 1 fun p => do
    let folded := p.lastOf? ["r", "s"] == some "s"
    let ok ← eachFile c p.operands fun name bytes =>
      Act.print (sumLine folded bytes (if p.operands.isEmpty then none else some name))
    pure (if ok then 0 else 1)

/-- The names of algorithms, in the order in which they are told. -/
def algorithms : List String :=
  ["bsd", "sysv", "crc", "md5", "sha1", "sha224", "sha256", "sha384", "sha512", "blake2b", "sm3"]

/-- The program `cksum`. -/
def cksum : Tool := fun _ c =>
  c.withFlags
    { letters := "a:cl:wz"
      long := checkingOptions ++ [("algorithm", .value, "a"),
        ("length", .value, "l"), ("untagged", .nothing, "untagged"), ("debug", .nothing, "debug")] }
    1 fun p => do
    let words := algorithms.map fun a => [a]
    let asked := (p.last? "a").getD "crc"
    let .ok algorithm := meant words asked | c.refuseWord 1 "--algorithm" words asked
    let kind := kinds.lookup algorithm
    let bits := ((p.last? "l").bind natText?).getD 0
    let kind := if algorithm == "blake2b" then some (blakeOf bits) else kind
    if p.has "c" && kind.isNone && p.has "a" then
      c.blame "--check is not supported with --algorithm=\x7bbsd,sysv,crc\x7d"
      return 1
    if let some fault := checkingFault? p then return ← c.refuse 1 fault
    if p.has "c" then
      let known := match kind with
        | some k => [k]
        | none => kinds.map (·.2)
      let mut ok := true
      for o in (if p.operands.isEmpty then ["-"] else p.operands) do
        let fine ← check c (checkingOf p) known kind o
        ok := ok && fine
      return if ok then 0 else 1
    let style : Style :=
      { tagged := p.lastOf? ["untagged", "tag"] != some "untagged", zero := p.has "z" }
    let ok ← eachFile c p.operands fun name bytes => do
      let given := if p.operands.isEmpty then none else some name
      match kind with
      | some k =>
        Act.print (style.line k name bytes)
      | none =>
        match algorithm with
        | "crc" =>
          Act.print (natText (cyclic bytes) ++ " " ++ natText bytes.length ++
            (match given with
              | some n => " " ++ n
              | none => "") ++ "\n")
        | "sysv" =>
          Act.print (sumLine true bytes given)
        | _ =>
          Act.print (sumLine false bytes given)
    return if ok then 0 else 1

/-- The programs that write one kind of digest, by their names. -/
def digestTools : List (String × Tool) :=
  kinds.map fun (name, k) => (if name == "blake2b" then "b2sum" else name ++ "sum", digestTool k)

end Runbook.Shell.Digest
