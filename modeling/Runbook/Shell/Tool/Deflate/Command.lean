import Runbook.Shell.Tool.Deflate.Write
import Runbook.Shell.Tool.Find
import Runbook.Shell.Tool.Make

/-!
# `Shell/Tool/Deflate/Command` — the program `gzip`

Files are put into compressed ones that have an ending behind their names, and had back from them.
The file that is read is removed if all went well.
-/

set_option autoImplicit false

namespace Runbook.Shell.Deflate

/-- What is done with files. -/
structure Manner where
  back : Bool := false
  /-- The result goes to the output. -/
  prints : Bool := false
  force : Bool := false
  keep : Bool := false
  /-- Files are told, and nothing is written. -/
  lists : Bool := false
  tests : Bool := false
  quiet : Bool := false
  verbose : Bool := false
  deep : Bool := false
  /-- Names and times are told in compressed files, or are taken from them; if not said otherwise,
  the one and not the other. -/
  named : Option Bool := none
  ending : String := ".gz"
  level : Nat := 6

/-- How things went, and the sums of what has been told in a list. -/
structure Progress where
  status : Nat := 0
  smaller : Nat := 0
  bigger : Nat := 0
  frame : Nat := 0
  listed : Nat := 0

/-- Work on files. -/
abbrev Work := StateT Progress Act

/-- Something failed. -/
def fail (c : Call) (text : String) : Work Unit := do
  c.blame text
  modify fun p => { p with status := 1 }

/-- Something is left as it is. -/
def warn (c : Call) (m : Manner) (text : String) : Work Unit := do
  if !m.quiet then c.blame text
  modify fun p => { p with status := if p.status = 0 then 2 else p.status }

/-- Something failed in the middle of a file. -/
def failInside (c : Call) (text : String) : Work Unit := do
  Act.tell "\n"
  fail c text

/-- The words for a fault. -/
def Fault.message : Fault → String
  | .foreign => "not in gzip format"
  | .short => "unexpected end of file"
  | .format => "invalid compressed data--format violated"
  | .check => "invalid compressed data--crc error"
  | .length => "invalid compressed data--length error"
  | .method n => "unknown method " ++ natText n ++ " -- not supported"

/-- A share of a whole in percent, with one place, rounded to the nearest. -/
def percent (part : Int) (whole : Nat) : String :=
  let tenths := if whole = 0 then 0 else (2000 * part.natAbs + whole) / (2 * whole)
  let sign := if part < 0 && tenths ≠ 0 then "-" else ""
  let text := sign ++ natText (tenths / 10) ++ "." ++ natText (tenths % 10)
  String.ofList (padLeft 5 ' ' text.toList) ++ "%"

/-- The endings that compressed files have. -/
def endings (m : Manner) : List String :=
  [m.ending, ".gz", ".z", ".taz", ".tgz", "-gz", "-z", "_z"]

/-- The ending of a name, if it is that of a compressed file. -/
def endingOf? (m : Manner) (name : String) : Option String :=
  (endings m).find? fun e =>
    name.toLower.endsWith e.toLower && e.length < name.length &&
      name.toList[name.length - e.length - 1]? != some '/'

/-- The name of what a compressed file holds. -/
def nameBehind (name ending : String) : String :=
  (name.dropEnd ending.length).toString ++
    (if ending = ".tgz" || ending = ".taz" then ".tar" else "")

/-- How much smaller a text has become. -/
def share (smaller bigger frame : Nat) : String :=
  percent ((bigger : Int) - ((smaller : Int) - frame)) bigger

/-- A line of a list: sizes, how much smaller one is, and a name. -/
def listLine (smaller bigger frame : Nat) (name : String) : String :=
  let wide (n : Nat) : String := String.ofList (padLeft 19 ' ' (natText n).toList)
  wide smaller ++ " " ++ wide bigger ++ " " ++ share smaller bigger frame ++ " " ++ name ++ "\n"

/-- Tells what a compressed file holds. -/
def tellList (m : Manner) (stamp : Nat) (name : String) (size : Nat) (k : Content) : Work Unit := do
  let p ← get
  if p.listed = 0 && !m.quiet then
    Act.print ((if m.verbose then "method  crc     date  time  " else "") ++
      "         compressed        uncompressed  ratio uncompressed_name\n")
  if m.verbose then
    let t := if k.seconds = 0 then Date.ofStamp stamp else Moment.ofEpoch k.seconds 0
    let z ← Date.zone false
    Act.print ("defla " ++ String.ofList (padLeft 8 '0' (inBase false 16 k.check)) ++ " " ++
      Date.written z t.epoch t.nano "%b %e %H:%M " )
  Act.print (listLine size k.text.size k.frame name)
  modify fun p =>
    { p with smaller := p.smaller + size, bigger := p.bigger + k.text.size, frame := k.frame
             listed := p.listed + 1 }

/-- A text of bytes. -/
def asString (bytes : Array UInt8) : String := Raw.stringOfBytes bytes.toList

/-- What bytes hold, if that can be had; what is wrong is told, and what could be read is printed if
it goes to the output. -/
def contentOf (c : Call) (m : Manner) (title : String) (bytes : Array UInt8) :
    Work (Option Content) := do
  match unpack bytes with
  | .ok k =>
    if k.trailing = .other then
      if !m.quiet then Act.tell "\n"
      warn c m (title ++ ": decompression OK, trailing garbage ignored")
    pure (some k)
  | .error (.foreign, _) =>
    if m.force && m.prints then pure (some { text := bytes })
    else
      failInside c (title ++ ": " ++ Fault.foreign.message)
      pure none
  | .error (f, text) =>
    if m.prints then Act.print (asString text)
    match f with
    | .method _ => fail c (title ++ ": " ++ f.message)
    | _ => failInside c (title ++ ": " ++ f.message)
    pure none

/-- Tells how much smaller a text has become, and more. -/
def tellShare (name : String) (smaller bigger frame : Nat) (text : String) : Work Unit :=
  Act.tell (name ++ ":\t" ++ share smaller bigger frame ++ text ++ "\n")

/-- The bytes of a member beside what is made of its text. -/
def frameOf (name : Option String) : Nat :=
  18 + ((name.map fun n => (Raw.bytesOfString n).length + 1).getD 0)

/-- Works on the input. -/
def workOnInput (c : Call) (m : Manner) : Work Unit := do
  let stamp ← match ← Act.channel? 0 with
    | some (.file file ..) => do
      let d ← (Act.disk : Act Disk)
      pure (((d.opened? file).map (·.stamp)).getD 0)
    | _ => pure 0
  match ← (Act.readAll 0 : Act _) with
  | .error err => fail c ("stdin: " ++ err.text)
  | .ok cs =>
    let bytes := (Raw.toBytes cs).toArray
    if m.back || m.lists || m.tests then
      let shown := { m with prints := !m.tests && !m.lists }
      if let some k ← contentOf c shown "stdin" bytes then
        if m.lists then tellList m stamp "stdout" bytes.size k
        else if m.tests then
          if m.verbose then Act.tell " OK\n"
        else Act.print (asString k.text)
    else
      let seconds := if m.named = some false then 0 else stamp / 1000000000
      let packed := pack m.level none seconds bytes
      Act.print (asString packed)
      if m.verbose then Act.tell (share packed.size bytes.size (frameOf none) ++ "\n")

/-- Puts what has been made of a file in its place, and removes the file unless it is kept. It gives
whether that could be done. -/
def replace (c : Call) (m : Manner) (source target : String) (n : Node) (seconds : Option Nat)
    (bytes : Array UInt8) : Work Bool := do
  let d ← (Act.disk : Act Disk)
  let here := (← (Act.shell : Act Interpreter)).here
  let present := (d.find here target false).toOption
  if present.isSome && !m.force then
    warn c m (target ++ " already exists;\tnot overwritten")
    pure false
  else
    match d.resolve here target false with
    | .error err =>
      fail c (target ++ ": " ++ err.text)
      pure false
    | .ok l =>
      if let some (old, _) := present then Act.modifyDisk fun d => d.drop old
      let made : Node := { content := .file (asString bytes), mode := n.mode }
      let stamp := (seconds.map (· * 1000000000)).getD n.stamp
      Act.modifyDisk fun d => (d.put l made).alter l fun x => { x with stamp := stamp }
      if !m.keep then
        if let .ok (l, _) := d.find here source false then Act.modifyDisk fun d => d.drop l
      pure true

/-- Works on a file that is there. -/
def workOnFile (c : Call) (m : Manner) (path : String) (n : Node) : Work Unit := do
  match ← (Call.whole path : Act _) with
  | .error err => fail c (path ++ ": " ++ err.text)
  | .ok cs =>
    let bytes := (Raw.toBytes cs).toArray
    if m.back || m.lists || m.tests then
      let ending := endingOf? m path
      if ending.isNone && !m.prints && !m.lists && !m.tests then
        warn c m (path ++ ": unknown suffix -- ignored")
      else
        let target := (ending.map (nameBehind path)).getD path
        if let some k ← contentOf c m path bytes then
          let told := if m.named = some true then
              (k.name.map fun b => Raw.stringOfBytes b).getD target
            else target
          if m.lists then tellList m n.stamp told bytes.size k
          else if m.tests then
            if m.verbose then Act.tell (path ++ ":\t OK\n")
          else if m.prints then
            Act.print (asString k.text)
            if m.verbose then tellShare path bytes.size k.text.size k.frame ""
          else
            let target := if m.named = some true then
                (k.name.map fun b => Find.folderOf path ++ "/" ++ Raw.stringOfBytes b).getD target
              else target
            let seconds := if m.named = some true && k.seconds ≠ 0 then some k.seconds else none
            if ← replace c m path target n seconds k.text then
              if m.verbose then
                tellShare path bytes.size k.text.size k.frame
                  ((if m.keep then " -- created " else " -- replaced with ") ++ target)
    else if (endingOf? m path).isSome && !m.prints then
      if m.verbose || (!m.deep && !m.quiet) then
        let ending := (endingOf? m path).getD ""
        c.blame (path ++ " already has " ++ ending ++ " suffix -- unchanged")
    else
      let name := if m.named = some false then none else some (Find.baseOf path)
      let seconds := if m.named = some false then 0 else n.stamp / 1000000000
      let packed := pack m.level name seconds bytes
      if m.prints then
        Act.print (asString packed)
        if m.verbose then tellShare path packed.size bytes.size (frameOf name) ""
      else
        let target := path ++ m.ending
        if ← replace c m path target n none packed then
          if m.verbose then
            tellShare path packed.size bytes.size (frameOf name)
              ((if m.keep then " -- created " else " -- replaced with ") ++ target)

/-- The file that an operand means, and what is there: one that is not there is looked for with the
endings of compressed files, if those are read. -/
def lookUp (m : Manner) (path : String) : Act (Except (String × Errno) (String × Node)) := do
  let d ← Act.disk
  let here := (← Act.shell).here
  let asked (p : String) : Except Errno Node := (d.find here p).map (·.2)
  match asked path with
  | .ok n => pure (.ok (path, n))
  | .error .noEntry =>
    if (m.back || m.lists || m.tests) && (endingOf? m path).isNone then
      let names := [m.ending, ".gz", ".z", "-z", ".Z"].map (path ++ ·)
      match names.findSome? fun p => (asked p).toOption.map fun n => (p, n) with
      | some found => pure (.ok found)
      | none => pure (.error (path ++ m.ending, .noEntry))
    else pure (.error (path, .noEntry))
  | .error err => pure (.error (path, err))

/-- Works on an operand, or on all that is in a folder; `fuel` bounds how deep it is. -/
def workOn (c : Call) (m : Manner) : (fuel : Nat) → (path : String) → Work Unit
  | 0, _ => pure ()
  | fuel + 1, path => do
    if path = "-" then workOnInput c m
    else
      match ← (lookUp m path : Act _) with
      | .error (name, err) => fail c (name ++ ": " ++ err.text)
      | .ok (path, n) =>
        let d ← (Act.disk : Act Disk)
        let here := (← (Act.shell : Act Interpreter)).here
        let direct := (d.find here path false).toOption.map (·.2)
        if n.isFolder then
          if m.deep then
            if let .ok (l, _) := d.find here path then
              for name in d.namesAt l do workOn c m fuel (Find.inFolder path name)
          else warn c m (path ++ " is a directory -- ignored")
        else if direct.any (·.isLink) && !m.prints && !m.force && !m.lists && !m.tests then
          fail c (path ++ ": Too many levels of symbolic links")
        else if !n.isFile && !m.prints && !m.force then
          warn c m (path ++ " is not a directory or a regular file - ignored")
        else
          let others := d.namesOf n - 1
          if 0 < others && !m.prints && !m.force && !m.lists && !m.tests then
            warn c m (path ++ " has " ++ natText others ++ " other link" ++
              (if others = 1 then "" else "s") ++ " -- file ignored")
          else workOnFile c m path n

/-- The options that `gzip` knows. -/
def flags : Flags where
  letters := "ab:cdfhklmMnNqrS:tv123456789"
  long := [("ascii", .nothing, "a"), ("to-stdout", .nothing, "c"), ("stdout", .nothing, "c"),
    ("decompress", .nothing, "d"), ("uncompress", .nothing, "d"), ("force", .nothing, "f"),
    ("keep", .nothing, "k"), ("list", .nothing, "l"), ("no-name", .nothing, "n"),
    ("name", .nothing, "N"), ("quiet", .nothing, "q"), ("silent", .nothing, "q"),
    ("synchronous", .nothing, "sync"), ("recursive", .nothing, "r"), ("suffix", .value, "S"),
    ("test", .nothing, "t"), ("verbose", .nothing, "v"), ("no-time", .nothing, "m"),
    ("fast", .nothing, "1"), ("best", .nothing, "9"), ("bits", .value, "b"),
    ("rsyncable", .nothing, "rsyncable"), ("presume-input-tty", .nothing, "tty")]

/-- The program `gzip`, called with some options before its own. -/
def gzip (given : List String) : Tool := fun _ called => do
  let c : Call := { name := "gzip", args := given ++ called.args }
  match flags.parse c.args with
  | .error text =>
    c.blame text
    Act.tell "Try \x60gzip --help' for more information.\n"
    pure 1
  | .ok p =>
    let ending := (p.last? "S").getD ".gz"
    if ending = "" || ending.toList.contains '/' || 30 < ending.length then
      c.blame ("invalid suffix '" ++ ending ++ "'")
      return 1
    if let some bits := p.last? "b" then
      if !bits.toList.all Char.isDigit then
        c.blame "-b operand is not an integer"
        Act.tell "Try \x60gzip --help' for more information.\n"
        return 1
    let m : Manner :=
      { back := p.has "d", prints := p.has "c", force := p.has "f", keep := p.has "k"
        lists := p.has "l", tests := p.has "t", quiet := p.has "q" && p.lastOf? ["q", "v"] == some "q"
        verbose := p.has "v" && p.lastOf? ["q", "v"] == some "v", deep := p.has "r"
        named := (p.lastOf? ["n", "N"]).map (· == "N"), ending := ending
        level := ((p.lastOf? ("123456789".toList.map String.singleton)).bind natText?).getD 6 }
    let work : Work Unit := do
      for o in (if p.operands.isEmpty then ["-"] else p.operands) do workOn c m Disk.maxDepth o
      let s ← get
      if m.lists && 1 < s.listed && !m.quiet then
        Act.print ((if m.verbose then String.ofList (List.replicate 28 ' ') else "") ++
          listLine s.smaller s.bigger s.frame "(totals)")
    let (_, s) ← work.run {}
    pure s.status

end Runbook.Shell.Deflate
