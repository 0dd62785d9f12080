import Runbook.Shell.Disk.Basic
import Runbook.Shell.Tool.Archive.Restore
import Runbook.Shell.Tool.Deflate.Write

/-!
# `Shell/Tool/Archive/Command` — the program `tar`

An archive is made, added to, told, compared or unpacked. Options take effect in the order in which
they are given; some of them only on the operands behind them.
-/

set_option autoImplicit false

namespace Runbook.Shell.Archive

/-- What is done with an archive. -/
inductive Task where
  | create
  | append
  | update
  | join
  | delete
  | list
  | extract
  | compare
  deriving DecidableEq

/-- How an archive is made smaller. -/
inductive Squeeze where
  | gzip
  /-- By a program that is not there. -/
  | missing (program : String)
  deriving DecidableEq

/-- An operand, or a folder for the operands behind it. -/
inductive Item where
  /-- What is left out of it, and whether it is taken without what is in it, are chosen in front of
  it. -/
  | name (text : String) (excluded : List String) (flat : Bool)
  | within (folder : String)
  /-- Names are in a file. -/
  | listed (file : String) (excluded : List String) (flat : Bool)

/-- What is asked for. -/
structure Asked where
  task : Option Task := none
  archive : Option String := none
  choice : Choice := {}
  restoring : Restoring := {}
  squeeze : Option Squeeze := none
  /-- The name of the archive tells how it is made smaller. -/
  byName : Bool := false
  items : List Item := []
  /-- Zeros in an archive do not end it. -/
  ignoresZeros : Bool := false
  /-- The bytes of an archive are a multiple of this number. -/
  record : Nat := recordSize
  /-- Names in files end with zeros. -/
  zeros : Bool := false
  /-- Dates in writing, and how they are understood. -/
  dates : List (String × String) := []
  /-- Names stand for what is escaped in them. -/
  unescapes : Bool := true
  /-- Options that stand behind all operands they could concern. -/
  idle : List String := []

/-- Why a call cannot be followed: what is told, whether more is told about the program, and the
status. -/
structure Refusal where
  text : String
  hints : Bool := true
  status : Nat := 2
  /-- That the work cannot go on is told. -/
  ends : Bool := false

/-- The options that `tar` knows. -/
def flags : Flags where
  letters := "aAb:BcC:df:F:g:GhH:iI:jJkK:lL:mMnN:oOpPrRsStT:uUvV:wWxX:zZ?"
  long := [("list", .nothing, "t"), ("extract", .nothing, "x"), ("get", .nothing, "x"),
    ("create", .nothing, "c"), ("diff", .nothing, "d"), ("compare", .nothing, "d"),
    ("append", .nothing, "r"), ("update", .nothing, "u"), ("catenate", .nothing, "A"),
    ("concatenate", .nothing, "A"), ("delete", .nothing, "delete"),
    ("test-label", .nothing, "other"), ("sparse", .nothing, "S"),
    ("hole-detection", .value, "other"), ("sparse-version", .value, "other"),
    ("incremental", .nothing, "G"), ("listed-incremental", .value, "g"),
    ("level", .value, "other"), ("ignore-failed-read", .nothing, "failed"),
    ("occurrence", .maybe, "other"), ("seek", .nothing, "n"), ("no-seek", .nothing, "n"),
    ("no-check-device", .nothing, "other"), ("check-device", .nothing, "other"),
    ("verify", .nothing, "W"), ("remove-files", .nothing, "remove"),
    ("keep-old-files", .nothing, "k"), ("skip-old-files", .nothing, "skip"),
    ("keep-newer-files", .nothing, "newer"), ("overwrite", .nothing, "overwrite"),
    ("unlink-first", .nothing, "U"), ("recursive-unlink", .nothing, "unlink"),
    ("no-overwrite-dir", .nothing, "no-dir"), ("overwrite-dir", .nothing, "dir"),
    ("keep-directory-symlink", .nothing, "keep-link"), ("one-top-level", .maybe, "top"),
    ("to-stdout", .nothing, "O"), ("to-command", .value, "other"),
    ("ignore-command-error", .nothing, "other"), ("no-ignore-command-error", .nothing, "other"),
    ("owner", .value, "owner"), ("group", .value, "group"), ("owner-map", .value, "other"),
    ("group-map", .value, "other"), ("mtime", .value, "mtime"),
    ("clamp-mtime", .nothing, "clamp"), ("mode", .value, "mode"),
    ("atime-preserve", .maybe, "atime"), ("touch", .nothing, "m"),
    ("same-owner", .nothing, "same-owner"), ("no-same-owner", .nothing, "o"),
    ("numeric-owner", .nothing, "numeric"), ("preserve-permissions", .nothing, "p"),
    ("same-permissions", .nothing, "p"), ("no-same-permissions", .nothing, "no-p"),
    ("preserve-order", .nothing, "s"), ("same-order", .nothing, "s"),
    ("delay-directory-restore", .nothing, "delay"),
    ("no-delay-directory-restore", .nothing, "other"), ("sort", .value, "sort"),
    ("xattrs", .nothing, "acls"), ("no-xattrs", .nothing, "acls"),
    ("xattrs-include", .value, "other"), ("xattrs-exclude", .value, "other"),
    ("selinux", .nothing, "acls"), ("no-selinux", .nothing, "acls"), ("acls", .nothing, "acls"),
    ("no-acls", .nothing, "acls"), ("file", .value, "f"), ("force-local", .nothing, "local"),
    ("rmt-command", .value, "other"), ("rsh-command", .value, "other"),
    ("multi-volume", .nothing, "M"), ("tape-length", .value, "L"), ("info-script", .value, "F"),
    ("new-volume-script", .value, "F"), ("volno-file", .value, "other"),
    ("blocking-factor", .value, "b"), ("record-size", .value, "record"),
    ("ignore-zeros", .nothing, "i"), ("read-full-records", .nothing, "B"),
    ("format", .value, "H"), ("old-archive", .nothing, "old"), ("portability", .nothing, "old"),
    ("posix", .nothing, "posix"), ("pax-option", .value, "other"), ("label", .value, "V"),
    ("auto-compress", .nothing, "a"), ("no-auto-compress", .nothing, "no-a"),
    ("use-compress-program", .value, "I"), ("bzip2", .nothing, "j"), ("gzip", .nothing, "z"),
    ("gunzip", .nothing, "z"), ("ungzip", .nothing, "z"), ("compress", .nothing, "Z"),
    ("uncompress", .nothing, "Z"), ("lzip", .nothing, "lzip"), ("lzma", .nothing, "lzma"),
    ("lzop", .nothing, "lzop"), ("xz", .nothing, "J"), ("zstd", .nothing, "zstd"),
    ("one-file-system", .nothing, "one"), ("absolute-names", .nothing, "P"),
    ("dereference", .nothing, "h"), ("hard-dereference", .nothing, "hard"),
    ("starting-file", .value, "K"), ("newer", .value, "N"), ("after-date", .value, "N"),
    ("newer-mtime", .value, "N"), ("backup", .maybe, "other"), ("suffix", .value, "other"),
    ("strip-components", .value, "strip"), ("transform", .value, "transform"),
    ("xform", .value, "transform"), ("checkpoint", .maybe, "checkpoint"),
    ("checkpoint-action", .value, "checkpoint"), ("check-links", .nothing, "l"),
    ("totals", .maybe, "totals"), ("utc", .nothing, "utc"), ("full-time", .nothing, "full"),
    ("index-file", .value, "other"), ("block-number", .nothing, "R"),
    ("show-defaults", .nothing, "defaults"), ("show-snapshot-field-ranges", .nothing, "other"),
    ("show-omitted-dirs", .nothing, "other"), ("show-transformed-names", .nothing, "shown"),
    ("show-stored-names", .nothing, "shown"), ("quoting-style", .value, "quoting"),
    ("quote-chars", .value, "other"), ("no-quote-chars", .value, "other"),
    ("interactive", .nothing, "w"), ("confirmation", .nothing, "w"), ("verbose", .nothing, "v"),
    ("warning", .value, "warning"), ("restrict", .nothing, "other"), ("add-file", .value, "add"),
    ("directory", .value, "C"), ("files-from", .value, "T"), ("null", .nothing, "null"),
    ("no-null", .nothing, "no-null"), ("unquote", .nothing, "unquote"),
    ("no-unquote", .nothing, "no-unquote"), ("verbatim-files-from", .nothing, "verbatim"),
    ("no-verbatim-files-from", .nothing, "verbatim"), ("exclude", .value, "exclude"),
    ("exclude-from", .value, "X"), ("exclude-caches", .nothing, "caches"),
    ("exclude-caches-under", .nothing, "caches-under"),
    ("exclude-caches-all", .nothing, "caches-all"), ("exclude-tag", .value, "tag"),
    ("exclude-ignore", .value, "other"), ("exclude-ignore-recursive", .value, "other"),
    ("exclude-tag-under", .value, "tag-under"), ("exclude-tag-all", .value, "tag-all"),
    ("exclude-vcs", .nothing, "vcs"), ("exclude-vcs-ignores", .nothing, "other"),
    ("exclude-backups", .nothing, "backups"), ("recursion", .nothing, "deep"),
    ("no-recursion", .nothing, "flat"), ("anchored", .nothing, "anchored"),
    ("no-anchored", .nothing, "no-anchored"), ("ignore-case", .nothing, "case"),
    ("no-ignore-case", .nothing, "no-case"), ("wildcards", .nothing, "wildcards"),
    ("no-wildcards", .nothing, "no-wildcards"), ("wildcards-match-slash", .nothing, "slash"),
    ("no-wildcards-match-slash", .nothing, "other"), ("help", .nothing, "help"),
    ("usage", .nothing, "usage"), ("program-name", .value, "other"), ("HANG", .maybe, "other"),
    ("version", .nothing, "version")]

/-- The words of a call whose first one holds letters without a dash. -/
def oldWords : List String → Except Refusal (List String)
  | [] => .ok []
  | first :: rest =>
    if first.startsWith "-" || first = "" then .ok (first :: rest)
    else go [] first.toList rest
where
  /-- The letters as options, with their values. -/
  go : (done : List String) → List Char → List String → Except Refusal (List String)
    | done, [], rest => .ok (done.reverse ++ rest)
    | done, c :: cs, rest =>
      match Flags.taking? flags.letters.toList c with
      | some .value =>
        match rest with
        | v :: rest =>
          let new := if v = "" then [v, "-" ++ String.singleton c] else
            ["-" ++ String.singleton c ++ v]
          go (new ++ done) cs rest
        | [] =>
          .error { text := "Old option '" ++ String.singleton c ++ "' requires an argument." }
      | _ => go (("-" ++ String.singleton c) :: done) cs rest

/-- What a name of an archive tells about how it is made smaller. -/
def squeezeOf? (name : String) : Option Squeeze :=
  let ways : List (String × Squeeze) :=
    [("gz", .gzip), ("tgz", .gzip), ("taz", .gzip), ("bz2", .missing "bzip2"),
      ("tbz", .missing "bzip2"), ("tbz2", .missing "bzip2"), ("tz2", .missing "bzip2"),
      ("xz", .missing "xz"), ("txz", .missing "xz"), ("lz", .missing "lzip"),
      ("lzma", .missing "lzma"), ("tlz", .missing "lzma"), ("lzo", .missing "lzop"),
      ("zst", .missing "zstd"), ("tzst", .missing "zstd"), ("Z", .missing "compress"),
      ("taZ", .missing "compress")]
  match (name.toList.splitOn '.').getLast? with
  | some ending => if name.toList.contains '.' then ways.lookup (String.ofList ending) else none
  | none => none

/-- The user or group that an option names. Those that are known by a number only are looked up. -/
def userOf (lines text : String) : String × Option Nat :=
  let records := (Text.lines lines).map fun l => l.splitOn ":"
  let byName (n : String) : Option Nat :=
    (records.find? fun r => r[0]? == some n).bind fun r => (r[2]?).bind natText?
  let byNumber (n : Nat) : String :=
    ((records.find? fun r => (r[2]?).bind natText? == some n).bind fun r => r[0]?).getD ""
  match text.splitOn ":" with
  | [name, number] =>
    let n := natText? number
    (if name = "" then (n.map byNumber).getD "" else name, n)
  | _ =>
    match natText? text with
    | some n => (byNumber n, some n)
    | none => (text, byName text)

/-- Replacements in writing. -/
def replacementsOf : (fuel : Nat) → List Char → Option (List Edit.Replacement)
  | 0, _ => some []
  | _ + 1, [] => some []
  | fuel + 1, 's' :: cs =>
    match Edit.takeReplacement {} cs with
    | .ok (.replace r, rest) =>
      match rest with
      | [] => some [r]
      | ';' :: more => (replacementsOf fuel more).map (r :: ·)
      | _ => none
    | _ => none
  | _, _ => none

/-- The lines of a file, or its parts that end with zeros. -/
def namesIn (zeros : Bool) (cs : List Char) : List String :=
  ((Lines.split (if zeros then Char.ofNat 0 else '\n') cs).1.filter (!·.isEmpty)).map String.ofList

/-- A name is asked for besides. -/
def Asked.named (a : Asked) (name : String) : Asked :=
  { a with items := .name name a.choice.excluded a.choice.flat :: a.items, idle := [] }

/-- Something is asked for besides. -/
def Asked.add (a : Asked) (key v : String) : Act (Except Refusal Asked) := do
  let choose (f : Choice → Choice) : Act (Except Refusal Asked) :=
    pure (.ok { a with choice := f a.choice })
  let restore (f : Restoring → Restoring) : Act (Except Refusal Asked) :=
    pure (.ok { a with restoring := f a.restoring })
  let squeeze (s : Squeeze) : Act (Except Refusal Asked) :=
    pure (.ok { a with squeeze := some s })
  let task (t : Task) : Act (Except Refusal Asked) :=
    match a.task with
    | some u =>
      if u = t then pure (.ok a)
      else pure (.error { text := "You may not specify more than one '-Acdtrux', '--delete' or " ++
                            " '--test-label' option" })
    | none => pure (.ok { a with task := some t })
  let refuse (text : String) : Act (Except Refusal Asked) := pure (.error { text := text })
  let positional (name : String) : Asked :=
    { a with idle := a.idle ++ [name] }
  match key with
  | "c" => task .create
  | "r" => task .append
  | "u" => task .update
  | "A" => task .join
  | "delete" => task .delete
  | "t" => task .list
  | "x" => task .extract
  | "d" => task .compare
  | "f" =>
    if a.archive.isSome then refuse "Multiple archive files require '-M' option"
    else pure (.ok { a with archive := some v })
  | "z" => squeeze .gzip
  | "j" => squeeze (.missing "bzip2")
  | "J" => squeeze (.missing "xz")
  | "Z" => squeeze (.missing "compress")
  | "lzma" | "lzip" | "lzop" | "zstd" => squeeze (.missing key)
  | "I" => squeeze (if v = "gzip" then .gzip else .missing v)
  | "a" => pure (.ok { a with byName := true })
  | "i" => pure (.ok { a with ignoresZeros := true })
  | "null" => pure (.ok { a with zeros := true })
  | "C" => pure (.ok { positional ("-C " ++ curlyQuoted v) with items := .within v :: a.items })
  | "T" =>
    pure (.ok { a with items := .listed v a.choice.excluded a.choice.flat :: a.items, idle := [] })
  | "add" => pure (.ok (a.named v))
  | "exclude" =>
    let a := positional ("--exclude " ++ curlyQuoted v)
    pure (.ok { a with choice := { a.choice with excluded := v :: a.choice.excluded } })
  | "X" =>
    let a := positional ("--exclude-from " ++ curlyQuoted v)
    match ← Call.whole v with
    | .ok cs =>
      pure (.ok { a with choice :=
                    { a.choice with excluded := namesIn false cs ++ a.choice.excluded } })
    | .error err =>
      pure (.error { text := titled v ++ ": " ++ err.text, hints := false, ends := true })
  | "vcs" =>
    let names := [".git", ".gitignore", ".gitmodules", ".gitattributes", "CVS", ".cvsignore", "RCS",
      "SCCS", ".svn", ".arch-ids", "\x7barch\x7d", "=RELEASE-ID", "=meta-update", "=update", ".bzr",
      ".bzrignore", ".bzrtags", ".hg", ".hgignore", ".hgtags", "_darcs"]
    let a := positional "--exclude-vcs"
    pure (.ok { a with choice := { a.choice with excluded := names ++ a.choice.excluded } })
  | "backups" =>
    let a := positional "--exclude-backups"
    let names := [".#*", "*~", "#*#"]
    pure (.ok { a with choice := { a.choice with excluded := names ++ a.choice.excluded } })
  | "flat" =>
    let a := positional "--no-recursion"
    pure (.ok { a with choice := { a.choice with flat := true } })
  | "deep" => choose fun o => { o with flat := false }
  | "wildcards" =>
    let a := positional "--wildcards"
    pure (.ok { a with restoring := { a.restoring with wildcards := true } })
  | "no-wildcards" => restore fun r => { r with wildcards := false }
  | "h" => choose fun o => { o with follows := true }
  | "P" => choose fun o => { o with absolute := true }
  | "v" => choose fun o => { o with verbose := o.verbose + 1 }
  | "R" => choose fun o => { o with places := true }
  | "full" => choose fun o => { o with fullTime := true }
  | "numeric" => choose fun o => { o with numeric := true }
  | "remove" => choose fun o => { o with remove := true }
  | "sort" =>
    if ["none", "name", "inode"].contains v then choose fun o => { o with sorted := v = "name" }
    else
      pure (.error {
        text := "invalid argument " ++ curlyQuoted v ++ " for " ++ curlyQuoted "--sort" ++
          "\nValid arguments are:" ++
          String.join (["none", "name", "inode"].map fun t => "\n  - " ++ curlyQuoted t)
        hints := false })
  | "owner" => choose fun o => { o with owner := some (userOf Disk.users v) }
  | "group" => choose fun o => { o with group := some (userOf Disk.groups v) }
  | "mode" =>
    if (Permission.changed? v 0 false 0).isNone then
      pure (.error { text := "Invalid mode given on option", hints := false, ends := true })
    else choose fun o => { o with mode := some v }
  | "mtime" =>
    let d ← Act.disk
    let here := (← Act.shell).here
    let file := if v.startsWith "/" || v.startsWith "." then
        (d.find here v).toOption.map (·.2.stamp / 1000000000)
      else none
    match file with
    | some n => choose fun o => { o with seconds := some n }
    | none =>
      let now ← Date.now
      let (_, ahead) ← Date.zone false
      match Calendar.read? now ahead v with
      | some (epoch, _) =>
        let text := Date.written ("", ahead) epoch 0 "%Y-%m-%d %H:%M:%S"
        let dates := if text = v then a.dates else a.dates ++ [(v, text)]
        pure (.ok { a with dates := dates, choice := { a.choice with seconds := some epoch.toNat } })
      | none =>
        blame ("Substituting -9223372036854775807 for unknown date format " ++ curlyQuoted v)
        choose fun o => { o with seconds := some 0 }
  | "transform" =>
    match replacementsOf (v.length + 1) v.toList with
    | some rs => choose fun o => { o with renamed := o.renamed ++ rs }
    | none => refuse "Invalid transform expression"
  | "O" => restore fun r => { r with prints := true }
  | "k" => restore fun r => { r with keeps := true }
  | "skip" => restore fun r => { r with skips := true }
  | "newer" => restore fun r => { r with keepsNewer := true }
  | "m" => restore fun r => { r with touches := true }
  | "no-p" => restore fun r => { r with masks := true }
  | "p" => restore fun r => { r with masks := false }
  | "no-null" => pure (.ok { a with zeros := false })
  | "tag" => choose fun o => { o with tags := (v, .others) :: o.tags }
  | "tag-under" => choose fun o => { o with tags := (v, .under) :: o.tags }
  | "tag-all" => choose fun o => { o with tags := (v, .all) :: o.tags }
  | "N" =>
    let now ← Date.now
    let (_, ahead) ← Date.zone false
    let d ← Act.disk
    let here := (← Act.shell).here
    let file := if v.startsWith "/" || v.startsWith "." then
        (d.find here v).toOption.map (·.2.stamp / 1000000000)
      else none
    let read := (Calendar.read? now ahead v).map fun t => t.1.toNat
    choose fun o => { o with since := file.orElse fun _ => read }
  | "totals" =>
    if ["", "SIGHUP", "HUP", "SIGQUIT", "QUIT", "SIGINT", "INT", "SIGUSR1", "USR1", "SIGUSR2",
        "USR2"].contains v then
      pure (.ok a)
    else pure (.error { text := "Unknown signal name: " ++ v, hints := false, ends := true })
  | "H" =>
    let formats : List (String × Format) := [("v7", .plain), ("oldgnu", .long), ("gnu", .long),
      ("ustar", .standard), ("posix", .long), ("pax", .long)]
    match formats.lookup v with
    | some f => choose fun o => { o with format := f }
    | none => refuse (v ++ ": Invalid archive format")
  | "old" => choose fun o => { o with format := .plain }
  | "unquote" => pure (.ok { a with unescapes := true })
  | "no-unquote" => pure (.ok { a with unescapes := false })
  | "shown" =>
    pure (.ok { a with
      restoring := { a.restoring with showsNames := true }
      choice := { a.choice with showsStored := true } })
  | "strip" =>
    match natText? v with
    | some n => restore fun r => { r with strip := n }
    | none => refuse (v ++ ": Invalid number of elements")
  | "b" =>
    match natText? v with
    | some n =>
      if n = 0 then refuse (v ++ ": Invalid blocking factor")
      else pure (.ok { a with record := n * blockSize })
    | none => refuse (v ++ ": Invalid blocking factor")
  | _ => pure (.ok a)

/-- All that was given, in order. -/
def Asked.addAll (a : Asked) : List Flags.Given → Act (Except Refusal Asked)
  | [] => pure (.ok a)
  | .option key value :: rest => do
    match ← a.add key (value.getD "") with
    | .ok a => a.addAll rest
    | .error r => pure (.error r)
  | .operand o :: rest | .bare o :: rest =>
    (a.named o).addAll rest

/-- Ends the work at once. -/
def fatal (text : String) : Act Nat := do
  blame text
  blame "Error is not recoverable: exiting now"
  pure 2

/-- The operands with the folders that they are in; it ends the work if a folder is not there. -/
def placed (a : Asked) : Act (Except Nat (List Wanted × Location)) := do
  let meant (n : String) : String :=
    if a.unescapes then String.ofList (meantName n.toList) else n
  let mut here := (← Act.shell).here
  let mut found : List Wanted := []
  let mut wrong : Option String := none
  for i in a.items.reverse do
    match i with
    | .name n excluded flat =>
      if let some text := wrong then return .error (← fatal text)
      found := ⟨meant n, here, excluded, flat⟩ :: found
    | .within folder =>
      if wrong.isNone then
        match (← Act.disk).find here folder with
        | .ok (l, n) =>
          if n.isFolder then here := l
          else wrong := some (titled folder ++ ": Cannot open: " ++ Errno.notFolder.text)
        | .error err => wrong := some (titled folder ++ ": Cannot open: " ++ err.text)
    | .listed file excluded flat =>
      match ← Call.whole file with
      | .ok cs =>
        for n in namesIn a.zeros cs do
          found := ⟨if a.zeros then n else meant n, here, excluded, flat⟩ :: found
      | .error err => return .error (← fatal (titled file ++ ": Cannot stat: " ++ err.text))
  match wrong with
  | some text => if found.isEmpty then return .error (← fatal text)
  | none => pure ()
  pure (.ok (found.reverse, here))

/-- The bytes of an archive that is read, as they are. -/
def rawBytes (name : String) : Act (Except Nat (Array UInt8)) := do
  match ← Call.whole name with
  | .ok cs => pure (.ok (Raw.toBytes cs).toArray)
  | .error .isFolder =>
    blame (titled name ++ ": Cannot read: " ++ Errno.isFolder.text)
    blame "At beginning of tape, quitting now"
    blame "Error is not recoverable: exiting now"
    pure (.error 2)
  | .error err => pure (.error (← fatal (titled name ++ ": Cannot open: " ++ err.text)))

/-- The bytes of an archive that is read. -/
def bytesOf (a : Asked) (name : String) : Act (Except Nat (Array UInt8)) := do
  match ← rawBytes name with
  | .error n => pure (.error n)
  | .ok bytes =>
    let isPacked := Deflate.isMarked bytes 0
    match a.squeeze with
    | some (.missing program) =>
      Act.tell ("tar (child): " ++ program ++ ": Cannot exec: No such file or directory\n" ++
        "tar (child): Error is not recoverable: exiting now\n")
      pure (.error (← fatal "Child returned status 2"))
    | none =>
      if !isPacked then pure (.ok bytes)
      else if name = "-" then
        pure (.error (← fatal "Archive is compressed. Use -z option"))
      else unpacked bytes
    | some .gzip => unpacked bytes
where
  /-- The bytes that compressed ones stand for. -/
  unpacked (bytes : Array UInt8) : Act (Except Nat (Array UInt8)) := do
    match Deflate.unpack bytes with
    | .ok k => pure (.ok k.text)
    | .error (f, _) =>
      let why := match f with
        | .foreign => "not in gzip format"
        | .short => "unexpected end of file"
        | .check => "invalid compressed data--crc error"
        | .length => "invalid compressed data--length error"
        | _ => "invalid compressed data--format violated"
      Act.tell ("\ngzip: stdin: " ++ why ++ "\n")
      pure (.error (← fatal "Child returned status 1"))

/-- Goes through what is met in an archive; gives whether it has to be left at once. -/
def walk (met : List Met) (f : Nat → Member → Work Unit) : Work Bool := do
  for m in met do
    match m with
    | .member block x _ => f block x
    | .skipped first =>
      if first then fail "This does not look like a tar archive"
      fail "Skipping to next header"
    | .zeros _ => pure ()
    | .loneZero block => blame ("A lone zero block at " ++ natText block)
    | .nothing => fail "This does not look like a tar archive"
    | .cut =>
      discard (fatal "Unexpected EOF in archive")
      return true
  pure false

/-- Tells the names that were asked for and are of no member. -/
def tellMissing (r : Restoring) (met : List Met) : Work Unit := do
  let names := met.filterMap fun m => match m with
    | .member _ x _ => some x.name
    | _ => none
  let mut warned := false
  for w in r.wanted do
    if !names.any fun n => w.fits r.wildcards n then
      if !r.wildcards && !warned && w.name.toList.any ("*?[".toList.contains ·) then
        warned := true
        blame "Pattern matching characters used in file names"
        blame ("Use --wildcards to enable pattern matching, or --no-wildcards to suppress " ++
          "this warning")
      fail (titled (Make.trimmed w.name) ++ ": Not found in archive")

/-- The status that work ends with. -/
def finish (p : Progress) : Act Nat := do
  if p.failed then
    blame "Exiting with failure status due to previous errors"
    pure 2
  else pure (if p.differs then 1 else 0)

/-- Reads an archive and does something with its members. -/
def readArchive (a : Asked) (t : Task) (wanted : List Wanted) (place : Location) : Act Nat := do
  match ← bytesOf a (a.archive.getD "-") with
  | .error n => pure n
  | .ok bytes =>
    let met := membersOf (!a.ignoresZeros) bytes
    let z ← Date.zone false
    let r := { a.restoring with wanted := wanted, place := place }
    let o := { a.choice with
      aside := r.prints && t = .extract
      verbose := if t = .list then a.choice.verbose + 1 else a.choice.verbose }
    let work : Work (Bool × List (Location × Nat)) := do
      let mut later : List (Location × Nat) := []
      let mut ended := false
      for m in met do
        if !ended then
          match m with
          | .member block x _ =>
            match t with
            | .list =>
              if (r.chosen? o x).isSome then
                discard (safeName o "member names" x.name)
                tellMember o z (some block) x
            | .compare => compare r o z block x
            | _ =>
              let more ← restore r o z block x
              later := more ++ later
          | .cut =>
            if t = .extract then blame "Unexpected EOF in archive"
            discard (walk [m] fun _ _ => pure ())
            ended := true
          | .zeros block =>
            if o.places && t = .list then
              Act.print ("block " ++ natText block ++ ": ** Block of NULs **\n")
          | _ => discard (walk [m] fun _ _ => pure ())
      if !ended then tellMissing r met
      pure (ended, later)
    let ((ended, later), p) ← work.run {}
    -- Folders get their times when all is there.
    for (l, stamp) in later do
      Act.modifyDisk fun d => d.alter l fun n => { n with stamp := stamp }
    if ended then pure 2 else finish p

/-- The members of an archive with their bytes. -/
def entriesOf (met : List Met) : List (Member × Array UInt8) :=
  met.filterMap fun m => match m with
    | .member _ x bytes => some (x, bytes)
    | _ => none

/-- Writes bytes as an archive. -/
def writeArchive (name : String) (bytes : Array UInt8) : Act Unit := do
  let text := Raw.stringOfBytes bytes.toList
  if name = "-" then Act.print text
  else
    match ← Act.openPath name { writes := true, truncate := true } with
    | .ok id => discard (Act.writeChannel id text)
    | .error _ => pure ()

/-- Fills the last record of an archive. -/
def filledUp (record : Nat) (bytes : Array UInt8) : Array UInt8 :=
  let size := bytes.size + 2 * blockSize
  let whole := (size + record - 1) / record * record
  bytes ++ Array.replicate (whole - bytes.size) 0

/-- Makes an archive, or adds to one. -/
def makeArchive (a : Asked) (t : Task) (wanted : List Wanted) : Act Nat := do
  let name := a.archive.getD "-"
  let here := (← Act.shell).here
  let squeeze := match a.squeeze with
    | some s => some s
    | none => if a.byName then squeezeOf? name else none
  let present := ((← Act.disk).find here name).isOk
  let fresh := t = .create || !present || name = "-"
  if squeeze.isSome && t ≠ .create then
    blame "Cannot update compressed archives"
    Act.tell "Try 'tar --help' or 'tar --usage' for more information.\n"
    return 2
  let mut before : List (Member × Array UInt8) := []
  if !fresh then
    match ← rawBytes name with
    | .error n => return n
    | .ok bytes =>
      if Deflate.isMarked bytes 0 then return ← fatal "Cannot update compressed archives"
      before := entriesOf (membersOf true bytes)
  else if name ≠ "-" then
    if let .error err ← Act.openPath name { writes := true, create := true, truncate := true } then
      return ← fatal (titled name ++ ": Cannot open: " ++ err.text)
  let d ← Act.disk
  let serial := if name = "-" || squeeze.isSome then 0 else
    ((d.find here name).toOption.map (·.2.serial)).getD 0
  let z ← Date.zone false
  let o := { a.choice with aside := name = "-" }
  let old := before
  let known (n : String) (seconds : Nat) : Bool :=
    t = .update && (old.reverse.find? fun (m, _) => m.name == n).any fun (m, _) => seconds ≤ m.seconds
  let work : Work Unit := do
    for w in wanted do
      gather { o with excluded := w.excluded, flat := w.flat } z serial known Disk.maxDepth w.place
        w.name true
  let (_, p) ← work.run {}
  let bytes := before.foldl (fun bytes (_, b) => bytes ++ b) (#[] : Array UInt8)
  let bytes := p.members.reverse.foldl (fun bytes m => bytes ++ m.blocks o.format) bytes
  match squeeze with
  | some (.missing program) =>
    Act.tell ("/bin/sh: 1: " ++ program ++ ": not found\n")
    fatal "Child returned status 127"
  | some .gzip =>
    writeArchive name (Deflate.pack 6 none 0 (filledUp a.record bytes))
    finish p
  | none =>
    writeArchive name (filledUp a.record bytes)
    finish p

/-- Adds the members of archives to an archive. -/
def joinArchives (a : Asked) (wanted : List Wanted) : Act Nat := do
  let name := a.archive.getD "-"
  let mut bytes : Array UInt8 := #[]
  let mut isFirst := true
  for file in name :: wanted.map (·.name) do
    if isFirst && !((← Act.disk).find (← Act.shell).here name).isOk then
      if let .error err ← Act.openPath name { writes := true, create := true } then
        return ← fatal (titled name ++ ": Cannot open: " ++ err.text)
    else
      match ← rawBytes file with
      | .error n => return n
      | .ok more =>
        for (_, b) in entriesOf (membersOf true more) do bytes := bytes ++ b
    isFirst := false
  writeArchive name (filledUp a.record bytes)
  pure 0

/-- Removes members from an archive. -/
def deleteMembers (a : Asked) (wanted : List Wanted) : Act Nat := do
  let name := a.archive.getD "-"
  match ← rawBytes name with
  | .error n => pure n
  | .ok bytes =>
    let met := membersOf true bytes
    let r := { a.restoring with wanted := wanted }
    let kept := (entriesOf met).filter fun (m, _) =>
      !wanted.any fun w => w.fits r.wildcards m.name
    let bytes := kept.foldl (fun bytes (_, b) => bytes ++ b) (#[] : Array UInt8)
    let (_, p) ← (tellMissing r met).run {}
    writeArchive name (filledUp a.record bytes)
    finish p

/-- The program `tar`. -/
def tar : Tool := fun _ c => do
  let refuse (r : Refusal) : Act Nat := do
    blame r.text
    if r.ends then blame "Error is not recoverable: exiting now"
    if r.hints then Act.tell "Try 'tar --help' or 'tar --usage' for more information.\n"
    pure r.status
  match oldWords c.args with
  | .error r => refuse r
  | .ok words =>
    match flags.ordered words with
    | .error text => refuse { text := text, status := 64 }
    | .ok given =>
      let tells := given.findSome? fun g => match g with
        | .option "version" _ => some "tar (GNU tar) 1.34\n"
        | .option "help" _ =>
          some ("Usage: tar [OPTION...] [FILE]...\nGNU 'tar' saves many files together into a single " ++
            "tape or disk archive, and can\nrestore individual files from the archive.\n")
        | .option "defaults" _ =>
          some ("--format=gnu -f- -b20 --quoting-style=escape --rmt-command=/usr/sbin/rmt " ++
            "--rsh-command=/usr/bin/rsh\n")
        | _ => none
      if let some text := tells then
        Act.print text
        return 0
      match ← Asked.addAll {} given with
      | .error r => refuse r
      | .ok a =>
        match a.task with
        | none =>
          refuse { text := "You must specify one of the '-Acdtrux', '--delete' or '--test-label' options" }
        | some t =>
          if 0 < a.choice.verbose then
            for (date, text) in a.dates do
              blame ("Option --mtime: Treating date '" ++ date ++ "' as " ++ text)
          let hasNames := a.items.any fun i => match i with
            | .within _ => false
            | _ => true
          if t = .create && !hasNames then
            refuse { text := "Cowardly refusing to create an empty archive" }
          else
            let idle := if hasNames && (t = .create || t = .append || t = .update) then a.idle else []
            if !idle.isEmpty then
              blame ("The following options were used after non-option arguments.  These options " ++
                "are positional and affect only arguments that follow them.  Please, rearrange " ++
                "them properly.")
              for text in idle do blame (text ++ " has no effect")
            match ← placed a with
            | .error n => pure n
            | .ok (wanted, place) =>
              let status ← match t with
                | .create | .append | .update => makeArchive a t wanted
                | .join => joinArchives a wanted
                | .delete => deleteMembers a wanted
                | _ => readArchive a t wanted place
              if !idle.isEmpty && status ≠ 2 then
                blame "Exiting with failure status due to previous errors"
                pure 2
              else pure status

end Runbook.Shell.Archive
