import Std.Data.HashMap
import Std.Data.HashSet
import Runbook.File.Tree
import Runbook.Shell.Text.Raw

/-!
# `Shell/Disk` — the files that commands work on

While commands run, the files of a project are a `Disk`: folders that know the names in them, files,
links to other paths, and devices, each with permissions and the time of its last change. A path is
followed from a folder, through links, to a location without links in it (`Disk.resolve`), or else
to an error of the operating system (`Errno`). Time goes on by a billionth of a second with each
change.
-/

set_option autoImplicit false

namespace Runbook.Shell

/-- Names that lead down from the root. -/
abbrev Location := List String

/-- What the operating system may have against an operation on files. -/
inductive Errno where
  | noEntry
  | notFolder
  | isFolder
  | present
  | notEmpty
  | denied
  | tooManyLinks
  | invalid
  | badDescriptor
  | notPermitted
  | nameTooLong
  | busy
  | crossing
  | noSpace
  | noDevice
  | badFormat
  deriving DecidableEq, Repr

/-- The words of the operating system. -/
def Errno.text : Errno → String
  | .noEntry => "No such file or directory"
  | .notFolder => "Not a directory"
  | .isFolder => "Is a directory"
  | .present => "File exists"
  | .notEmpty => "Directory not empty"
  | .denied => "Permission denied"
  | .tooManyLinks => "Too many levels of symbolic links"
  | .invalid => "Invalid argument"
  | .badDescriptor => "Bad file descriptor"
  | .notPermitted => "Operation not permitted"
  | .nameTooLong => "File name too long"
  | .busy => "Device or resource busy"
  | .crossing => "Invalid cross-device link"
  | .noSpace => "No space left on device"
  | .noDevice => "No such device or address"
  | .badFormat => "Exec format error"

/-- The number of an error. -/
def Errno.number : Errno → Nat
  | .noEntry => 2
  | .notFolder => 20
  | .isFolder => 21
  | .present => 17
  | .notEmpty => 39
  | .denied => 13
  | .tooManyLinks => 40
  | .invalid => 22
  | .badDescriptor => 9
  | .notPermitted => 1
  | .nameTooLong => 36
  | .busy => 16
  | .crossing => 18
  | .noSpace => 28
  | .noDevice => 6
  | .badFormat => 8

/-- A device. -/
inductive Device where
  /-- It is empty, and takes everything. -/
  | null
  /-- It gives bytes of zero without end. -/
  | zeros
  /-- It gives bytes that look like chance without end. -/
  | noise
  /-- It takes nothing. -/
  | full
  /-- A stream of the process that opens it. -/
  | stream (descriptor : Nat)
  /-- The terminal, which is not there. -/
  | terminal
  /-- What is written waits there until it is read. -/
  | queue
  deriving DecidableEq, Repr

/-- What may be at a location. -/
inductive Content where
  /-- A folder, with the names in it, the latest first. -/
  | folder (names : List String)
  | file (text : String)
  | link (target : String)
  | device (device : Device)
  deriving DecidableEq, Repr

/-- Something at a location. -/
structure Node where
  content : Content
  /-- The permissions. -/
  mode : Nat
  /-- The time of the last change. -/
  stamp : Nat := 0
  /-- What tells it from others; two names of one file share it. None has been given if it is zero.
  -/
  serial : Nat := 0

instance : Inhabited Node := ⟨{ content := .file "", mode := 0 }⟩

namespace Node

/-- A folder. -/
def isFolder (n : Node) : Bool :=
  match n.content with
  | .folder _ => true
  | _ => false

/-- A file. -/
def isFile (n : Node) : Bool :=
  match n.content with
  | .file _ => true
  | _ => false

/-- A link. -/
def isLink (n : Node) : Bool :=
  match n.content with
  | .link _ => true
  | _ => false

/-- A queue of bytes. -/
def isQueue (n : Node) : Bool :=
  match n.content with
  | .device .queue => true
  | _ => false

/-- Somebody may run it. -/
def mayRun (n : Node) : Bool := n.mode / 64 % 2 == 1 || n.mode / 8 % 2 == 1 || n.mode % 2 == 1

/-- How many bytes there are. -/
def size (n : Node) : Nat :=
  match n.content with
  | .folder _ => 4096
  | .file text => Raw.size text.toList
  | .link target => Raw.size target.toList
  | .device _ => 0

end Node

/-- Files and folders. -/
structure Disk where
  nodes : Std.HashMap Location Node
  clock : Nat := 1
  /-- The latest serial that was given. -/
  serials : Nat := 0
  /-- The serials of files that have had several names. -/
  shared : List Nat := []
  /-- The texts of files that have lost a name, which somebody may still read and write. -/
  unnamed : Std.HashMap Nat String := ∅
  /-- What waits in queues, by their serials. -/
  waiting : Std.HashMap Nat String := ∅

/-- A file as those know it who have opened it: where it was found, and its serial. -/
structure Handle where
  place : Location
  serial : Nat

namespace Disk

/-- What is at a location. -/
def at? (d : Disk) (l : Location) : Option Node := d.nodes[l]?

/-- There is a folder at a location. -/
def isFolderAt (d : Disk) (l : Location) : Bool := (d.at? l).any (·.isFolder)

/-- The names in the folder at a location, the latest first. -/
def namesAt (d : Disk) (l : Location) : List String :=
  match (d.at? l).map Node.content with
  | some (.folder names) => names
  | _ => []

/-- The names in the folder at a location, in order. -/
def sortedNames (d : Disk) (l : Location) : List String :=
  (d.namesAt l).mergeSort fun a b => decide (a ≤ b)

/-- A location as a path from the root. -/
def pathOf (l : Location) : String := "/" ++ "/".intercalate l

/-! ## Following paths -/

/-- The parts of a path between its slashes; empty ones say nothing. -/
def partsOf (path : String) : List String :=
  (((path.toList.splitOn '/').filter (!·.isEmpty)).map String.ofList)

/-- Where names lead from a folder. At most `links` links are followed; the last name is followed if
it stands for a link and `follow` says so. -/
def walk (d : Disk) (follow : Bool) : (fuel : Nat) → (links : Nat) → (here : Location) →
    List String → Except Errno Location
  | 0, _, _, _ => .error .tooManyLinks
  | _ + 1, _, here, [] => .ok here
  | fuel + 1, links, here, name :: rest =>
    if !d.isFolderAt here then
      .error (if (d.at? here).isSome then .notFolder else .noEntry)
    else if name = "." then walk d follow fuel links here rest
    else if name = ".." then walk d follow fuel links here.dropLast rest
    else if 255 < Raw.size name.toList then .error .nameTooLong
    else
      match (d.at? (here ++ [name])).map Node.content with
      | some (.link target) =>
        if rest.isEmpty && !follow then .ok (here ++ [name])
        else
          match links with
          | 0 => .error .tooManyLinks
          | links + 1 =>
            let start := if target.startsWith "/" then [] else here
            walk d follow fuel links start (partsOf target ++ rest)
      | some _ => walk d follow fuel links (here ++ [name]) rest
      | none => if rest.isEmpty then .ok (here ++ [name]) else .error .noEntry

/-- Where a path leads from a folder. What is there, if anything, is not asked; but everything that
leads there has to be, and a path that ends in a slash leads to folders only. -/
def resolve (d : Disk) (here : Location) (path : String) (follow : Bool := true) :
    Except Errno Location := do
  if path = "" then .error .noEntry
  else
    let start := if path.startsWith "/" then [] else here
    let slash := path.endsWith "/"
    let l ← walk d (follow || slash) 100000 40 start (partsOf path)
    if slash && (d.at? l).any (!·.isFolder) then .error .notFolder else .ok l

/-- What a path leads to, and where that is. -/
def find (d : Disk) (here : Location) (path : String) (follow : Bool := true) :
    Except Errno (Location × Node) := do
  let l ← d.resolve here path follow
  match d.at? l with
  | some n => .ok (l, n)
  | none => .error .noEntry

/-- Something is where a path leads. -/
def exists? (d : Disk) (here : Location) (path : String) : Bool := (d.find here path).isOk

/-! ## Files that are open -/

/-- The places with a serial. -/
def placesOf (d : Disk) (serial : Nat) : List Location :=
  d.nodes.fold (fun ls l n => if n.serial = serial then l :: ls else ls) []

/-- How many names something has. -/
def namesOf (d : Disk) (n : Node) : Nat :=
  if d.shared.contains n.serial then (d.placesOf n.serial).length else 1

/-- Where an open file is now, if it has a name. -/
def whereIs? (d : Disk) (h : Handle) : Option Location :=
  if (d.at? h.place).any (·.serial == h.serial) then some h.place
  else (d.placesOf h.serial).head?

/-- What is open. -/
def opened? (d : Disk) (h : Handle) : Option Node := (d.whereIs? h).bind d.at?

/-- The text of an open file. -/
def textOf (d : Disk) (h : Handle) : String :=
  match (d.opened? h).map Node.content with
  | some (.file text) => text
  | some _ => ""
  | none => d.unnamed.getD h.serial ""

/-! ## Changing -/

/-- The disk with something at a location changed, and with it all that shares its serial. -/
def alter (d : Disk) (l : Location) (f : Node → Node) : Disk :=
  match d.at? l with
  | some n =>
    if d.shared.contains n.serial then
      { d with nodes := (d.placesOf n.serial).foldl (fun ns k => ns.modify k f) d.nodes }
    else { d with nodes := d.nodes.insert l (f n) }
  | none => d

/-- The disk that remembers the text of a file which loses a name. -/
def remember (d : Disk) (l : Location) : Disk :=
  match d.at? l with
  | some n =>
    match n.content with
    | .file text => { d with unnamed := d.unnamed.insert n.serial text }
    | _ => d
  | none => d

/-- The disk with other names in a folder, changed now. -/
def editFolder (d : Disk) (l : Location) (f : List String → List String) : Disk :=
  match d.at? l with
  | some n =>
    match n.content with
    | .folder names =>
      { d with nodes := d.nodes.insert l { n with content := .folder (f names), stamp := d.clock } }
    | _ => d
  | none => d

/-- The disk with something at a location, whose folder is there. -/
def put (d : Disk) (l : Location) (n : Node) : Disk :=
  let d := { d with clock := d.clock + 1 }
  let isNew := (d.at? l).isNone
  let d := d.remember l
  let fresh := n.serial = 0
  let serial := if fresh then d.serials + 1 else n.serial
  let d :=
    { d with
      nodes := d.nodes.insert l { n with stamp := d.clock, serial := serial }
      serials := if fresh then serial else d.serials }
  match l.getLast?, isNew with
  | some name, true => d.editFolder l.dropLast (name :: ·)
  | _, _ => d

/-- The disk with another text in the file at a location. -/
def setText (d : Disk) (l : Location) (text : String) : Disk :=
  match d.at? l with
  | some _ =>
    let d := { d with clock := d.clock + 1 }
    d.alter l fun n => { n with content := .file text, stamp := d.clock }
  | none => d.put l { content := .file text, mode := 0o644 }

/-- The disk with another text in an open file. -/
def setTextOf (d : Disk) (h : Handle) (text : String) : Disk :=
  match d.whereIs? h with
  | some l => d.setText l text
  | none => { d with unnamed := d.unnamed.insert h.serial text }

/-- The disk with a further name for something. -/
def share (d : Disk) (l : Location) (n : Node) : Disk :=
  let stamp := n.stamp
  let d := { d with shared := n.serial :: d.shared }
  (d.put l n).alter l fun m => { m with stamp := stamp }

/-- The disk without what is at a location; its folder does not have the name any more. -/
def drop (d : Disk) (l : Location) : Disk :=
  let d := d.remember l
  let d := { d with clock := d.clock + 1, nodes := d.nodes.erase l }
  match l.getLast? with
  | some name => d.editFolder l.dropLast (·.filter (· != name))
  | none => d

/-- The locations in a folder and below, the folder itself first; `fuel` bounds the depth. -/
def below (d : Disk) : (fuel : Nat) → Location → List Location
  | 0, l => [l]
  | fuel + 1, l => l :: (d.sortedNames l).flatMap fun name => below d fuel (l ++ [name])

/-- How deep folders are looked into. -/
def maxDepth : Nat := 1000

/-- The disk without a folder and all that is in it. -/
def dropAll (d : Disk) (l : Location) : Disk :=
  (d.below maxDepth l).reverse.foldl drop d

/-- The disk with what is at one location and below moved to another. -/
def move (d : Disk) (source target : Location) : Disk :=
  let moved := (d.below maxDepth source).filterMap fun l =>
    (d.at? l).map fun n => (target ++ l.drop source.length, n)
  let d := (d.dropAll source)
  moved.foldl (fun d (l, n) =>
    let n := match n.content with
      | .folder _ => { n with content := .folder [] }
      | _ => n
    let kept := n.stamp
    (d.put l n).alter l fun n => { n with stamp := kept }) d

/-! ## From the files of a project and back -/

/-- A folder with the usual permissions. -/
def newFolder : Node := { content := .folder [], mode := 0o755 }

/-- The disk with folders down to a location. -/
def withFolders (d : Disk) (l : Location) : Disk :=
  (List.range l.length).foldl (fun d n =>
    let here := l.take (n + 1)
    if d.isFolderAt here then d else d.put here newFolder) d

/-- The disk with the files of a project added. -/
def withTree (d : Disk) (t : File.Tree) : Disk :=
  t.entries.foldl (fun d (l, node) =>
    let d := d.withFolders l.dropLast
    match node with
    | .folder => d.withFolders l
    | .file bytes => d.put l { content := .file (Raw.stringOfBytes bytes), mode := 0o644 }) d

/-- What is at a location, as the files of a project have it. Links stand for what they lead to. -/
def treeNode? (d : Disk) (l : Location) : Option File.Node :=
  let node : Option Node :=
    match (d.at? l).map Node.content with
    | some (.link _) => (d.find [] (pathOf l)).toOption.map (·.2)
    | _ => d.at? l
  match node.map Node.content with
  | some (.folder _) => some .folder
  | some (.file text) => some (.file (Raw.bytesOfString text))
  | _ => none

/-- The files of a project, as they are now, and all that has been added to those that were there at
first: the former in their order, and then the latter. -/
def toTree (d start : Disk) (before : File.Tree) : File.Tree :=
  let kept := before.entries.filterMap fun (l, _) => (d.treeNode? l).map fun n => (l, n)
  let known := Std.HashSet.ofList (before.entries.map (·.1))
  let new := (d.below maxDepth []).filter fun l =>
    !known.contains l && !(start.nodes.contains l)
  ⟨kept ++ new.filterMap fun l => (d.treeNode? l).map fun n => (l, n)⟩

end Disk

end Runbook.Shell

/-!
## The files of the system

Commands find more than the files of a project: the folders of the system, devices, and programs. A
program is a file that may be run and that tells which tool it is (`programText`), so that a copy of
it, or a link to it, is the same tool.
-/

namespace Runbook.Shell.Disk

/-- What the file of a program begins with. -/
def programMark : String := "\x7fELF\x02\x01\x01"

/-- The text of the file of a program. -/
def programText (tool : String) : String := programMark ++ tool

/-- The tool that the text of a file is. -/
def toolOf? (text : String) : Option String :=
  if text.startsWith programMark then some (String.ofList (text.toList.drop programMark.length))
  else none

/-- The programs in the folder for them. -/
def programNames : List String :=
  ["[", "arch", "b2sum", "base32", "base64", "basename", "basenc", "bash", "cat", "chgrp", "chmod",
    "chown", "cksum", "clear", "cmp", "comm", "cp", "csplit", "cut", "dash", "date", "dd", "df",
    "diff", "diff3", "dir", "dircolors", "dirname", "dpkg", "du", "echo", "egrep", "env", "expand", "expr",
    "factor", "false", "fgrep", "find", "flock", "fmt", "fold", "free", "getconf", "getent",
    "getopt", "grep", "groups", "gunzip", "gzip", "head", "hostid", "hostname", "iconv", "id",
    "install", "ionice", "join", "kill", "link", "ln", "locale", "logger", "logname", "ls", "lsblk",
    "mawk", "mcookie", "md5sum", "mkdir", "mkfifo", "mknod", "mktemp", "more", "mount", "mv",
    "namei", "nice", "nl", "nohup", "nproc", "numfmt", "od", "paste", "pathchk", "perl", "pgrep",
    "pinky", "pkill", "pr", "printenv", "printf", "ps", "ptx", "pwd", "readlink", "realpath",
    "renice", "rev", "rm", "rmdir", "run-parts", "sdiff", "sed", "seq", "setsid", "sha1sum",
    "sha224sum", "sha256sum", "sha384sum", "sha512sum", "shred", "shuf", "sleep", "sort", "split",
    "stat", "stdbuf", "stty", "sum", "sync", "tac", "tail", "tar", "taskset", "tee", "tempfile",
    "test", "timeout", "toe", "touch", "tput", "tr", "true", "truncate", "tsort", "tty", "uname",
    "uncompress", "unexpand", "uniq", "unlink", "uptime", "users", "vdir", "wc", "which.debianutils", "who",
    "whoami", "xargs", "yes", "zcat"]

/-- Links in the folder for programs. -/
def programLinks : List (String × String) :=
  [("sh", "dash"), ("rbash", "bash"), ("awk", "/etc/alternatives/awk"),
    ("nawk", "/etc/alternatives/nawk"), ("which", "/etc/alternatives/which"),
    ("md5sum.textutils", "md5sum"), ("pidof", "/sbin/killall5")]

/-- The file of users. -/
def users : String :=
  "root:x:0:0:root:/root:/bin/bash\n" ++
  "daemon:x:1:1:daemon:/usr/sbin:/usr/sbin/nologin\n" ++
  "bin:x:2:2:bin:/bin:/usr/sbin/nologin\n" ++
  "sys:x:3:3:sys:/dev:/usr/sbin/nologin\n" ++
  "sync:x:4:65534:sync:/bin:/bin/sync\n" ++
  "games:x:5:60:games:/usr/games:/usr/sbin/nologin\n" ++
  "man:x:6:12:man:/var/cache/man:/usr/sbin/nologin\n" ++
  "lp:x:7:7:lp:/var/spool/lpd:/usr/sbin/nologin\n" ++
  "mail:x:8:8:mail:/var/mail:/usr/sbin/nologin\n" ++
  "news:x:9:9:news:/var/spool/news:/usr/sbin/nologin\n" ++
  "uucp:x:10:10:uucp:/var/spool/uucp:/usr/sbin/nologin\n" ++
  "proxy:x:13:13:proxy:/bin:/usr/sbin/nologin\n" ++
  "www-data:x:33:33:www-data:/var/www:/usr/sbin/nologin\n" ++
  "backup:x:34:34:backup:/var/backups:/usr/sbin/nologin\n" ++
  "list:x:38:38:Mailing List Manager:/var/list:/usr/sbin/nologin\n" ++
  "irc:x:39:39:ircd:/run/ircd:/usr/sbin/nologin\n" ++
  "_apt:x:42:65534::/nonexistent:/usr/sbin/nologin\n" ++
  "nobody:x:65534:65534:nobody:/nonexistent:/usr/sbin/nologin\n"

/-- The file of groups. -/
def groups : String :=
  "root:x:0:\ndaemon:x:1:\nbin:x:2:\nsys:x:3:\nadm:x:4:\ntty:x:5:\ndisk:x:6:\nlp:x:7:\nmail:x:8:\n" ++
  "news:x:9:\nuucp:x:10:\nman:x:12:\nproxy:x:13:\nkmem:x:15:\ndialout:x:20:\nfax:x:21:\n" ++
  "voice:x:22:\ncdrom:x:24:\nfloppy:x:25:\ntape:x:26:\nsudo:x:27:\naudio:x:29:\ndip:x:30:\n" ++
  "www-data:x:33:\nbackup:x:34:\noperator:x:37:\nlist:x:38:\nirc:x:39:\nsrc:x:40:\nshadow:x:42:\n" ++
  "utmp:x:43:\nvideo:x:44:\nsasl:x:45:\nplugdev:x:46:\nstaff:x:50:\ngames:x:60:\nusers:x:100:\n" ++
  "nogroup:x:65534:\n"

/-- The shells that users may have. -/
def shells : String :=
  "# /etc/shells: valid login shells\n/bin/sh\n/usr/bin/sh\n/bin/bash\n/usr/bin/bash\n/bin/rbash\n" ++
  "/usr/bin/rbash\n/usr/bin/dash\n"

/-- What is on a disk before anything else: locations with what is there. -/
def systemNodes : List (Location × Node) :=
  let folder (l : Location) (mode : Nat := 0o755) : Location × Node :=
    (l, { newFolder with mode := mode })
  let link (l : Location) (target : String) : Location × Node :=
    (l, { content := .link target, mode := 0o777 })
  let file (l : Location) (text : String) : Location × Node :=
    (l, { content := .file text, mode := 0o644 })
  let device (name : String) (d : Device) : Location × Node :=
    (["dev", name], { content := .device d, mode := 0o666 })
  let program (name : String) : Location × Node :=
    (["usr", "bin", name], { content := .file (programText name), mode := 0o755 })
  [folder [], link ["bin"] "usr/bin", folder ["boot"], folder ["dev"], folder ["etc"],
    folder ["home"], link ["lib"] "usr/lib", link ["lib64"] "usr/lib64", folder ["media"],
    folder ["mnt"], folder ["opt"], folder ["proc"] 0o555, folder ["root"] 0o700, folder ["run"],
    link ["sbin"] "usr/sbin", folder ["srv"], folder ["sys"] 0o555, folder ["tmp"] 0o1777,
    folder ["usr"], folder ["var"], folder ["usr", "bin"], folder ["usr", "games"],
    folder ["usr", "include"], folder ["usr", "lib"], folder ["usr", "lib64"],
    folder ["usr", "local"], folder ["usr", "local", "bin"], folder ["usr", "local", "lib"],
    folder ["usr", "local", "sbin"], folder ["usr", "sbin"], folder ["usr", "share"],
    folder ["usr", "src"], folder ["var", "cache"], folder ["var", "lib"], folder ["var", "log"],
    folder ["var", "spool"], folder ["var", "tmp"] 0o1777,
    device "null" .null, device "zero" .zeros, device "full" .full,
    device "random" .noise, device "urandom" .noise, device "tty" .terminal,
    device "stdin" (.stream 0), device "stdout" (.stream 1), device "stderr" (.stream 2),
    folder ["dev", "fd"], folder ["dev", "shm"] 0o1777,
    folder ["etc", "alternatives"], link ["etc", "alternatives", "awk"] "/usr/bin/mawk",
    link ["etc", "alternatives", "nawk"] "/usr/bin/mawk",
    link ["etc", "alternatives", "which"] "/usr/bin/which.debianutils",
    file ["etc", "passwd"] users, file ["etc", "group"] groups, file ["etc", "shells"] shells,
    file ["etc", "hostname"] "localhost\n",
    file ["etc", "hosts"] "127.0.0.1\tlocalhost\n", folder ["proc", "self"] 0o555] ++
  ((List.range 64).map fun n =>
    (["dev", "fd", String.ofList (Nat.toDigits 10 n)], { content := .device (.stream n), mode := 0o666 })) ++
  programNames.map program ++
  programLinks.map fun (name, target) => link ["usr", "bin", name] target

/-- The time at which everything begins, in billionths of a second. -/
def start : Nat := 1767225600000000000

/-- The disk of a system without anything else. -/
def system : Disk :=
  systemNodes.foldl (fun d (l, n) => d.put l n) { nodes := ∅, clock := start }

end Runbook.Shell.Disk
