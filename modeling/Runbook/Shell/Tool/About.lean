import Runbook.Shell.Tool.Flags

/-!
# `Shell/Tool/About` — what programs tell about themselves

Programs of one collection tell how they are called, and which version they are, before anything
else.
-/

set_option autoImplicit false

namespace Runbook.Shell.About

/-- The programs of the collection, each with the forms of its calls. -/
def forms : List (String × List String) :=
  [("ls", ["[OPTION]... [FILE]..."]), ("dir", ["[OPTION]... [FILE]..."]),
    ("vdir", ["[OPTION]... [FILE]..."]), ("cat", ["[OPTION]... [FILE]..."]),
    ("cp", ["[OPTION]... [-T] SOURCE DEST", "[OPTION]... SOURCE... DIRECTORY",
      "[OPTION]... -t DIRECTORY SOURCE..."]),
    ("mv", ["[OPTION]... [-T] SOURCE DEST", "[OPTION]... SOURCE... DIRECTORY",
      "[OPTION]... -t DIRECTORY SOURCE..."]), ("rm", ["[OPTION]... [FILE]..."]),
    ("sort", ["[OPTION]... [FILE]...", "[OPTION]... --files0-from=F"]),
    ("uniq", ["[OPTION]... [INPUT [OUTPUT]]"]), ("cut", ["OPTION... [FILE]..."]),
    ("tr", ["[OPTION]... STRING1 [STRING2]"]), ("head", ["[OPTION]... [FILE]..."]),
    ("tail", ["[OPTION]... [FILE]..."]),
    ("wc", ["[OPTION]... [FILE]...", "[OPTION]... --files0-from=F"]),
    ("tee", ["[OPTION]... [FILE]..."]), ("basename", ["NAME [SUFFIX]", "OPTION... NAME..."]),
    ("dirname", ["[OPTION] NAME..."]),
    ("seq", ["[OPTION]... LAST", "[OPTION]... FIRST LAST", "[OPTION]... FIRST INCREMENT LAST"]),
    ("date", ["[OPTION]... [+FORMAT]", "[-u|--utc|--universal] [MMDDhhmm[[CC]YY][.ss]]"]),
    ("du", ["[OPTION]... [FILE]...", "[OPTION]... --files0-from=F"]),
    ("df", ["[OPTION]... [FILE]..."]), ("stat", ["[OPTION]... FILE..."]),
    ("touch", ["[OPTION]... FILE..."]), ("mkdir", ["[OPTION]... DIRECTORY..."]),
    ("rmdir", ["[OPTION]... DIRECTORY..."]),
    ("ln", ["[OPTION]... [-T] TARGET LINK_NAME", "[OPTION]... TARGET",
      "[OPTION]... TARGET... DIRECTORY", "[OPTION]... -t DIRECTORY TARGET..."]),
    ("chmod", ["[OPTION]... MODE[,MODE]... FILE...", "[OPTION]... OCTAL-MODE FILE...",
      "[OPTION]... --reference=RFILE FILE..."]),
    ("chown", ["[OPTION]... [OWNER][:[GROUP]] FILE...", "[OPTION]... --reference=RFILE FILE..."]),
    ("chgrp", ["[OPTION]... GROUP FILE...", "[OPTION]... --reference=RFILE FILE..."]),
    ("env", ["[OPTION]... [-] [NAME=VALUE]... [COMMAND [ARG]...]"]),
    ("expr", ["EXPRESSION", "OPTION"]), ("factor", ["[OPTION] [NUMBER]..."]),
    ("fold", ["[OPTION]... [FILE]..."]), ("fmt", ["[-WIDTH] [OPTION]... [FILE]..."]),
    ("paste", ["[OPTION]... [FILE]..."]), ("pr", ["[OPTION]... [FILE]..."]),
    ("split", ["[OPTION]... [FILE [PREFIX]]"]), ("sum", ["[OPTION]... [FILE]..."]),
    ("md5sum", ["[OPTION]... [FILE]..."]), ("sha1sum", ["[OPTION]... [FILE]..."]),
    ("sha224sum", ["[OPTION]... [FILE]..."]), ("sha256sum", ["[OPTION]... [FILE]..."]),
    ("sha384sum", ["[OPTION]... [FILE]..."]), ("sha512sum", ["[OPTION]... [FILE]..."]),
    ("b2sum", ["[OPTION]... [FILE]..."]), ("cksum", ["[OPTION]... [FILE]..."]),
    ("base64", ["[OPTION]... [FILE]"]), ("basenc", ["[OPTION]... [FILE]"]),
    ("base32", ["[OPTION]... [FILE]"]), ("nl", ["[OPTION]... [FILE]..."]),
    ("od", ["[OPTION]... [FILE]...", "[-abcdfilosx]... [FILE] [[+]OFFSET[.][b]]",
      "--traditional [OPTION]... [FILE] [[+]OFFSET[.][b] [+][LABEL][.][b]]"]),
    ("join", ["[OPTION]... FILE1 FILE2"]), ("comm", ["[OPTION]... FILE1 FILE2"]),
    ("tac", ["[OPTION]... [FILE]..."]),
    ("shuf", ["[OPTION]... [FILE]", "-e [OPTION]... [ARG]...", "-i LO-HI [OPTION]..."]),
    ("sleep", ["NUMBER[SUFFIX]...", "OPTION"]),
    ("true", ["[ignored command line arguments]", "OPTION"]),
    ("false", ["[ignored command line arguments]", "OPTION"]),
    ("yes", ["[STRING]...", "OPTION"]), ("tsort", ["[OPTION] [FILE]"]), ("tty", ["[OPTION]..."]),
    ("uname", ["[OPTION]..."]), ("whoami", ["[OPTION]..."]), ("id", ["[OPTION]... [USER]..."]),
    ("numfmt", ["[OPTION]... [NUMBER]..."]), ("nproc", ["[OPTION]..."]),
    ("realpath", ["[OPTION]... FILE..."]), ("readlink", ["[OPTION]... FILE..."]),
    ("mktemp", ["[OPTION]... [TEMPLATE]"]), ("truncate", ["OPTION... FILE..."]),
    ("install", ["[OPTION]... [-T] SOURCE DEST", "[OPTION]... SOURCE... DIRECTORY",
      "[OPTION]... -t DIRECTORY SOURCE...", "[OPTION]... -d DIRECTORY..."]),
    ("pathchk", ["[OPTION]... NAME..."]), ("printenv", ["[OPTION]... [VARIABLE]..."]),
    ("pwd", ["[OPTION]..."]), ("unlink", ["FILE", "OPTION"]),
    ("link", ["FILE1 FILE2", "OPTION"]), ("unexpand", ["[OPTION]... [FILE]..."]),
    ("expand", ["[OPTION]... [FILE]..."]),
    ("timeout", ["[OPTION] DURATION COMMAND [ARG]...", "[OPTION]"]),
    ("nohup", ["COMMAND [ARG]...", "OPTION"]), ("nice", ["[OPTION] [COMMAND [ARG]...]"]),
    ("stdbuf", ["OPTION... COMMAND"]), ("arch", ["[OPTION]..."]),
    ("groups", ["[OPTION]... [USERNAME]..."]), ("logname", ["[OPTION]"]),
    ("mkfifo", ["[OPTION]... NAME..."]), ("mknod", ["[OPTION]... NAME TYPE [MAJOR MINOR]"]),
    ("dd", ["[OPERAND]...", "OPTION"]), ("csplit", ["[OPTION]... FILE PATTERN..."]),
    ("ptx", ["[OPTION]... [INPUT]...   (without -G)", "-G [OPTION]... [INPUT [OUTPUT]]"]),
    ("printf", ["FORMAT [ARGUMENT]...", "OPTION"]),
    ("echo", ["[SHORT-OPTION]... [STRING]...", "LONG-OPTION"]),
    ("users", ["[OPTION]... [FILE]"]), ("who", ["[OPTION]... [ FILE | ARG1 ARG2 ]"]),
    ("hostid", ["[OPTION]"]), ("shred", ["[OPTION]... FILE..."]),
    ("sync", ["[OPTION] [FILE]..."]), ("dircolors", ["[OPTION]... [FILE]"]),
    ("stty", ["[-F DEVICE | --file=DEVICE] [SETTING]...",
      "[-F DEVICE | --file=DEVICE] [-a|--all]", "[-F DEVICE | --file=DEVICE] [-g|--save]"]),
    ("pinky", ["[OPTION]... [USER]..."])]

/-- Programs whose options stand in front of a command. -/
def launchers : List String := ["env", "timeout", "nohup", "nice", "stdbuf"]

/-- Programs that tell something about themselves only if nothing else is asked for. -/
def single : List String := ["true", "false", "echo", "printf", "yes", "expr", "[", "dd", "sleep",
  "basename", "hostid", "logname", "factor"]

/-- What other programs tell as their version. -/
def versions : List (String × String) :=
  [("grep", "grep (GNU grep) 3.8"), ("egrep", "grep (GNU grep) 3.8"),
    ("fgrep", "grep (GNU grep) 3.8"), ("cmp", "cmp (GNU diffutils) 3.8"),
    ("diff3", "diff3 (GNU diffutils) 3.8"), ("sdiff", "sdiff (GNU diffutils) 3.8"),
    ("gzip", "gzip 1.12"), ("gunzip", "gunzip (gzip) 1.12"), ("zcat", "zcat (gzip) 1.12"),
    ("rev", "rev from util-linux 2.38.1"), ("setsid", "setsid from util-linux 2.38.1"),
    ("flock", "flock from util-linux 2.38.1"), ("namei", "namei from util-linux 2.38.1"),
    ("more", "more from util-linux 2.38.1"), ("logger", "logger from util-linux 2.38.1"),
    ("taskset", "taskset from util-linux 2.38.1"), ("ionice", "ionice from util-linux 2.38.1"),
    ("renice", "renice from util-linux 2.38.1"), ("kill", "kill from util-linux 2.38.1")]

/-- The words of a call that may be options of the program. -/
def candidates (name : String) (args : List String) : List String :=
  let args := args.takeWhile (· != "--")
  if launchers.contains name then args.takeWhile (·.startsWith "-") else args

/-- What a program tells about itself if it is asked to. -/
def asked? (name : String) (c : Call) : Option String :=
  if single.contains name && c.args.length ≠ 1 then none
  else
    let words := candidates name c.args
    let ofCollection := forms.lookup name
    match words.find? fun w => w == "--help" || w == "--version" with
    | some "--help" =>
      ofCollection.map fun fs =>
        String.join (fs.zipIdx.map fun (f, n) =>
          (if n = 0 then "Usage: " else "  or:  ") ++ c.name ++ " " ++ f ++ "\n")
    | some _ =>
      match versions.lookup name with
      | some text => some (text ++ "\n")
      | none => if ofCollection.isSome then some (name ++ " (GNU coreutils) 9.1\n") else none
    | none => if ["grep", "egrep", "fgrep"].contains name && words.contains "-V" then
        (versions.lookup name).map (· ++ "\n")
      else none

/-- A program that tells about itself if it is asked to. -/
def telling (name : String) (tool : Tool) : Tool := fun e c =>
  match asked? name c with
  | some text => do
    Act.print text
    pure 0
  | none => tool e c

end Runbook.Shell.About
