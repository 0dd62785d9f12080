import Runbook.Shell.Pattern
import Runbook.Shell.Regex.Read
import Runbook.Shell.Tool.Date
import Runbook.Shell.Tool.Launch
import Runbook.Shell.Tool.Permission
import Runbook.Shell.Tool.Place

/-!
# `Shell/Tool/Find` — searching folders

`find` goes through folders and looks at everything in them by an expression, whose parts test what
is there or do something with it. What stands behind a part is only asked for if the part came out
true.
-/

set_option autoImplicit false

namespace Runbook.Shell.Find

/-- What is looked at. -/
structure Visit where
  path : String
  /-- The operand that led here. -/
  start : String
  depth : Nat
  location : Location
  node : Node
  /-- What the names lead to in the end. -/
  target : Option Node

/-- Where a search stands. -/
structure State where
  status : Nat := 0
  /-- What is below is not looked at. -/
  pruned : Bool := false
  /-- Nothing more is looked at. -/
  finished : Bool := false
  /-- The paths collected for each command that takes many, the latest first. -/
  batches : List (Nat × List String) := []

/-- A part of a search. -/
abbrev Finding := StateT State Act

/-- A part of an expression. -/
abbrev Part := Visit → Finding Bool

/-- The whole expression with what it asks for. -/
structure Expression where
  part : Part := fun _ => pure true
  /-- Something is done with what is found. -/
  acts : Bool := false
  least : Nat := 0
  most : Option Nat := none
  /-- What is below comes first. -/
  below : Bool := false
  /-- The commands that take many paths. -/
  commands : List (Nat × List String) := []

/-! ## Tests -/

/-- The last name of a path. -/
def baseOf (path : String) : String :=
  let cs := (path.toList.reverse.dropWhile (· == '/'))
  if cs.isEmpty && path != "" then "/" else String.ofList (cs.takeWhile (· != '/')).reverse

/-- The folders of a path. -/
def folderOf (path : String) : String :=
  let cs := (path.toList.reverse.dropWhile (· == '/')).dropWhile (· != '/')
  if cs.isEmpty then "." else String.ofList (cs.drop 1).reverse

/-- A text is matched by a pattern. -/
def fits (anyCase : Bool) (pattern text : String) : Bool :=
  let fold (s : String) : List Char := if anyCase then s.toList.map lowerOf else s.toList
  Pattern.isMatch {} (marked (fold pattern)) (fold text)
where
  /-- A pattern in which a backslash takes away the meaning of what follows. -/
  marked : List Char → Marked
    | '\\' :: c :: rest => (c, true) :: marked rest
    | c :: rest => (c, false) :: marked rest
    | [] => []

/-- A count with a sign that tells whether there are to be more or fewer. -/
inductive Amount where
  | exactly (n : Nat)
  | more (n : Nat)
  | fewer (n : Nat)

/-- A count in writing. -/
def amount? (text : String) : Option Amount :=
  match text.toList with
  | '+' :: ds => (natText? (String.ofList ds)).map .more
  | '-' :: ds => (natText? (String.ofList ds)).map .fewer
  | ds => (natText? (String.ofList ds)).map .exactly

/-- A number is as an amount tells. -/
def Amount.holds : Amount → Nat → Bool
  | .exactly n, m => m == n
  | .more n, m => n < m
  | .fewer n, m => m < n

/-- The size of a unit. -/
def unitOf? : Char → Option Nat
  | 'c' => some 1
  | 'w' => some 2
  | 'b' => some 512
  | 'k' => some 1024
  | 'M' => some 1048576
  | 'G' => some 1073741824
  | _ => none

/-- A size in writing: an amount and its unit. -/
def size? (text : String) : Option (Amount × Nat) :=
  match text.toList.reverse with
  | c :: rest =>
    if c.isDigit then (amount? text).map fun a => (a, 512)
    else
      match unitOf? c, amount? (String.ofList rest.reverse) with
      | some u, some a => some (a, u)
      | _, _ => none
  | [] => none

/-- A regular expression in which the escaped signs are the ones with a meaning for groups and
alternatives, as a text in which they are not escaped. -/
def unescapedGroups : List Char → List Char
  | '\\' :: c :: rest =>
    if "()|".toList.contains c then c :: unescapedGroups rest
    else '\\' :: c :: unescapedGroups rest
  | c :: rest =>
    if "()|\x7b\x7d".toList.contains c then '\\' :: c :: unescapedGroups rest
    else c :: unescapedGroups rest
  | [] => []

/-- The regular expression that a text is in the way of a name. -/
def regexOf? (way : String) (anyCase : Bool) (text : String) : Option Regex :=
  let style : Regex.Style := { anyCase := anyCase }
  let r := match way with
    | "posix-extended" | "egrep" | "posix-egrep" | "awk" | "gnu-awk" | "posix-awk" =>
      Regex.read { style with extended := true } text
    | "posix-basic" | "sed" | "grep" | "ed" | "posix-minimal-basic" => Regex.read style text
    | _ => Regex.read { style with extended := true } (String.ofList (unescapedGroups text.toList))
  r.toOption.map (·.1)

/-- A regular expression matches a whole text. -/
def matchesWhole (r : Regex) (text : String) : Bool :=
  let s := Subject.ofList text.toList
  (Regex.ends s r (0, [])).any fun x => x.1 == s.text.size

/-- A folder or a file without anything in it. -/
def isEmptyNode (n : Node) : Bool :=
  match n.content with
  | .folder names => names.isEmpty
  | .file t => t == ""
  | _ => false

/-- A wish for permissions: those that are compared, and how. -/
inductive Wish where
  | exactly (mode : Nat)
  | all (mode : Nat)
  | any (mode : Nat)

/-- A wish in writing. -/
def wish? (text : String) : Option Wish :=
  let mode (cs : List Char) : Option Nat := Permission.changed? (String.ofList cs) 0 false 0
  match text.toList with
  | '-' :: cs => (mode cs).map .all
  | '/' :: cs => (mode cs).map .any
  | cs => (mode cs).map .exactly

/-- Permissions are as they are wished for. -/
def Wish.holds : Wish → Nat → Bool
  | .exactly m, n => n == m
  | .all m, n => Nat.land n m == m
  | .any m, n => m == 0 || Nat.land n m != 0

/-! ## Forms -/

/-- A field filled up to a width. -/
def filled (flags : List Char) (width : Nat) (precision : Option Nat) (text : String) : List Char :=
  let cs := match precision with
    | some n => text.toList.take n
    | none => text.toList
  if flags.contains '-' then padRight width cs
  else padLeft width (if flags.contains '0' then '0' else ' ') cs

/-- What a sign of a form stands for; `none` if it stands for nothing. -/
def field (d : Disk) (v : Visit) (c : Char) : Option String :=
  let n := v.node
  let t := Date.ofStamp n.stamp
  let letter := String.singleton (Place.kindLetter n)
  match c with
  | 'p' => some v.path
  | 'f' => some (baseOf v.path)
  | 'h' => some (folderOf v.path)
  | 'H' => some v.start
  | 'P' =>
    let rest := v.path.toList.drop v.start.length
    some (String.ofList (rest.dropWhile (· == '/')))
  | 'd' => some (natText v.depth)
  | 's' => some (natText n.size)
  | 'y' | 'Y' =>
    let m := if c = 'Y' then v.target.getD n else n
    some (if m.isFolder then "d" else if m.isLink then (if c = 'Y' then "N" else "l")
      else if m.isFile then "f" else if m.isQueue then "p" else "c")
  | 'm' => some (String.ofList (inBase false 8 n.mode))
  | 'M' => some (letter ++ Permission.letters n.mode)
  | 'u' | 'g' => some "root"
  | 'U' | 'G' => some "0"
  | 'n' =>
    let folders := (d.namesAt v.location).filter fun x => d.isFolderAt (v.location ++ [x])
    some (natText (if n.isFolder then folders.length + 2 else d.namesOf n))
  | 'l' =>
    match n.content with
    | .link target => some target
    | _ => some ""
  | 'k' => some (natText (Place.blocks n / 2))
  | 'b' => some (natText (Place.blocks n))
  | 'i' => some (natText (1000 + v.node.serial))
  | 'D' => some "66"
  | 'F' => some "ext4"
  | 'a' | 'c' | 't' => some (t.written "%a %b %e %H:%M:%S.%N0 %Y")
  | _ => none

/-- A moment in the form of a letter. -/
def timeField (n : Node) (c : Char) : String :=
  let t := Date.ofStamp n.stamp
  let nano := String.ofList (padLeft 9 '0' (natText t.nano).toList) ++ "0"
  match c with
  | '@' => intText t.epoch ++ "." ++ nano
  | 'S' => t.written "%S." ++ nano
  | 'T' => t.written "%H:%M:%S." ++ nano
  | '+' => t.written "%Y-%m-%d+%H:%M:%S." ++ nano
  | c => t.written (String.ofList ['%', c])

/-- A form with its signs and escapes replaced, and the faults in it; `fuel` bounds its length. -/
def printed (d : Disk) (v : Visit) : (fuel : Nat) → List Char → List Char × List String
  | 0, _ => ([], [])
  | _ + 1, [] => ([], [])
  | fuel + 1, '\\' :: rest =>
    match rest with
    | 'c' :: _ => ([], [])
    | _ =>
      let (octal, more) := takeDigits 8 3 rest
      let (here, rest) : List Char × List Char :=
        if more.length < rest.length then ([Char.ofNat octal], more)
        else
          match rest with
          | 'n' :: more => (['\n'], more)
          | 't' :: more => (['\t'], more)
          | 'r' :: more => (['\r'], more)
          | 'a' :: more => ([Char.ofNat 7], more)
          | 'b' :: more => ([Char.ofNat 8], more)
          | 'f' :: more => ([Char.ofNat 12], more)
          | 'v' :: more => ([Char.ofNat 11], more)
          | '\\' :: more => (['\\'], more)
          | c :: more => (['\\', c], more)
          | [] => (['\\'], [])
      let (cs, faults) := printed d v fuel rest
      (here ++ cs, faults)
  | fuel + 1, '%' :: '%' :: rest =>
    let (cs, faults) := printed d v fuel rest
    ('%' :: cs, faults)
  | fuel + 1, '%' :: rest =>
    let (flags, more) := rest.span fun c => "-0 #+".toList.contains c
    let (width, more) := more.span Char.isDigit
    let (precision, more) : Option Nat × List Char := match more with
      | '.' :: more =>
        let (ds, final) := more.span Char.isDigit
        (some (ofDigits 10 ds), final)
      | _ => (none, more)
    let fill (s : String) : List Char := filled flags (ofDigits 10 width) precision s
    match more with
    | [] =>
      (['%'], [])
    | c :: more =>
      match c, more with
      | 'T', x :: more | 'A', x :: more | 'C', x :: more =>
        let (cs, faults) := printed d v fuel more
        (fill (timeField v.node x) ++ cs, faults)
      | _, _ =>
        let (cs, faults) := printed d v fuel more
        match field d v c with
        | some s => (fill s ++ cs, faults)
        | none =>
          ('%' :: c :: cs, ("warning: unrecognized format directive \x60%" ++ String.singleton c ++ "'") ::
            faults)
  | fuel + 1, c :: rest =>
    let (cs, faults) := printed d v fuel rest
    (c :: cs, faults)

/-! ## Actions -/

/-- What a search needs to act. -/
structure Setting where
  engine : Engine
  call : Call
  /-- Links are followed. -/
  follows : Bool

/-- A command with a path in the place of each pair of braces. -/
def filledIn (words : List String) (path : String) : List String :=
  words.map fun w => w.replace "\x7b\x7d" path

/-- Runs a command, and tells whether it succeeded. -/
def succeeds (s : Setting) (words : List String) : Finding Bool := do
  let n ← Launch.start s.engine words fun err =>
    s.call.blame (curlyQuoted (words.headD "") ++ ": " ++ err.text)
  pure (n == 0)

/-- Takes something away. -/
def delete (s : Setting) (v : Visit) : Finding Bool := do
  if baseOf v.path = "." then pure true
  else
    let d ← Act.disk
    match d.at? v.location with
    | some n =>
      if n.isFolder && !(d.namesAt v.location).isEmpty then
        s.call.blame ("cannot delete " ++ curlyQuoted v.path ++ ": Directory not empty")
        modify fun t => { t with status := 1 }
        pure false
      else
        Act.modifyDisk fun d => d.drop v.location
        pure true
    | none => pure false

/-- A line about a file with all that is known. -/
def longLine (d : Disk) (v : Visit) : String :=
  let n := v.node
  let get (c : Char) : String := (field d v c).getD ""
  let pad (width : Nat) (text : String) : String := String.ofList (padLeft width ' ' text.toList)
  pad 9 (get 'i') ++ " " ++ pad 6 (get 'k') ++ " " ++ get 'M' ++ " " ++ pad 3 (get 'n') ++
    " root     root     " ++ pad 8 (get 's') ++ " " ++ (Date.ofStamp n.stamp).written "%b %e %H:%M" ++
    " " ++ v.path ++
    (match n.content with
      | .link target => " -> " ++ target
      | _ => "") ++ "\n"

/-! ## Reading expressions -/

/-- Where reading an expression stands. -/
structure Reading where
  rest : List String
  way : String := "emacs"
  expression : Expression := {}

/-- Reads a part of an expression, or tells what is wrong. -/
abbrev Reader := StateT Reading (ExceptT String Act)

namespace Reader

/-- Tells what is wrong. -/
def blame {α : Type} (message : String) : Reader α := throw message

/-- The value behind a name. -/
def value (name : String) : Reader String := do
  match (← get).rest with
  | v :: rest =>
    modify fun r => { r with rest := rest }
    pure v
  | [] => blame ("missing argument to \x60" ++ name ++ "'")

/-- Notes something about the whole search. -/
def note (f : Expression → Expression) : Reader Unit :=
  modify fun r => { r with expression := f r.expression }

/-- A number behind a name. -/
def depthOf (name : String) : Reader Nat := do
  let v ← value name
  match natText? v with
  | some n => pure n
  | none =>
    blame ("Expected a positive decimal integer argument to " ++ name ++ ", but got " ++ curlyQuoted v)

/-- An amount behind a name. -/
def amountOf (name : String) : Reader Amount := do
  let v ← value name
  match amount? v with
  | some a => pure a
  | none => blame ("invalid argument \x60" ++ v ++ "' to \x60" ++ name ++ "'")

/-- A test without effects. -/
def test (f : Visit → Bool) : Reader Part := pure fun v => pure (f v)

/-- The words of a command up to its end, and whether it takes many paths. -/
def commandOf (name : String) : Reader (List String × Bool) := do
  let ws := (← get).rest
  let rec go : (done : List String) → List String → Option (List String × Bool × List String)
    | _, [] => none
    | done, ";" :: rest => some (done.reverse, false, rest)
    | done, w :: rest =>
      if w = "+" ∧ done.head? = some "\x7b\x7d" then some (done.reverse, true, rest)
      else go (w :: done) rest
  match go [] ws with
  | some ([], _, _) | none => blame ("missing argument to \x60" ++ name ++ "'")
  | some (words, many, rest) =>
    if many && 1 < (words.filter fun w => 1 < (w.splitOn "\x7b\x7d").length).length then
      blame ("Only one instance of \x7b\x7d is supported with " ++ name ++ " ... +")
    modify fun r => { r with rest := rest }
    pure (words, many)

/-- The kinds that letters name. -/
def kindsOf (text : String) : Reader (List Char) := do
  let parts := text.splitOn ","
  if text = "" then blame "Arguments to -type should contain at least one letter"
  if parts.getLast? = some "" then
    blame "Last file type in list argument to -type is missing, i.e., list is ending on: ','"
  let mut kinds := []
  for p in parts do
    match p.toList with
    | [c] =>
      if "bcdpflsD".toList.contains c then kinds := kinds ++ [c]
      else blame ("Unknown argument to -type: " ++ p)
    | c :: _ =>
      if "bcdpflsD".toList.contains c then
        blame "Must separate multiple arguments to -type using: ','"
      else blame ("Unknown argument to -type: " ++ String.singleton c)
    | [] => blame "Must separate multiple arguments to -type using: ','"
  pure kinds

/-- The letter of a kind. -/
def letterOf (n : Node) : Char :=
  if n.isFolder then 'd' else if n.isLink then 'l' else if n.isFile then 'f' else if n.isQueue then 'p' else 'c'

/-- Does something with what is found. -/
def action (f : Part) : Reader Part := do
  note fun x => { x with acts := true }
  pure f

/-- A file that is written to. -/
def outputTo (name : String) : Reader (String → Act Unit) := do
  let file ← value name
  if file = "/dev/stdout" then pure Act.print
  else
    let how : Act.Opening := { writes := true, create := true, truncate := true }
    match ← (liftM (Act.openPath file how) : ExceptT String Act _) with
    | .ok id => pure fun t => discard (Act.writeChannel id t)
    | .error err => blame (curlyQuoted file ++ ": " ++ err.text)

/-- The moment of the last change of a file. -/
def stampBehind (name : String) : Reader Nat := do
  let file ← value name
  match (← (liftM Act.disk : ExceptT String Act _)).find
      (← (liftM Act.shell : ExceptT String Act _)).here file with
  | .ok (_, n) => pure n.stamp
  | .error err => blame (curlyQuoted file ++ ": " ++ err.text)

/-- The part of an expression that a name begins. -/
def primary (s : Setting) (name : String) : Reader Part := do
  let pattern (anyCase whole : Bool) : Reader Part := do
    let p ← value name
    test fun v => fits anyCase p (if whole then v.path else baseOf v.path)
  let regex (anyCase : Bool) : Reader Part := do
    let text ← value name
    match regexOf? (← get).way anyCase text with
    | some r => test fun v => matchesWhole r v.path
    | none => blame ("failed to compile regular expression '" ++ text ++ "'")
  let age (unit : Nat) (usesCeiling : Bool) : Reader Part := do
    let a ← amountOf name
    pure fun v => do
      let now := (← (Act.disk : Act Disk)).clock
      let old := now - v.node.stamp
      pure (match usesCeiling, a with
        | true, .exactly n => (old + unit - 1) / unit == n
        | true, .fewer n => old < n * unit
        | true, .more n => n * unit < old
        | false, a => a.holds (old / unit))
  let run (word : String) : Reader Part := do
    let (words, many) ← commandOf name
    let inside := word == "execdir"
    if many then
      let id := (← get).expression.commands.length
      note fun x => { x with acts := true, commands := x.commands ++ [(id, words)] }
      pure fun v => do
        let path := if inside then "./" ++ baseOf v.path else v.path
        modify fun t =>
          { t with batches :=
              (id, path :: (t.batches.lookup id).getD []) :: t.batches.filter (·.1 != id) }
        pure true
    else
      action fun v => do
        let path := if inside then "./" ++ baseOf v.path else v.path
        let before ← (Act.shell : Act Interpreter)
        if inside then Act.modifyShell fun t => { t with here := v.location.dropLast }
        let ok ← succeeds s (filledIn words path)
        if inside then Act.modifyShell fun _ => before
        pure ok
  match name with
  | "-name" => pattern false false
  | "-iname" => pattern true false
  | "-path" | "-wholename" => pattern false true
  | "-ipath" | "-iwholename" => pattern true true
  | "-lname" | "-ilname" => do
    let p ← value name
    test fun v => match v.node.content with
      | .link target => fits (name == "-ilname") p target
      | _ => false
  | "-regex" => regex false
  | "-iregex" => regex true
  | "-regextype" => do
    let w ← value name
    if ["findutils-default", "ed", "emacs", "gnu-awk", "grep", "posix-awk", "awk", "posix-basic",
        "posix-egrep", "egrep", "posix-extended", "posix-minimal-basic", "sed"].contains w then
      modify fun r => { r with way := w }
      test fun _ => true
    else
      blame ("Unknown regular expression type " ++ curlyQuoted w ++
        "; valid types are ‘findutils-default’, ‘ed’, ‘emacs’, ‘gnu-awk’, ‘grep’, ‘posix-awk’, " ++
        "‘awk’, ‘posix-basic’, ‘posix-egrep’, ‘egrep’, ‘posix-extended’, " ++
        "‘posix-minimal-basic’, ‘sed’.")
  | "-type" => do
    let kinds ← kindsOf (← value name)
    test fun v => kinds.contains (letterOf v.node)
  | "-xtype" => do
    let kinds ← kindsOf (← value name)
    test fun v => kinds.contains (letterOf (v.target.getD v.node))
  | "-empty" => test fun v => isEmptyNode v.node
  | "-size" => do
    let text ← value name
    match size? text with
    | some (a, u) => test fun v => a.holds ((v.node.size + u - 1) / u)
    | none =>
      blame ("invalid -size type \x60" ++ String.singleton (text.toList.getLast?.getD ' ') ++ "'")
  | "-perm" => do
    let text ← value name
    match wish? text with
    | some w => test fun v => w.holds v.node.mode
    | none => blame ("invalid mode " ++ curlyQuoted text)
  | "-mtime" | "-atime" | "-ctime" => age 86400000000000 false
  | "-mmin" | "-amin" | "-cmin" => age 60000000000 true
  | "-newer" | "-anewer" | "-cnewer" | "-newermm" => do
    let stamp ← stampBehind name
    test fun v => stamp < v.node.stamp
  | "-newermt" => do
    let text ← value name
    let now ← (liftM Date.now : ExceptT String Act _)
    match Calendar.read? now 0 text with
    | some t => test fun v => Date.stampOf t.1 t.2 < v.node.stamp
    | none =>
      blame ("I cannot figure out how to interpret " ++ curlyQuoted text ++ " as a date or time")
  | "-samefile" => do
    let file ← value name
    match (← (liftM Act.disk : ExceptT String Act _)).find
        (← (liftM Act.shell : ExceptT String Act _)).here file with
    | .ok (_, n) => test fun v => v.node.serial == n.serial
    | .error err => blame (curlyQuoted file ++ ": " ++ err.text)
  | "-links" => do
    let a ← amountOf name
    pure fun v => do
      let d ← (Act.disk : Act Disk)
      pure (a.holds (((field d v 'n').bind natText?).getD 1))
  | "-inum" => do
    let a ← amountOf name
    test fun v => a.holds (1000 + v.node.serial)
  | "-used" => do
    discard (amountOf name)
    test fun _ => false
  | "-user" | "-group" => do
    let who ← value name
    if who = "root" || who = "0" then test fun _ => true
    else if (natText? who).isSome then test fun _ => false
    else
      blame (curlyQuoted who ++ " is not the name of " ++
        (if name = "-user" then "a known user" else "an existing group"))
  | "-uid" | "-gid" => do
    let a ← amountOf name
    test fun _ => a.holds 0
  | "-nouser" | "-nogroup" => test fun _ => false
  | "-readable" | "-writable" => test fun _ => true
  | "-executable" => test fun v => v.node.isFolder || (v.target.getD v.node).mayRun
  | "-true" => test fun _ => true
  | "-false" => test fun _ => false
  | "-maxdepth" => do
    let n ← depthOf name
    note fun x => { x with most := some n }
    test fun _ => true
  | "-mindepth" => do
    let n ← depthOf name
    note fun x => { x with least := n }
    test fun _ => true
  | "-depth" | "-d" => do
    note fun x => { x with below := true }
    test fun _ => true
  | "-daystart" | "-follow" | "-mount" | "-xdev" | "-noleaf" | "-warn" | "-nowarn"
  | "-ignore_readdir_race" | "-noignore_readdir_race" => test fun _ => true
  | "-prune" => pure fun _ => do
    modify fun t => { t with pruned := true }
    pure true
  | "-quit" => action fun _ => do
    modify fun t => { t with finished := true }
    pure true
  | "-print" => action fun v => do
    Act.print (v.path ++ "\n")
    pure true
  | "-print0" => action fun v => do
    Act.print (v.path ++ "\x00")
    pure true
  | "-printf" => do
    let form ← value name
    action fun v => do
      let (cs, faults) := printed (← (Act.disk : Act Disk)) v (form.length + 1) form.toList
      for m in faults do
        s.call.blame m
      Act.print (String.ofList cs)
      pure true
  | "-fprint" | "-fprint0" => do
    let out ← outputTo name
    action fun v => do
      out (v.path ++ (if name = "-fprint" then "\n" else "\x00"))
      pure true
  | "-fprintf" => do
    let out ← outputTo name
    let form ← value name
    action fun v => do
      let (cs, _) := printed (← (Act.disk : Act Disk)) v (form.length + 1) form.toList
      out (String.ofList cs)
      pure true
  | "-ls" => action fun v => do
    Act.print (longLine (← (Act.disk : Act Disk)) v)
    pure true
  | "-delete" => do
    note fun x => { x with below := true }
    action (delete s)
  | "-exec" => run "exec"
  | "-execdir" => run "execdir"
  | "-ok" | "-okdir" => do
    let (words, _) ← commandOf name
    action fun v => do
      Act.tell ("< " ++ words.headD "" ++ " ... " ++ v.path ++ " > ? ")
      match ← (Act.readLine 0 '\n' : Act _) with
      | .ok (cs, _) =>
        if cs.head? == some 'y' || cs.head? == some 'Y' then succeeds s (filledIn words v.path)
        else pure false
      | .error _ => pure false
  | _ => blame ("unknown predicate \x60" ++ name ++ "'")

/-- Both parts, the second one only if the first came out true. -/
def both (a b : Part) : Part := fun v => do
  if ← a v then b v else pure false

/-- Either part, the second one only if the first came out false. -/
def either (a b : Part) : Part := fun v => do
  if ← a v then pure true else b v

/-- Parts one after another, from an operator of a level on: a comma (0), one of two (1), both (2),
or one part with what takes it back (3); `fuel` bounds the number of words. -/
def parts (s : Setting) : (fuel : Nat) → (level : Nat) → (behind : Option String) → Reader Part
  | 0, _, _ => blame "expression too long"
  | fuel + 1, level, behind => do
    let missing {α : Type} (op : String) : Reader α := blame (match behind with
      | some b => "expected an expression after '" ++ b ++ "'"
      | none => "invalid expression; you have used a binary operator '" ++ op ++ "' with nothing before it.")
    if level = 3 then
      match (← get).rest with
      | [] =>
        match behind with
        | some b => blame ("expected an expression after '" ++ b ++ "'")
        | none => test fun _ => true
      | w :: rest =>
        if w = "!" || w = "-not" then
          modify fun r => { r with rest := rest }
          let p ← parts s fuel 3 (some w)
          pure fun v => do pure !(← p v)
        else if w = "(" then
          modify fun r => { r with rest := rest }
          if rest.head? = some ")" then
            blame "invalid expression; empty parentheses are not allowed."
          let p ← parts s fuel 0 (some "(")
          match (← get).rest with
          | ")" :: rest =>
            modify fun r => { r with rest := rest }
            pure p
          | _ =>
            blame "invalid expression; I was expecting to find a ')' somewhere but did not see one."
        else if ["-o", "-or", "-a", "-and", ","].contains w then missing w
        else if w = ")" then
          match behind with
          | some b => blame ("expected an expression between '" ++ b ++ "' and ')'")
          | none => blame "invalid expression; you have too many ')'"
        else
          modify fun r => { r with rest := rest }
          if w.startsWith "-" && w != "-" then primary s w
          else blame ("paths must precede expression: \x60" ++ w ++ "'")
    else
      let first ← parts s fuel (level + 1) behind
      let rec more : (fuel : Nat) → Part → Reader Part
        | 0, p => pure p
        | k + 1, p => do
          match level, (← get).rest with
          | 0, "," :: rest =>
            modify fun r => { r with rest := rest }
            let q ← parts s fuel 1 (some ",")
            more k fun v => do
              discard (p v)
              q v
          | 1, w :: rest =>
            if w = "-o" || w = "-or" then
              modify fun r => { r with rest := rest }
              let q ← parts s fuel 2 (some w)
              more k (either p q)
            else pure p
          | 2, w :: rest =>
            if w = "-a" || w = "-and" then
              modify fun r => { r with rest := rest }
              let q ← parts s fuel 3 (some w)
              more k (both p q)
            else if ["-o", "-or", ",", ")"].contains w then pure p
            else
              let q ← parts s fuel 3 none
              more k (both p q)
          | _, _ => pure p
      more fuel first

end Reader

/-- The expression that words are. -/
def readExpression (s : Setting) (words : List String) : Act (Except String Expression) := do
  let whole : Reader Part := do
    if words.isEmpty then pure fun _ => pure true
    else
      let p ← Reader.parts s (4 * words.length + 10) 0 none
      match (← get).rest with
      | [] => pure p
      | ")" :: _ => Reader.blame "you have too many ')'"
      | w :: _ => Reader.blame ("paths must precede expression: \x60" ++ w ++ "'")
  match ← (whole.run { rest := words }).run with
  | .error m => pure (.error m)
  | .ok (p, r) =>
    let x := r.expression
    let print : Part := fun v => do
      Act.print (v.path ++ "\n")
      pure true
    pure (.ok { x with part := if x.acts then p else Reader.both p print })

/-! ## Searching -/

/-- The path of a name in a folder. -/
def inFolder (folder name : String) : String :=
  if folder.endsWith "/" then folder ++ name else folder ++ "/" ++ name

/-- What is at a location. -/
def visitOf (s : Setting) (path start : String) (depth : Nat) (l : Location) : Act (Option Visit) := do
  let d ← Act.disk
  match d.at? l with
  | none => pure none
  | some n =>
    let target := if n.isLink then (d.find [] (Disk.pathOf l)).toOption else some (l, n)
    match s.follows, target with
    | true, some (k, m) => pure (some ⟨path, start, depth, k, m, some m⟩)
    | _, _ => pure (some ⟨path, start, depth, l, n, target.map (·.2)⟩)

/-- Looks at something and all that is below; `fuel` bounds how deep it is. -/
def search (s : Setting) (x : Expression) : (fuel : Nat) → Visit → Finding Unit
  | 0, _ => pure ()
  | fuel + 1, v => do
    let look : Finding Unit := do
      if x.least ≤ v.depth then discard (x.part v)
    modify fun t => { t with pruned := false }
    if !x.below then look
    let t ← get
    if !t.finished && !(t.pruned && !x.below) && v.node.isFolder && x.most.all (v.depth < ·) then
      let names := (← (Act.disk : Act Disk)).namesAt v.location
      for n in names do
        if !(← get).finished then
          match ← (visitOf s (inFolder v.path n) v.start (v.depth + 1) (v.location ++ [n]) : Act _) with
          | some w => search s x fuel w
          | none => pure ()
    if x.below && !(← get).finished then look

/-- The most bytes that the paths for one command have. -/
def maxBatch : Nat := 120000

/-- Paths in groups that are not too great. -/
def groups (paths : List String) : List (List String) :=
  let (done, here, _) := paths.foldl (fun (done, here, size) p =>
    let cost := p.utf8ByteSize + 1
    if maxBatch < size + cost then (here.reverse :: done, [p], cost)
    else (done, p :: here, size + cost)) (([] : List (List String)), ([] : List String), 0)
  ((if here.isEmpty then done else here.reverse :: done)).reverse

/-- Runs the commands that take many paths. -/
def runBatches (s : Setting) (x : Expression) : Finding Unit := do
  let t ← get
  for (id, words) in x.commands do
    let paths := ((t.batches.lookup id).getD []).reverse
    for g in groups paths do
      let ok ← succeeds s (words.dropLast ++ g)
      if !ok then modify fun t => { t with status := 1 }

/-- The program `find`. -/
def find : Tool := fun e c => do
  let isStart (w : String) : Bool :=
    !(w.startsWith "-" && w != "-") && w != "(" && w != "!" && w != ")"
  let front := c.args.takeWhile fun w =>
    ["-H", "-L", "-P", "--"].contains w || w.startsWith "-O" || w.startsWith "-D"
  let follows := (front.filter fun w => ["-H", "-L", "-P"].contains w).getLast? == some "-L"
  let rest := c.args.drop front.length
  if rest.head? == some "-version" || rest.head? == some "--version" then
    Act.print "find (GNU findutils) 4.9.0\n"
    return 0
  let starts := rest.takeWhile isStart
  let words := rest.drop starts.length
  let s : Setting := { engine := e, call := c, follows := follows }
  match ← readExpression s words with
  | .error m =>
    c.blame m
    -- A pattern that the shell has replaced leaves names behind its predicate.
    if m.startsWith "paths must precede expression" then
      let stray := ((m.splitOn "\x60").getLast?.getD "").dropEnd 1 |>.toString
      let before := words.takeWhile (· != stray)
      match before.reverse with
      | _ :: p :: _ =>
        if ["-name", "-iname", "-path", "-ipath", "-wholename", "-lname", "-regex"].contains p &&
            ((← Act.disk).find (← Act.shell).here stray).toOption.isSome then
          c.blame ("possible unquoted pattern after predicate \x60" ++ p ++ "'?")
      | _ => pure ()
    pure 1
  | .ok x =>
    let work : Finding Unit := do
      for o in (if starts.isEmpty then ["."] else starts) do
        if !(← get).finished then
          let d ← (Act.disk : Act Disk)
          match d.find (← (Act.shell : Act Interpreter)).here o false with
          | .error err =>
            c.blame (curlyQuoted o ++ ": " ++ err.text)
            modify fun t => { t with status := 1 }
          | .ok (l, _) =>
            match ← (visitOf s o o 0 l : Act _) with
            | some v => search s x Disk.maxDepth v
            | none => pure ()
      runBatches s x
    let (_, t) ← work.run {}
    pure t.status

end Runbook.Shell.Find
