import Runbook.Shell.Tool.Launch
import Runbook.Shell.Tool.Lines

/-!
# `Shell/Tool/Batch` — a command for many arguments

`xargs` reads items and runs a command on them: on as many at a time as a limit allows, or on one at
a time, which takes the place of a mark in the arguments.
-/

set_option autoImplicit false

namespace Runbook.Shell.Batch

/-- How items are read and handed on. -/
structure Manner where
  /-- What stands for an item, if each one is to be run alone. -/
  mark : Option String := none
  /-- What ends an item; without it blanks do, and there are quotes. -/
  delimiter : Option Char := none
  /-- The item behind which nothing is read. -/
  stop : Option String := none
  /-- At most so many items, or items of so many lines, at a time. -/
  items : Option Nat := none
  lines : Option Nat := none
  size : Nat := 131072
  /-- Without items the command is not run. -/
  quiet : Bool := false
  shows : Bool := false
  asks : Bool := false
  /-- The file that holds the items. -/
  file : Option String := none

/-- An item, and whether a line ends with it. -/
structure Item where
  text : List Char
  endsLine : Bool := false

/-! ## Reading items -/

/-- What reading items came to. -/
inductive Rest where
  | fine
  /-- A quote has no partner. -/
  | unmatched (quote : Char)
  /-- More would come before the item is at its end. -/
  | cut

/-- Where reading an item stands: its characters, the latest first, and the one before. -/
structure Progress where
  done : List Item := []
  here : Option (List Char) := none
  before : Char := '\n'

/-- Another character of an item. -/
def Progress.put (p : Progress) (c : Char) : Progress :=
  { p with here := some (c :: p.here.getD []), before := c }

/-- Ends the item at hand. -/
def Progress.finish (p : Progress) (endsLine : Bool) (c : Char) : Progress :=
  match p.here with
  | some cs => { done := ⟨cs.reverse, endsLine⟩ :: p.done, here := none, before := c }
  | none => { p with before := c }

/-- The items of a text between blanks, or between line ends if `whole`. -/
def readItems (whole : Bool) : (quote : Option Char) → Progress → List Char → List Item × Rest
  | some q, p, [] => (p.done.reverse, .unmatched q)
  | none, p, [] => ((p.finish false '\n').done.reverse, .fine)
  | some q, p, c :: rest =>
    if c = q then readItems whole none { p with before := c } rest
    else if c = '\n' then (p.done.reverse, .unmatched q)
    else readItems whole (some q) (p.put c) rest
  | none, p, '\\' :: c :: rest => readItems whole none (p.put c) rest
  | none, p, c :: rest =>
    if c = '\n' then
      readItems whole none (p.finish (p.before != ' ' && p.before != '\t') c) rest
    else if c = ' ' ∨ c = '\t' then
      if whole ∧ p.here.isSome then readItems whole none (p.put c) rest
      else readItems whole none (p.finish false c) rest
    else if c = '\'' ∨ c = '"' then
      readItems whole (some c) { p with here := some (p.here.getD []), before := c } rest
    else if p.here.isNone ∧ isNumberSpace c then readItems whole none { p with before := c } rest
    else readItems whole none (p.put c) rest

/-- The items of a text. -/
def itemsOf (m : Manner) (cs : List Char) (cut : Bool) : List Item × Rest :=
  let (items, rest) : List Item × Rest :=
    match m.delimiter with
    | some d =>
      let (ls, _) := Lines.split d cs
      (ls.map fun l => ⟨l, true⟩, .fine)
    | none => readItems m.mark.isSome none {} cs
  match m.stop with
  | some s =>
    let kept := items.takeWhile fun i => i.text != s.toList
    if kept.length < items.length then (kept, .fine)
    else if cut then (items.dropLast, .cut) else (items, rest)
  | none => if cut then (items.dropLast, .cut) else (items, rest)

/-! ## Running -/

/-- Why no more is run. -/
inductive Halt where
  | status (n : Nat)

/-- The status after a run, or the one with which all ends. -/
def runOnce (e : Engine) (c : Call) (m : Manner) (words : List String) : Act (Except Halt Bool) := do
  if m.asks then
    Act.tell (" ".intercalate (words.map fileName))
    c.blame "failed to open /dev/tty for reading: No such device or address"
    return .error (.status 1)
  if m.shows then Act.tell (" ".intercalate (words.map fileName) ++ "\n")
  let name := words.headD ""
  let before ← Act.shell
  if m.file.isNone then
    let id ← Act.newChannel (.device .null)
    Act.setDescriptor 0 id
  let r ← e.program words
  Act.modifyShell fun _ => before
  match r with
  | .error err =>
    c.blame (name ++ ": " ++ err.text)
    pure (.error (.status (Launch.statusOf err)))
  | .ok n =>
    if n = 255 then
      c.blame (name ++ ": exited with status 255; aborting")
      pure (.error (.status 124))
    else if [129, 130, 131, 134, 136, 137, 139, 141, 143].contains n then
      c.blame (name ++ ": terminated by signal " ++ natText (n - 128))
      pure (.error (.status 125))
    else pure (.ok (n = 0))

/-- The size of words in a call. -/
def sizeOf_ (words : List String) : Nat := words.foldl (fun n w => n + w.utf8ByteSize + 1) 0

/-- Runs the command on items that have been collected, the latest first, and on those that are
left. `failed` tells whether a run has failed, and `ran` whether there has been one. -/
def runAll (e : Engine) (c : Call) (m : Manner) (command : List String) (last : Rest) :
    (failed ran : Bool) → (held : List String) → (size lines : Nat) → List Item → Act Nat
  | failed, ran, held, _, _, [] => do
    let again := !held.isEmpty || (!ran && !m.quiet && m.mark.isNone)
    let finish (failed : Bool) : Act Nat := do
      match last with
      | .fine => pure (if failed then 123 else 0)
      | .unmatched q =>
        c.blame ("unmatched " ++ (if q = '"' then "double" else "single") ++
          " quote; by default quotes are special to xargs unless you use the -0 option")
        pure 1
      | .cut => throw .starved
    let unfinished := match last with
      | .fine => false
      | _ => true
    if again && !(held.isEmpty && unfinished) then
      match ← runOnce e c m (command ++ held.reverse) with
      | .ok good => finish (failed || !good)
      | .error (.status n) => pure n
    else finish failed
  | failed, ran, held, size, lines, i :: rest => do
    let word := String.ofList i.text
    let cost := word.utf8ByteSize + 1
    match m.mark with
    | some "" =>
      c.blame "command too long"
      pure 1
    | some mark =>
      let words := command.take 1 ++ (command.drop 1).map fun w => w.replace mark word
      match ← runOnce e c m words with
      | .ok good => runAll e c m command last (failed || !good) true [] 0 0 rest
      | .error (.status n) => pure n
    | none =>
      if m.size < sizeOf_ command + cost then
        c.blame "argument line too long"
        pure 1
      else
        let isFull := m.size < sizeOf_ command + size + cost
        let lines := if i.endsLine then lines + 1 else lines
        let (go, held, size) : Option (List String) × List String × Nat :=
          if isFull then (some held, [word], cost)
          else (none, word :: held, size + cost)
        let afterwards (failed ran : Bool) : Act Nat := do
          if (m.items.any (· ≤ held.length)) || (m.lines.any (· ≤ lines)) then
            match ← runOnce e c m (command ++ held.reverse) with
            | .ok good => runAll e c m command last (failed || !good) true [] 0 0 rest
            | .error (.status n) => pure n
          else runAll e c m command last failed ran held size lines rest
        match go with
        | some full =>
          match ← runOnce e c m (command ++ full.reverse) with
          | .ok good => afterwards (failed || !good) true
          | .error (.status n) => pure n
        | none => afterwards failed ran

/-! ## Options -/

/-- The flags of `xargs`. -/
def flags : Flags :=
  { letters := "0a:d:E:e::I:i::L:l::n:P:prs:tx", inFront := true
    long := [("null", .nothing, "0"), ("arg-file", .value, "a"), ("delimiter", .value, "d"),
      ("eof", .maybe, "e"), ("replace", .maybe, "i"), ("max-lines", .maybe, "l"),
      ("max-args", .value, "n"), ("max-procs", .value, "P"), ("interactive", .nothing, "p"),
      ("no-run-if-empty", .nothing, "r"), ("max-chars", .value, "s"), ("verbose", .nothing, "t"),
      ("exit", .nothing, "x"), ("process-slot-var", .value, "slot"),
      ("show-limits", .nothing, "limits"), ("version", .nothing, "version")] }

/-- The character that a delimiter is or spells. -/
def delimiterOf? (text : String) : Option Char :=
  match text.toList with
  | [c] => some c
  | ['\\', c] =>
    match c with
    | 'n' => some '\n'
    | 't' => some '\t'
    | 'r' => some '\r'
    | '0' => some (Char.ofNat 0)
    | 'a' => some (Char.ofNat 7)
    | 'b' => some (Char.ofNat 8)
    | 'f' => some (Char.ofNat 12)
    | 'v' => some (Char.ofNat 11)
    | '\\' => some '\\'
    | _ => none
  | '\\' :: 'x' :: ds =>
    if !ds.isEmpty && ds.all (fun d => (digitOf? d).any (· < 16)) then
      some (Char.ofNat (ofDigits 16 ds))
    else none
  | '\\' :: ds =>
    if ds.all (fun d => (digitOf? d).any (· < 8)) then some (Char.ofNat (ofDigits 8 ds)) else none
  | _ => none

/-- The manner that options ask for, one after the other; or what is wrong, with a hint if asked. -/
def mannerOf (c : Call) : Manner → List (String × Option String) → Act (Except Nat Manner)
  | m, [] => pure (.ok m)
  | m, (key, value) :: rest => do
    let v := value.getD ""
    let number (least : Nat) (f : Nat → Act (Except Nat Manner)) : Act (Except Nat Manner) := do
      match natText? v with
      | none =>
        pure (.error (← c.refuse 1 ("invalid number \"" ++ v ++ "\" for -" ++ key ++ " option")))
      | some n =>
        if n < least then
          pure (.error (← c.refuse 1 ("value " ++ v ++ " for -" ++ key ++
            " option should be >= " ++ natText least)))
        else f n
    let clash (old new name : String) : Act Unit :=
      c.blame ("warning: options " ++ old ++ " and " ++ new ++
        " are mutually exclusive, ignoring previous " ++ name ++ " value")
    match key with
    | "0" => mannerOf c { m with delimiter := some (Char.ofNat 0) } rest
    | "a" => mannerOf c { m with file := some v } rest
    | "d" =>
      match delimiterOf? v with
      | some d => mannerOf c { m with delimiter := some d } rest
      | none =>
        c.blame ("Invalid input delimiter specification " ++ v ++
          ": the delimiter must be either a single character or an escape sequence starting with \\.")
        pure (.error 1)
    | "E" => mannerOf c { m with stop := if v = "" then none else some v } rest
    | "e" => mannerOf c { m with stop := value.bind fun t => if t = "" then none else some t } rest
    | "I" | "i" =>
      if m.items.isSome then clash "--max-args" "--replace/-I/-i" "--max-args"
      if m.lines.isSome then clash "--max-lines" "--replace/-I/-i" "--max-lines"
      let mark := match value with
        | some t => t
        | none => "\x7b\x7d"
      mannerOf c { m with mark := some mark, items := none, lines := none } rest
    | "L" | "l" =>
      if m.items.isSome then clash "--max-args" ("-" ++ key) "--max-args"
      if m.mark.isSome then clash "--replace" ("-" ++ key) "--replace"
      if value.isNone then
        mannerOf c { m with lines := some 1, items := none, mark := none } rest
      else number 1 fun n =>
        mannerOf c { m with lines := some n, items := none, mark := none } rest
    | "n" => number 1 fun n => do
      if m.lines.isSome then clash "--max-lines" "--max-args/-n" "--max-lines"
      if m.mark.isSome && n = 1 then mannerOf c m rest
      else
        if m.mark.isSome then clash "--replace" "--max-args/-n" "--replace"
        mannerOf c { m with items := some n, lines := none, mark := none } rest
    | "P" => number 0 fun _ => mannerOf c m rest
    | "p" => mannerOf c { m with asks := true } rest
    | "r" => mannerOf c { m with quiet := true } rest
    | "s" => number 1 fun n => mannerOf c { m with size := min n 131072 } rest
    | "t" => mannerOf c { m with shows := true } rest
    | _ => mannerOf c m rest
  termination_by _ options => options.length

/-- The program `xargs`. -/
def xargs : Tool := fun e c =>
  c.withFlags flags 1 fun p => do
    if p.has "version" then
      Act.print "xargs (GNU findutils) 4.9.0\n"
      return 0
    match ← mannerOf c {} p.options with
    | .error n => pure n
    | .ok m =>
      let command := if p.operands.isEmpty then ["echo"] else p.operands
      match ← Call.fetch (m.file.getD "-") with
      | .error err =>
        match m.file with
        | some f =>
          c.blame ("Cannot open input file " ++ curlyQuoted f ++ ": " ++ err.text)
          pure 1
        | none => runAll e c m command .fine false false [] 0 0 []
      | .ok (cs, cut) =>
        let (items, last) := itemsOf m cs cut
        runAll e c m command last false false [] 0 0 items

end Runbook.Shell.Batch
