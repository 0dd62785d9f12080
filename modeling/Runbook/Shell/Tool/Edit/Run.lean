import Runbook.Shell.Tool.Edit.Script
import Runbook.Shell.Tool.Lines

/-!
# `Shell/Tool/Edit/Run` — editing lines

`sed` takes one line after the other, does the commands of its script on it, and prints it. The line
at hand is the pattern; another text is held beside it.
-/

set_option autoImplicit false

namespace Runbook.Shell.Edit

/-- What is printed after the line at hand. -/
inductive Later where
  | text (cs : List Char)
  | file (name : String)
  /-- A line of a file. -/
  | line (cs : List Char)

/-- How lines are edited. -/
structure Manner where
  script : Script
  quiet : Bool := false
  /-- Each file has lines of its own. -/
  separate : Bool := false
  /-- Files are changed; the ending of the names that they had before. -/
  inPlace : Option String := none
  width : Nat := 70
  mark : Char := '\n'
  /-- The channels of files that are written to. -/
  outputs : List (String × Nat) := []

/-- Where a range of lines that has begun stands. -/
inductive Span where
  /-- It is open, up to a line if that is known. -/
  | open (last : Option Nat)
  | closed
  deriving DecidableEq, Repr

/-- The range is open. -/
def Span.isOpen : Span → Bool
  | .open _ => true
  | .closed => false

/-- Where the editing stands. -/
structure State where
  /-- The operands that have not been opened. -/
  waiting : List String
  name : String := "-"
  rest : List Char := []
  /-- More of the text would come. -/
  cut : Bool := false
  number : Nat := 0
  pattern : List Char := []
  /-- The line at hand had an end. -/
  ended : Bool := true
  held : List Char := []
  /-- The line that was held had an end. -/
  heldEnded : Bool := true
  later : List Later := []
  changed : Bool := false
  /-- The ranges of lines that have begun, by the numbers of their commands. -/
  ranges : List (Nat × Span) := []
  latest : Option (Regex × Nat) := none
  /-- The output lacks the end of its line. -/
  missing : Bool := false
  /-- What the file at hand is to become. -/
  written : Option String := none
  place : Option String := none
  /-- The lines of files that are read one by one. -/
  readers : List (String × List (List Char)) := []
  status : Nat := 0

/-- How a cycle goes on. -/
inductive Course where
  /-- The line at hand is printed, and the next one is taken. -/
  | done
  /-- The next line is taken. -/
  | deleted
  /-- The commands begin again without another line. -/
  | again
  /-- All ends; the line at hand may still be printed, with an end that it lacks. -/
  | quit (prints ends : Bool) (status : Nat)
  | fault (text : String) (status : Nat)

/-- Something that changes the state of the editing. -/
abbrev Editing := StateT State Act

/-- Puts a text out. -/
def emit (text : String) : Editing Unit := do
  let s ← get
  match s.written with
  | some w => set { s with written := some (w ++ text) }
  | none => Act.print text

/-- Puts the end of a line out that is missing. -/
def complete (m : Manner) : Editing Unit := do
  if (← get).missing then
    emit (String.singleton m.mark)
    modify fun s => { s with missing := false }

/-- Puts a line out. The last line may lack its end. -/
def emitLine (m : Manner) (cs : List Char) (ended : Bool) : Editing Unit := do
  complete m
  emit (String.ofList cs ++ (if ended then String.singleton m.mark else ""))
  if !ended then modify fun s => { s with missing := true }

/-- Puts a text out that has the ends of its lines. -/
def emitText (m : Manner) (text : String) : Editing Unit := do
  complete m
  emit text

/-! ## Input -/

/-- Ends the file at hand, which may be changed now. -/
def closeFile (m : Manner) : Editing Unit := do
  let s ← get
  match s.place, s.written with
  | some path, some text =>
    match (← Act.disk).find (← Act.shell).here path with
    | .ok (l, n) =>
      match m.inPlace with
      | some "" | none => pure ()
      | some ending =>
        let parts := path.splitOn "/"
        let base := parts.getLast?.getD path
        let new := if ending.toList.contains '*' then ending.replace "*" base else base ++ ending
        let target := if new.toList.contains '/' then new else "/".intercalate (parts.dropLast ++ [new])
        match (← Act.disk).resolve (← Act.shell).here target with
        | .ok k => Act.modifyDisk fun d => d.put k n
        | .error _ => pure ()
      Act.modifyDisk fun d => d.put l { n with content := .file text, serial := 0 }
    | .error _ => pure ()
    set { s with place := none, written := none, missing := false }
  | _, _ => pure ()

/-- Opens the next operand that can be read; `false` if there is none. A folder is a fault. -/
def openNext (c : Call) (m : Manner) : (fuel : Nat) → Editing (Except (String × Nat) Bool)
  | 0 => pure (.ok false)
  | fuel + 1 => do
    closeFile m
    let s ← get
    match s.waiting with
    | [] => pure (.ok false)
    | o :: waiting =>
      set { s with waiting := waiting, name := o }
      let inPlace := m.inPlace.isSome && o != "-"
      match ← Call.fetch o with
      | .error err =>
        if err = Errno.isFolder then
          if m.inPlace.isSome then
            c.blame ("couldn't edit " ++ o ++ ": not a regular file")
            modify fun s => { s with status := 4 }
            openNext c m fuel
          else pure (.error ("read error on " ++ o ++ ": " ++ err.text, 4))
        else
          c.blame ("can't read " ++ o ++ ": " ++ err.text)
          modify fun s => { s with status := 2 }
          openNext c m fuel
      | .ok (cs, cut) =>
        modify fun s =>
          { s with
            rest := cs, cut := cut
            number := if m.separate then 0 else s.number
            ranges := if m.separate then [] else s.ranges
            place := if inPlace then some o else none
            written := if inPlace then some "" else none }
        if cs.isEmpty && cut then throw Flow.starved
        if cs.isEmpty then openNext c m fuel else pure (.ok true)

/-- There are lines in the operands that have not been opened. -/
def moreWaits : List String → Act Bool
  | [] => pure false
  | o :: rest => do
    match ← (if o = "-" then pure (.error Errno.noEntry) else Act.peekPath o) with
    | .ok (cs, cut) => if cs.isEmpty && !cut then moreWaits rest else pure true
    | .error _ => if o = "-" then pure true else moreWaits rest

/-- The line at hand is the last one. -/
def isLast (m : Manner) : Editing Bool := do
  let s ← get
  if !s.rest.isEmpty then pure false
  else if s.cut then throw Flow.starved
  else if m.separate then pure true
  else pure !(← moreWaits s.waiting)

/-- Takes the next line, and puts it behind the pattern or in its place. -/
def takeLine (c : Call) (m : Manner) (append : Bool) : Editing (Except (String × Nat) Bool) := do
  let s ← get
  let ready ← if s.rest.isEmpty then
      if s.cut then throw Flow.starved
      else openNext c m (s.waiting.length + 1)
    else pure (.ok true)
  match ready with
  | .error e => pure (.error e)
  | .ok false => pure (.ok false)
  | .ok true =>
    let s ← get
    let (line, ended, rest) := Act.splitLine m.mark [] s.rest
    if !ended && s.cut then throw Flow.starved
    set { s with
      rest := rest, number := s.number + 1, ended := ended
      pattern := if append then s.pattern ++ m.mark :: line else line }
    pure (.ok true)

/-! ## What comes later -/

/-- Puts out what was to come after the line at hand. -/
def flushLater (m : Manner) : Editing Unit := do
  let later := (← get).later.reverse
  modify fun s => { s with later := [] }
  for x in later do
    match x with
    | .text cs => emitText m (String.ofList cs)
    | .line cs => emitLine m cs true
    | .file name =>
      match ← (if name = "/dev/stdin" then Act.readAll 0 else Act.readPath name) with
      | .ok cs =>
        emitText m (String.ofList cs)
      | .error _ => pure ()

/-- The next line of a file that is read line by line. -/
def lineOf (name : String) : Editing (Option (List Char)) := do
  let lines ← match (← get).readers.lookup name with
    | some ls => pure ls
    | none =>
      match ← (if name = "/dev/stdin" then Act.readAll 0 else Act.readPath name) with
      | .ok cs => pure (Lines.split '\n' cs).1
      | .error _ => pure []
  let keep (ls : List (List Char)) : Editing Unit :=
    modify fun s => { s with readers := (name, ls) :: s.readers.filter (·.1 != name) }
  match lines with
  | [] =>
    keep []
    pure none
  | l :: rest =>
    keep rest
    pure (some l)

/-- Writes a line to a file of the script. -/
def writeTo (m : Manner) (name : String) (cs : List Char) (ended : Bool) : Editing Unit := do
  if name = "/dev/stdout" then
    emit (String.ofList cs ++ (if ended then String.singleton m.mark else ""))
  else
    let text := String.ofList cs ++ "\n"
    if name = "/dev/stderr" then Act.tell text
    else
      match m.outputs.lookup name with
      | some id => discard (Act.writeChannel id text)
      | none => pure ()

/-! ## Addresses -/

/-- The expression that is meant: that of the command, or the latest one. -/
def meant (r : Sought) : Editing (Option (Regex × Nat)) := do
  match r with
  | some r =>
    modify fun s => { s with latest := some r }
    pure (some r)
  | none => pure (← get).latest

/-- The line at hand is meant by an address; nothing if no expression was looked for before. -/
def hits (m : Manner) (a : Address) : Editing (Option Bool) := do
  let s ← get
  match a with
  | .line n => pure (some (s.number == n))
  | .last => pure (some (← isLast m))
  | .step first distance =>
    pure (some (if distance = 0 then s.number == first
      else first ≤ s.number && (s.number - first) % distance == 0))
  | .found r multiline =>
    match ← meant r with
    | some (r, _) =>
      pure (some (r.occursIn { text := s.pattern.toArray, multiline := multiline }))
    | none => pure none

/-- Where a range stands. -/
def spanOf (s : State) (index : Nat) (first : Address) : Option Span :=
  match s.ranges.lookup index, first with
  | none, .line 0 => some (.open none)
  | x, _ => x

/-- The line at hand is in a range that is not open: it may begin one. A range that begins at a
numbered line does so only once, where that line or one behind it is met first. -/
def begins (m : Manner) (index : Nat) (a : Address) (u : Until) : Editing (Option Bool) := do
  let s ← get
  let put (x : Span) : Editing (Option Bool) := do
    modify fun s => { s with ranges := (index, x) :: s.ranges.filter (·.1 != index) }
    pure (some true)
  let start : Editing (Option Bool) :=
    match u with
    | .more 0 | .multiple 0 => put .closed
    | .more n => put (.open (some (s.number + n)))
    | .multiple n => put (.open (some ((s.number / n + 1) * n)))
    | .address (.line n) => if n ≤ s.number then put .closed else put (.open (some n))
    | .address _ => put (.open none)
  match a, u with
  | .line first, .address (.line last) =>
    if last < s.number then pure (some (s.number == first))
    else if first ≤ s.number ∧ spanOf s index a ≠ some .closed then start
    else pure (some false)
  | .line first, _ =>
    if first ≤ s.number ∧ spanOf s index a ≠ some .closed then start else pure (some false)
  | _, _ =>
    match ← hits m a with
    | some true => start
    | x => pure x

/-- A command is done on the line at hand; nothing if no expression was looked for before. -/
def chosen (m : Manner) (index : Nat) (l : Lines_) : Editing (Option Bool) := do
  let s ← get
  let close : Editing Unit :=
    modify fun s => { s with ranges := (index, .closed) :: s.ranges.filter (·.1 != index) }
  let inRange : Editing (Option Bool) := do
    match l.first, l.second with
    | none, _ => pure (some true)
    | some a, none => hits m a
    | some a, some u =>
      match spanOf s index a, u with
      | some (.open (some last)), _ =>
        if last ≤ s.number then close
        -- A last line that is counted from the first one may be passed over.
        let passes := match u with
          | .address _ => false
          | _ => true
        pure (some (passes || s.number ≤ last))
      | some (.open none), .address b =>
        match ← hits m b with
        | some true => do
          close
          pure (some true)
        | some false => pure (some true)
        | none => pure none
      | some (.open none), _ => pure (some true)
      | _, _ => begins m index a u
  match ← inRange with
  | some b => pure (some (b != l.negated))
  | none => pure none

/-! ## Commands -/

/-- Characters with their letters changed as a casing says. -/
def cased (c : Casing) (cs : List Char) : List Char :=
  match c with
  | .upper => cs.map upperOf
  | .lower => cs.map lowerOf
  | .asIs => cs

/-- A replacement for one match. -/
def filled (s : Subject) (place last : Nat) (gs : Groups) (parts : List Part) : List Char :=
  let put (st : List Char × Casing × Option Casing) (cs : List Char) :
      List Char × Casing × Option Casing :=
    let (done, casing, once) := st
    match cs, once with
    | [], _ => st
    | c :: rest, some o => ((cased o [c] ++ cased casing rest).reverse ++ done, casing, none)
    | _, none => ((cased casing cs).reverse ++ done, casing, none)
  (parts.foldl (fun st p =>
    match p with
    | .text cs => put st cs
    | .group 0 => put st (s.between place last)
    | .group n => put st ((Regex.groupText s gs n).getD [])
    | .casing c => (st.1, c, none)
    | .once c => (st.1, st.2.1, some c)) (([] : List Char), Casing.asIs, none)).1.reverse

/-- A text with matches replaced, from a place on, and whether there was any; `fuel` bounds the
matches. -/
def replaced (r : Regex) (rep : Replacement) (s : Subject) : (fuel : Nat) → (place count : Nat) →
    (previous : Option Nat) → (done : List Char) → (any : Bool) → List Char × Bool
  | 0, place, _, _, done, any => (done.reverse ++ s.between place s.text.size, any)
  | fuel + 1, place, count, previous, done, any =>
    if s.text.size < place then (done.reverse, any)
    else
      match r.search? s place with
      | none => (done.reverse ++ s.between place s.text.size, any)
      | some (first, last, gs) =>
        let done := (s.between place first).reverse ++ done
        if first = last ∧ previous = some first then
          -- An empty match right behind another one does not count.
          replaced r rep s fuel (first + 1) count none ((s.between first (first + 1)).reverse ++ done) any
        else
          let count := count + 1
          let put := if count < rep.number then s.between first last
            else filled s first last gs rep.parts
          let any := any || rep.number ≤ count
          let done := put.reverse ++ done
          if rep.number ≤ count ∧ !rep.global then
            (done.reverse ++ s.between last s.text.size, any)
          else if first = last then
            replaced r rep s fuel (last + 1) count none ((s.between last (last + 1)).reverse ++ done) any
          else replaced r rep s fuel last count (some last) done any

/-- A character as it is shown where nothing may be mistaken. -/
def shownChar (c : Char) : List Char :=
  match c.toNat with
  | 92 => ['\\', '\\']
  | n =>
    match escapeLetter? c with
    | some l => ['\\', l]
    | none =>
      if 32 ≤ n ∧ n < 127 then [c]
      else (Raw.bytesOfChar c).flatMap fun b => '\\' :: octal3 b.toNat

/-- A text shown so that nothing may be mistaken, in lines of a width. -/
def shown (width : Nat) (cs : List Char) : String :=
  let limit := if width ≤ 1 then 0 else width - 1
  let pieces := cs.flatMap fun c =>
    let x := shownChar c
    if x.length ≤ 4 then [x] else [x.take 4, (x.drop 4).take 4, (x.drop 8).take 4, x.drop 12]
  let (done, _) := pieces.foldl (fun ((done, column) : List Char × Nat) x =>
    if limit ≠ 0 ∧ limit < column + x.length then (x.reverse ++ ['\n', '\\'] ++ done, x.length)
    else (x.reverse ++ done, column + x.length)) ([], 0)
  String.ofList (('$' :: done).reverse) ++ "\n"

/-- What a command of the shell prints. -/
def outputOf (e : Engine) (command : String) : Act String := do
  let (text, _) ← Act.captured e (runLast e ["sh", "-c", command])
  pure text

/-- Does the commands from one on; `fuel` bounds how many are done. -/
def cycle (e : Engine) (c : Call) (m : Manner) : (fuel : Nat) → (index : Nat) → Editing Course
  | 0, _ => throw (.killed 9)
  | fuel + 1, index => do
    match m.script.steps[index]? with
    | none => pure .done
    | some step =>
      match ← chosen m index step.lines with
      | none => pure (.fault "-e expression #1, char 0: no previous regular expression" 1)
      | some false =>
        match step.action with
        | .block size => cycle e c m fuel (index + size)
        | _ => cycle e c m fuel (index + 1)
      | some true =>
        let next : Editing Course := cycle e c m fuel (index + 1)
        let jump (label : String) : Editing Course :=
          if label = "" then pure .done
          else cycle e c m fuel ((m.script.labels.lookup label).getD m.script.steps.size)
        let s ← get
        match step.action with
        | .block _ | .blockEnd | .label _ | .nothing => next
        | .equals => do
          emitText m (natText s.number ++ "\n")
          next
        | .append text => do
          if !text.isEmpty then set { s with later := .text text :: s.later }
          next
        | .insert text => do
          if !text.isEmpty then emitText m (String.ofList text)
          next
        | .change text => do
          -- Of a range the text comes at the end.
          let complete := step.lines.second.isNone || step.lines.negated ||
            !((step.lines.first.bind (spanOf s index)).any Span.isOpen)
          if complete then emitText m (String.ofList text)
          pure .deleted
        | .jump label => jump label
        | .jumpIf label =>
          if s.changed then do
            set { s with changed := false }
            jump label
          else next
        | .jumpUnless label =>
          if s.changed then do
            set { s with changed := false }
            next
          else jump label
        | .delete => pure .deleted
        | .deleteFirst =>
          match s.pattern.span (· != m.mark) with
          | (_, []) => pure .deleted
          | (_, _ :: rest) => do
            set { s with pattern := rest }
            pure .again
        | .run command => do
          if command = "" then
            let text ← outputOf e (String.ofList s.pattern)
            let cs := text.toList
            set { s with pattern := if cs.getLast? == some '\n' then cs.dropLast else cs }
          else emitText m (← outputOf e command)
          next
        | .fileName => do
          emitText m (s.name ++ "\n")
          next
        | .get => do
          set { s with pattern := s.held, ended := s.heldEnded }
          next
        | .getAppend => do
          set { s with pattern := s.pattern ++ m.mark :: s.held, ended := s.heldEnded }
          next
        | .hold => do
          set { s with held := s.pattern, heldEnded := s.ended }
          next
        | .holdAppend => do
          set { s with held := s.held ++ m.mark :: s.pattern, heldEnded := s.ended }
          next
        | .list width => do
          emitText m (shown (width.getD m.width) s.pattern)
          next
        | .next =>
          if ← isLast m then pure (.quit true false s.status)
          else do
            if !m.quiet then emitLine m s.pattern s.ended
            flushLater m
            match ← takeLine c m false with
            | .ok true => next
            | .ok false => pure (.quit false false s.status)
            | .error (text, status) => pure (.fault text status)
        | .nextAppend =>
          if ← isLast m then pure (.quit true false s.status)
          else do
            flushLater m
            match ← takeLine c m true with
            | .ok true => next
            | .ok false => pure (.quit true false s.status)
            | .error (text, status) => pure (.fault text status)
        | .print => do
          emitLine m s.pattern s.ended
          next
        | .printFirst => do
          match s.pattern.span (· != m.mark) with
          | (line, []) => emitLine m line s.ended
          | (line, _) => emitLine m line true
          next
        | .quit status => pure (.quit true true status)
        | .quitSilently status => pure (.quit false false status)
        | .readFile name => do
          set { s with later := .file name :: s.later }
          next
        | .readLine name => do
          match ← lineOf name with
          | some l => modify fun s => { s with later := .line l :: s.later }
          | none => pure ()
          next
        | .replace rep => do
          match ← meant rep.sought with
          | none => pure (.fault "-e expression #1, char 0: no previous regular expression" 1)
          | some (r, _) =>
            let subject : Subject := { text := s.pattern.toArray, multiline := rep.multiline }
            let (text, any) := replaced r rep subject (s.pattern.length * 2 + 4) 0 0 none [] false
            if any then
              modify fun s => { s with pattern := text, changed := true }
              if rep.runs then
                let cs := (← outputOf e (String.ofList text)).toList
                modify fun s =>
                  { s with pattern := if cs.getLast? == some '\n' then cs.dropLast else cs }
              let s ← get
              if rep.prints then emitLine m s.pattern s.ended
              match rep.file with
              | some name => writeTo m name s.pattern s.ended
              | none => pure ()
            next
        | .writeFile name => do
          writeTo m name s.pattern s.ended
          next
        | .writeFirst name => do
          writeTo m name (s.pattern.takeWhile (· != m.mark)) true
          next
        | .exchange => do
          set { s with
            pattern := s.held, held := s.pattern, ended := s.heldEnded, heldEnded := s.ended }
          next
        | .translate pairs => do
          set { s with pattern := s.pattern.map fun x => (pairs.lookup x).getD x }
          next
        | .zap => do
          set { s with pattern := [] }
          next

/-- How many commands may be done on a line. -/
def mostSteps : Nat := 10000000

/-- Edits line after line; `fuel` bounds their number. It gives the status. -/
def lines (e : Engine) (c : Call) (m : Manner) : (fuel : Nat) → (fresh : Bool) → Editing Nat
  | 0, _ => throw (.killed 9)
  | fuel + 1, fresh => do
    let taken ← if fresh then takeLine c m false else pure (.ok true)
    match taken with
    | .error (text, status) =>
      c.blame text
      pure status
    | .ok false =>
      closeFile m
      pure (← get).status
    | .ok true =>
      if fresh then modify fun s => { s with changed := false }
      let printed : Editing Unit := do
        let s ← get
        if !m.quiet then emitLine m s.pattern s.ended
      match ← cycle e c m mostSteps 0 with
      | .done =>
        printed
        flushLater m
        lines e c m fuel true
      | .deleted =>
        flushLater m
        lines e c m fuel true
      | .again =>
        flushLater m
        lines e c m fuel false
      | .quit prints ends status =>
        if prints then printed
        if ends then complete m
        flushLater m
        let s ← get
        -- What is left of a file that is changed stays as it is.
        if s.written.isSome then emit (String.ofList s.rest)
        closeFile m
        pure (if status = 0 then s.status else status)
      | .fault text status =>
        c.blame text
        pure status

/-- How the program is called. -/
def usage (c : Call) : Act Nat := do
  Act.tell ("Usage: " ++ c.name ++
    " [OPTION]... \x7bscript-only-if-no-other-script\x7d [input-file]...\n")
  pure 1

/-- The flags of `sed`. -/
def flags : Flags :=
  { letters := "bsnrzuEe:f:l:i::V:hv"
    long := [("binary", .nothing, "b"), ("regexp-extended", .nothing, "E"),
      ("debug", .nothing, "debug"), ("in-place", .maybe, "i"), ("expression", .value, "e"),
      ("file", .value, "f"), ("line-length", .value, "l"), ("null-data", .nothing, "z"),
      ("zero-terminated", .nothing, "z"), ("quiet", .nothing, "n"), ("posix", .nothing, "p"),
      ("silent", .nothing, "n"), ("sandbox", .nothing, "sandbox"), ("separate", .nothing, "s"),
      ("unbuffered", .nothing, "u"), ("version", .nothing, "v"), ("help", .nothing, "h"),
      ("follow-symlinks", .nothing, "follow")] }

/-- The number of the line on which a place of a text is. -/
def lineAt (text : String) (place : Nat) : Nat :=
  ((text.toList.take place).filter (· == '\n')).length + 1

/-- The program `sed`. -/
def sed : Tool := fun e c => do
  match flags.parse c.args with
  | .error text =>
    c.blame text
    usage c
  | .ok p =>
    if p.has "v" then
      Act.print "sed (GNU sed) 4.9\n"
      pure 0
    else
      let parts := p.options.filter fun o => o.1 == "e" || o.1 == "f"
      let (parts, operands) : List (String × Option String) × List String :=
        if parts.isEmpty then
          match p.operands with
          | [] => ([], [])
          | o :: rest => ([("e", some o)], rest)
        else (parts, p.operands)
      if parts.isEmpty then usage c
      else
        let st : Style := { extended := p.has "E" || p.has "r", zero := p.has "z" }
        let mut reading : Reading := { rest := [] }
        let mut quietly := false
        let mut expressions := 0
        for ((key, value), n) in parts.zipIdx do
          let word := value.getD ""
          if key = "e" then
            expressions := expressions + 1
            if n = 0 && (word = "#n" || word.startsWith "#n\n") then quietly := true
            match readPart st reading word with
            | .ok r => reading := r
            | .error (place, text) =>
              c.blame ("-e expression #" ++ natText expressions ++ ", char " ++ natText place ++ ": " ++ text)
              return 1
          else
            match ← Call.whole word with
            | .error err =>
              c.blame ("couldn't open file " ++ word ++ ": " ++ err.text)
              return 4
            | .ok cs =>
              let cs := if cs.getLast? == some '\n' then cs.dropLast else cs
              let text := String.ofList cs
              if n = 0 && (text = "#n" || text.startsWith "#n\n") then quietly := true
              match readPart st reading text with
              | .ok r => reading := r
              | .error (place, fault) =>
                c.blame ("file " ++ word ++ " line " ++ natText (lineAt text place) ++ ": " ++ fault)
                return 1
        match scriptOf reading with
        | .error (status, some label) =>
          c.blame ("can't find label for jump to \x60" ++ label ++ "'")
          pure status
        | .error (status, none) =>
          c.blame "-e expression #1, char 0: unmatched \x60\x7b'"
          pure status
        | .ok script =>
          let mut outputs : List (String × Nat) := []
          for name in script.files do
            if name != "/dev/stdout" && name != "/dev/stderr" then
              let how : Act.Opening := { writes := true, create := true, truncate := true }
              match ← Act.openPath name how with
              | .ok id => outputs := (name, id) :: outputs
              | .error err =>
                c.blame ("couldn't open file " ++ name ++ ": " ++ err.text)
                return 4
          let inPlace : Option String := if p.has "i" then some ((p.last? "i").getD "") else none
          let m : Manner :=
            { script := script, quiet := quietly || p.has "n"
              separate := p.has "s" || p.has "i", inPlace := inPlace
              width := ((p.last? "l").bind natText?).getD 70
              mark := if p.has "z" then '\x00' else '\n', outputs := outputs }
          let waiting := if operands.isEmpty then ["-"] else operands
          let start : State := { waiting := waiting }
          let (status, _) ← (lines e c m mostSteps true).run start
          pure status

end Runbook.Shell.Edit
