import Runbook.Shell.Disk.Basic
import Runbook.Shell.Text.Moment
import Runbook.Shell.Tool.Lines
import Runbook.Shell.Tool.Rules.Basic
import Runbook.Shell.Tool.Rules.Cell

/-!
# `Shell/Tool/Rules/State` — records, fields and streams

The record at hand is split into fields when one of them is asked for, and put together again when
one has been changed. What is printed is held back until there is enough of it, until a command is
run, or until the end.
-/

set_option autoImplicit false

namespace Runbook.Shell.Rules

/-- What a name stands for. -/
inductive Bound where
  | cell (c : Cell)
  | table (id : Nat)
  /-- Nothing yet; as a table it is the one of a number. -/
  | open_ (id : Nat)

instance : Inhabited Bound := ⟨.cell .unset⟩

/-- A text that is being read. -/
structure Source where
  rest : List Char
  /-- More of it would come. -/
  cut : Bool := false

/-- Where a program prints to. -/
structure Sink where
  name : String
  way : Way
  /-- The channel of a file. -/
  channel : Option Nat := none
  /-- What is held back. -/
  held : String := ""

/-- Where a program stands. -/
structure State where
  globals : Std.HashMap String Bound := ∅
  /-- The names of the function at work. -/
  locals : Std.HashMap String Bound := ∅
  tables : Std.HashMap Nat Table := ∅
  fresh : Nat := 0
  record : List Char := []
  fields : Array Cell := #[]
  isSplit : Bool := true
  /-- The record is not what its fields say. -/
  isStale : Bool := false
  main : Option Source := none
  /-- The number of the operand that is looked at next. -/
  operand : Nat := 1
  /-- An operand named a file. -/
  sawFile : Bool := false
  readers : List (String × Source) := []
  sinks : List Sink := []
  /-- What is held back of the output. -/
  held : String := ""
  /-- The ranges that are open, by the number of the rule. -/
  ranges : List Nat := []
  patterns : Std.HashMap String Regex := ∅
  depth : Nat := 0
  status : Nat := 0
  seed : Float := 0.0
  random : Nat := 1

/-- Why the work on statements is cut short. -/
inductive Cut where
  | break_
  | continue_
  | next (file : Bool)
  | exit
  | return_ (c : Cell)
  /-- All ends; the message is complete but for the name of the program. -/
  | fatal (message : String)

/-- Something that a program does. -/
abbrev Doing := ExceptT Cut (StateT State Act)

namespace Doing

/-- Does something in the shell. -/
def act {α : Type} (a : Act α) : Doing α := (liftM a : StateT State Act α)

/-- Something whose cut is looked at. -/
def attempt {α : Type} (a : Doing α) : Doing (Except Cut α) :=
  ExceptT.mk do
    let r ← a.run
    pure (.ok r)

/-- A channel has to be filled further. -/
def starve {α : Type} : Doing α := act (throw Flow.starved)

/-! ## Names -/

/-- What a name stands for. -/
def bound (n : String) : Doing Bound := do
  let s ← get
  pure ((s.locals[n]? <|> s.globals[n]?).getD (.cell .unset))

/-- Makes a name stand for something. -/
def bind_ (n : String) (b : Bound) : Doing Unit :=
  modify fun s =>
    if s.locals.contains n then { s with locals := s.locals.insert n b }
    else { s with globals := s.globals.insert n b }

/-- A number that no table has yet. -/
def freshTable : Doing Nat := do
  let n := (← get).fresh
  modify fun s => { s with fresh := n + 1 }
  pure n

/-- The number of the table that a name stands for. -/
def tableOf (n : String) : Doing Nat := do
  match ← bound n with
  | .table id => pure id
  | .open_ id =>
    bind_ n (.table id)
    pure id
  | .cell _ =>
    let id ← freshTable
    bind_ n (.table id)
    pure id

/-- A table. -/
def table (id : Nat) : Doing Table := do pure (((← get).tables[id]?).getD {})

/-- Changes a table. -/
def modifyTable (id : Nat) (f : Table → Table) : Doing Unit :=
  modify fun s =>
    -- The table is taken out while it is changed, so that it need not be copied.
    let t := (s.tables[id]?).getD {}
    let s := { s with tables := s.tables.erase id }
    { s with tables := s.tables.insert id (f t) }

/-- A global value that the language itself looks at. -/
def global (n : String) : Doing Cell := do
  match (← get).globals[n]? with
  | some (.cell c) => pure c
  | _ => pure .unset

/-- Sets a global value. -/
def setGlobal (n : String) (c : Cell) : Doing Unit :=
  modify fun s => { s with globals := s.globals.insert n (.cell c) }

/-- The format in which numbers become texts. -/
def numbers : Doing (List Char) := do
  match ← global "CONVFMT" with
  | .text cs | .input cs => pure cs
  | _ => pure "%.6g".toList

/-- A value as a text. -/
def text (c : Cell) : Doing (List Char) := do
  match c with
  | .number x => pure (numberText (← numbers) x)
  | c => pure (c.toText [])

/-- A global value as a text. -/
def globalText (n : String) : Doing (List Char) := do text (← global n)

/-! ## Faults -/

/-- The place in the input, as faults tell it. -/
def whereabouts : Doing String := do
  let file ← globalText "FILENAME"
  let fnr ← globalText "FNR"
  let nr ← globalText "NR"
  pure ("\n\tFILENAME=\"" ++ String.ofList (Raw.joined file) ++ "\" FNR=" ++ String.ofList fnr ++
    " NR=" ++ String.ofList nr)

/-- Ends the program with a fault. -/
def fail {α : Type} (message : String) : Doing α := throw (.fatal message)

/-- Ends the program with a fault at the record at hand. -/
def failHere {α : Type} (message : String) : Doing α := do
  let place ← whereabouts
  fail ("run time error: " ++ message ++ place)

end Doing

/-- The regular expression that a text spells, which is kept for the next time. -/
def Doing.pattern (cs : List Char) : Doing Regex := do
  let key := String.ofList cs
  match (← get).patterns[key]? with
  | some r => pure r
  | none =>
    match readPattern cs with
    | .ok r =>
      modify fun s => { s with patterns := s.patterns.insert key r }
      pure r
    | .error message => Doing.failHere message

/-! ## Splitting -/

/-- How a text is split. -/
inductive Splitter where
  | gaps
  | single (c : Char)
  | letters
  | pattern (r : Regex)

/-- The parts of a text between matches that are not empty; `fuel` bounds their number. -/
def splitByPattern (r : Regex) (s : Subject) : (fuel : Nat) → (start place : Nat) → List (List Char)
  | 0, start, _ => [s.between start s.text.size]
  | fuel + 1, start, place =>
    match r.search? s place with
    | some (first, last, _) =>
      if first = last then
        if first < s.text.size then splitByPattern r s fuel start (first + 1)
        else [s.between start s.text.size]
      else s.between start first :: splitByPattern r s fuel last last
    | none => [s.between start s.text.size]

/-- The parts of a text. An empty one has none. -/
def splitText (how : Splitter) (cs : List Char) : List (List Char) :=
  if cs.isEmpty then []
  else
    match how with
    | .gaps => Lines.words isGap cs
    | .single c => Lines.splitFrom c [] [] cs
    | .letters => cs.map fun c => [c]
    | .pattern r => splitByPattern r (Subject.ofList cs) (cs.length + 1) 0 0

/-- How a text tells to split. -/
def Doing.splitter (cs : List Char) : Doing Splitter := do
  match cs with
  | [' '] => pure .gaps
  | [] => pure .letters
  | [c] => pure (.single c)
  | cs => pure (.pattern (← Doing.pattern cs))

namespace Doing

/-! ## Fields -/

/-- Splits the record, unless that has been done. -/
def splitRecord : Doing Unit := do
  let s ← get
  if !s.isSplit then
    let how ← splitter (← globalText "FS")
    let parts := splitText how s.record
    modify fun s =>
      { s with
        fields := (parts.map Cell.input).toArray
        isSplit := true
        globals := s.globals.insert "NF" (.cell (.number (Float.ofNat parts.length))) }

/-- Puts the record together again, if one of its fields has been changed. -/
def rebuild : Doing Unit := do
  let s ← get
  if s.isStale then
    let between ← globalText "OFS"
    let parts ← s.fields.toList.mapM text
    modify fun s => { s with record := between.intercalate parts, isStale := false }

/-- The record. -/
def wholeRecord : Doing (List Char) := do
  rebuild
  pure (← get).record

/-- Another record takes the place of the one at hand. -/
def setRecord (cs : List Char) : Doing Unit := do
  -- The old record is split no more, but the separator of its time counts for the new one.
  modify fun s => { s with record := cs, isSplit := false, isStale := false }

/-- The number of fields. -/
def fieldCount : Doing Nat := do
  splitRecord
  pure (← get).fields.size

/-- A field. -/
def fieldAt (n : Nat) : Doing Cell := do
  if n = 0 then pure (.input (← wholeRecord))
  else
    splitRecord
    pure (((← get).fields[n - 1]?).getD .unset)

/-- There are to be so many fields. -/
def resize (n : Nat) : Doing Unit := do
  splitRecord
  modify fun s =>
    let fields := if n ≤ s.fields.size then s.fields.extract 0 n
      else s.fields ++ Array.replicate (n - s.fields.size) Cell.unset
    { s with
      fields := fields, isStale := true
      globals := s.globals.insert "NF" (.cell (.number (Float.ofNat n))) }

/-- Sets a field. -/
def setField (n : Nat) (c : Cell) : Doing Unit := do
  if n = 0 then setRecord (← text c)
  else
    splitRecord
    if (← get).fields.size < n then resize n
    modify fun s => { s with fields := s.fields.setIfInBounds (n - 1) c, isStale := true }

/-! ## Output -/

/-- Puts out what has been held back. -/
def flush : Doing Unit := do
  let s ← get
  if s.held != "" then
    set { s with held := "" }
    act (Act.print s.held)

/-- Puts out what has been held back for a file. -/
def flushSink (k : Sink) : Doing Sink := do
  match k.channel with
  | some id =>
    if k.held != "" then act (discard (Act.writeChannel id k.held))
    pure { k with held := "" }
  | none => pure k

/-- Puts out what has been held back, also for files. -/
def flushAll : Doing Unit := do
  flush
  let sinks ← (← get).sinks.mapM flushSink
  modify fun s => { s with sinks := sinks }

/-- Prints a text. -/
def print (cs : List Char) : Doing Unit := do
  modify fun s => { s with held := s.held ++ String.ofList (Raw.joined cs) }
  if 4096 ≤ (← get).held.utf8ByteSize then flush

/-- Runs a command in a shell, perhaps with a text as its input, and gives its status. -/
def command (e : Engine) (shell text : String) (input : Option String) : Doing Nat :=
  act <| Act.isolated e do
    match input with
    | some t =>
      let id ← Act.newChannel (.input t.toList false)
      Act.setDescriptor 0 id
    | none => pure ()
    runLast e [shell, "-c", text]

/-- Ends a sink. A command is run now with what was printed for it. -/
def closeSink (e : Engine) (k : Sink) : Doing Nat := do
  match k.way with
  | .command =>
    flush
    command e "/bin/sh" k.name (some k.held)
  | _ =>
    discard (flushSink k)
    match k.channel with
    | some id => act (Act.modifyWorld fun w => { w with channels := w.channels.erase id })
    | none => pure ()
    pure 0

/-- Prints to where a name leads. -/
def printTo (way : Way) (name : String) (cs : List Char) : Doing Unit := do
  let new := String.ofList (Raw.joined cs)
  if way != .command && name = "/dev/stdout" then print cs
  else if way != .command && name = "/dev/stderr" then act (Act.tell new)
  else
    let sinks := (← get).sinks
    match sinks.find? fun k => k.name == name && (k.way == .command) == (way == .command) with
    | some k =>
      let others := sinks.filter fun j =>
        !(j.name == name && (j.way == .command) == (way == .command))
      let k := { k with held := k.held ++ new }
      modify fun s => { s with sinks := k :: others }
    | none =>
      match way with
      | .command =>
        flush
        modify fun s => { s with sinks := { name := name, way := way, held := new } :: s.sinks }
      | _ =>
        match ← act (Act.openPath name
            { writes := true, create := true, append := way == .append
              truncate := way == .file }) with
        | .ok id =>
          modify fun s =>
            { s with sinks :=
                { name := name, way := way, channel := some id, held := new } :: s.sinks }
        | .error err =>
          fail ("cannot open \"" ++ name ++ "\" for output (" ++ err.text ++ ")")

/-! ## Input -/

/-- What ends a record. -/
inductive RecordEnd where
  | at (c : Char)
  | blankLines
  | pattern (r : Regex)

/-- What ends a record at present. -/
def recordEnd : Doing RecordEnd := do
  match ← globalText "RS" with
  | [] => pure .blankLines
  | [c] => pure (.at c)
  | cs => pure (.pattern (← pattern cs))

/-- The lines up to a blank one, and the rest behind all that are blank. -/
def takeParagraph : (done : List Char) → List Char → Option (List Char × List Char)
  | done, '\n' :: '\n' :: rest => some (done.reverse, rest.dropWhile (· == '\n'))
  | done, c :: rest => takeParagraph (c :: done) rest
  | _, [] => none

/-- The next record of a text, and the text behind it. Nothing is left to take if the text is at its
end. -/
def takeRecord (how : RecordEnd) (s : Source) : Doing (Option (List Char × Source)) := do
  match how with
  | .at c =>
    if s.rest.isEmpty then (if s.cut then starve else pure none)
    else
      let (line, ended, rest) := Act.splitLine c [] s.rest
      if !ended && s.cut then starve else pure (some (line, { s with rest := rest }))
  | .blankLines =>
    let text := s.rest.dropWhile (· == '\n')
    if text.isEmpty then (if s.cut then starve else pure none)
    else
      match takeParagraph [] text with
      | some (r, rest) => pure (some (r, { s with rest := rest }))
      | none =>
        if s.cut then starve
        else
          let r := if text.getLast? == some '\n' then text.dropLast else text
          pure (some (r, { s with rest := [] }))
  | .pattern r =>
    if s.rest.isEmpty then (if s.cut then starve else pure none)
    else
      let subject := Subject.ofList s.rest
      match r.search? subject 0 with
      | some (first, last, _) =>
        if last = subject.text.size && s.cut then starve
        else if first = last then pure (some (s.rest, { s with rest := [] }))
        else pure (some (s.rest.take first, { s with rest := s.rest.drop last }))
      | none =>
        if s.cut then starve else pure (some (s.rest, { s with rest := [] }))

/-- The text behind a name, as bytes. -/
def openSource (name : String) : Doing (Except Errno Source) := do
  match ← act (Call.fetch (if name = "/dev/stdin" then "-" else name)) with
  | .ok (cs, cut) => pure (.ok ⟨Raw.split cs, cut⟩)
  | .error err => pure (.error err)

/-- A name with a value on the command line. -/
def assignment? (cs : List Char) : Option (String × List Char) :=
  let (n, rest) := cs.span (· != '=')
  match rest with
  | '=' :: value => if isName (String.ofList n) then some (String.ofList n, value) else none
  | [] => none
  | _ => none

/-- Sets a name as the command line tells. -/
def assignGlobal (n : String) (value : List Char) : Doing Unit := do
  let c := Cell.input (withEscapes value)
  if n = "NF" then resize (wordOf c.toNumber).toNat
  else setGlobal n c

/-- Opens the next operand; `false` if there is none. `fuel` bounds the number of operands. -/
def openMain : (fuel : Nat) → Doing Bool
  | 0 => pure false
  | fuel + 1 => do
    let count := (wordOf (← global "ARGC").toNumber).toNat
    let s ← get
    if s.operand < count then
      modify fun s => { s with operand := s.operand + 1 }
      let id ← tableOf "ARGV"
      match (← table id).cells[natText s.operand]? with
      | none => openMain fuel
      | some c =>
        let cs ← text c
        if cs.isEmpty then openMain fuel
        else
          match assignment? cs with
          | some (n, value) =>
            assignGlobal n value
            openMain fuel
          | none =>
            let name := String.ofList (Raw.joined cs)
            match ← openSource name with
            | .ok source =>
              modify fun s => { s with main := some source, sawFile := true }
              setGlobal "FILENAME" (.text cs)
              setGlobal "FNR" (.number 0.0)
              pure true
            | .error err =>
              if err = Errno.isFolder then fail ("read error (" ++ err.text ++ ")")
              else fail ("cannot open \"" ++ name ++ "\" (" ++ err.text ++ ")")
    else if s.sawFile then pure false
    else
      modify fun s => { s with sawFile := true }
      setGlobal "FILENAME" (.text ['-'])
      match ← openSource "-" with
      | .ok source =>
        modify fun s => { s with main := some source }
        setGlobal "FNR" (.number 0.0)
        pure true
      | .error _ => pure false

/-- The next record of the operands; `fuel` bounds how many are empty. -/
def mainRecord : (fuel : Nat) → Doing (Option (List Char))
  | 0 => pure none
  | fuel + 1 => do
    match (← get).main with
    | some source =>
      match ← takeRecord (← recordEnd) source with
      | some (r, source) =>
        modify fun s => { s with main := some source }
        setGlobal "NR" (.number ((← global "NR").toNumber + 1.0))
        setGlobal "FNR" (.number ((← global "FNR").toNumber + 1.0))
        pure (some r)
      | none =>
        modify fun s => { s with main := none }
        mainRecord fuel
    | none =>
      let count := (wordOf (← global "ARGC").toNumber).toNat
      if ← openMain (count + 2) then mainRecord fuel else pure none

/-- The greatest number of operands. -/
def maxOperands : Nat := 1000000

end Doing

end Runbook.Shell.Rules
