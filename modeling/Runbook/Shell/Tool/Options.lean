import Runbook.Shell.Tool.Lines

/-!
# `Shell/Tool/Options` — arguments in order

`getopt` reads arguments as a program with given options would read them, and writes them in a form
that a shell can take apart again: options with their values first, and operands behind two dashes.
A wrong option is told, and reading goes on behind it.
-/

set_option autoImplicit false

namespace Runbook.Shell.Options

/-- The options that arguments may hold. -/
structure Known where
  /-- The letters, each with a colon behind it if it takes a value, or two if it may take one. -/
  letters : List Char
  long : List (String × Taking) := []
  /-- Reading stops at the first operand. -/
  stops : Bool := false
  /-- Operands stay among the options. -/
  inPlace : Bool := false
  /-- Long options may have a single dash. -/
  singleDash : Bool := false

/-- The options that a text of letters and a list of long ones describe. -/
def Known.of (text : String) (long : List (String × Taking)) (singleDash : Bool) : Known :=
  match text.toList with
  | '+' :: rest => { letters := rest, long, stops := true, singleDash }
  | '-' :: rest => { letters := rest, long, inPlace := true, singleDash }
  | cs => { letters := cs, long, singleDash }

/-- What an argument turns out to be. -/
inductive Item where
  | letter (c : Char) (takes : Bool) (value : String)
  | long (name : String) (takes : Bool) (value : String)
  | operand (text : String)
  | wrong (message : String)

/-- What a letter takes, if it is an option. -/
def Known.taking? (k : Known) (c : Char) : Option Taking :=
  if c = ':' ∨ c = ';' then none else Flags.taking? k.letters c

/-- The options in a word of letters, the last of which may take the next word. -/
def letterItems (k : Known) : List Char → List String → List Item × List String
  | [], rest => ([], rest)
  | c :: cs, rest =>
    match k.taking? c with
    | none =>
      let (more, left) := letterItems k cs rest
      (.wrong ("invalid option -- '" ++ String.singleton c ++ "'") :: more, left)
    | some .nothing =>
      let (more, left) := letterItems k cs rest
      (.letter c false "" :: more, left)
    | some .maybe => ([.letter c true (String.ofList cs)], rest)
    | some .value =>
      if !cs.isEmpty then ([.letter c true (String.ofList cs)], rest)
      else
        match rest with
        | v :: rest => ([.letter c true v], rest)
        | [] => ([.wrong ("option requires an argument -- '" ++ String.singleton c ++ "'")], [])

/-- The long option that a name means: itself, or the only one that it is the beginning of. -/
def Known.long? (k : Known) (name : String) : Except String (Option (String × Taking)) :=
  match k.long.find? (·.1 == name) with
  | some o => .ok (some o)
  | none =>
    match k.long.filter (·.1.startsWith name) with
    | [] => .ok none
    | [o] => .ok (some o)
    | os => .error (String.join (os.map fun p => " '--" ++ p.1 ++ "'"))

/-- A long option behind its dashes, with what follows; nothing if it is not known. -/
def longItem? (k : Known) (dashes : String) (word : List Char) (rest : List String) :
    Option (Item × List String) :=
  let (name, value) := word.span (· != '=')
  match k.long? (String.ofList name) with
  | .error names =>
    some (.wrong ("option '" ++ dashes ++ String.ofList word ++ "' is ambiguous; possibilities:" ++
      names), rest)
  | .ok none => none
  | .ok (some (full, takes)) =>
    match takes, value, rest with
    | .nothing, '=' :: _, _ =>
      some (.wrong ("option '" ++ dashes ++ full ++ "' doesn't allow an argument"), rest)
    | .nothing, _, _ => some (.long full false "", rest)
    | _, '=' :: v, _ => some (.long full true (String.ofList v), rest)
    | .maybe, _, _ => some (.long full true "", rest)
    | .value, _, v :: rest => some (.long full true v, rest)
    | .value, _, [] =>
      some (.wrong ("option '" ++ dashes ++ full ++ "' requires an argument"), [])

/-- What arguments turn out to be, and the operands that come last; `fuel` bounds their number. -/
def read (k : Known) : (fuel : Nat) → List String → List Item × List String
  | 0, words => ([], words)
  | _ + 1, [] => ([], [])
  | fuel + 1, w :: rest =>
    let goOn (items : List Item) (rest : List String) : List Item × List String :=
      let (more, operands) := read k fuel rest
      (items ++ more, operands)
    match w.toList with
    | ['-', '-'] => ([], rest)
    | '-' :: '-' :: cs =>
      match longItem? k "--" cs rest with
      | some (item, rest) => goOn [item] rest
      | none => goOn [.wrong ("unrecognized option '" ++ w ++ "'")] rest
    | '-' :: c :: cs =>
      let tried := k.singleDash && (!cs.isEmpty || (k.taking? c).isNone)
      match if tried then longItem? k "-" (c :: cs) rest else none with
      | some (item, rest) => goOn [item] rest
      | none =>
        if tried && (k.taking? c).isNone then goOn [.wrong ("unrecognized option '" ++ w ++ "'")] rest
        else
          let (items, rest) := letterItems k (c :: cs) rest
          goOn items rest
    | _ =>
      if k.stops then ([], w :: rest)
      else if k.inPlace then goOn [.operand w] rest
      else
        let (more, operands) := read k fuel rest
        (more, w :: operands)

/-- How what has been read is written. -/
structure Manner where
  quotes : Bool := true
  /-- The words are for a shell with other rules for quotes. -/
  otherShell : Bool := false
  silent : Bool := false
  quiet : Bool := false

/-- A word as it is written, behind a blank. -/
def Manner.word (m : Manner) (s : String) : String :=
  if !m.quotes then " " ++ s
  else
    let one (c : Char) : List Char :=
      if c = '\'' then "'\\''".toList
      else if m.otherShell then
        if c = '\\' then "\\\\".toList
        else if c = '!' then "'\\!'".toList
        else if c = '\n' then "\\n".toList
        else if isBlank c then ['\'', '\\', c, '\'']
        else [c]
      else [c]
    " '" ++ String.ofList (s.toList.flatMap one) ++ "'"
where
  /-- A character that parts words. -/
  isBlank (c : Char) : Bool := c == ' ' || c == '\t' || c == '\r' || c == '\x0b' || c == '\x0c'

/-- What is written for an item. -/
def Manner.item (m : Manner) : Item → String
  | .letter c takes v => " -" ++ String.singleton c ++ (if takes then m.word v else "")
  | .long name takes v => " --" ++ name ++ (if takes then m.word v else "")
  | .operand s => m.word s
  | .wrong _ => ""

/-- The long options that a text names. -/
def longOf (text : String) : Except String (List (String × Taking)) :=
  let words := (text.toList.splitOnP fun c => c == ',' || c == ' ' || c == '\t' || c == '\n').filter
    (!·.isEmpty)
  words.mapM fun w =>
    let (colons, back) := w.reverse.span (· == ':')
    let takes : Taking := match colons.length with
      | 0 => .nothing
      | 1 => .value
      | _ => .maybe
    if back.isEmpty then .error "empty long option after -l or --long argument"
    else .ok (String.ofList (back.reverse ++ List.replicate (colons.length - 2) ':'), takes)

/-- Reads arguments in the name of a program and writes them. -/
def generate (m : Manner) (name : String) (k : Known) (words : List String) : Act Nat := do
  let (items, operands) := read k (words.length + 1) words
  let mut ok := true
  for i in items do
    match i with
    | .wrong text =>
      if !m.quiet && k.letters.head? != some ':' then Act.tell (name ++ ": " ++ text ++ "\n")
      ok := false
    | _ => pure ()
  if !m.silent then
    Act.print (String.join (items.map m.item) ++ " --" ++ String.join (operands.map m.word) ++ "\n")
  pure (if ok then 0 else 1)

/-- The program `getopt`. -/
def getopt : Tool := fun _ c => do
  let wrong (text : String) : Act Nat := c.refuse 2 text
  match c.args with
  | [] => wrong "missing optstring argument"
  | first :: rest =>
    if !first.startsWith "-" then
      let letters := String.ofList (first.toList.dropWhile fun x => x == '-' || x == '+')
      generate { quotes := false } c.name (Known.of letters [] false) rest
    else
      c.withFlags
        { letters := "ao:l:n:qQs:TuhV", inFront := true
          long := [("options", .value, "o"), ("longoptions", .value, "l"), ("quiet", .nothing, "q"),
            ("quiet-output", .nothing, "Q"), ("shell", .value, "s"), ("test", .nothing, "T"),
            ("unquoted", .nothing, "u"), ("help", .nothing, "h"), ("alternative", .nothing, "a"),
            ("name", .value, "n"), ("version", .nothing, "V")] }
        2 fun p => do
        let shells := p.all "s"
        let isOther (s : String) : Bool := s == "tcsh" || s == "csh"
        match (p.all "l").mapM longOf,
            shells.find? fun s => !isOther s && s != "bash" && s != "sh" with
        | .error text, _ => wrong text
        | _, some _ => wrong "unknown shell after -s or --shell argument"
        | .ok long, none =>
          if p.has "V" then
            Act.print "getopt from util-linux 2.38.1\n"
            pure 0
          else if p.has "T" then pure 4
          else
            let m : Manner :=
              { quotes := !p.has "u", otherShell := (shells.getLast?).any isOther
                silent := p.has "Q", quiet := p.has "q" }
            let name := (p.last? "n").getD c.name
            match p.last? "o", p.operands with
            | none, [] => wrong "missing optstring argument"
            | none, letters :: words =>
              generate m name (Known.of letters long.flatten (p.has "a")) words
            | some letters, words =>
              generate m name (Known.of letters long.flatten (p.has "a")) words

end Runbook.Shell.Options
