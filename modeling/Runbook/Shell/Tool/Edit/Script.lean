import Runbook.Shell.Regex.Read
import Runbook.Shell.Text.Raw

/-!
# `Shell/Tool/Edit/Script` — scripts that edit lines

A script is a list of commands of one letter each. Addresses in front of a command choose the lines
on which it is done; braces put commands together. `Script.read` reads a part of a script and tells
how far it came when something is wrong with it.
-/

set_option autoImplicit false

namespace Runbook.Shell.Edit

/-- An expression that is looked for; nothing means the one that was looked for last. -/
abbrev Sought := Option (Regex × Nat)

/-- What one line is chosen by. -/
inductive Address where
  | line (n : Nat)
  | last
  /-- Every line at such a distance from the first. -/
  | step (first distance : Nat)
  | found (r : Sought) (multiline : Bool)

/-- How far a range of lines goes. -/
inductive Until where
  | address (a : Address)
  /-- So many lines more. -/
  | more (n : Nat)
  /-- Up to a multiple. -/
  | multiple (n : Nat)

/-- The lines on which a command is done. -/
structure Lines_ where
  first : Option Address := none
  second : Option Until := none
  negated : Bool := false

/-- How letters of a replacement are changed. -/
inductive Casing where
  | upper
  | lower
  | asIs
  deriving DecidableEq

/-- A part of a replacement. -/
inductive Part where
  | text (cs : List Char)
  | group (n : Nat)
  | casing (c : Casing)
  /-- The next letter alone. -/
  | once (c : Casing)

/-- A replacement of what is found. -/
structure Replacement where
  sought : Sought
  parts : List Part
  global : Bool := false
  number : Nat := 1
  prints : Bool := false
  runs : Bool := false
  file : Option String := none
  multiline : Bool := false

/-- What a command does. -/
inductive Action where
  | block (size : Nat)
  | blockEnd
  | label (name : String)
  | equals
  | append (text : List Char)
  | insert (text : List Char)
  | change (text : List Char)
  | jump (label : String)
  | jumpIf (label : String)
  | jumpUnless (label : String)
  | delete
  | deleteFirst
  | run (command : String)
  | fileName
  | get
  | getAppend
  | hold
  | holdAppend
  | list (width : Option Nat)
  | next
  | nextAppend
  | print
  | printFirst
  | quit (status : Nat)
  | quitSilently (status : Nat)
  | readFile (name : String)
  | readLine (name : String)
  | replace (r : Replacement)
  | writeFile (name : String)
  | writeFirst (name : String)
  | exchange
  | translate (pairs : List (Char × Char))
  | zap
  | nothing

/-- A command and the lines it is for. -/
structure Step where
  lines : Lines_
  action : Action

/-- How a script is written. -/
structure Style where
  extended : Bool := false
  /-- Lines end with a byte of zero. -/
  zero : Bool := false

/-- Where the reading of a script stands. -/
structure Reading where
  rest : List Char
  /-- The commands so far, the latest first. -/
  steps : List Step := []
  /-- The numbers of commands that begin a block that is open. -/
  opened : List Nat := []
  /-- The text of the latest command goes on in the next part. -/
  pending : Option (List Char → Action) := none
  lines : Lines_ := {}

/-- Something wrong, with what is left of the script. -/
abbrev Fault := String × List Char

/-- Reads something from a script. -/
abbrev Take (α : Type) := List Char → Except Fault (α × List Char)

/-- Blanks at the front are left out. -/
def dropBlanks (cs : List Char) : List Char := cs.dropWhile fun c => isNumberSpace c && c != '\n'

/-- All white space at the front is left out. -/
def dropSpace (cs : List Char) : List Char := cs.dropWhile isNumberSpace

/-- What is behind a bracket expression that has been opened. -/
def pastSet (cs : List Char) : Option (List Char × List Char) :=
  let (done, rest) : List Char × List Char := match cs with
    | '^' :: ']' :: more => ([']', '^'], more)
    | '^' :: more => (['^'], more)
    | ']' :: more => ([']'], more)
    | _ => ([], cs)
  let rec go : (fuel : Nat) → List Char → List Char → Option (List Char × List Char)
    | 0, _, _ => none
    | _ + 1, _, [] => none
    | _ + 1, done, ']' :: rest => some ((']' :: done).reverse, rest)
    | fuel + 1, done, '[' :: k :: rest =>
      if k = ':' ∨ k = '.' ∨ k = '=' then
        match Regex.upTo? k ']' rest with
        | some (inside, final) => go fuel ([']', k] ++ inside.reverse ++ [k, '['] ++ done) final
        | none => none
      else go fuel ('[' :: done) (k :: rest)
    | _ + 1, _, '\n' :: _ => none
    | fuel + 1, done, c :: rest => go fuel (c :: done) rest
  go (rest.length + 1) done rest

/-- A text up to a mark. The mark behind a backslash belongs to the text, without the backslash
unless it means something else then; `isRegex` tells that sets between brackets are left as they
are. -/
def upToMark (mark : Char) (isRegex : Bool) : (fuel : Nat) → (done : List Char) → List Char →
    Option (List Char × List Char)
  | 0, _, _ => none
  | _ + 1, _, [] => none
  | fuel + 1, done, c :: rest =>
    if c = mark then some (done.reverse, rest)
    else if c = '\\' then
      match rest with
      | [] => none
      | d :: more =>
        if d = mark then
          upToMark mark isRegex fuel (if d = '&' ∧ !isRegex then d :: c :: done else d :: done) more
        else if d = 'n' ∧ isRegex then upToMark mark isRegex fuel ('\n' :: done) more
        else upToMark mark isRegex fuel (d :: c :: done) more
    else if c = '\n' ∧ isRegex then none
    else if c = '[' ∧ isRegex then
      match pastSet rest with
      | some (inside, final) => upToMark mark isRegex fuel (inside.reverse ++ c :: done) final
      | none => none
    else upToMark mark isRegex fuel (c :: done) rest

/-- Escapes that stand for characters, replaced; `guard` puts a backslash before what would be
special in an expression. -/
def withEscapes (guard : Bool) : (fuel : Nat) → List Char → List Char
  | 0, cs => cs
  | _ + 1, [] => []
  | fuel + 1, '\\' :: c :: rest =>
    let put (n : Nat) (rest : List Char) : List Char :=
      let d := byteChar n
      (if guard && "$*.[\\]^".toList.contains d then ['\\', d] else [d]) ++ withEscapes guard fuel rest
    let number (base most : Nat) : List Char :=
      let (ds, _) := spanDigits base (rest.take most)
      if ds.isEmpty then '\\' :: c :: withEscapes guard fuel rest
      else put (ofDigits base ds) (rest.drop ds.length)
    match c with
    | 'a' => put 7 rest
    | 'f' => put 12 rest
    | 'v' => put 11 rest
    | 't' => put 9 rest
    | 'r' => put 13 rest
    | 'x' => number 16 2
    | 'd' => number 10 3
    | 'o' => number 8 3
    | 'c' =>
      match rest with
      | d :: more => put (Nat.xor d.toUpper.toNat 64) more
      | [] => ['\\', c]
    | _ => '\\' :: c :: withEscapes guard fuel rest
  | fuel + 1, c :: rest => c :: withEscapes guard fuel rest

/-- An expression from its text. -/
def soughtOf (st : Style) (anyCase : Bool) (cs : List Char) (rest : List Char) : Except Fault Sought :=
  if cs.isEmpty then .ok none
  else
    let source := String.ofList (withEscapes true (cs.length + 1) cs)
    let style : Regex.Style :=
      { extended := st.extended, anyCase := anyCase, lenient := false, looseClose := false
        looseBrace := false }
    match Regex.read style source with
    | .ok r => .ok (some r)
    | .error f => .error (f.message, rest)

/-- A number in front. -/
def takeNumber (cs : List Char) : Nat × List Char :=
  let (ds, rest) := cs.span Char.isDigit
  (ofDigits 10 ds, rest)

/-- An address, if there is one. -/
def takeAddress (st : Style) : Take (Option Address) := fun cs =>
  let regex (mark : Char) (body : List Char) : Except Fault (Option Address × List Char) := do
    match upToMark mark true (body.length + 1) [] body with
    | none =>
      throw ("unterminated address regex", (body.dropWhile (· != '\n')))
    | some (text, rest) =>
      let flags := rest.takeWhile fun c => c == 'I' || c == 'M'
      let rest := rest.drop flags.length
      let r ← soughtOf st (flags.contains 'I') text rest
      pure (some (.found r (flags.contains 'M')), rest)
  match cs with
  | '/' :: body => regex '/' body
  | '\\' :: mark :: body => regex mark body
  | '$' :: rest => .ok (some .last, rest)
  | c :: _ =>
    if c.isDigit then
      let (n, rest) := takeNumber cs
      match dropBlanks rest with
      | '~' :: more =>
        let (d, final) := takeNumber (dropBlanks more)
        .ok (some (if d = 0 then .line n else .step n d), final)
      | _ => .ok (some (.line n), rest)
    else .ok (none, cs)
  | [] => .ok (none, [])

/-- The end of a range, behind a comma and blanks. -/
def takeUntil (st : Style) : Take (Option Until) := fun cs => do
  match cs with
  | '+' :: ds =>
    let (n, rest) := takeNumber (dropBlanks ds)
    pure (some (.more n), rest)
  | '~' :: ds =>
    let (n, rest) := takeNumber (dropBlanks ds)
    pure (some (.multiple n), rest)
  | _ =>
    let (b, rest) ← takeAddress st cs
    pure (b.map Until.address, rest)

/-- The address in front of a command, and whether there is one. No lines more, or a multiple of
none, means all lines there. -/
def takeFirst (st : Style) : Take (Option (Option Address)) := fun cs => do
  match cs with
  | '+' :: ds | '~' :: ds =>
    let (n, rest) := takeNumber (dropBlanks ds)
    if n = 0 then pure (some none, rest)
    else throw ("invalid usage of +N or ~N as first address", rest)
  | _ =>
    let (a, rest) ← takeAddress st cs
    pure (a.map some, rest)

/-- The lines in front of a command. -/
def takeLines (st : Style) : Take Lines_ := fun cs => do
  let (first, rest) ← takeFirst st (dropSpace cs)
  match first with
  | none => pure ({}, dropSpace cs)
  | some a =>
    match dropBlanks rest with
    | ',' :: more =>
      let more := dropBlanks more
      let (second, rest) ← takeUntil st more
      match second with
      | none => throw ("unexpected \x60,'", more.drop 1)
      | some u =>
        match a, u with
        | none, _ => pure ({}, rest)
        | some (.line 0), .address (.found _ _) => pure ({ first := a, second := some u }, rest)
        | some (.line 0), _ => throw ("invalid usage of line address 0", rest.drop 1)
        | _, _ => pure ({ first := a, second := some u }, rest)
    | rest' =>
      match a with
      | some (.line 0) => throw ("invalid usage of line address 0", rest'.drop 1)
      | _ => pure ({ first := a }, rest')

/-- The end of a command. -/
def takeEnd (cs : List Char) : Except Fault (List Char) :=
  match dropBlanks cs with
  | [] => .ok []
  | ';' :: rest | '\n' :: rest => .ok rest
  | '\x7d' :: rest => .ok ('\x7d' :: rest)
  | '#' :: rest => .ok ('#' :: rest)
  | _ :: rest => .error ("extra characters after command", rest)

/-- The name of a file: the rest of the line. -/
def takeName (cs : List Char) : Except Fault (String × List Char) :=
  let body := dropBlanks cs
  let name := body.takeWhile (· != '\n')
  if name.isEmpty then .error ("missing filename in r/R/w/W commands", body)
  else .ok (String.ofList name, body.drop (name.length + 1))

/-- A label: a word up to a semicolon. -/
def takeLabel (cs : List Char) : String × List Char :=
  let body := dropBlanks cs
  let name := body.takeWhile fun c => !isNumberSpace c && c != ';' && c != '\x7d'
  (String.ofList name, body.drop name.length)

/-- The text of a command that adds lines, and whether it is not at its end yet. -/
def takeText (cs : List Char) : List Char × Bool × List Char :=
  let rec go : (fuel : Nat) → (done : List Char) → List Char → List Char × Bool × List Char
    | 0, done, rest => (done.reverse, false, rest)
    | _ + 1, done, [] => (done.reverse, false, [])
    | _ + 1, done, ['\\'] => (done.reverse, true, [])
    | fuel + 1, done, '\\' :: c :: rest =>
      if c = '\n' then go fuel ('\n' :: done) rest
      else
        match withEscapes false 2 ['\\', c] with
        | [d] => go fuel (d :: done) rest
        | _ => go fuel ((if c = 'n' then '\n' else c) :: done) rest
    | _ + 1, done, '\n' :: rest => (done.reverse, false, rest)
    | fuel + 1, done, c :: rest => go fuel (c :: done) rest
  go (cs.length + 1) [] cs

/-- The text behind a command that adds lines. -/
def takeAddition (cs : List Char) : Except Fault ((List Char × Bool) × List Char) :=
  match dropBlanks cs with
  | [] => .error ("expected \\ after \x60a', \x60c' or \x60i'", [])
  | '\\' :: rest =>
    match dropBlanks rest with
    | '\n' :: more =>
      let (text, open_, final) := takeText more
      .ok ((text ++ ['\n'], open_), final)
    | [] => .ok (([], true), [])
    | _ =>
      -- The blanks behind the backslash belong to the text.
      let (text, open_, final) := takeText rest
      .ok ((text ++ ['\n'], open_), final)
  | body =>
    let (text, open_, final) := takeText body
    .ok ((text ++ ['\n'], open_), final)

/-- The parts of a replacement. -/
def partsOf : (fuel : Nat) → (text : List Char) → List Char → List Part
  | 0, text, _ => [.text text.reverse]
  | _ + 1, text, [] => if text.isEmpty then [] else [.text text.reverse]
  | fuel + 1, text, c :: rest =>
    let flush : List Part := if text.isEmpty then [] else [.text text.reverse]
    match c, rest with
    | '&', _ => flush ++ .group 0 :: partsOf fuel [] rest
    | '\\', d :: more =>
      if d.isDigit then flush ++ .group (d.toNat - 48) :: partsOf fuel [] more
      else
        match d with
        | 'U' => flush ++ .casing .upper :: partsOf fuel [] more
        | 'L' => flush ++ .casing .lower :: partsOf fuel [] more
        | 'E' => flush ++ .casing .asIs :: partsOf fuel [] more
        | 'u' => flush ++ .once .upper :: partsOf fuel [] more
        | 'l' => flush ++ .once .lower :: partsOf fuel [] more
        | 'n' => partsOf fuel ('\n' :: text) more
        | _ => partsOf fuel (d :: text) more
    | _, _ => partsOf fuel (c :: text) rest

/-- The greatest number of a group that a replacement wants. -/
def greatest (parts : List Part) : Nat :=
  parts.foldl (fun n p => match p with
    | .group k => max n k
    | _ => n) 0

/-- The flags of a replacement. -/
def takeFlags : (fuel : Nat) → (seen : List Char) → Replacement → (anyCase : Bool) → List Char →
    Except Fault ((Replacement × Bool) × List Char)
  | 0, _, r, i, cs => .ok ((r, i), cs)
  | _ + 1, _, r, i, [] => .ok ((r, i), [])
  | fuel + 1, seen, r, i, c :: rest =>
    let again (what : String) : Except Fault ((Replacement × Bool) × List Char) :=
      .error ("multiple " ++ what ++ " options to \x60s' command", rest)
    match c with
    | 'i' | 'I' => takeFlags fuel seen r true rest
    | 'm' | 'M' => takeFlags fuel seen { r with multiline := true } i rest
    | 'e' => takeFlags fuel seen { r with runs := true } i rest
    | 'p' =>
      if seen.contains 'p' then again "\x60p'"
      else takeFlags fuel ('p' :: seen) { r with prints := true } i rest
    | 'g' =>
      if seen.contains 'g' then again "\x60g'"
      else takeFlags fuel ('g' :: seen) { r with global := true } i rest
    | 'w' => do
      let (name, rest) ← takeName rest
      .ok (({ r with file := some name }, i), rest)
    | '\x7d' | '#' => .ok ((r, i), c :: rest)
    | '\n' | ';' => .ok ((r, i), rest)
    | '\r' => takeFlags fuel seen r i rest
    | _ =>
      if c.isDigit then
        let (n, rest) := takeNumber (c :: rest)
        if seen.contains 'n' then .error ("multiple number options to \x60s' command", rest)
        else if n = 0 then .error ("number option to \x60s' command may not be zero", rest)
        else takeFlags fuel ('n' :: seen) { r with number := n } i rest
      else if c = ' ' ∨ c = '\t' then takeFlags fuel seen r i rest
      else .error ("unknown option to \x60s'", rest)

/-- The command that replaces. -/
def takeReplacement (st : Style) (cs : List Char) : Except Fault (Action × List Char) :=
  let open_ : Fault := ("unterminated \x60s' command", [])
  match cs with
  | [] => .error open_
  | mark :: body =>
    if mark = '\n' then .error open_
    else
      match upToMark mark true (body.length + 1) [] body with
      | none => .error open_
      | some (pattern, rest) =>
        match upToMark mark false (rest.length + 1) [] rest with
        | none => .error open_
        | some (text, rest) => do
          let text := withEscapes false (text.length + 1) text
          let parts := partsOf (text.length + 1) [] text
          let ((r, anyCase), rest) ← takeFlags (rest.length + 1) [] { sought := none, parts := parts }
            false rest
          let sought ← soughtOf st anyCase pattern rest
          match sought with
          | some (_, groups) =>
            let n := greatest parts
            if groups < n then
              throw ("invalid reference \\" ++ natText n ++ " on \x60s' command's RHS", rest)
          | none => pure ()
          pure (.replace { r with sought := sought }, rest)

/-- The characters of a translation. -/
def translationOf (mark : Char) : List Char → List Char
  | [] => []
  | '\\' :: c :: rest =>
    if c = '\\' then '\\' :: translationOf mark rest
    else if c = 'n' then '\n' :: translationOf mark rest
    else if c = mark then mark :: translationOf mark rest
    else '\\' :: c :: translationOf mark rest
  | c :: rest => c :: translationOf mark rest

/-- The command that translates characters. -/
def takeTranslation (cs : List Char) : Except Fault (Action × List Char) :=
  let open_ : Fault := ("unterminated \x60y' command", [])
  match cs with
  | [] => .error open_
  | mark :: body =>
    match upToMark mark false (body.length + 1) [] body with
    | none => .error open_
    | some (a, rest) =>
      match upToMark mark false (rest.length + 1) [] rest with
      | none => .error open_
      | some (b, rest) => do
        let escaped (x : List Char) : List Char :=
          translationOf mark (withEscapes false (x.length + 1) x)
        let a := escaped a
        let b := escaped b
        if a.length ≠ b.length then
          throw ("strings for \x60y' command are different lengths", rest)
        else
          let rest ← takeEnd rest
          pure (.translate (a.zip b), rest)

/-- A number behind a command, if there is one. -/
def takeStatus (cs : List Char) : Option Nat × List Char :=
  let body := dropBlanks cs
  let (ds, rest) := body.span Char.isDigit
  (if ds.isEmpty then none else some (ofDigits 10 ds), rest)

/-- The command of a letter, without its end if that is not its own matter. -/
def takeAction (st : Style) (lines : Lines_) (c : Char) (rest : List Char) :
    Except Fault ((Action × Option (List Char → Action)) × List Char) := do
  let simple (a : Action) : Except Fault ((Action × Option (List Char → Action)) × List Char) := do
    let rest ← takeEnd rest
    pure ((a, none), rest)
  let one : Except Fault Unit :=
    if lines.second.isSome then .error ("command only uses one address", rest) else .ok ()
  let addition (f : List Char → Action) :
      Except Fault ((Action × Option (List Char → Action)) × List Char) := do
    let ((text, goesOn), rest) ← takeAddition rest
    pure ((f text, if goesOn then some (fun more => f (text ++ more)) else none), rest)
  let named (f : String → Action) :
      Except Fault ((Action × Option (List Char → Action)) × List Char) := do
    let (name, rest) ← takeName rest
    pure ((f name, none), rest)
  let labelled (f : String → Action) :
      Except Fault ((Action × Option (List Char → Action)) × List Char) := do
    let (name, rest) := takeLabel rest
    pure ((f name, none), (if (dropBlanks rest).head? == some ';' then (dropBlanks rest).drop 1 else rest))
  match c with
  | '=' => simple .equals
  | 'd' => simple .delete
  | 'D' => simple .deleteFirst
  | 'F' => simple .fileName
  | 'g' => simple .get
  | 'G' => simple .getAppend
  | 'h' => simple .hold
  | 'H' => simple .holdAppend
  | 'n' => simple .next
  | 'N' => simple .nextAppend
  | 'p' => simple .print
  | 'P' => simple .printFirst
  | 'x' => simple .exchange
  | 'z' => simple .zap
  | 'a' => addition .append
  | 'i' => addition .insert
  | 'c' => addition .change
  | 'r' => named .readFile
  | 'R' => named .readLine
  | 'w' => named .writeFile
  | 'W' => named .writeFirst
  | 'b' => labelled .jump
  | 't' => labelled .jumpIf
  | 'T' => labelled .jumpUnless
  | 'e' =>
    let body := dropBlanks rest
    let command := body.takeWhile (· != '\n')
    pure ((.run (String.ofList command), none), body.drop (command.length + 1))
  | 'l' =>
    let (n, rest) := takeStatus rest
    let rest ← takeEnd rest
    pure ((.list n, none), rest)
  | 'q' =>
    one
    let (n, rest) := takeStatus rest
    let rest ← takeEnd rest
    pure ((.quit (n.getD 0), none), rest)
  | 'Q' =>
    one
    let (n, rest) := takeStatus rest
    let rest ← takeEnd rest
    pure ((.quitSilently (n.getD 0), none), rest)
  | 's' =>
    let (a, rest) ← takeReplacement st rest
    pure ((a, none), rest)
  | 'y' =>
    let (a, rest) ← takeTranslation rest
    pure ((a, none), rest)
  | 'v' =>
    let body := dropBlanks rest
    let word := body.takeWhile fun c => !isNumberSpace c && c != ';'
    if word.head?.any fun c => '5' ≤ c ∧ c ≤ '9' then
      throw ("expected newer version of sed", body.drop word.length)
    else pure ((.nothing, none), body.drop word.length)
  | _ => throw ("unknown command: \x60" ++ String.singleton c ++ "'", rest)

/-- Reads commands to the end of a part of a script; `fuel` bounds their number. -/
def readSteps (st : Style) : (fuel : Nat) → Reading → Except Fault Reading
  | 0, r => .ok r
  | fuel + 1, r => do
    let cs := r.rest.dropWhile fun c => isNumberSpace c || c == ';'
    match cs with
    | [] => .ok { r with rest := [] }
    | '#' :: rest => readSteps st fuel { r with rest := rest.dropWhile (· != '\n') }
    | _ =>
      let (lines, rest) ← takeLines st cs
      let rest := dropBlanks rest
      let (lines, rest) ← match rest with
        | '!' :: more =>
          let more := dropBlanks more
          if more.head? == some '!' then throw ("multiple \x60!'s", more.drop 1)
          else pure ({ lines with negated := true }, more)
        | _ => pure (lines, rest)
      match rest with
      | [] => throw ("missing command", [])
      | c :: rest =>
        let number := r.steps.length
        match c with
        | '\x7b' =>
          readSteps st fuel
            { r with rest := rest, steps := ⟨lines, .block 0⟩ :: r.steps, opened := number :: r.opened }
        | '\x7d' =>
          match r.opened with
          | [] => throw ("unexpected \x60\x7d'", rest)
          | first :: opened =>
            if lines.first.isSome then throw ("\x7d doesn't want any addresses", rest)
            else
              let rest ← takeEnd rest
              let steps := r.steps.zipIdx.map fun (s, i) =>
                if r.steps.length - 1 - i = first then { s with action := .block (number - first) } else s
              readSteps st fuel
                { r with rest := rest, steps := ⟨lines, .blockEnd⟩ :: steps, opened := opened }
        | '#' => throw ("comments don't accept any addresses", rest)
        | ':' =>
          if lines.first.isSome then throw (": doesn't want any addresses", rest)
          else
            let body := dropBlanks rest
            let name := body.takeWhile fun c => !isNumberSpace c && c != ';'
            if name.isEmpty then throw ("\":\" lacks a label", body)
            else
              readSteps st fuel
                { r with
                  rest := body.drop name.length
                  steps := ⟨lines, .label (String.ofList name)⟩ :: r.steps }
        | _ =>
          let ((action, pending), rest) ← takeAction st lines c rest
          readSteps st fuel
            { r with rest := rest, steps := ⟨lines, action⟩ :: r.steps, pending := pending }

/-- Reads one part of a script behind what has been read. A part may go on with the text of the
command before it. What is wrong is told with the number of characters that were read. -/
def readPart (st : Style) (r : Reading) (part : String) : Except (Nat × String) Reading :=
  let cs := part.toList
  let placed (x : Except Fault Reading) : Except (Nat × String) Reading :=
    match x with
    | .ok r => .ok r
    | .error (text, rest) => .error (cs.length - rest.length, text)
  match r.pending, r.steps with
  | some f, s :: steps =>
    let (text, goesOn, final) := takeText cs
    let text := text ++ ['\n']
    let next := { r with
      rest := final
      steps := { s with action := f text } :: steps
      pending := if goesOn then some (fun more => f (text ++ more)) else none }
    placed (readSteps st (cs.length + 1) next)
  | _, _ => placed (readSteps st (cs.length + 1) { r with rest := cs })

/-- A script as a whole. -/
structure Script where
  steps : Array Step
  /-- Where labels are. -/
  labels : List (String × Nat)

/-- The script of what has been read, or what it lacks. -/
def scriptOf (r : Reading) : Except (Nat × Option String) Script :=
  if !r.opened.isEmpty then .error (1, none)
  else
    let steps := r.steps.reverse.toArray
    let labels := (r.steps.reverse.zipIdx.filterMap fun (s, n) =>
      match s.action with
      | .label name => some (name, n)
      | _ => none)
    let wanted := r.steps.reverse.filterMap fun s =>
      match s.action with
      | .jump l | .jumpIf l | .jumpUnless l => if l = "" then none else some l
      | _ => none
    match wanted.find? fun l => (labels.lookup l).isNone with
    | some l => .error (4, some l)
    | none => .ok ⟨steps, labels⟩

/-- The files that a script writes to. -/
def Script.files (s : Script) : List String :=
  (s.steps.toList.filterMap fun (x : Step) =>
    match x.action with
    | .writeFile n | .writeFirst n => some n
    | .replace r => r.file
    | _ => none).eraseDups

end Runbook.Shell.Edit
