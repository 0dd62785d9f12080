import Runbook.Shell.Script.Basic
import Runbook.Shell.Text.Numeral
import Runbook.Shell.Text.Quote

/-!
# `Shell/Script/Source` — scripts as they may have been written

Words and commands are written as text again, where the shell shows a command that it has not
expanded. Commands of a function stand on lines of their own, those inside of others further to the
right; a command by itself stands on one line as far as it goes. Texts that are read as input come
behind the line of their command.
-/

set_option autoImplicit false

namespace Runbook.Shell

/-- Quoted characters as they may have been written. -/
def Piece.quotedSource (cs : List Char) : String :=
  if cs.any (fun c => !isPrinting c) ∧ !cs.contains '\n' then escapeQuoted (String.ofList cs)
  else
    match cs with
    | [c] =>
      if c.isAlphanum ∨ c = ' ' then "'" ++ String.ofList cs ++ "'" else String.ofList ['\\', c]
    | _ => "'" ++ String.ofList cs ++ "'"

/-- What a word stands in. -/
inductive Around where
  | nothing
  | double
  /-- A text that is read as input, or an expression. -/
  | document
  deriving DecidableEq

/-- A character behind a dollar sign makes it the start of something that is replaced. -/
def followsDollar (c : Char) : Bool :=
  c.isAlphanum || "_\x7b(@*#?-$!".toList.contains c

/-- Characters between double quotes, or in a document, as they may have been written. -/
def Around.source (a : Around) : List Char → List Char
  | [] => []
  | '"' :: rest => (if a = .double then ['\\', '"'] else ['"']) ++ a.source rest
  | '\x60' :: rest => '\\' :: '\x60' :: a.source rest
  | '$' :: rest =>
    (if rest.head?.any followsDollar then ['\\', '$'] else ['$']) ++ a.source rest
  | '\\' :: rest =>
    (if rest.head?.all fun c => c == '$' || c == '\\' || c == '\x60' || c == '"' then
      ['\\', '\\'] else ['\\']) ++ a.source rest
  | c :: rest => c :: a.source rest

/-- How far the writing has come. -/
structure Page where
  /-- What has been written, the latest first. -/
  done : List Char := []
  indent : Nat := 0
  /-- How far to the right the commands inside of others stand. -/
  step : Nat := 4
  /-- How many commands begin behind something on their line. -/
  skips : Nat := 0
  /-- Texts that come behind the line. -/
  texts : List String := []
  /-- A text has just been written. -/
  afterText : Bool := false
  /-- Commands stand on lines of their own. -/
  apart : Bool := false

/-- A part of the writing. -/
abbrev Writing := StateM Page

namespace Writing

/-- Writes a text. -/
def put (s : String) : Writing Unit := modify fun p => { p with done := s.toList.reverseAux p.done }

/-- Writes the blanks in front of a line. -/
def margin : Writing Unit := do put (String.ofList (List.replicate (← get).indent ' '))

/-- Ends the line; the next one begins with a text. -/
def newline (s : String) : Writing Unit := do
  put "\n"
  margin
  put s

/-- Does something further to the right. -/
def indented (w : Writing Unit) : Writing Unit := do
  modify fun p => { p with indent := p.indent + p.step }
  w
  modify fun p => { p with indent := p.indent - p.step }

/-- Writes a semicolon, unless something else ends the command. -/
def semicolon : Writing Unit := do
  match (← get).done with
  | '&' :: _ | '\n' :: _ => pure ()
  | _ => put ";"

/-- The next command stands behind something on its line. -/
def skip : Writing Unit := modify fun p => { p with skips := p.skips + 1 }

/-- Begins a command. -/
def begin_ : Writing Unit := do
  if 0 < (← get).skips then modify fun p => { p with skips := p.skips - 1 } else margin

/-- Writes what joins commands, and the texts that come behind the line. -/
def joint (s : String) : Writing Unit := do
  let plain := s != "" && s != ";"
  if plain then put s
  let texts := (← get).texts
  if !texts.isEmpty then
    put "\n"
    for t in texts do
      put (t ++ "\n")
    if plain then put " "
    modify fun p => { p with texts := [], afterText := true }

/-- Writes what stands between a command and the next one of a list. -/
def separator : Writing Unit := do
  let p ← get
  if p.texts.isEmpty then
    if p.afterText then modify fun p => { p with afterText := false } else put ";"
  else joint (if p.apart then "" else ";")
  if p.apart then put "\n"
  else
    put " "
    skip

end Writing

open Writing

/-- The sign of a redirection in a direction, behind the number of the descriptor. -/
def Direction.sign : Direction → String
  | .input => "< "
  | .output false => "> "
  | .output true => ">| "
  | .append => ">> "
  | .readWrite => "<> "
  | .both false => "&> "
  | .both true => "&>> "
  | .share true => "<&"
  | .share false => ">&"
  | .here => "<<"
  | .hereLine => "<<< "

/-- The direction goes to a descriptor of number zero if no other one is named. -/
def Direction.reads : Direction → Bool
  | .input | .readWrite | .share true | .here | .hereLine => true
  | _ => false

/-- The commands of a function, and its redirections. -/
def functionParts : Command → Script × List Redirect
  | .group cs => (cs, [])
  | .redirected _ (.group cs) rs => (cs, rs)
  | c => ([c], [])

mutual

/-- A piece as it may have been written; `fuel` bounds how deep commands lie in each other. -/
def pieceSource : (fuel : Nat) → Around → Piece → String
  | 0, _, _ => ""
  | _ + 1, .nothing, .bare cs => String.ofList cs
  | _ + 1, a, .bare cs => String.ofList (a.source cs)
  | _ + 1, .nothing, .quoted cs => Piece.quotedSource cs
  | _ + 1, _, .quoted cs => String.ofList (cs.flatMap fun c => ['\\', c])
  | fuel + 1, _, .double inside => "\"" ++ wordSource fuel .double inside ++ "\""
  | _ + 1, _, .parameter name _ _ cs => if cs.isEmpty then "$" ++ name else String.ofList cs
  | fuel + 1, _, .command body => "$(" ++ scriptSource fuel body ++ ")"
  | _ + 1, _, .commandText _ text => "\x60" ++ String.ofList text ++ "\x60"
  | fuel + 1, _, .arithmetic inside => "$((" ++ wordSource fuel .document inside ++ "))"
  | fuel + 1, _, .process reads body =>
    (if reads then "<(" else ">(") ++ scriptSource fuel body ++ ")"
  | _ + 1, _, .broken text => String.ofList text

/-- A word as it may have been written. -/
def wordSource : (fuel : Nat) → Around → Word → String
  | 0, _, _ => ""
  | _ + 1, _, [] => ""
  | fuel + 1, a, p :: rest => pieceSource fuel a p ++ wordSource fuel a rest

/-- Commands on one line, as far as they go. -/
def scriptSource : (fuel : Nat) → Script → String
  | 0, _ => ""
  | fuel + 1, body =>
    String.ofList ((writeScript fuel body).run {}).2.done.reverse

/-- A value that is assigned. -/
def assignedSource : (fuel : Nat) → Assigned → String
  | 0, _ => ""
  | fuel + 1, .word w => wordSource fuel .nothing w
  | fuel + 1, .elements es =>
    let one : Element → String
      | .mk index append w =>
        (match index with
          | some i => "[" ++ wordSource fuel .nothing i ++ "]" ++ (if append then "+=" else "=")
          | none => "") ++ wordSource fuel .nothing w
    "(" ++ " ".intercalate (es.map one) ++ ")"

/-- An assignment. -/
def assignmentSource : (fuel : Nat) → Assignment → String
  | 0, _ => ""
  | fuel + 1, .mk name index append value =>
    name ++ (match index with
      | some i => "[" ++ wordSource fuel .nothing i ++ "]"
      | none => "") ++ (if append then "+=" else "=") ++ assignedSource fuel value

/-- A condition. -/
def conditionSource : (fuel : Nat) → Condition → String
  | 0, _ => ""
  | fuel + 1, .word w => "-n " ++ wordSource fuel .nothing w
  | fuel + 1, .unary op w => op ++ " " ++ wordSource fuel .nothing w
  | fuel + 1, .binary op a b => wordSource fuel .nothing a ++ " " ++ op ++ " " ++ wordSource fuel .nothing b
  | fuel + 1, .not c => "! " ++ conditionSource fuel c
  | fuel + 1, .group c => "( " ++ conditionSource fuel c ++ " )"
  | fuel + 1, .and a b => conditionSource fuel a ++ " && " ++ conditionSource fuel b
  | fuel + 1, .or a b => conditionSource fuel a ++ " || " ++ conditionSource fuel b

/-- Writes a redirection, and keeps its text for later if it has one. -/
def writeRedirect : (fuel : Nat) → Redirect → Writing Unit
  | 0, _ => pure ()
  | fuel + 1, .mk descriptor holder direction target source => do
    let target_ := String.ofList source
    let usual := if direction.reads then 0 else 1
    let number := match holder with
      | some name => "\x7b" ++ name ++ "\x7d"
      | none => match descriptor with
        | some n => if n = usual then "" else natText n
        | none => ""
    match direction with
    | .here =>
      let isQuoted := source.any fun c => c == '\'' || c == '"' || c == '\\'
      let mark := String.ofList (source.filter fun c => c != '\'' && c != '"' && c != '\\')
      put (number ++ "<<" ++ if isQuoted then singleQuoted mark else mark)
      let text := match target with
        | [.quoted cs] => String.ofList cs
        | [.double inside] => wordSource fuel .document inside
        | w => wordSource fuel .document w
      modify fun p => { p with texts := p.texts ++ [text ++ mark] }
    | .share reads =>
      if target_ = "-" then put (natText (descriptor.getD (if reads then 0 else 1)) ++ ">&-")
      else
        let from_ := if !reads ∧ holder.isNone ∧ descriptor.isNone ∧ target_.all Char.isDigit then "1"
          else number
        put (from_ ++ direction.sign ++ target_)
    | _ => put (number ++ direction.sign ++ target_)

/-- Writes redirections. -/
def writeRedirects : (fuel : Nat) → List Redirect → Writing Unit
  | 0, _ => pure ()
  | _ + 1, [] => pure ()
  | fuel + 1, [r] => writeRedirect fuel r
  | fuel + 1, r :: rest => do
    writeRedirect fuel r
    put " "
    writeRedirects fuel rest

/-- Writes commands one after another. -/
def writeScript : (fuel : Nat) → Script → Writing Unit
  | 0, _ => pure ()
  | _ + 1, [] => pure ()
  | fuel + 1, [c] => writeCommand fuel c
  | fuel + 1, c :: rest => do
    writeCommand fuel c
    match c with
    | .async _ =>
      put " "
      skip
    | _ => separator
    writeScript fuel rest

/-- Writes the stages of a pipeline. -/
def writeStages : (fuel : Nat) → List Command → Writing Unit
  | 0, _ => pure ()
  | _ + 1, [] => pure ()
  | fuel + 1, [c] => writeCommand fuel c
  | fuel + 1, c :: rest => do
    writeCommand fuel c
    joint " |"
    put " "
    skip
    writeStages fuel rest

/-- Writes the body of a loop. -/
def writeBody : (fuel : Nat) → Script → Writing Unit
  | 0, _ => pure ()
  | fuel + 1, body => do
    indented do
      writeScript fuel body
      joint ""
      semicolon
    newline "done"

/-- Writes the cases of a branch. -/
def writeBranch : (fuel : Nat) → List (Script × Script) → (otherwise : Script) → Writing Unit
  | 0, _, _ => pure ()
  | _ + 1, [], _ => pure ()
  | fuel + 1, (test, body) :: rest, otherwise => do
    put "if "
    skip
    writeScript fuel test
    semicolon
    put " then\n"
    indented do
      writeScript fuel body
      joint ""
    if !rest.isEmpty then
      semicolon
      newline "else\n"
      indented do
        margin
        writeBranch fuel rest otherwise
        joint ""
    else if !otherwise.isEmpty then
      semicolon
      newline "else\n"
      indented do
        writeScript fuel otherwise
        joint ""
    semicolon
    newline "fi"

/-- Writes the clauses of a choice. -/
def writeClauses : (fuel : Nat) → List Clause → Writing Unit
  | 0, _ => pure ()
  | _ + 1, [] => pure ()
  | fuel + 1, .mk patterns body goOn tryOn :: rest => do
    newline (" | ".intercalate (patterns.map (wordSource fuel .nothing)))
    put ")\n"
    indented do
      writeScript fuel body
      joint ""
    newline (if goOn then ";&" else if tryOn then ";;&" else ";;")
    writeClauses fuel rest

/-- Writes the definition of a function behind its name. -/
def writeFunction : (fuel : Nat) → (body : Command) → Writing Unit
  | 0, _ => pure ()
  | fuel + 1, body => do
    let (inside, redirects) := functionParts body
    put "\x7b \n"
    let before := (← get).apart
    modify fun p => { p with apart := true }
    indented do
      writeScript fuel inside
      joint ""
    modify fun p => { p with apart := before }
    if redirects.isEmpty then newline "\x7d"
    else
      newline "\x7d "
      writeRedirects fuel redirects

/-- Writes a command. -/
def writeCommand : (fuel : Nat) → Command → Writing Unit
  | 0, _ => pure ()
  | fuel + 1, c => do
    match c with
    | .and a b | .or a b =>
      writeCommand fuel a
      joint (match c with
        | .and _ _ => " && "
        | _ => " || ")
      skip
      writeCommand fuel b
    | .async c =>
      writeCommand fuel c
      joint " &"
    | .pipeline negated timed stages =>
      begin_
      if timed then put "time "
      if negated then put "! "
      skip
      writeStages fuel stages
    | .simple _ assignments arguments redirects =>
      begin_
      let words := assignments.map (assignmentSource fuel) ++ arguments.map fun
        | .word w => wordSource fuel .nothing w
        | .assignment a => assignmentSource fuel a
      put (" ".intercalate words)
      if !words.isEmpty && !redirects.isEmpty then put " "
      writeRedirects fuel redirects
    | .group body =>
      begin_
      put "\x7b "
      if (← get).apart then
        put "\n"
        indented do
          writeScript fuel body
          joint ""
        newline "\x7d"
      else
        skip
        writeScript fuel body
        joint ""
        semicolon
        put " \x7d"
    | .subshell body =>
      begin_
      put "( "
      skip
      writeScript fuel body
      joint ""
      put " )"
    | .branch cases otherwise =>
      begin_
      writeBranch fuel cases otherwise
    | .loop whileFails test body =>
      begin_
      put (if whileFails then "until " else "while ")
      skip
      writeScript fuel test
      joint ""
      semicolon
      put " do\n"
      writeBody fuel body
    | .each _ name words body | .select _ name words body =>
      begin_
      let keyword := match c with
        | .each .. => "for "
        | _ => "select "
      let list := match words with
        | some ws => ws.map (wordSource fuel .nothing)
        | none => ["\"$@\""]
      put (keyword ++ name ++ " in " ++ " ".intercalate list ++ ";")
      newline "do\n"
      writeBody fuel body
    | .count _ start test step body =>
      begin_
      let part (w : Word) : String := (wordSource fuel .document w).trimAscii.toString
      put ("for ((" ++ part start ++ "; " ++ part test ++ "; " ++ part step ++ "))")
      newline "do\n"
      writeBody fuel body
    | .choice _ word clauses =>
      begin_
      put ("case " ++ wordSource fuel .nothing word ++ " in ")
      indented (writeClauses fuel clauses)
      newline "esac"
    | .condition _ inside =>
      begin_
      put ("[[ " ++ conditionSource fuel inside ++ " ]]")
    | .expression _ _ source =>
      begin_
      put ("((" ++ String.ofList source ++ "))")
    | .define _ name body =>
      begin_
      put ("function " ++ name ++ " () \n")
      margin
      writeFunction fuel body
    | .redirected _ inner redirects =>
      writeCommand fuel inner
      put " "
      writeRedirects fuel redirects

end

/-- How deep commands may lie in each other to be written. -/
def maxSourceDepth : Nat := 10000

/-- A word as it may have been written. -/
def Piece.source (w : Word) : String := wordSource maxSourceDepth .nothing w

/-- A command on one line, as far as it goes. -/
def Command.source (c : Command) : String := scriptSource maxSourceDepth [c]

/-- A function as it is listed. -/
def Command.functionSource (name : String) (body : Command) : String :=
  name ++ " () \n" ++
    String.ofList ((writeFunction maxSourceDepth body).run {}).2.done.reverse ++ "\n"

/-- A function as it is passed on to other shells. -/
def Command.passedSource (body : Command) : String :=
  let (inside, redirects) := functionParts body
  let all : Writing Unit := do
    put "() \x7b "
    writeScript maxSourceDepth inside
    joint ""
    put (if redirects.isEmpty then "\n\x7d" else "\n\x7d ")
    writeRedirects maxSourceDepth redirects
  String.ofList (all.run { indent := 1, step := 0, apart := true }).2.done.reverse

end Runbook.Shell
