import Runbook.Console.Basic
import Runbook.Settings.Basic
import Runbook.Text.Lines

/-!
# `CommandLine/Arguments` — what the user asks for

The words behind the program's name are options, then a command, then the command's own arguments.
An option has a long name, and most have a letter too; letters may share a word. An option with a
value takes what is left of its word, or else the next word, whatever that looks like.

Either the words make sense as a whole or nothing is done (`Invocation.misuse`).
-/

set_option autoImplicit false

namespace Runbook.CommandLine

open Runbook.Console Runbook.Text

/-! ## Commands -/

/-- What is to be done. -/
inductive Instruction where
  | init
  | generate (workflow : String)
  | start (workflow : String)
  | next
  | complete (id : String)
  | status
  | reset
  | list
  deriving DecidableEq, Repr

/-- A command without arguments. -/
def alone (i : Instruction) : List String → Option Instruction
  | [] => some i
  | _ => none

/-- A command with one argument. -/
def single (f : String → Instruction) : List String → Option Instruction
  | [word] => some (f word)
  | _ => none

/-- What a command of a name makes of its arguments. -/
def command? : (name : String) → Option (List String → Option Instruction)
  | "init" => some (alone .init)
  | "generate" => some (single .generate)
  | "start" => some (single .start)
  | "next" => some (alone .next)
  | "complete" => some (single .complete)
  | "status" => some (alone .status)
  | "reset" => some (alone .reset)
  | "list" => some (alone .list)
  | _ => none

/-! ## Options -/

/-- How it is to be done. -/
structure Options where
  audience : Audience := .people
  overrides : Overrides := {}
  verbosity : Nat := 0
  quiet : Bool := false
  deriving DecidableEq, Repr

/-- An option. -/
inductive Flag where
  | help
  | version
  | verbose
  | quiet
  | json
  | plain
  | workflows
  | tasks
  deriving DecidableEq, Repr

namespace Flag

/-- The option with a long name. -/
def named? : String → Option Flag
  | "--help" => some .help
  | "--version" => some .version
  | "--verbose" => some .verbose
  | "--quiet" => some .quiet
  | "--json" => some .json
  | "--no-color" => some .plain
  | "--workflows-dir" => some .workflows
  | "--tasks-file" => some .tasks
  | _ => none

/-- The option with a letter. -/
def lettered? : Char → Option Flag
  | 'V' => some .version
  | 'v' => some .verbose
  | 'q' => some .quiet
  | 'w' => some .workflows
  | 't' => some .tasks
  | _ => none

/-- The option has a value. -/
def hasValue : Flag → Bool
  | .workflows | .tasks => true
  | _ => false

end Flag

/-- What the options before a command come to. The first question for help or for the version is
answered in the place of the command. -/
structure Opening where
  options : Options := {}
  question : Option Flag := none
  deriving DecidableEq, Repr

namespace Opening

/-- An option without a value added. -/
def add (o : Opening) : Flag → Opening
  | .help => { o with question := o.question <|> some .help }
  | .version => { o with question := o.question <|> some .version }
  | .verbose => { o with options.verbosity := o.options.verbosity + 1 }
  | .quiet => { o with options.quiet := true }
  | .json => { o with options.audience := .programs }
  | .plain | .workflows | .tasks => o

/-- An option with a value added. The last value counts. -/
def give (o : Opening) (value : String) : Flag → Opening
  | .workflows => { o with options.overrides.workflows := some (.ofString value) }
  | .tasks => { o with options.overrides.store := some (.ofString value) }
  | _ => o

end Opening

/-- What a word of options says: options without values, and at its end perhaps one with a value, if
the word has it too. -/
structure Meaning where
  flags : List Flag := []
  last : Option (Flag × Option String) := none
  deriving DecidableEq, Repr

/-- A word that is read as options. -/
def isOption (word : String) : Bool := word.toList.head? == some '-' && word.length > 1

/-- The meaning of letters in one word. -/
def lettersMeaning? : List Char → Option Meaning
  | [] => some {}
  | c :: rest =>
    match Flag.lettered? c with
    | none => none
    | some f =>
      if f.hasValue then
        some { last := some (f, if rest.isEmpty then none else some (String.ofList rest)) }
      else (lettersMeaning? rest).map fun m => { m with flags := f :: m.flags }

/-- The meaning of a word of options. Its long name ends at the first equals sign. -/
def meaning? (word : String) : Option Meaning :=
  let name := word.toList.takeWhile (· != '=')
  let value : Option String :=
    match word.toList.dropWhile (· != '=') with
    | [] => none
    | _ :: cs => some (String.ofList cs)
  match Flag.named? (String.ofList name) with
  | some f =>
    if f.hasValue then some { last := some (f, value) }
    else if value.isSome then none
    else some { flags := [f] }
  | none =>
    match word.toList with
    | '-' :: '-' :: _ => none
    | _ :: letters => lettersMeaning? letters
    | [] => none

/-- The options at the front of the words, and the words from the command on. Two hyphens by
themselves end the options. -/
def readOptions (o : Opening) : List String → Option (Opening × List String)
  | [] => some (o, [])
  | word :: rest =>
    if word = "--" then some (o, rest)
    else if isOption word then
      match meaning? word with
      | none => none
      | some m =>
        let o := m.flags.foldl Opening.add o
        match m.last, rest with
        | none, rest => readOptions o rest
        | some (f, some value), rest => readOptions (o.give value f) rest
        | some (f, none), value :: rest => readOptions (o.give value f) rest
        | some _, [] => none
    else some (o, word :: rest)

/-- The arguments of a command, and whether help is asked for instead. No other option belongs to a
command. -/
def readOperands : List String → Option (Bool × List String)
  | [] => some (false, [])
  | word :: rest =>
    if word = "--" then some (false, rest)
    else if isOption word then
      if word = "--help" then (readOperands rest).map fun (_, words) => (true, words) else none
    else (readOperands rest).map fun (help, words) => (help, word :: words)

/-! ## The whole line -/

/-- What a command line comes to. -/
inductive Invocation where
  | help
  | version
  /-- The words make no sense. -/
  | misuse
  | run (options : Options) (instruction : Instruction)
  deriving DecidableEq, Repr

/-- A command with its arguments, under some options. -/
def Invocation.ofCommand (options : Options) (name : String) (words : List String) : Invocation :=
  match command? name, readOperands words with
  | some _, some (true, _) => .help
  | some read, some (false, operands) => ((read operands).map (.run options)).getD .misuse
  | _, _ => .misuse

/-- What the words behind the program's name come to. -/
def Invocation.ofArguments : List String → Invocation
  | [] => .help
  | arguments =>
    match readOptions {} arguments with
    | none => .misuse
    | some (o, words) =>
      match o.question, words with
      | some .version, _ => .version
      | some _, _ => .help
      | none, [] => .misuse
      | none, name :: words => .ofCommand o.options name words

end Runbook.CommandLine
