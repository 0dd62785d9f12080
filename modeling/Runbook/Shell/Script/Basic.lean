/-!
# `Shell/Script` — scripts

What a shell makes of the text of a script before anything is run: commands, made of words, made of
pieces. A piece is literal text, quoted or not, or something that is replaced when the word is
expanded: a parameter, the output of commands, the value of an arithmetic expression.

Two dialects are read. The plain one is the standard language of command lines; the rich one adds
arrays, tests in double brackets, arithmetic commands, substitution of processes and more.
-/

set_option autoImplicit false

namespace Runbook.Shell

/-- The dialects of the language. -/
inductive Dialect where
  | plain
  | rich
  deriving DecidableEq, Repr

/-- How a redirection connects a descriptor. -/
inductive Direction where
  /-- A file is read. -/
  | input
  /-- A file is written anew; `force` overrides the protection of files that are there. -/
  | output (force : Bool)
  /-- A file is written on. -/
  | append
  | readWrite
  /-- The output and the messages both go to a file. -/
  | both (append : Bool)
  /-- Another descriptor is shared, for reading or for writing. -/
  | share (reads : Bool)
  /-- A text is read. -/
  | here
  /-- A line is read. -/
  | hereLine
  deriving DecidableEq, Repr

/-- What is on each side of a letter-case change: all characters or the first one. -/
inductive CaseChange where
  | upper
  | lower
  | swap
  deriving DecidableEq, Repr

/-- Which matches of a pattern are replaced. -/
inductive Replacing where
  | first
  | all
  | atFront
  | atBack
  deriving DecidableEq, Repr

mutual

/-- A piece of a word. -/
inductive Piece where
  /-- Characters that are not quoted. -/
  | bare (cs : List Char)
  /-- Characters that are quoted. -/
  | quoted (cs : List Char)
  /-- Between double quotes. -/
  | double (inside : List Piece)
  /-- The value of a parameter, or of an element, changed. -/
  | parameter (name : String) (index : Option (List Piece)) (change : Change) (source : List Char)
  /-- The output of commands. -/
  | command (body : List Command)
  /-- The output of commands that are read only when the word is expanded. -/
  | commandText (line : Nat) (text : List Char)
  /-- The value of an expression. -/
  | arithmetic (inside : List Piece)
  /-- The name of a channel from or to commands. -/
  | process (reads : Bool) (body : List Command)
  /-- A substitution that means nothing. -/
  | broken (text : List Char)

/-- What is done to the value of a parameter. With `orEmpty`, an empty value counts as none. -/
inductive Change where
  | value
  | length
  /-- The value is the name of the parameter that is meant. -/
  | indirect (then_ : Change)
  /-- The names that begin with the name; `separate` as with `@`. -/
  | names (separate : Bool)
  /-- The keys of an array. -/
  | keys
  | orElse (orEmpty : Bool) (word : List Piece)
  | orSet (orEmpty : Bool) (word : List Piece)
  | orFail (orEmpty : Bool) (word : List Piece)
  | ifSet (orEmpty : Bool) (word : List Piece)
  | dropFront (longest : Bool) (pattern : List Piece)
  | dropBack (longest : Bool) (pattern : List Piece)
  | replace (which : Replacing) (pattern : List Piece) (by_ : Option (List Piece))
  | cut (offset : List Piece) (count : Option (List Piece))
  | recase (change : CaseChange) (all : Bool) (pattern : List Piece)
  | transform (letter : Char)

/-- A redirection; `variable` names a variable that receives a new descriptor. -/
inductive Redirect where
  | mk (descriptor : Option Nat) (holder : Option String) (direction : Direction)
    (target : List Piece) (source : List Char)

/-- An element in a list of values for an array. -/
inductive Element where
  | mk (index : Option (List Piece)) (append : Bool) (word : List Piece)

/-- The value in an assignment. -/
inductive Assigned where
  | word (w : List Piece)
  | elements (es : List Element)

/-- An assignment. -/
inductive Assignment where
  | mk (name : String) (index : Option (List Piece)) (append : Bool) (value : Assigned)

/-- An argument of a command. -/
inductive Argument where
  | word (w : List Piece)
  | assignment (a : Assignment)

/-- A clause of a choice; what follows it is another clause (`goOn`), or further tests (`tryOn`). -/
inductive Clause where
  | mk (patterns : List (List Piece)) (body : List Command) (goOn tryOn : Bool)

/-- A condition between double brackets. -/
inductive Condition where
  | word (w : List Piece)
  | unary (op : String) (w : List Piece)
  | binary (op : String) (a b : List Piece)
  | not (c : Condition)
  /-- A condition between parentheses. -/
  | group (c : Condition)
  | and (a b : Condition)
  | or (a b : Condition)

/-- A command. -/
inductive Command where
  | simple (line : Nat) (assignments : List Assignment) (arguments : List Argument)
    (redirects : List Redirect)
  /-- Each command reads what the one before writes. -/
  | pipeline (negated : Bool) (timed : Bool) (stages : List Command)
  | and (a b : Command)
  | or (a b : Command)
  /-- Nobody waits for it. -/
  | async (c : Command)
  | group (body : List Command)
  | subshell (body : List Command)
  | branch (cases : List (List Command × List Command)) (otherwise : List Command)
  /-- Repeats the body as long as the test succeeds, or as long as it fails. -/
  | loop (whileFails : Bool) (test body : List Command)
  | each (line : Nat) (name : String) (words : Option (List (List Piece))) (body : List Command)
  | count (line : Nat) (start test step : List Piece) (body : List Command)
  | select (line : Nat) (name : String) (words : Option (List (List Piece))) (body : List Command)
  | choice (line : Nat) (word : List Piece) (clauses : List Clause)
  | condition (line : Nat) (c : Condition)
  | expression (line : Nat) (inside : List Piece) (source : List Char)
  | define (line : Nat) (name : String) (body : Command)
  | redirected (line : Nat) (c : Command) (redirects : List Redirect)

end

/-- A word. -/
abbrev Word := List Piece

/-- Commands one after another. -/
abbrev Script := List Command

instance : Inhabited Piece := ⟨.bare []⟩
instance : Inhabited Command := ⟨.group []⟩
instance : Inhabited Condition := ⟨.word []⟩

namespace Piece

/-- The text of a piece, if nothing in it is replaced. -/
def literal? : Piece → Option (List Char)
  | .bare cs => some cs
  | .quoted cs => some cs
  | _ => none

/-- The text of a word, if nothing in it is replaced and nothing quoted. -/
def bareText? (w : Word) : Option String :=
  match w with
  | [.bare cs] => some (String.ofList cs)
  | _ => none

/-- Something in a word is quoted. -/
def isQuoted (w : Word) : Bool :=
  w.any fun
    | .quoted _ | .double _ => true
    | _ => false

end Piece

end Runbook.Shell
