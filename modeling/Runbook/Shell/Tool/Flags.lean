import Runbook.Shell.Tool.Basic

/-!
# `Shell/Tool/Flags` — options of programs

Options stand before, between and behind operands, up to two dashes. A short one is a letter behind
a dash, several of which may share it; a long one is a word behind two dashes, which may be cut
short as long as it is clear. Either may take a value.
-/

set_option autoImplicit false

namespace Runbook.Shell

/-- Whether an option takes a value. -/
inductive Taking where
  | nothing
  | value
  /-- A value that has to be joined to the option. -/
  | maybe
  deriving DecidableEq, Repr

/-- The options that a program knows. -/
structure Flags where
  /-- The letters: one colon behind a letter tells that it takes a value, two that it may. -/
  letters : String
  /-- The long names, with the letter or the name that they stand for. -/
  long : List (String × Taking × String) := []
  /-- Options stand before operands only. -/
  inFront : Bool := false

/-- Options and operands that were given, in order. -/
structure Parsed where
  options : List (String × Option String) := []
  operands : List String := []

/-- The long names that programs know who know no other ones. -/
def Flags.common : List (String × Taking × String) :=
  [("help", .nothing, "help"), ("version", .nothing, "version")]

namespace Parsed

/-- An option was given. -/
def has (p : Parsed) (key : String) : Bool := p.options.any (·.1 == key)

/-- The value that was given last for an option. -/
def last? (p : Parsed) (key : String) : Option String :=
  (p.options.reverse.lookup key).join

/-- All values that were given for an option. -/
def all (p : Parsed) (key : String) : List String :=
  p.options.filterMap fun (k, v) => if k == key then v else none

/-- The option of some that was given last. -/
def lastOf? (p : Parsed) (keys : List String) : Option String :=
  (p.options.reverse.find? fun o => keys.contains o.1).map (·.1)

end Parsed

namespace Flags

/-- What a letter takes, if it is one. -/
def taking? (letters : List Char) (c : Char) : Option Taking :=
  match letters with
  | [] => none
  | x :: ':' :: ':' :: rest => if x = c then some .maybe else taking? rest c
  | x :: ':' :: rest => if x = c then some .value else taking? rest c
  | x :: rest => if x = c ∧ c ≠ ':' then some .nothing else taking? rest c

/-- The options in a word of letters; the words behind may hold a value. -/
def takeLetters (f : Flags) : (options : List (String × Option String)) → List Char →
    List String → Except String (List (String × Option String) × List String)
  | options, [], rest => .ok (options, rest)
  | options, c :: cs, rest =>
    let key := String.singleton c
    match taking? f.letters.toList c with
    | none => .error ("invalid option -- '" ++ key ++ "'")
    | some .nothing => takeLetters f ((key, none) :: options) cs rest
    | some .maybe =>
      .ok ((key, if cs.isEmpty then none else some (String.ofList cs)) :: options, rest)
    | some .value =>
      if !cs.isEmpty then .ok ((key, some (String.ofList cs)) :: options, rest)
      else
        match rest with
        | v :: rest => .ok ((key, some v) :: options, rest)
        | [] => .error ("option requires an argument -- '" ++ key ++ "'")

/-- The long option that a word means. -/
def longOption (f : Flags) (word : String) : Except String (String × Taking × String) :=
  match f.long.find? (·.1 == word) with
  | some o => .ok o
  | none =>
    match f.long.filter fun o => o.1.startsWith word with
    | [] => .error ("unrecognized option '--" ++ word ++ "'")
    | [o] => .ok o
    | o :: more =>
      if more.all fun p => p.2 == o.2 then .ok o
      else
        .error ("option '--" ++ word ++ "' is ambiguous; possibilities:" ++
          String.join ((o :: more).map fun p => " '--" ++ p.1 ++ "'"))

/-- The options and operands among words; `fuel` bounds their number. -/
def parseFrom (f : Flags) : (fuel : Nat) → Parsed → List String → Except String Parsed
  | 0, p, _ => .ok p
  | _ + 1, p, [] => .ok p
  | fuel + 1, p, w :: rest =>
    match w.toList with
    | ['-', '-'] => .ok { p with operands := rest.reverse ++ p.operands }
    | '-' :: '-' :: cs =>
      if f.long.isEmpty then .error "invalid option -- '-'"
      else
        let (name, value) := cs.span (· != '=')
        match f.longOption (String.ofList name) with
        | .error e =>
          .error (if value.isEmpty ∨ !e.startsWith "unrecognized" then e
            else "unrecognized option '" ++ w ++ "'")
        | .ok (full, takes, key) =>
          match takes, value with
          | .nothing, '=' :: _ => .error ("option '--" ++ full ++ "' doesn't allow an argument")
          | .value, [] =>
            match rest with
            | v :: rest => parseFrom f fuel { p with options := (key, some v) :: p.options } rest
            | [] => .error ("option '--" ++ full ++ "' requires an argument")
          | _, '=' :: v =>
            parseFrom f fuel { p with options := (key, some (String.ofList v)) :: p.options } rest
          | _, _ => parseFrom f fuel { p with options := (key, none) :: p.options } rest
    | '-' :: c :: cs =>
      match takeLetters f p.options (c :: cs) rest with
      | .error e => .error e
      | .ok (options, rest) => parseFrom f fuel { p with options := options } rest
    | _ =>
      if f.inFront then .ok { p with operands := rest.reverse ++ w :: p.operands }
      else parseFrom f fuel { p with operands := w :: p.operands } rest

/-- A word of a call as it was given. -/
inductive Given where
  | option (key : String) (value : Option String)
  | operand (text : String)
  /-- An operand behind two dashes. -/
  | bare (text : String)

/-- What was given by words, in order; `fuel` bounds their number. -/
def inOrder (f : Flags) : (fuel : Nat) → List String → Except String (List Given)
  | 0, _ => .ok []
  | fuel + 1, words => do
    let p ← ({ f with inFront := true } : Flags).parseFrom (words.length + 1) {} words
    let options := p.options.reverse.map fun (key, value) => Given.option key value
    let operands := p.operands.reverse
    let isClosed := operands.length < words.length &&
      words[words.length - operands.length - 1]? == some "--"
    if isClosed then .ok (options ++ operands.map .bare)
    else
      match operands with
      | [] => .ok options
      | o :: rest => do
        let more ← inOrder f fuel rest
        .ok (options ++ .operand o :: more)

/-- What was given by words, in order, or what is wrong with them. -/
def ordered (f : Flags) (words : List String) : Except String (List Given) :=
  f.inOrder (words.length + 1) words

/-- The options and operands among words, or what is wrong with them. -/
def parse (f : Flags) (words : List String) : Except String Parsed := do
  let p ← f.parseFrom (words.length + 1) {} words
  .ok { options := p.options.reverse, operands := p.operands.reverse }

end Flags

/-- Does something with the options and operands of a call; wrong ones are refused. -/
def Call.withFlags (c : Call) (f : Flags) (status : Nat) (body : Parsed → Act Nat) : Act Nat := do
  match f.parse c.args with
  | .ok p => body p
  | .error text => c.refuse status text

/-- The word of some that an argument means, or whether it could mean several. Words of a group mean
the same; the first one is given. An argument may be cut short as long as it is clear. -/
def meant (words : List (List String)) (text : String) : Except Bool String :=
  match words.find? (·.contains text) with
  | some ws => .ok (ws.headD text)
  | none =>
    match words.filter fun ws => ws.any (·.startsWith text) with
    | [ws] => .ok (ws.headD text)
    | [] => .error false
    | _ => .error true

/-- Refuses an argument that means no word of those that an option takes. -/
def Call.refuseWord (c : Call) (status : Nat) (option : String) (words : List (List String))
    (text : String) : Act Nat := do
  let fault := match meant words text with
    | .error true => "ambiguous"
    | _ => "invalid"
  c.blame (fault ++ " argument " ++ curlyQuoted text ++ " for " ++ curlyQuoted option)
  Act.tell ("Valid arguments are:\n" ++ String.join (words.map fun ws =>
    "  - " ++ ", ".intercalate (ws.map curlyQuoted) ++ "\n"))
  c.hint
  pure status

end Runbook.Shell
