import Runbook.Shell.Process.Variable
import Runbook.Shell.Text.Real

/-!
# `Shell/Builtin/Input` — commands that read

`read` reads a line and cuts it into variables; `mapfile` reads lines into an array.
-/

set_option autoImplicit false

namespace Runbook.Shell.Input

/-- Characters of a line, with a mark at those behind a backslash. -/
abbrev Marks := List (Char × Bool)

/-- How a line is read. -/
structure Reading where
  raw : Bool := false
  delimiter : Char := '\n'
  /-- At most so many characters. -/
  most : Option Nat := none
  /-- The delimiter does not end the line. -/
  exact : Bool := false
  descriptor : Nat := 0
  array : Option String := none
  prompt : String := ""
  /-- Nothing is read: it is only looked whether something could be. -/
  onlyLooks : Bool := false

/-- A line at the front of a text: its characters, reversed; whether its end was there; and what is
left. Without the end, more may be needed. -/
def takeLine (o : Reading) : (fuel : Nat) → (room : Option Nat) → (done : Marks) → List Char →
    Marks × Bool × List Char
  | 0, _, done, cs => (done, false, cs)
  | fuel + 1, room, done, cs =>
    if room = some 0 then (done, true, cs)
    else
      let room' := room.map (· - 1)
      match cs with
      | [] => (done, false, [])
      | '\\' :: rest =>
        if o.raw then takeLine o fuel room' (('\\', false) :: done) rest
        else
          match rest with
          | '\n' :: more => takeLine o fuel room done more
          | c :: more => takeLine o fuel room' ((c, true) :: done) more
          | [] => (done, false, [])
      | c :: rest =>
        if c == o.delimiter && !o.exact then (done, true, rest)
        else takeLine o fuel room' (if c.toNat == 0 then done else (c, false) :: done) rest

/-- The blanks among the separators. -/
def isBlankSeparator (seps : List Char) (p : Char × Bool) : Bool :=
  !p.2 && (p.1 == ' ' || p.1 == '\t' || p.1 == '\n') && seps.contains p.1

/-- A separator. -/
def isSeparator (seps : List Char) (p : Char × Bool) : Bool := !p.2 && seps.contains p.1

/-- The first word of a line, and what is behind it and its separator. -/
def takeWord (seps : List Char) (m : Marks) : Marks × Marks :=
  let m := m.dropWhile (isBlankSeparator seps)
  let (word, rest) := m.span fun p => !isSeparator seps p
  let rest := rest.dropWhile (isBlankSeparator seps)
  match rest with
  | p :: more =>
    if isSeparator seps p then (word, more.dropWhile (isBlankSeparator seps)) else (word, rest)
  | [] => (word, [])

/-- The texts that a line amounts to for so many variables, of which the last one gets the rest. -/
def cut (seps : List Char) : (count : Nat) → Marks → List String
  | 0, _ => []
  | 1, m =>
    let m := m.dropWhile (isBlankSeparator seps)
    let (word, rest) := takeWord seps m
    let kept :=
      if rest.isEmpty then word else (m.reverse.dropWhile (isBlankSeparator seps)).reverse
    [String.ofList (kept.map (·.1))]
  | n + 2, m =>
    let (word, rest) := takeWord seps m
    String.ofList (word.map (·.1)) :: cut seps (n + 1) rest

/-- All words of a line; `fuel` bounds their number. -/
def words (seps : List Char) : (fuel : Nat) → Marks → List String
  | 0, _ => []
  | fuel + 1, m =>
    let m := m.dropWhile (isBlankSeparator seps)
    if m.isEmpty then []
    else
      let (word, rest) := takeWord seps m
      String.ofList (word.map (·.1)) :: words seps fuel rest

/-- The options of `read`, and the names; a status instead if something is wrong. -/
def options (d : Dialect) : (fuel : Nat) → Reading → List String →
    Act (Except Nat (Reading × List String))
  | 0, o, args => pure (.ok (o, args))
  | fuel + 1, o, args => do
    match args with
    | "--" :: rest => pure (.ok (o, rest))
    | a :: rest =>
      match a.toList with
      | '-' :: c :: more =>
        let takesValue := (d == .rich && "adinNptu".toList.contains c) || (d == .plain && c == 'p')
        if takesValue then
          let value : Option (String × List String) :=
            if !more.isEmpty then some (String.ofList more, rest)
            else
              match rest with
              | v :: rest => some (v, rest)
              | [] => none
          match value with
          | none =>
            if d = .rich then
              Act.complain ("read: -" ++ String.singleton c ++ ": option requires an argument")
              Act.tell usage
            else Act.complain ("read: No arg for -" ++ String.singleton c ++ " option")
            pure (.error 2)
          | some (v, rest) =>
            let n := natText? v
            match c with
            | 'a' => options d fuel { o with array := some v } rest
            | 'd' => options d fuel { o with delimiter := v.toList.head?.getD (Char.ofNat 0) } rest
            | 'n' | 'N' =>
              match n with
              | some n => options d fuel { o with most := some n, exact := c == 'N' } rest
              | none =>
                Act.complain ("read: " ++ v ++ ": invalid number")
                pure (.error 1)
            | 'u' =>
              match n with
              | some n => options d fuel { o with descriptor := n } rest
              | none =>
                Act.complain ("read: " ++ v ++ ": invalid file descriptor specification")
                pure (.error 1)
            | 'p' => options d fuel { o with prompt := v } rest
            | 't' =>
              match Real.take? v.toList with
              | some (.finite false num _, []) =>
                options d fuel { o with onlyLooks := num = 0 } rest
              | _ =>
                Act.complain ("read: " ++ v ++ ": invalid timeout specification")
                pure (.error 1)
            | _ => options d fuel o rest
        else if c == 'r' || (d == .rich && (c == 's' || c == 'e')) then
          let o := if c = 'r' then { o with raw := true } else o
          if more.isEmpty then options d fuel o rest
          else options d fuel o (("-" ++ String.ofList more) :: rest)
        else
          if d = .rich then
            Act.complain ("read: -" ++ String.singleton c ++ ": invalid option")
            Act.tell usage
          else Act.complain ("read: Illegal option -" ++ String.singleton c)
          pure (.error 2)
      | _ => pure (.ok (o, args))
    | [] => pure (.ok (o, []))
where
  /-- How `read` is used. -/
  usage : String :=
    "read: usage: read [-ers] [-a array] [-d delim] [-i text] [-n nchars] [-N nchars] " ++
      "[-p prompt] [-t timeout] [-u fd] [name ...]\n"

/-- The command `read`. -/
def read (e : Engine) (args : List String) : Act Nat := do
  let d := (← Act.shell).dialect
  match ← options d (2 * args.length + args.foldl (fun n a => n + a.length) 1) {} args with
  | .error status => pure status
  | .ok (o, names) =>
    if d = .plain ∧ names.isEmpty then
      Act.complain "read: arg count"
      return 2
    let bad := names.find? fun n =>
      !isName (String.ofList (n.toList.takeWhile (· != '[')))
    match bad, d with
    | some n, .rich =>
      Act.complain ("read: \x60" ++ n ++ "': not a valid identifier")
      return 1
    | some n, .plain =>
      Act.complain ("read: " ++ n ++ ": bad variable name")
      return 2
    | none, _ => pure ()
    if o.onlyLooks then
      return if (← Act.channelOf? o.descriptor).isSome then 0 else 1
    let taken ← Act.takeFrom o.descriptor fun text cut =>
      let (m, ended, rest) := takeLine o (text.length + 1) o.most [] text
      if cut && !ended then none else some ((m, ended), rest)
    match taken with
    | .error err =>
      if d = .rich then
        match err with
        | .badDescriptor =>
          Act.complain ("read: " ++ natText o.descriptor ++
            ": invalid file descriptor: Bad file descriptor")
        | _ => Act.complain ("read: read error: " ++ natText o.descriptor ++ ": " ++ err.text)
      pure 1
    | .ok (reversed, ended) =>
      let m := (Raw.joined (reversed.reverse.map (·.1)))
      let m : Marks :=
        if m.length = reversed.length then reversed.reverse else m.map fun c => (c, false)
      let all ← Act.separators
      let seps := if o.exact then [] else all.toList
      let status := if ended then 0 else 1
      let store (name text : String) : Act Bool := do
        match name.toList.span (· != '[') with
        | (base, '[' :: i) =>
          Act.setText e (String.ofList base) (some (String.ofList i.dropLast)) false text
        | _ => Act.setText e name none false text
      match o.array with
      | some name =>
        Act.putValue name (Value.ofList (words seps (m.length + 1) m))
        pure status
      | none =>
        if names.isEmpty then
          Act.putText "REPLY" (String.ofList (m.map (·.1)))
          pure status
        else
          let mut ok := true
          for (name, text) in names.zip (cut seps names.length m) do
            ok := ok && (← store name text)
          pure (if ok then status else if d = .rich then 1 else 2)

/-! ## Lines into an array -/

/-- How lines are read into an array. -/
structure Lines where
  strip : Bool := false
  delimiter : Char := '\n'
  most : Nat := 0
  skip : Nat := 0
  origin : Option Nat := none
  descriptor : Nat := 0

/-- The lines of a text, with their ends or without. -/
def linesOf (strip : Bool) (delimiter : Char) : (here : List Char) → List Char → List String
  | [], [] => []
  | here, [] => [String.ofList here.reverse]
  | here, c :: rest =>
    if c == delimiter then
      String.ofList (if strip then here.reverse else (c :: here).reverse) ::
        linesOf strip delimiter [] rest
    else linesOf strip delimiter (c :: here) rest

/-- The options of `mapfile`. -/
def mapOptions (command : String) : (fuel : Nat) → Lines → List String →
    Act (Except Nat (Lines × List String))
  | 0, o, args => pure (.ok (o, args))
  | fuel + 1, o, args => do
    match args with
    | "--" :: rest => pure (.ok (o, rest))
    | a :: rest =>
      match a.toList with
      | '-' :: 't' :: more =>
        let o := { o with strip := true }
        if more.isEmpty then mapOptions command fuel o rest
        else mapOptions command fuel o (("-" ++ String.ofList more) :: rest)
      | '-' :: c :: more =>
        if "dnOsuCc".toList.contains c then
          let value : Option (String × List String) :=
            if !more.isEmpty then some (String.ofList more, rest)
            else
              match rest with
              | v :: rest => some (v, rest)
              | [] => none
          match value with
          | none =>
            Act.complain (command ++ ": -" ++ String.singleton c ++ ": option requires an argument")
            pure (.error 2)
          | some (v, rest) =>
            let n := (natText? v).getD 0
            match c with
            | 'd' =>
              mapOptions command fuel { o with delimiter := v.toList.head?.getD (Char.ofNat 0) } rest
            | 'n' => mapOptions command fuel { o with most := n } rest
            | 'O' => mapOptions command fuel { o with origin := some n } rest
            | 's' => mapOptions command fuel { o with skip := n } rest
            | 'u' => mapOptions command fuel { o with descriptor := n } rest
            | _ => mapOptions command fuel o rest
        else
          Act.complain (command ++ ": -" ++ String.singleton c ++ ": invalid option")
          Act.tell (command ++ ": usage: " ++ command ++
            " [-d delim] [-n count] [-O origin] [-s count] [-t] [-u fd] [-C callback] " ++
            "[-c quantum] [array]\n")
          pure (.error 2)
      | _ => pure (.ok (o, args))
    | [] => pure (.ok (o, []))

/-- The command `mapfile`. -/
def mapfile (command : String) (args : List String) : Act Nat := do
  match ← mapOptions command (2 * args.length + args.foldl (fun n a => n + a.length) 1) {} args with
  | .error status => pure status
  | .ok (o, names) =>
    let name := names.headD "MAPFILE"
    if !isName name then
      Act.complain (command ++ ": \x60" ++ name ++ "': not a valid identifier")
      return 1
    match ← Act.readAll o.descriptor with
    | .error err =>
      Act.complain (command ++ ": " ++ natText o.descriptor ++ ": invalid file descriptor: " ++
        err.text)
      pure 1
    | .ok text =>
      let all := (linesOf o.strip o.delimiter [] (Raw.joined text)).drop o.skip
      let all := if o.most = 0 then all else all.take o.most
      let start := o.origin.getD 0
      let old : Std.TreeMap Nat String ← do
        if o.origin.isNone then pure ∅
        else
          match ← Act.valueOf name with
          | .listed es => pure es
          | .text s => pure (Std.TreeMap.ofList [(0, s)])
          | _ => pure ∅
      let full := (all.zipIdx).foldl (fun (es : Std.TreeMap Nat String) (s, n) =>
        es.insert (start + n) s) old
      Act.putValue name (.listed full)
      pure 0

end Runbook.Shell.Input
