import Runbook.Shell.Builtin.Print
import Runbook.Shell.Expand.Assign
import Runbook.Shell.Script.Source

/-!
# `Shell/Builtin/Declare` — commands about variables

Variables are declared with attributes, made local to a function, passed on to other programs, or
taken away.
-/

set_option autoImplicit false

namespace Runbook.Shell.Declare

/-- What is asked of a declaration. -/
structure Wanted where
  listed : Bool := false
  keyed : Bool := false
  functions : Bool := false
  names : Bool := false
  globally : Bool := false
  print : Bool := false
  /-- Attributes to be set, and to be taken away. -/
  set : List Char := []
  unset : List Char := []

/-- How a command about variables is used. -/
def usage : String → String
  | "local" => "local: usage: local [option] name[=value] ..."
  | "export" => "export: usage: export [-fn] [name[=value] ...] or export -p"
  | "readonly" => "readonly: usage: readonly [-aAf] [name[=value] ...] or readonly -p"
  | name => name ++ ": usage: " ++ name ++
      " [-aAfFgiIlnrtux] [name[=value] ...] or " ++ name ++ " -p [-aAfFilnrtux] [name ...]"

/-- The options in front of the arguments, or the letter that is none. -/
def options (letters : List Char) : Wanted → List Given → Except Char (Wanted × List Given)
  | w, .text s :: rest =>
    match s.toList with
    | ['-', '-'] => .ok (w, rest)
    | sign :: c :: more =>
      if sign = '-' ∨ sign = '+' then
        let flags := c :: more
        match flags.find? fun f => !letters.contains f with
        | some f => .error f
        | none =>
          let step (w : Wanted) (f : Char) : Wanted :=
            if sign = '+' then { w with unset := f :: w.unset }
            else
              match f with
              | 'a' => { w with listed := true }
              | 'A' => { w with keyed := true }
              | 'f' => { w with functions := true }
              | 'F' => { w with functions := true, names := true }
              | 'g' => { w with globally := true }
              | 'p' => { w with print := true }
              | _ => { w with set := f :: w.set }
          options letters (flags.foldl step w) rest
      else .ok (w, .text s :: rest)
    | _ => .ok (w, .text s :: rest)
  | w, rest => .ok (w, rest)

/-- A variable with attributes set and taken away. -/
def withAttributes (w : Wanted) (v : Variable) : Variable :=
  let on (c : Char) (old : Bool) : Bool := (old || w.set.contains c) && !w.unset.contains c
  { v with
    exported := on 'x' v.exported
    fixed := v.fixed || w.set.contains 'r'
    integer := on 'i' v.integer
    lower := (on 'l' v.lower) && !w.set.contains 'u'
    upper := (on 'u' v.upper) && !w.set.contains 'l'
    reference := on 'n' v.reference }

/-- A variable as the array that is wanted. -/
def asArray (w : Wanted) (v : Variable) : Variable :=
  if w.keyed then
    match v.value with
    | .keyed _ => v
    | _ => { v with value := .keyed [] }
  else if w.listed then
    match v.value with
    | .listed _ | .keyed _ => v
    | .text s => { v with value := .listed (Std.TreeMap.ofList [(0, s)]) }
    | .none => { v with value := .listed ∅ }
  else v

/-- Declares one argument. It is false if that fails. -/
def one (e : Engine) (command : String) (w : Wanted) (g : Given) : Act Bool := do
  let g := match g with
    | .text s => Given.ofText s
    | g => g
  let (name, value) : String × Option (Option String × Bool × Assignable) :=
    match g with
    | .text s => (s, none)
    | .assignment n i a v => (n, some (i, a, v))
  -- An array may be declared by a name with empty brackets.
  let (base, bracket) := name.toList.span (· != '[')
  let w := if bracket.isEmpty then w else { w with listed := !w.keyed }
  let name := if bracket.isEmpty then name else String.ofList base
  if !isName name then
    Act.complain (command ++ ": \x60" ++ g.toText ++ "': not a valid identifier")
    pure false
  else
    let inFunction := !(← Act.shell).frames.isEmpty
    let isLocal := inFunction && !w.globally && (command == "local" || command == "declare" ||
      command == "typeset")
    if isLocal then
      let isNew := match (← Act.shell).frames with
        | f :: _ => (f.saved.lookup name).isNone
        | [] => true
      if isNew then
        match (← Act.shell).bindings[name]? with
        | some v =>
          if v.fixed then
            Act.complain (command ++ ": " ++ name ++ ": readonly variable")
            return false
        | none => pure ()
        Act.saveLocal name
        Act.unsetVariable name
    let full ← if w.set.contains 'n' || w.unset.contains 'n' then pure name else Act.target name
    let before := (← Act.shell).bindings.getD full {}
    -- What makes a variable fixed comes after its value.
    let early := { w with set := w.set.filter (· != 'r') }
    if before.fixed && (value.isSome || w.unset.contains 'r' || w.set.any (· == 'i')) then
      Act.complain ((if command = "export" ∨ command = "readonly" then "" else command ++ ": ") ++
        name ++ ": readonly variable")
      return false
    let v := asArray w (withAttributes early before)
    Act.putVariable full v
    let ok ←
      match value with
      | none => pure true
      | some (index, append, a) =>
        if w.set.contains 'n' then
          match a with
          | .text s =>
            Act.putVariable full { v with value := .text s }
            pure true
          | .items _ => pure true
        else Act.storeValue e name index append a true
    if w.set.contains 'r' then
      modifyVariable full fun v => { v with fixed := true }
    pure ok
where
  /-- Changes a variable. -/
  modifyVariable (name : String) (f : Variable → Variable) : Act Unit := do
    let v := (← Act.shell).bindings.getD name {}
    Act.putVariable name (f v)

/-- The variables in order of their names. -/
def sorted : Act (List (String × Variable)) := do
  let all : List (String × Variable) := (← Act.shell).bindings.toList
  pure (all.mergeSort fun a b => decide (a.1 ≤ b.1))

/-- Prints declarations of variables that have all wanted attributes. -/
def printAll (w : Wanted) : Act Unit := do
  let has (v : Variable) : Bool :=
    let letters := (Act.attributeLetters v).toList
    w.set.all (letters.contains ·) && (!w.listed || letters.contains 'a') &&
      (!w.keyed || letters.contains 'A')
  let shown := (← sorted).filter fun (_, v) => has v
  Act.print (String.join (shown.map fun (n, v) => Act.declaration n v ++ "\n"))

/-- Lists functions by their names, or shows them. -/
def listFunctions (onlyNames : Bool) (all : List (String × Defined)) : Act Unit := do
  for (n, f) in all do
    let letters := (if f.fixed then "r" else "") ++ (if f.exported then "x" else "")
    let mark := "declare -f" ++ letters ++ " " ++ n ++ "\n"
    if onlyNames then Act.print mark
    else
      Act.print (f.body.functionSource n)
      if letters != "" then Act.print mark

/-- Does what is asked about functions. -/
def functions (command : String) (w : Wanted) (names : List String) : Act Nat := do
  let s ← Act.shell
  let passes := w.set.contains 'x'
  let changes := passes || w.unset.contains 'x' || w.set.contains 'r'
  if names.isEmpty then
    let all : List (String × Defined) := s.functions.toList.mergeSort fun a b => decide (a.1 ≤ b.1)
    listFunctions w.names (all.filter fun (_, f) =>
      (!passes || f.exported) && (!w.set.contains 'r' || f.fixed))
    pure 0
  else
    let mut status := 0
    for n in names do
      match s.functions[n]? with
      | some f =>
        if changes then
          let f := { f with
            exported := (f.exported || passes) && !w.unset.contains 'x'
            fixed := f.fixed || w.set.contains 'r' }
          Act.modifyShell fun s => { s with functions := s.functions.insert n f }
        else if w.names then Act.print (n ++ "\n")
        else listFunctions false [(n, f)]
      | none =>
        if command = "export" ∨ command = "readonly" then
          Act.complain (command ++ ": " ++ n ++ ": not a function")
        status := 1
    pure status

/-- The commands `declare`, `typeset`, `local`, `export` and `readonly` of the rich dialect. -/
def rich (e : Engine) (command : String) (args : List Given) : Act Nat := do
  let letters := match command with
    | "export" => "fnp".toList
    | "readonly" => "aAfp".toList
    | _ => "aAfFgiIlnrtuxp".toList
  if command = "local" ∧ (← Act.shell).frames.isEmpty then
    Act.complain "local: can only be used in a function"
    return 1
  match options letters {} args with
  | .error c =>
    Act.complain (command ++ ": -" ++ String.singleton c ++ ": invalid option")
    Act.tell (usage command ++ "\n")
    pure 2
  | .ok (w, names) =>
    let w := match command with
      | "export" =>
        if w.set.contains 'n' then { w with set := [], unset := ['x'] }
        else { w with set := ['x'] }
      | "readonly" => { w with set := ['r'] }
      | _ => w
    if w.functions then
      functions command w (names.map Given.toText)
    else if names.isEmpty then
      if command = "local" then
        let saved : List String := match (← Act.shell).frames with
          | f :: _ => f.saved.map fun p => p.1
          | [] => []
        let shown := (← sorted).filter fun (n, _) => saved.contains n
        Act.print (String.join (shown.map fun (n, v) => Act.declaration n v ++ "\n"))
      else printAll w
      pure 0
    else if w.print ∧ command ≠ "export" ∧ command ≠ "readonly" then
      let mut status := 0
      for g in names do
        match (← Act.shell).bindings[g.toText]? with
        | some v => Act.print (Act.declaration g.toText v ++ "\n")
        | none =>
          Act.complain (command ++ ": " ++ g.toText ++ ": not found")
          status := 1
      pure status
    else
      let mut status := 0
      for g in names do
        if !(← one e command w g) then status := 1
      pure status

/-- The commands `export`, `readonly` and `local` of the plain dialect. -/
def plain (e : Engine) (command : String) (args : List Given) : Act Nat := do
  let fail (message : String) : Act Nat := do
    Act.complain (command ++ ": " ++ message)
    Act.exitWith 2
  if command = "local" ∧ (← Act.shell).frames.isEmpty then
    fail "not in a function"
  else
    let texts := args.map Given.toText
    let list : Act Nat := do
      let shown := (← sorted).filter fun (_, v) =>
        if command = "export" then v.exported else v.fixed
      Act.print (String.join (shown.map fun (n, v) =>
        command ++ " " ++ n ++ (match v.value.scalar? with
          | some s => "=" ++ singleQuoted s
          | none => "") ++ "\n"))
      pure 0
    match texts with
    | [] => if command = "local" then pure 0 else list
    | "-p" :: _ => if command = "local" then pure 0 else list
    | first :: _ =>
      if command ≠ "local" ∧ first.startsWith "-" ∧ 1 < first.length ∧ first ≠ "--" then
        fail ("Illegal option -" ++ String.ofList ((first.toList.drop 1).take 1))
      else
        for t in texts.filter (· != "--") do
          let (name, value) := t.toList.span (· != '=')
          let name := String.ofList name
          if !isName name then
            if command = "local" ∧ name = "-" then pure ()
            else return ← fail (name ++ ": bad variable name")
          if command = "local" then Act.saveLocal name
          let v := (← Act.shell).bindings.getD name {}
          if v.fixed ∧ !value.isEmpty then return ← fail (name ++ ": is read only")
          let v := match value with
            | '=' :: s => { v with value := .text (String.ofList s) }
            | _ => v
          let v := match command with
            | "export" => { v with exported := true }
            | "readonly" => { v with fixed := true }
            | _ => v
          if command ≠ "local" ∨ !value.isEmpty then Act.putVariable name v
        let _ := e
        pure 0

/-- Forgets a function. It is false if that is not allowed. -/
def unsetFunction (name : String) : Act Bool := do
  if ((← Act.shell).functions[name]?).any (·.fixed) then
    Act.complain ("unset: " ++ name ++ ": cannot unset: readonly function")
    pure false
  else
    Act.modifyShell fun s => { s with functions := s.functions.erase name }
    pure true

/-- The command `unset`. -/
def unset (e : Engine) (args : List String) : Act Nat := do
  let s ← Act.shell
  let (flags, names) := args.span fun a => a.startsWith "-" && a != "--" && 1 < a.length
  let names := if names.head? = some "--" then names.drop 1 else names
  let letters := flags.flatMap fun a => a.toList.drop 1
  let known := if s.dialect = .rich then "fvn".toList else "fv".toList
  match letters.find? fun c => !known.contains c with
  | some c =>
    if s.dialect = .rich then
      Act.complain ("unset: -" ++ String.singleton c ++ ": invalid option")
      Act.tell "unset: usage: unset [-f] [-v] [-n] [name ...]\n"
      pure 2
    else
      Act.complain ("unset: Illegal option -" ++ String.singleton c)
      Act.exitWith 2
  | none =>
    let mut status := 0
    for n in names do
      let (base, index) := n.toList.span (· != '[')
      let base := String.ofList base
      let s ← Act.shell
      if letters.contains 'f' then
        if !(← unsetFunction n) then status := 1
      else if s.dialect = .plain ∧ !isName n then
        Act.complain ("unset: " ++ n ++ ": bad variable name")
        Act.exitWith 2
      else
        let full ← if letters.contains 'n' then pure base else Act.target base
        match s.bindings[full]? with
        | some v =>
          if v.fixed then
            if s.dialect = .rich then
              Act.complain ("unset: " ++ base ++ ": cannot unset: readonly variable")
              status := 1
            else
              Act.complain ("unset: " ++ base ++ ": is read only")
              Act.exitWith 2
          else if index.isEmpty then
            Act.unsetVariable full
          else
            let i := String.ofList (index.drop 1).dropLast
            match v.value with
            | .keyed es => Act.putVariable full { v with value := .keyed (es.filter (·.1 != i)) }
            | .listed es =>
              if i = "@" ∨ i = "*" then Act.unsetVariable full
              else
                match Act.placeOf es (← e.compute i) with
                | some p => Act.putVariable full { v with value := .listed (es.erase p) }
                | none =>
                  Act.complain ("unset: [" ++ i ++ "]: bad array subscript")
                  status := 1
            | _ => if i = "0" then Act.unsetVariable full
        | none =>
          if !letters.contains 'v' ∧ s.functions.contains n then
            if !(← unsetFunction n) then status := 1
    pure status

/-- The command `let`. -/
def letCommand (e : Engine) (args : List String) : Act Nat := do
  let args := if args.head? = some "--" then args.drop 1 else args
  if args.isEmpty then
    Act.complain "let: expression expected"
    pure 1
  else
    Act.modifyShell fun s => { s with speaker := some "let" }
    let r ← Act.attempt do
      let mut last : Int := 0
      for a in args do
        last ← e.compute a
      pure last
    Act.modifyShell fun s => { s with speaker := none }
    match r with
    | .ok n => pure (if n = 0 then 1 else 0)
    | .error .abort => pure 1
    | .error f => throw f

end Runbook.Shell.Declare
