import Runbook.Shell.Process.Channel
import Runbook.Shell.Text.Class
import Runbook.Shell.Text.Numeral

/-!
# `Shell/Process/Variable` — variables and messages

Values are looked up by name, through references, with those that the shell keeps up to date itself.
Some variables are arrays, whose elements are known by numbers or by keys. Keyed elements come in
the order of a table of hashed keys.

Messages of the shell tell where it was: its name, or that of what is at work in it, and the number
of the line.
-/

set_option autoImplicit false

namespace Runbook.Shell

/-! ## Keyed elements -/

/-- The place of a key in a table of hashed keys with so many places. -/
def keyPlace (places : Nat) (key : String) : Nat :=
  ((Raw.bytesOfString key).foldl (fun h b => Nat.xor (h * 16777619 % 4294967296) b.toNat)
    2166136261) % places

/-- Keyed elements in the order of a table: by their places, those with the same place as they are.
-/
def inTableOrder (places : Nat) (es : List (String × String)) : List (String × String) :=
  ((es.map fun e => (keyPlace places e.1, e)).mergeSort fun a b => decide (a.1 ≤ b.1)).map (·.2)

/-- Keyed elements in order: by their places, of two with the same place the latest first. -/
def inKeyOrder (es : List (String × String)) : List (String × String) := inTableOrder 1024 es

namespace Value

/-- The elements, with their keys. A single value is the element of number zero. -/
def elements : Value → List (String × String)
  | .none => []
  | .text s => [("0", s)]
  | .listed es => es.toList.map fun (n, s) => (natText n, s)
  | .keyed es => inKeyOrder es

/-- The value that stands for all: a single one, or the element of number zero. -/
def scalar? : Value → Option String
  | .none => Option.none
  | .text s => some s
  | .listed es => es[0]?
  | .keyed es => es.lookup "0"

/-- There is more than a single value. -/
def isArray : Value → Bool
  | .listed _ | .keyed _ => true
  | _ => false

/-- Elements numbered from zero. -/
def ofList (xs : List String) : Value :=
  .listed (Std.TreeMap.ofList (xs.zipIdx.map fun (s, n) => (n, s)))

end Value

namespace Act

/-! ## Messages -/

/-- What a message of the shell begins with. -/
def whereabouts : Act String := do
  let s ← shell
  match s.dialect with
  | .rich =>
    pure (s.title.getD s.name ++ ": line " ++ natText s.line ++ ": ")
  | .plain =>
    let speaker := match s.speaker with
      | some c => c ++ ": "
      | none => ""
    pure (s.name ++ ": " ++ natText s.line ++ ": " ++ speaker)

/-- Tells a message of the shell. -/
def complain (text : String) : Act Unit := do tell ((← whereabouts) ++ text ++ "\n")

/-- Ends the shell. -/
def exitWith {α : Type} (status : Nat) : Act α := do
  setStatus status
  throw .exit

/-- Gives up the rest of the line: the plain dialect gives up the script. -/
def giveUp {α : Type} : Act α := do
  if ← isRich then
    setStatus 1
    throw .abort
  else exitWith 2

/-! ## Looking up -/

/-- The name that a name refers to; `fuel` bounds the references. -/
def targetOf (vars : Std.HashMap String Variable) : (fuel : Nat) → String → String
  | 0, name => name
  | fuel + 1, name =>
    match vars[name]? with
    | some v =>
      match v.reference, v.value with
      | true, .text next => if next = "" then name else targetOf vars fuel next
      | _, _ => name
    | none => name

/-- The name of the variable that is meant by a name. -/
def target (name : String) : Act String := do pure (targetOf (← shell).bindings 8 name)

/-- The variable of a name. -/
def variableOf? (name : String) : Act (Option Variable) := do
  pure (← shell).bindings[← target name]?

/-- The names of the flags of a shell, in one word. -/
def flagLetters (s : Interpreter) : String :=
  let letters : List (String × Char) :=
    match s.dialect with
    | .rich => [("allexport", 'a'), ("notify", 'b'), ("errexit", 'e'), ("noglob", 'f'),
        ("hashall", 'h'), ("keyword", 'k'), ("monitor", 'm'), ("noexec", 'n'), ("privileged", 'p'),
        ("onecmd", 't'), ("nounset", 'u'), ("verbose", 'v'), ("xtrace", 'x'), ("braceexpand", 'B'),
        ("noclobber", 'C'), ("errtrace", 'E'), ("histexpand", 'H'), ("physical", 'P'),
        ("functrace", 'T')]
    | .plain => [("privileged", 'p'), ("nounset", 'u'), ("notify", 'b'), ("allexport", 'a'),
        ("noclobber", 'C'), ("emacs", 'E'), ("vi", 'V'), ("verbose", 'v'), ("xtrace", 'x'),
        ("stdin", 's'), ("noexec", 'n'), ("interactive", 'i'), ("ignoreeof", 'I'), ("noglob", 'f'),
        ("errexit", 'e')]
  let on := String.ofList ((letters.filter fun (o, _) => s.options.contains o).map (·.2))
  match s.dialect with
  | .rich => on ++ "c"
  | .plain => on

/-- Values that the shell keeps up to date. -/
def computed? (name : String) : Act (Option Value) := do
  let s ← shell
  match name with
  | "?" => pure (some (.text (natText s.status)))
  | "#" => pure (some (.text (natText s.arguments.length)))
  | "$" => pure (some (.text "1000"))
  | "!" =>
    match s.jobs with
    | n :: _ => pure (some (.text (natText n)))
    | [] => pure (some .none)
  | "-" => pure (some (.text (flagLetters s)))
  | "0" => pure (some (.text s.name))
  | _ =>
    if name.toList.all Char.isDigit ∧ name ≠ "" then
      let n := ofDigits 10 name.toList
      match s.arguments[n - 1]? with
      | some a => pure (some (.text a))
      | none => pure (some .none)
    else if s.dialect = .plain then pure none
    else
      match name with
      | "LINENO" => pure (some (.text (natText s.line)))
      | "BASHPID" => pure (some (.text (natText s.number)))
      | "BASH_SUBSHELL" => pure (some (.text (natText s.depth)))
      | "SECONDS" => pure (some (.text "0"))
      | "PIPESTATUS" =>
        let all := if s.stages.isEmpty then [s.status] else s.stages
        pure (some (Value.ofList (all.map natText)))
      | "FUNCNAME" =>
        if s.frames.isEmpty then pure (some .none)
        else pure (some (Value.ofList (s.frames.map (·.name))))
      | "BASH_SOURCE" =>
        if s.frames.isEmpty then pure (some .none)
        else pure (some (Value.ofList (s.frames.map fun _ => s.home)))
      | "BASH_LINENO" =>
        if s.frames.isEmpty then pure (some .none)
        else pure (some (Value.ofList (s.frames.map fun f => natText f.line)))
      | "SHELLOPTS" =>
        pure (some (.text (":".intercalate (s.options.mergeSort fun a b => decide (a ≤ b)))))
      | "BASHOPTS" =>
        pure (some (.text (":".intercalate (s.features.mergeSort fun a b => decide (a ≤ b)))))
      | "RANDOM" =>
        if s.bindings.contains "RANDOM" then pure none
        else
          let next := (s.seed * 1103515245 + 12345) % 4294967296
          modifyShell fun s => { s with seed := next }
          pure (some (.text (natText (next / 65536 % 32768))))
      | _ => pure none

/-- The value of a parameter. -/
def valueOf (name : String) : Act Value := do
  match ← computed? name with
  | some v => pure v
  | none =>
    match ← variableOf? name with
    | some v => pure v.value
    | none => pure .none

/-- The value of a parameter as a single text. -/
def textOf? (name : String) : Act (Option String) := do pure (← valueOf name).scalar?

/-- The value of a parameter, or nothing. -/
def textOf (name : String) : Act String := do pure ((← textOf? name).getD "")

/-! ## Setting -/

/-- Puts a variable in the place of one, whatever it is. -/
def putVariable (name : String) (v : Variable) : Act Unit :=
  modifyShell fun s => { s with bindings := s.bindings.insert name v }

/-- Puts a value in the place of that of a variable, whatever it is. -/
def putValue (name : String) (v : Value) : Act Unit := do
  let name ← target name
  modifyShell fun s =>
    { s with bindings := s.bindings.insert name { (s.bindings.getD name {}) with value := v } }

/-- Sets a variable to a text, whatever it is. -/
def putText (name text : String) : Act Unit := putValue name (.text text)

/-- Tells that a variable must not be set. -/
def complainFixed (name : String) : Act Unit := do
  complain (name ++ (if ← isRich then ": readonly variable" else ": is read only"))

/-- Where an index is in an array of numbered elements; a negative one counts from the end. -/
def placeOf (es : Std.TreeMap Nat String) (n : Int) : Option Nat :=
  if 0 ≤ n then some n.toNat
  else
    let top : Int := match es.maxKey? with
      | some k => (k : Int) + 1
      | none => 0
    if 0 ≤ top + n then some (top + n).toNat else none

/-- A text as the attributes of a variable make it. -/
def shaped (e : Engine) (v : Variable) (old : Option String) (append : Bool) (text : String) :
    Act String := do
  let joined ← do
    if v.integer then
      let n ← e.compute text
      let m ← if append then e.compute (old.getD "0") else pure 0
      pure (intText (wrap (m + n)))
    else pure ((if append then old.getD "" else "") ++ text)
  pure (if v.lower then String.ofList (joined.toList.map lowerOf)
    else if v.upper then String.ofList (joined.toList.map upperOf)
    else joined)

/-- Sets a variable, or an element of it, to a text, as an assignment does. It is false if the
variable must not be set, which is told. -/
def setText (e : Engine) (name : String) (index : Option String) (append : Bool) (text : String) :
    Act Bool := do
  let full ← target name
  -- A reference may mean an element.
  let (name, index) : String × Option String :=
    match index, full.toList.span (· != '[') with
    | none, (base, '[' :: rest) => (String.ofList base, some (String.ofList rest.dropLast))
    | _, _ => (full, index)
  let s ← shell
  let v := s.bindings.getD name {}
  let v := if s.options.contains "allexport" then { v with exported := true } else v
  if v.fixed then
    complainFixed name
    pure false
  else
    let put (value : Value) : Act Bool := do
      putVariable name { v with value := value }
      pure true
    match index with
    | none =>
      match v.value with
      | .listed es =>
        let t ← shaped e v es[0]? append text
        put (.listed (es.insert 0 t))
      | .keyed es =>
        let t ← shaped e v (es.lookup "0") append text
        put (.keyed (("0", t) :: es.filter (·.1 != "0")))
      | old =>
        let t ← shaped e v old.scalar? append text
        put (.text t)
    | some i =>
      match v.value with
      | .keyed es =>
        let t ← shaped e v (es.lookup i) append text
        if i = "" then
          complain (name ++ "[]: bad array subscript")
          pure false
        else if (es.lookup i).isSome then
          put (.keyed (es.map fun (k, x) => (k, if k = i then t else x)))
        else put (.keyed ((i, t) :: es))
      | old =>
        let es : Std.TreeMap Nat String :=
          match old with
          | .listed es => es
          | .text t => Std.TreeMap.ofList [(0, t)]
          | _ => ∅
        let n ← e.compute i
        match placeOf es n with
        | some place =>
          let t ← shaped e v es[place]? append text
          put (.listed (es.insert place t))
        | none =>
          complain (name ++ "[" ++ i ++ "]: bad array subscript")
          pure false

/-- Sets a variable to a text, as an assignment does; the rest of the line is given up if it must
not be set. -/
def assignText (e : Engine) (name text : String) : Act Unit := do
  if !(← setText e name none false text) then giveUp

/-- Takes a variable away, or an element of it. -/
def unsetVariable (name : String) : Act Unit :=
  modifyShell fun s => { s with bindings := s.bindings.erase name }

/-- The element of a variable at an index. -/
def elementAt (e : Engine) (name index : String) : Act (Option String) := do
  match ← valueOf name with
  | .keyed es => pure (es.lookup index)
  | .listed es =>
    let n ← e.compute index
    match placeOf es n with
    | some place => pure es[place]?
    | none =>
      complain (name ++ ": bad array subscript")
      pure none
  | v =>
    let n ← e.compute index
    if n = 0 ∨ n = -1 then pure v.scalar? else pure none

/-- The separators of fields. -/
def separators : Act String := do
  match ← textOf? "IFS" with
  | some s => pure s
  | none => pure " \t\n"

/-- Keeps a variable for the end of the function at work. -/
def saveLocal (name : String) : Act Unit :=
  modifyShell fun s =>
    match s.frames with
    | f :: rest =>
      if (f.saved.lookup name).isSome then s
      else { s with frames := { f with saved := (name, s.bindings[name]?) :: f.saved } :: rest }
    | [] => s

/-- Puts saved variables back. -/
def restore (saved : List (String × Option Variable)) : Act Unit :=
  modifyShell fun s =>
    { s with bindings := saved.foldl (fun vars (name, v) =>
        match v with
        | some v => vars.insert name v
        | none => vars.erase name) s.bindings }

end Act

end Runbook.Shell
