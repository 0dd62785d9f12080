import Runbook.Shell.Expand.Brace
import Runbook.Shell.Expand.Names
import Runbook.Shell.Expand.Parameter
import Runbook.Shell.Process.Child

/-!
# `Shell/Expand/Word` — from words to fields

A word is expanded in steps: braces, a tilde at its front, parameters, commands and expressions;
what came from these is split into fields, fields that are patterns are replaced by the names they
match, and last the marks of quoting are gone.
-/

set_option autoImplicit false

namespace Runbook.Shell.Act

/-! ## Pieces -/

/-- The folder that a tilde with a text behind it stands for. -/
def tilde? (user : List Char) : Act (Option String) := do
  match user with
  | [] =>
    match ← textOf? "HOME" with
    | some h => pure (some h)
    | none => pure (some "/root")
  | ['+'] => if ← isRich then textOf? "PWD" else pure none
  | ['-'] => if ← isRich then textOf? "OLDPWD" else pure none
  | _ =>
    match String.ofList user with
    | "root" => pure (some "/root")
    | "daemon" => pure (some "/usr/sbin")
    | "bin" => pure (some "/bin")
    | "nobody" => pure (some "/nonexistent")
    | _ => pure none

/-- Bare characters with the tildes replaced that stand at the front, or, in an assignment, behind a
colon. `final` tells that nothing of the word follows. -/
def withTildes (inAssignment final : Bool) : (fuel : Nat) → List Char → Act (List Piece)
  | 0, cs => pure [.bare cs]
  | fuel + 1, cs => do
    let stops (c : Char) : Bool := c == '/' || (inAssignment && c == ':')
    let here ←
      match cs with
      | '~' :: rest =>
        let (user, behind) := rest.span fun c => !stops c
        if behind.isEmpty && !final then pure none
        else
          match ← tilde? user with
          | some folder => pure (some (folder, behind))
          | none => pure none
      | _ => pure none
    let (front, rest) : List Piece × List Char :=
      match here with
      | some (folder, behind) => ([.quoted folder.toList], behind)
      | none => ([], cs)
    if inAssignment then
      let (part, behind) := rest.span (· != ':')
      match behind with
      | ':' :: more => pure (front ++ .bare (part ++ [':']) :: (← withTildes true final fuel more))
      | _ => pure (front ++ [.bare rest])
    else pure (front ++ [.bare rest])

/-- A word with its tildes replaced. -/
def expandTildes (inAssignment : Bool) (w : Word) : Act Word := do
  let rec later : Word → Act Word
    | [] => pure []
    | .bare cs :: rest => do
      let (part, behind) := cs.span (· != ':')
      match behind with
      | ':' :: more =>
        let ps ← withTildes true rest.isEmpty (more.length + 1) more
        pure (.bare (part ++ [':']) :: ps ++ (← later rest))
      | _ => pure (.bare cs :: (← later rest))
    | p :: rest => do pure (p :: (← later rest))
  match w with
  | .bare cs :: rest =>
    if !cs.contains '~' && !inAssignment then pure w
    else
      let front ← withTildes inAssignment rest.isEmpty (cs.length + 1) cs
      if inAssignment then pure (front ++ (← later rest)) else pure (front ++ rest)
  | _ => if inAssignment then later w else pure w

/-- The bits of several values. -/
def severalBits (inDouble separate : Bool) (values : List String) : Act (List Bit) := do
  if inDouble ∧ !separate then
    let between := match ← textOf? "IFS" with
      | some s => (s.toList.head?.map fun c => [c]).getD []
      | none => [' ']
    let cs := (values.map (·.toList)).intersperse between
    pure (cs.flatten.map fun c => .char c true false)
  else
    let parts := values.map fun v =>
      (if inDouble then [Bit.hold] else []) ++ Bit.ofText inDouble (!inDouble) v
    pure (parts.intersperse [.gap]).flatten

/-- The bits of what was found. -/
def foundBits (inDouble : Bool) : Found → Act (List Bit)
  | .single v => pure (Bit.ofText inDouble (!inDouble) (v.getD ""))
  | .several vs separate => severalBits inDouble separate (vs.map (·.2))

/-- What was found counts as set, and is not empty if that is asked for. -/
def isThere (orEmpty : Bool) : Found → Bool
  | .single none => false
  | .single (some s) => !orEmpty || s != ""
  | .several vs _ => !vs.isEmpty && (!orEmpty || vs.length != 1 || vs.any (·.2 != ""))

/-- The number of elements, or of characters, that were found. -/
def sizeOf : Found → Nat
  | .single v => (Raw.joined (v.getD "").toList).length
  | .several vs _ => vs.length

/-- The name and the index in a text that refers to a parameter. -/
def referred? (s : String) : Option (String × Option Word) :=
  let cs := s.toList
  let (name, rest) := cs.span isNameRest
  let n := String.ofList name
  let plain := isName n || (name.all Char.isDigit && !name.isEmpty)
  match rest with
  | [] =>
    if plain then some (n, none)
    else if ["@", "*", "#", "?", "-", "$", "!"].contains s then some (s, none) else none
  | '[' :: more =>
    if plain ∧ more.getLast? = some ']' then some (n, some [.bare more.dropLast]) else none
  | _ => if ["@", "*", "#", "?", "-", "$", "!"].contains s then some (s, none) else none

/-- The bits of a parameter with a change; `fuel` bounds how often it refers to another one. -/
def parameterBits (e : Engine) (inDouble : Bool) (source : List Char) : (fuel : Nat) →
    (name : String) → (index : Option Word) → Change → Act (List Bit)
  | 0, _, _, _ => pure []
  | fuel + 1, name, index, change => do
    let checkSet (f : Found) : Act Unit := do
      match f with
      | .single none =>
        if ← isOn "nounset" then unbound (shownName name index source)
      | _ => pure ()
    match change with
    | .names separate =>
      let all := (← shell).bindings.toList.map (·.1)
      let names := (all.filter fun n => n.startsWith name).mergeSort fun a b => decide (a ≤ b)
      severalBits inDouble separate names
    | .keys =>
      let separate := match index with
        | some [.bare ['*']] => false
        | _ => true
      severalBits inDouble separate ((← valueOf name).elements.map (·.1))
    | .indirect inner =>
      let v ← target name
      let isReference := match (← shell).bindings[name]? with
        | some x => x.reference
        | none => false
      if isReference then pure (Bit.ofText inDouble (!inDouble) v)
      else
        let f ← found e name index
        match f with
        | .single (some s) =>
          match referred? s with
          | some (other, i) => parameterBits e inDouble source fuel other i inner
          | none =>
            complain (s ++ ": invalid variable name")
            giveUp
        | _ =>
          match inner with
          | .orElse _ _ | .ifSet _ _ =>
            parameterBits e inDouble source fuel "" none inner
          | _ =>
            complain (shownName name index source ++ ": invalid indirect expansion")
            giveUp
    | .value =>
      let f ← found e name index
      checkSet f
      foundBits inDouble f
    | .length =>
      if name = "@" ∨ name = "*" then
        pure (Bit.ofText inDouble (!inDouble) (natText (← shell).arguments.length))
      else
        let f ← found e name index
        checkSet f
        pure (Bit.ofText inDouble (!inDouble) (natText (sizeOf f)))
    | .orElse orEmpty w =>
      let f ← found e name index
      if isThere orEmpty f then foundBits inDouble f else e.expand inDouble w
    | .ifSet orEmpty w =>
      let f ← found e name index
      if isThere orEmpty f then e.expand inDouble w else pure []
    | .orSet orEmpty w =>
      let f ← found e name index
      if isThere orEmpty f then foundBits inDouble f
      else
        if !isName name then
          if ← isRich then
            complain ("$" ++ name ++ ": cannot assign in this way")
            giveUp
          else
            complain (name ++ ": bad variable name")
            exitWith 2
        let text := Bit.textOf (← e.expand inDouble w)
        let i ← index.mapM (indexText e)
        if !(← setText e name i false text) then giveUp
        pure (Bit.ofText inDouble (!inDouble) text)
    | .orFail orEmpty w =>
      let f ← found e name index
      if isThere orEmpty f then foundBits inDouble f
      else
        let text := Bit.textOf (← e.expand false w)
        let s ← shell
        let text :=
          if w.isEmpty then
            if !orEmpty then "parameter not set"
            else if s.dialect = .rich then "parameter null or not set"
            else "parameter not set or null"
          else text
        complain (shownName name index source ++ ": " ++ text)
        exitWith (if s.dialect = .plain then 2 else if s.isSubshell then 1 else 127)
    | .cut offset count =>
      let f ← found e name index
      checkSet f
      foundBits inDouble (← cut e name f offset count)
    | .transform letter =>
      let f ← found e name index
      match letter, index, f with
      | 'A', some _, .several _ _ =>
        match ← variableOf? name with
        | some v => pure (Bit.ofText inDouble (!inDouble) (declaration name v))
        | none => pure []
      | 'K', some _, .several vs _ =>
        let parts := vs.map fun (k, v) => k ++ " " ++ doubleQuoted v
        pure (Bit.ofText inDouble (!inDouble) (" ".intercalate parts))
      | 'k', some _, .several vs separate =>
        severalBits inDouble separate (vs.flatMap fun (k, v) => [k, v])
      | _, _, .single none =>
        if letter = 'a' then
          pure (Bit.ofText inDouble (!inDouble) (← transformed 'a' name ""))
        else if letter = 'A' then
          match ← variableOf? name with
          | some v =>
            if v.value.isArray then
              pure (Bit.ofText inDouble (!inDouble) ("declare -" ++ attributeLetters v ++ " " ++ name))
            else pure []
          | none => pure []
        else
          checkSet f
          pure []
      | _, _, .single (some s) =>
        pure (Bit.ofText inDouble (!inDouble) (← transformed letter name s))
      | _, _, .several vs separate =>
        let texts ← vs.mapM fun (_, v) => transformed letter name v
        severalBits inDouble separate texts
    | _ =>
      let f ← found e name index
      checkSet f
      let g ← changeText e name change
      match f with
      | .single v =>
        let t ← g (v.getD "")
        pure (Bit.ofText inDouble (!inDouble) t)
      | .several vs separate =>
        let texts ← vs.mapM fun (_, v) => g v
        severalBits inDouble separate texts

/-- The text that commands inside a word amount to: without the line ends at its end, and without
characters zero. -/
def cleanOutput (text : String) : Act (List Char) := do
  let cs := text.toList
  let cs ← if cs.any (·.toNat == 0) then do
      if ← isRich then
        complain "warning: command substitution: ignored null byte in input"
      pure (cs.filter (·.toNat != 0))
    else pure cs
  pure (Raw.joined (cs.reverse.dropWhile (· == '\n')).reverse)

/-- The text of the file that commands consist of reading. -/
def fileOf? (body : Script) : Option Word :=
  match body with
  | [.simple _ [] [] [.mk none none .input w _]] => some w
  | _ => none

/-- The output of commands inside a word. In the rich dialect their failures do not end them. -/
def commandOutput (e : Engine) (run : Act Unit) : Act (List Char) := do
  let line := (← shell).line
  let (text, status) ← captured e do
    if (← isRich) && !(← hasFeature "inherit_errexit") then
      modifyShell fun s => { s with options := s.options.filter (· != "errexit") }
    run
  modifyShell fun s => { s with inWord := some status, line := line }
  cleanOutput text

/-- Runs commands inside a word, whose lines are counted from that of the command at work. -/
def runInWord (e : Engine) (body : Script) : Act Unit := do
  if ← isRich then modifyShell fun s => { s with base := s.line, level := s.level + 1 }
  runAll e body

/-- The path of a channel from or to commands, of which those that write run to their end at once.
Commands that read are run when the command that writes to them has ended. -/
def processPath (e : Engine) (reads : Bool) (body : Script) : Act String := do
  let taken := (← shell).descriptors.map (·.1)
  let fd := (((List.range 54).map (63 - ·)).find? fun n => !taken.contains n).getD 63
  let reader ←
    if reads then
      let line := (← shell).line
      let (text, _) ← captured e (runInWord e body)
      modifyShell fun s => { s with line := line }
      let id ← newChannel (.input (Raw.joined text.toList) false)
      setDescriptor fd id
      pure none
    else
      let id ← newChannel (.output "" none false)
      setDescriptor fd id
      pure (some (id, body))
  modifyShell fun s => { s with substitutions := (fd, reader) :: s.substitutions }
  pure ("/dev/fd/" ++ natText fd)

/-- Ends the substitutions of channels but for some that were there before: commands that read get
what has been written for them. -/
def endSubstitutions (e : Engine) (kept : Nat) : Act Unit := do
  let all := (← shell).substitutions
  let new := all.take (all.length - kept)
  unless new.isEmpty do
    for (fd, reader) in new.reverse do
      match reader with
      | some (id, body) =>
        let text := match (← get).world.channels[id]? with
          | some (.output t _ _) => t
          | _ => ""
        let status := (← shell).status
        let stages := (← shell).stages
        discard <| isolated e do
          setDescriptor 0 (← newChannel (.input (Raw.joined text.toList) false))
          runInWord e body
        modifyShell fun s => { s with status := status, stages := stages }
      | none => pure ()
      closeDescriptor fd
    modifyShell fun s => { s with substitutions := s.substitutions.drop new.length }

/-- The bits of a piece. -/
def pieceBits (e : Engine) (inDouble : Bool) : Piece → Act (List Bit)
  | .bare cs => pure (cs.map fun c => .char c inDouble false)
  | .quoted cs => pure (.hold :: cs.map fun c => .char c true false)
  | .double inside => do
    let bits ← e.expand true inside
    -- Between quotes there is something even if it is empty, except when there are no values.
    let isOnlyValues := inside.all fun
      | .parameter "@" none _ _ => true
      | .parameter _ (some [.bare ['@']]) _ _ => true
      | .parameter _ _ (.names true) _ => true
      | .parameter _ _ .keys _ => true
      | _ => false
    if bits.isEmpty && isOnlyValues && !inside.isEmpty then pure []
    else if isOnlyValues && !inside.isEmpty then pure bits
    else pure (.hold :: bits)
  | .parameter name index change source => parameterBits e inDouble source 8 name index change
  | .command body => do
    let read ← if ← isRich then pure (fileOf? body) else pure none
    match read with
    | some w =>
      let path ← wordText e w
      match ← readPath path with
      | .ok cs =>
        modifyShell fun s => { s with inWord := some 0 }
        let cs ← cleanOutput (String.ofList cs)
        pure (cs.map fun c => .char c inDouble (!inDouble))
      | .error err =>
        complain (path ++ ": " ++ err.text)
        modifyShell fun s => { s with inWord := some 1 }
        pure []
    | none =>
      let cs ← commandOutput e (runInWord e body)
      pure (cs.map fun c => .char c inDouble (!inDouble))
  | .commandText line text => do
    let start ← do
      let s ← shell
      pure (if s.dialect = .rich then s.line else line)
    let cs ← commandOutput e do
      modifyShell fun s => { s with origin := "command substitution", level := s.level + 1 }
      e.script start (String.ofList text)
    pure (cs.map fun c => .char c inDouble (!inDouble))
  | .arithmetic inside => do
    let text ← wordText e inside
    let n ← e.compute text
    pure ((intText n).toList.map fun c => .char c inDouble (!inDouble))
  | .process reads body => do
    let path ← processPath e reads body
    pure (path.toList.map fun c => .char c true false)
  | .broken text => do
    if ← isRich then complain (String.ofList text ++ ": bad substitution")
    else complain "Bad substitution"
    giveUp

/-- The bits of a word. -/
def wordBits (e : Engine) (inDouble : Bool) (w : Word) : Act (List Bit) := do
  match w with
  | [p] => pieceBits e inDouble p
  | _ =>
    let mut parts := #[]
    for p in w do
      parts := parts.push (← pieceBits e inDouble p)
    pure (parts.toList.flatten)

/-! ## Fields -/

/-- Where the cutting of bits into fields stands. -/
structure Cutting where
  done : List Marked := []
  /-- The field at hand, reversed, if there is one. -/
  here : Option Marked := none
  /-- The latest field was ended by blanks alone. -/
  soft : Bool := false

/-- One bit more. -/
def Cutting.step (separators : List Char) (s : Cutting) (b : Bit) : Cutting :=
  let close : Cutting :=
    match s.here with
    | some m => { s with done := m.reverse :: s.done, here := none }
    | none => s
  match b with
  | .hold => { s with here := some (s.here.getD []), soft := false }
  | .gap => { close with soft := false }
  | .char c q splits =>
    if splits && separators.contains c then
      if c == ' ' || c == '\t' || c == '\n' then
        if s.here.isSome then { close with soft := true } else s
      else if s.here.isSome then { close with soft := false }
      else if s.soft then { s with soft := false }
      else { s with done := [] :: s.done }
    else { s with here := some ((c, q) :: s.here.getD []), soft := false }

/-- The fields that bits amount to. -/
def fieldsOf (separators : List Char) (bits : List Bit) : List Marked :=
  let s := bits.foldl (Cutting.step separators) {}
  let done := match s.here with
    | some m => m.reverse :: s.done
    | none => s.done
  done.reverse

/-- A field as the names it stands for, if it is a pattern of some. -/
def namesOf (m : Marked) : Act (List String) := do
  if !m.any (fun p => !p.2 && (p.1 == '*' || p.1 == '?' || p.1 == '[' || p.1 == '(')) then
    pure [m.string]
  else
    let s ← shell
    let style : Pattern.Style :=
      { extended := s.features.contains "extglob", anyCase := s.features.contains "nocaseglob" }
    if s.options.contains "noglob" || !Pattern.isPattern style m then pure [m.string]
    else
      let set ← textOf? "GLOBIGNORE"
      let ignored := if s.dialect = .rich then set.getD "" else ""
      let names : NameStyle :=
        { pattern := style
          dots := s.features.contains "dotglob" || ignored != ""
          deep := s.features.contains "globstar"
          skipsDots := s.dialect = .rich && (s.features.contains "globskipdots" || ignored != "")
          ignored := ((ignored.toList.splitOn ':').filter (!·.isEmpty)).map
            fun cs => cs.map fun c => (c, false) }
      match names.paths (← disk) s.here m with
      | [] =>
        if s.features.contains "failglob" then
          complain ("no match: " ++ m.string)
          giveUp
        else if s.features.contains "nullglob" then pure []
        else pure [m.string]
      | paths => pure paths

/-- A word that looks like an assignment, cut behind the sign. -/
def assignmentPart? (w : Word) : Option (List Char × Word) :=
  match w with
  | .bare cs :: rest =>
    let (name, behind) := cs.span isNameRest
    match behind with
    | '=' :: value =>
      if isName (String.ofList name) then some (name ++ ['='], .bare value :: rest) else none
    | _ => none
  | _ => none

/-- The fields of a word. -/
def fields (e : Engine) (w : Word) : Act (List String) := do
  match w with
  | [.bare cs] =>
    -- Most words are plain.
    if !cs.any fun c => c == '*' || c == '?' || c == '[' || c == '~' || c == '\x7b' then
      return [String.ofList cs]
  | _ => pure ()
  let words ← if (← isRich) && (← isOn "braceexpand") then pure (Brace.expand w) else pure [w]
  let separators := (← separators).toList
  let mut all := #[]
  for v in words do
    let v ←
      match assignmentPart? v with
      | some (front, value) =>
        if ← isRich then do
          let value ← expandTildes true value
          pure (Piece.bare front :: value)
        else expandTildes false v
      | none => expandTildes false v
    let bits ← e.expand false v
    for m in fieldsOf separators bits do
      all := all ++ (← namesOf m).toArray
  pure all.toList

/-- The fields of several words. -/
def allFields (e : Engine) (ws : List Word) : Act (List String) := do
  let mut all := #[]
  for w in ws do
    all := all ++ (← fields e w).toArray
  pure all.toList

/-- The text of a word that is not split: one behind the sign of an assignment. -/
def assignedText (e : Engine) (w : Word) : Act String := do
  let w ← expandTildes true w
  -- Values that would be put together between quotes are so here too.
  let star : Bool :=
    match w with
    | [.parameter "*" none .value _] => true
    | [.parameter _ (some [.bare ['*']]) .value _] => true
    | _ => false
  let bits ← e.expand star w
  if ← isRich then pure (Bit.textOf bits)
  else pure (Bit.textWith ((← separators).toList.take 1) bits)

/-- The text of a word that is not split, with a tilde at its front. -/
def plainText (e : Engine) (w : Word) : Act String := do
  let w ← expandTildes false w
  pure (Bit.textOf (← e.expand false w))

end Runbook.Shell.Act
