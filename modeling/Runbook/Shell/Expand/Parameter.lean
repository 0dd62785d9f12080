import Runbook.Shell.Pattern
import Runbook.Shell.Process.Variable
import Runbook.Shell.Text.Quote
import Runbook.Shell.Text.Raw

/-!
# `Shell/Expand/Parameter` — changed values of parameters

A substitution looks a parameter up, which gives a single value or several ones (`Found`), and
changes what it finds.
-/

set_option autoImplicit false

namespace Runbook.Shell

/-- What a parameter holds. -/
inductive Found where
  | single (value : Option String)
  /-- Several values with their keys, which stay apart, or are put together between quotes. -/
  | several (values : List (String × String)) (separate : Bool)

namespace Marked

/-- The characters of an expanded word, with marks; what ends a field is a blank. -/
def ofBits (bits : List Bit) : Marked :=
  bits.filterMap fun
    | .char c q _ => some (c, q)
    | .gap => some (' ', true)
    | .hold => none

end Marked

namespace Bit

/-- The text of an expanded word that is not split; `between` stands for the ends of fields. -/
def textWith (between : List Char) (bits : List Bit) : String :=
  String.ofList <| bits.flatMap fun
    | .char c _ _ => [c]
    | .gap => between
    | .hold => []

/-- The text of an expanded word that is not split. -/
def textOf (bits : List Bit) : String := textWith [' '] bits

/-- The bits of a text. -/
def ofText (quoted splits : Bool) (s : String) : List Bit :=
  s.toList.map fun c => .char c quoted splits

end Bit

namespace Act

/-- Patterns as the options of the shell have them. -/
def patternStyle : Act Pattern.Style := do
  pure { extended := ← hasFeature "extglob", anyCase := ← hasFeature "nocasematch" }

/-- The text of an expanded word. -/
def wordText (e : Engine) (w : Word) : Act String := do pure (Bit.textOf (← e.expand true w))

/-- A word as a pattern. -/
def wordPattern (e : Engine) (w : Word) : Act Marked := do
  pure (Marked.ofBits (← e.expand false w))

/-- The key that an index word denotes: a text for keyed elements, an expression for others. -/
def indexText (e : Engine) (index : Word) : Act String := wordText e index

/-- What a parameter holds at an index. -/
def found (e : Engine) (name : String) (index : Option Word) : Act Found := do
  match name, index with
  | "@", none => pure (.several ((← shell).arguments.map fun a => ("", a)) true)
  | "*", none => pure (.several ((← shell).arguments.map fun a => ("", a)) false)
  | _, none => pure (.single (← textOf? name))
  | _, some [.bare ['@']] => pure (.several (← valueOf name).elements true)
  | _, some [.bare ['*']] => pure (.several (← valueOf name).elements false)
  | _, some i =>
    let key ← indexText e i
    pure (.single (← elementAt e name key))

/-- Tells that a parameter has no value, and ends the shell. -/
def unbound {α : Type} (name : String) : Act α := do
  let s ← shell
  if s.dialect = .rich then
    complain (name ++ ": unbound variable")
    exitWith (if s.isSubshell then 1 else 127)
  else
    complain (name ++ ": parameter not set")
    exitWith 2

/-- The name of a parameter with its index, for messages. -/
def shownName (name : String) (index : Option Word) (source : List Char) : String :=
  match index with
  | none => name
  | some _ =>
    let inside := (source.drop 2).takeWhile (· != ']')
    String.ofList (inside.dropWhile fun c => c == '!' || c == '#') ++ "]"

/-- A text with a change of letters at the characters that a pattern matches. -/
def recased (change : CaseChange) (all : Bool) (style : Pattern.Style) (pattern : Marked)
    (cs : List Char) : List Char :=
  let one (c : Char) : Char :=
    match change with
    | .upper => upperOf c
    | .lower => lowerOf c
    | .swap => if isCapital c then lowerOf c else upperOf c
  let isMeant (c : Char) : Bool := pattern.isEmpty || Pattern.isMatch style pattern [c]
  if all then cs.map fun c => if isMeant c then one c else c
  else
    match cs with
    | c :: rest => (if isMeant c then one c else c) :: rest
    | [] => []

/-- What replaces a match: an ampersand that is not quoted stands for the match itself. -/
def replacement (put : Marked) (hit : List Char) : List Char :=
  let rec go : Marked → List Char
    | ('\\', false) :: ('&', false) :: rest => '&' :: go rest
    | ('\\', false) :: ('\\', false) :: rest => '\\' :: go rest
    | (c, q) :: rest => (if c = '&' ∧ !q then hit else [c]) ++ go rest
    | [] => []
  go put

/-- A text with matches of a pattern replaced. -/
def replaced (style : Pattern.Style) (which : Replacing) (pattern put : Marked) (cs : List Char) :
    List Char :=
  match which with
  | .atFront =>
    match Pattern.prefixLengths style pattern cs with
    | [] => cs
    | n :: ns =>
      let n := ns.foldl max n
      replacement put (cs.take n) ++ cs.drop n
  | .atBack =>
    let kept := Pattern.dropBack style true pattern cs
    if kept.length < cs.length ∨ Pattern.isMatch style pattern [] then
      kept ++ replacement put (cs.drop kept.length)
    else cs
  | _ =>
    if pattern.isEmpty then cs
    else
      Pattern.replaceFrom (Pattern.regex style pattern) (.ofList cs) (which == .all)
        (replacement put) (cs.length + 2) 0

/-- The letters of the attributes of a variable. -/
def attributeLetters (v : Variable) : String :=
  String.ofList
    ((match v.value with
      | .listed _ => ['a']
      | .keyed _ => ['A']
      | _ => []) ++
      (if v.integer then ['i'] else []) ++ (if v.lower then ['l'] else []) ++
      (if v.reference then ['n'] else []) ++ (if v.fixed then ['r'] else []) ++
      (if v.upper then ['u'] else []) ++ (if v.exported then ['x'] else []))

/-- Elements as they are written in a list of values. -/
def elementList (es : List (String × String)) (keyed : Bool) : String :=
  let key (k : String) : String :=
    if keyed && (!isName k && k.toList.any fun c => !c.isAlphanum) then doubleQuoted k else k
  let parts := es.map fun (k, s) => "[" ++ key k ++ "]=" ++ doubleQuoted s
  "(" ++ " ".intercalate parts ++ (if keyed && !es.isEmpty then " " else "") ++ ")"

/-- A variable as a command that declares it. -/
def declaration (name : String) (v : Variable) : String :=
  let letters := attributeLetters v
  let head := "declare -" ++ (if letters = "" then "-" else letters) ++ " " ++ name
  match v.value with
  | .none => head
  | .text s => head ++ "=" ++ doubleQuoted s
  | .listed _ => head ++ "=" ++ elementList v.value.elements false
  | .keyed _ => head ++ "=" ++ elementList v.value.elements true

/-- A value transformed as a letter says. -/
def transformed (letter : Char) (name : String) (s : String) : Act String := do
  match letter with
  | 'Q' => pure (reusable s)
  | 'E' => pure (String.ofList (unescapeQuote s.toList))
  | 'U' => pure (String.ofList (s.toList.map upperOf))
  | 'u' => pure (String.ofList (recased .upper false {} [] s.toList))
  | 'L' => pure (String.ofList (s.toList.map lowerOf))
  | 'K' | 'k' => pure (reusable s)
  | 'a' =>
    match ← variableOf? name with
    | some v => pure (attributeLetters v)
    | none => pure ""
  | 'A' =>
    match ← variableOf? name with
    | some v =>
      let letters := attributeLetters v
      pure ((if letters = "" then "" else "declare -" ++ letters ++ " ") ++ name ++ "=" ++ reusable s)
    | none => pure (name ++ "=" ++ reusable s)
  | _ => pure s

/-- A change of a single text. -/
def changeText (e : Engine) (name : String) (change : Change) : Act (String → Act String) := do
  let style ← patternStyle
  match change with
  | .dropFront longest p =>
    let p ← wordPattern e p
    pure fun s => pure (String.ofList (Pattern.dropFront style longest p s.toList))
  | .dropBack longest p =>
    let p ← wordPattern e p
    pure fun s => pure (String.ofList (Pattern.dropBack style longest p s.toList))
  | .replace which p by_ =>
    let p ← wordPattern e p
    let put ← match by_ with
      | some w => wordPattern e w
      | none => pure []
    pure fun s => pure (String.ofList (replaced style which p put s.toList))
  | .recase how all p =>
    let p ← wordPattern e p
    pure fun s => pure (String.ofList (recased how all style p s.toList))
  | .transform letter => pure (transformed letter name)
  | _ => pure pure

/-- The part of several things from an offset on, which may count from the end. -/
def cutList {α : Type} (xs : List α) (offset : Int) (count : Option Int) : Option (List α) :=
  let size : Int := xs.length
  let start := if offset < 0 then size + offset else offset
  if start < 0 ∨ size < start then some []
  else
    match count with
    | none => some (xs.drop start.toNat)
    | some n =>
      let final := if n < 0 then size + n else start + n
      if final < start then none else some ((xs.drop start.toNat).take (final - start).toNat)

/-- A part of a text, or of several values. -/
def cut (e : Engine) (name : String) (found : Found) (offset : Word) (count : Option Word) :
    Act Found := do
  let offset ← e.compute (← wordText e offset)
  let count ← count.mapM fun w => do e.compute (← wordText e w)
  let s ← shell
  let negative {α : Type} : Act α := do
    complain (intText (count.getD 0) ++ ": substring expression < 0")
    giveUp
  match found with
  | .single none => pure (.single none)
  | .single (some text) =>
    match cutList text.toList offset count with
    | some cs => pure (.single (some (String.ofList cs)))
    | none => negative
  | .several vs separate =>
    if count.any (· < 0) then negative
    else if name = "@" ∨ name = "*" then
      let all := if offset = 0 then ("", s.name) :: vs else vs
      let offset := if 0 < offset then offset - 1 else offset
      pure (.several ((cutList all offset count).getD []) separate)
    else
      -- Elements are cut by their numbers, of which some may be missing.
      match ← valueOf name with
      | .listed es =>
        let top : Int := match es.maxKey? with
          | some k => (k : Int) + 1
          | none => 0
        let start := if offset < 0 then top + offset else offset
        if start < 0 then pure (.several [] separate)
        else
          let kept := vs.filter fun (k, _) => start ≤ (ofDigits 10 k.toList : Int)
          pure (.several (match count with
            | some n => kept.take n.toNat
            | none => kept) separate)
      | _ => pure (.several ((cutList vs offset count).getD []) separate)

end Act

end Runbook.Shell
