import Runbook.Shell.Expand.Word

/-!
# `Shell/Expand/Assign` — assignments

The value of an assignment is a text, or a list of elements, each with an index or without. Elements
without an index are numbered on; in an array of keyed elements they are keys and values by turns.
-/

set_option autoImplicit false

namespace Runbook.Shell

/-- An element of a list of values, expanded. -/
structure Item where
  index : Option String
  append : Bool
  text : String

/-- The value of an assignment, expanded. -/
inductive Assignable where
  | text (s : String)
  | items (xs : List Item)

/-- An argument of a command, expanded. -/
inductive Given where
  | text (s : String)
  | assignment (name : String) (index : Option String) (append : Bool) (value : Assignable)

namespace Act

/-- The elements of a list of values. Those for keyed elements are not split into several. -/
def elementItems (e : Engine) (keyed : Bool) : List Element → Act (List Item)
  | [] => pure []
  | .mk (some index) append w :: rest => do
    let i ← indexText e index
    let text ← assignedText e w
    pure (⟨some i, append, text⟩ :: (← elementItems e keyed rest))
  | .mk none _ w :: rest => do
    let texts ← if keyed then do pure [← assignedText e w] else fields e w
    pure (texts.map (fun t => ⟨none, false, t⟩) ++ (← elementItems e keyed rest))

/-- A list of values as a single word. -/
def elementsWord (es : List Element) : Word :=
  let one : Element → Word
    | .mk (some index) append w =>
      .bare ['['] :: index ++ .bare (if append then "]+=".toList else "]=".toList) :: w
    | .mk none _ w => w
  .bare ['('] :: ((es.map one).intersperse [.bare [' ']]).flatten ++ [.bare [')']]

/-- The value of an assignment to a variable, which has keyed elements or not. -/
def assignable (e : Engine) (keyed : Bool) : Assigned → Act Assignable
  | .word w => do pure (.text (← assignedText e w))
  | .elements es => do
    match es with
    | .mk none _ _ :: _ =>
      -- What begins with a key goes on with keys and values by turns.
      let plain : Element → Element
        | .mk (some index) append w =>
          .mk none false (.bare ['['] :: index ++
            .bare (if append then "]+=".toList else "]=".toList) :: w)
        | x => x
      pure (.items (← elementItems e keyed (if keyed then es.map plain else es)))
    | _ => pure (.items (← elementItems e keyed es))

/-- A variable has keyed elements. -/
def isKeyed (name : String) : Act Bool := do
  match ← valueOf name with
  | .keyed _ => pure true
  | _ => pure false

/-- Numbered elements with a list of values put in, the next number being `place`. -/
def storeListed (e : Engine) (name : String) (v : Variable) : (place : Nat) → List Item →
    Std.TreeMap Nat String → Act (Std.TreeMap Nat String)
  | _, [], es => pure es
  | place, x :: rest, es => do
    let place? ←
      match x.index with
      | some i => do pure (placeOf es (← e.compute i))
      | none => pure (some place)
    match place? with
    | some place =>
      let t ← shaped e v es[place]? x.append x.text
      storeListed e name v (place + 1) rest (es.insert place t)
    | none =>
      complain ("[" ++ x.index.getD "" ++ "]=" ++ x.text ++ ": bad array subscript")
      storeListed e name v place rest es

/-- Keyed elements with keys and values by turns put in. -/
def storePairs (e : Engine) (v : Variable) : List Item → List (String × String) →
    Act (List (String × String))
  | [], es => pure es
  | [k], es => pure ((k.text, "") :: es.filter (·.1 != k.text))
  | k :: x :: rest, es => do
    let t ← shaped e v none false x.text
    storePairs e v rest ((k.text, t) :: es.filter (·.1 != k.text))

/-- Keyed elements with values put in that tell their keys. -/
def storeKeyed (e : Engine) (name : String) (v : Variable) (quote : Bool) : List Item →
    List (String × String) → Act (List (String × String))
  | [], es => pure es
  | x :: rest, es => do
    match x.index with
    | some "" =>
      complain ("[]=" ++ x.text ++ ": bad array subscript")
      storeKeyed e name v quote rest es
    | some i =>
      let t ← shaped e v (es.lookup i) x.append x.text
      storeKeyed e name v quote rest ((i, t) :: es.filter (·.1 != i))
    | none =>
      complain (name ++ ": " ++ (if quote then singleQuoted x.text else x.text) ++
        ": must use subscript when assigning associative array")
      storeKeyed e name v quote rest es

/-- Stores the value of an assignment. It is false if the variable must not be set, which is told.
With `quote`, elements that are wrong are told between quotes. -/
def storeValue (e : Engine) (name : String) (index : Option String) (append : Bool)
    (value : Assignable) (quote : Bool := false) : Act Bool := do
  match value with
  | .text s => setText e name index append s
  | .items xs =>
    let name ← target name
    let v := (← shell).bindings.getD name {}
    if v.fixed then
      complainFixed name
      pure false
    else if index.isSome then
      complain (name ++ "[" ++ index.getD "" ++ "]: cannot assign list to array member")
      pure false
    else
      match v.value with
      | .keyed es =>
        let start := if append then es else []
        let es ←
          if xs.head?.any (·.index.isNone) then storePairs e v xs start
          else storeKeyed e name v quote xs start
        putVariable name { v with value := .keyed es }
        pure true
      | old =>
        let start : Std.TreeMap Nat String :=
          if append then
            match old with
            | .listed es => es
            | .text s => Std.TreeMap.ofList [(0, s)]
            | _ => ∅
          else ∅
        let place := match start.maxKey? with
          | some k => k + 1
          | none => 0
        let es ← storeListed e name v place xs start
        putVariable name { v with value := .listed es }
        pure true

/-- Does an assignment. It is false if the variable must not be set, which is told. -/
def assign (e : Engine) : Assignment → Act Bool
  | .mk name index append value => do
    let v ← assignable e (← isKeyed name) value
    let i ← index.mapM (indexText e)
    storeValue e name i append v

/-- The arguments of a command, expanded; `keyed` tells that an option asks for keyed elements. -/
def givenFrom (e : Engine) : (keyed : Bool) → List Argument → Act (List Given)
  | _, [] => pure []
  | keyed, .word w :: rest => do
    let texts ← fields e w
    let asks := texts.any fun t => t.startsWith "-" && t.toList.contains 'A'
    pure (texts.map Given.text ++ (← givenFrom e (keyed || asks) rest))
  | keyed, .assignment (.mk name index append value) :: rest => do
    let i ← index.mapM (indexText e)
    let v ← assignable e (keyed || (← isKeyed name)) value
    pure (.assignment name i append v :: (← givenFrom e keyed rest))

/-- The arguments of a command, expanded. -/
def given (e : Engine) (args : List Argument) : Act (List Given) := givenFrom e false args

end Act

namespace Given

/-- An argument as a text. -/
def toText : Given → String
  | .text s => s
  | .assignment name index append value =>
    let i := match index with
      | some i => "[" ++ i ++ "]"
      | none => ""
    let v := match value with
      | .text s => s
      | .items _ => ""
    name ++ i ++ (if append then "+=" else "=") ++ v

/-- A text as an assignment, if it is one. -/
def ofText (s : String) : Given :=
  let (name, rest) := s.toList.span isNameRest
  let n := String.ofList name
  if !isName n then .text s
  else
    match rest with
    | '=' :: v => .assignment n none false (.text (String.ofList v))
    | '+' :: '=' :: v => .assignment n none true (.text (String.ofList v))
    | '[' :: more =>
      match more.span (· != ']') with
      | (i, ']' :: '=' :: v) =>
        .assignment n (some (String.ofList i)) false (.text (String.ofList v))
      | _ => .text s
    | _ => .text s

end Given

end Runbook.Shell
