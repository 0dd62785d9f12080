import Runbook.Shell.Tool.Flags
import Runbook.Shell.Text.Numeral

/-!
# `Shell/Tool/Lines` — what programs read

Most programs read files that are named by their operands, or their input if there are none or a
dash. Texts come as lines, the last of which may lack its end.
-/

set_option autoImplicit false

namespace Runbook.Shell

namespace Lines

/-- The pieces of a text between marks, from reversed beginnings on. -/
def splitFrom (mark : Char) : (done : List (List Char)) → (here : List Char) → List Char →
    List (List Char)
  | done, here, [] => (here.reverse :: done).reverse
  | done, here, c :: rest =>
    if c == mark then splitFrom mark (here.reverse :: done) [] rest
    else splitFrom mark done (c :: here) rest

/-- The lines of a text without their ends, and whether the last one has an end. -/
def split (mark : Char) (cs : List Char) : List (List Char) × Bool :=
  let rec go : List (List Char) → List (List Char) → List (List Char) × Bool
    | done, [] => (done.reverse, true)
    | done, [last] => if last.isEmpty then (done.reverse, true) else ((last :: done).reverse, false)
    | done, x :: rest => go (x :: done) rest
  go [] (splitFrom mark [] [] cs)

/-- The words of a text between characters that part them. -/
def words (parts : Char → Bool) (cs : List Char) : List (List Char) :=
  (cs.splitOnP parts).filter (!·.isEmpty)

/-- Lines put together, each with an end. -/
def join (mark : Char) (ls : List (List Char)) : List Char :=
  (ls.foldl (fun done l => mark :: l.reverseAux done) []).reverse

/-- Lines as a text, each with an end. -/
def text (ls : List (List Char)) : String := String.ofList (join '\n' ls)

end Lines

/-- The number in a text of digits that has to lie between bounds, or what is told of another one.
-/
def boundedNumber (text : String) (least most : Nat) : Except String Nat :=
  match natText? text with
  | some n =>
    if n < least then .error ": Numerical result out of range"
    else if most < n then
      .error (if n ≤ 1073741823 then ": Numerical result out of range"
        else ": Value too large for defined data type")
    else .ok n
  | none => .error ""

namespace Call

/-- The size of an operand if it is a file, or nothing if it is something else that is there. -/
def sizeOf (operand : String) : Act (Except Errno (Option Nat)) := do
  let d ← Act.disk
  if operand = "-" then
    match ← Act.channel? 0 with
    | some (.file file ..) => pure (.ok (some (Raw.size (d.textOf file).toList)))
    | some _ => pure (.ok none)
    | none => pure (.error .badDescriptor)
  else
    match d.find (← Act.shell).here operand with
    | .ok (_, n) => pure (.ok (if n.isFile then some n.size else none))
    | .error err => pure (.error err)

/-- The text of an operand at present, and whether more would come. A dash means the input. -/
def fetch (operand : String) : Act (Except Errno (List Char × Bool)) := do
  if operand = "-" then
    match ← Act.readSome 0 with
    | .ok (cs, cut) => pure (.ok (cs, cut))
    | .error err => pure (.error err)
  else Act.peekPath operand

/-- Does something with the text of each operand; what cannot be read is told. More is asked for
when what has been there is done with. It gives whether all could be read. -/
def eachText (c : Call) (operands : List String) (blame : String → Errno → Act Unit)
    (f : String → List Char → Act Unit) : Act Bool := do
  let mut ok := true
  for o in (if operands.isEmpty then ["-"] else operands) do
    match ← fetch o with
    | .error err =>
      blame o err
      ok := false
      if o = "-" && err = .badDescriptor then
        c.blame "closing standard input: Bad file descriptor"
    | .ok (cs, cut) =>
      f o cs
      if cut then throw .starved
  pure ok

/-- Tells that an operand cannot be read: its name, and why. -/
def blameFile (c : Call) (operand : String) (err : Errno) : Act Unit :=
  c.blame (fileTitle operand ++ ": " ++ err.text)

/-- The whole text of an operand. -/
def whole (operand : String) : Act (Except Errno (List Char)) := do
  match ← fetch operand with
  | .ok (cs, false) => pure (.ok cs)
  | .ok (_, true) => throw .starved
  | .error err => pure (.error err)

/-- Tells that there is an operand too many. -/
def extraOperand (c : Call) (operand : String) (status : Nat) : Act Nat :=
  c.refuse status ("extra operand " ++ curlyQuoted operand)

/-- Asks a question, and gives whether the next line of the input says yes. -/
def confirms (c : Call) (question : String) : Act Bool := do
  Act.tell (c.name ++ ": " ++ question)
  match ← Act.readLine 0 '\n' with
  | .ok (l, _) => pure (l.head? == some 'y' || l.head? == some 'Y')
  | .error _ => pure false

end Call

end Runbook.Shell
