import Runbook.Shell.Process.Variable
import Runbook.Shell.Text.Format

/-!
# `Shell/Builtin/Print` — commands that print

`echo` prints its arguments on a line, and `printf` prints them by a format.
-/

set_option autoImplicit false

namespace Runbook.Shell.Print

/-- Prints a text to the output, and tells if that fails. -/
def output (name text : String) : Act Nat := do
  match ← Act.write 1 text with
  | none => pure 0
  | some err =>
    if ← Act.isRich then Act.complain (name ++ ": write error: " ++ err.text)
    else Act.complain (name ++ ": " ++ name ++ ": I/O error")
    pure 1

/-- The arguments of `echo` as options: whether the line is ended, and whether escapes are replaced;
and what is left. -/
def echoOptions : (ends escapes : Bool) → List String → Bool × Bool × List String
  | ends, escapes, a :: rest =>
    match a.toList with
    | '-' :: letters =>
      if !letters.isEmpty && letters.all fun c => c == 'n' || c == 'e' || c == 'E' then
        let (ends, escapes) := letters.foldl (fun (ends, escapes) c =>
          if c = 'n' then (false, escapes) else (ends, c == 'e')) (ends, escapes)
        echoOptions ends escapes rest
      else (ends, escapes, a :: rest)
    | _ => (ends, escapes, a :: rest)
  | ends, escapes, [] => (ends, escapes, [])

/-- The text of `echo`. -/
def echoText (d : Dialect) (args : List String) : String :=
  let finish (ends escapes : Bool) (args : List String) : String :=
    let text := " ".intercalate args
    if escapes && text.toList.contains '\\' then
      let cs := text.toList
      let (shown, stop, _) := unescape (d == .rich) .line (cs.length + 1) [] [] cs
      String.ofList shown ++ (if ends && !stop then "\n" else "")
    else text ++ (if ends then "\n" else "")
  match d with
  | .rich =>
    let (ends, escapes, rest) := echoOptions true false args
    finish ends escapes rest
  | .plain =>
    match args with
    | "-n" :: rest => finish false true rest
    | _ => finish true true args

/-- The command `echo`. -/
def echo (args : List String) : Act Nat := do
  output "echo" (echoText (← Act.shell).dialect args)

/-- Prints by a format, and gives whether something failed. Texts go through `put`. -/
def formatted (voice : Voice) (put : String → Act Unit) (blame : String → Act Unit)
    (format : String) (args : List String) : Act Bool := do
  let (parts, failed, _) := printFormat voice format args
  let rec go : (size : Nat) → List Printed → List String → Act Unit
    | _, [], texts => put (String.join texts.reverse)
    | size, .text s :: rest, texts => go (size + Raw.size s.toList) rest (s :: texts)
    | size, .fault s :: rest, texts => do
      put (String.join texts.reverse)
      blame s
      go size rest []
    | size, .size name :: rest, texts => do
      Act.putText name (natText size)
      go size rest texts
  go 0 parts []
  pure failed

/-- The command `printf` of the shell. -/
def printf (e : Engine) (args : List String) : Act Nat := do
  let d := (← Act.shell).dialect
  let usage : Act Nat := do
    match d with
    | .rich => Act.tell "printf: usage: printf [-v var] format [arguments]\n"
    | .plain => Act.complain "printf: usage: printf format [arg ...]"
    pure 2
  let voice : Voice := match d with
    | .rich => .rich
    | .plain => .plain
  let blame (s : String) : Act Unit := Act.complain ("printf: " ++ s)
  let print (format : String) (args : List String) : Act Nat := do
    let before := (← Act.shell).status
    let put (s : String) : Act Unit := do
      if s ≠ "" then
        if (← output "printf" s) ≠ 0 then Act.setStatus 1
    Act.setStatus 0
    let failed ← formatted voice put blame format args
    let failed := failed || (← Act.shell).status != 0
    Act.setStatus before
    let stopped := (printFormat voice format args).2.1
    pure (if !failed then 0 else if d = .plain ∧ stopped ∧ badDirective format args then 2 else 1)
  match args with
  | [] => usage
  | "--" :: format :: rest => print format rest
  | ["--"] => usage
  | "-v" :: more =>
    if d = .plain then
      Act.complain "printf: Illegal option -v"
      pure 2
    else
      match more with
      | name :: "--" :: format :: rest | name :: format :: rest =>
        let texts ← do
          let (parts, failed, _) := printFormat .rich format rest
          for p in parts do
            match p with
            | .fault s => blame s
            | _ => pure ()
          pure (String.join (parts.filterMap fun
            | .text s => some s
            | _ => none), failed)
        let (base, index) := match name.toList.span (· != '[') with
          | (base, '[' :: i) => (String.ofList base, some (String.ofList i.dropLast))
          | _ => (name, none)
        if !isName base then
          blame ("\x60" ++ name ++ "': not a valid identifier")
          pure 2
        else
          let ok ← Act.setText e base index false texts.1
          pure (if ok && !texts.2 then 0 else 1)
      | [_] => usage
      | [] =>
        blame "-v: option requires an argument"
        usage
  | a :: rest =>
    if a.startsWith "-" ∧ a ≠ "-" then
      match d with
      | .rich =>
        let shown := if a.startsWith "--" then "--" else String.ofList (a.toList.take 2)
        if a.startsWith "-v" then
          let name := String.ofList (a.toList.drop 2)
          match rest with
          | format :: more =>
            let (parts, failed, _) := printFormat .rich format more
            let text := String.join (parts.filterMap fun
              | .text s => some s
              | _ => none)
            let ok ← Act.setText e name none false text
            pure (if ok && !failed then 0 else 1)
          | [] => usage
        else
          blame (shown ++ ": invalid option")
          usage
      | .plain =>
        blame ("Illegal option -" ++ String.ofList ((a.toList.drop 1).take 1))
        pure 2
    else print a rest
where
  /-- The format has a directive that does not exist. -/
  badDirective (format : String) (args : List String) : Bool :=
    (printFormat .plain format args).1.any fun
      | .fault s => s.endsWith ": invalid directive" || s == "missing format character"
      | _ => false

end Runbook.Shell.Print
