import Runbook.Shell.Expand.Assign
import Runbook.Shell.Script.Source

/-!
# `Shell/Builtin/Option` — options and arguments of the shell

`set` and `shopt` turn options on and off; `set` also puts other arguments in the place of those of
the shell, `shift` drops some of them, and `getopts` reads options from them.
-/

set_option autoImplicit false

namespace Runbook.Shell.Options

/-- The options with their letters. -/
def names : Dialect → List (String × Option Char)
  | .rich => [("allexport", some 'a'), ("braceexpand", some 'B'), ("emacs", none),
      ("errexit", some 'e'), ("errtrace", some 'E'), ("functrace", some 'T'), ("hashall", some 'h'),
      ("histexpand", some 'H'), ("history", none), ("ignoreeof", none),
      ("interactive-comments", none), ("keyword", some 'k'), ("monitor", some 'm'),
      ("noclobber", some 'C'), ("noexec", some 'n'), ("noglob", some 'f'), ("nolog", none),
      ("notify", some 'b'), ("nounset", some 'u'), ("onecmd", some 't'), ("physical", some 'P'),
      ("pipefail", none), ("posix", none), ("privileged", some 'p'), ("verbose", some 'v'),
      ("vi", none), ("xtrace", some 'x')]
  | .plain => [("errexit", some 'e'), ("noglob", some 'f'), ("ignoreeof", some 'I'),
      ("interactive", some 'i'), ("monitor", some 'm'), ("noexec", some 'n'), ("stdin", some 's'),
      ("xtrace", some 'x'), ("verbose", some 'v'), ("vi", some 'V'), ("emacs", some 'E'),
      ("noclobber", some 'C'), ("allexport", some 'a'), ("notify", some 'b'), ("nounset", some 'u'),
      ("privileged", some 'p'), ("nolog", none), ("debug", none)]

/-- The options that are on at the start. -/
def initial : Dialect → List String
  | .rich => ["braceexpand", "hashall", "interactive-comments"]
  | .plain => []

/-- The further options of the rich dialect. -/
def features : List String :=
  ["autocd", "assoc_expand_once", "cdable_vars", "cdspell", "checkhash", "checkjobs",
    "checkwinsize", "cmdhist", "compat31", "compat32", "compat40", "compat41", "compat42",
    "compat43", "compat44", "complete_fullquote", "direxpand", "dirspell", "dotglob", "execfail",
    "expand_aliases", "extdebug", "extglob", "extquote", "failglob", "force_fignore",
    "globasciiranges", "globskipdots", "globstar", "gnu_errfmt", "histappend", "histreedit",
    "histverify", "hostcomplete", "huponexit", "inherit_errexit", "interactive_comments", "lastpipe",
    "lithist", "localvar_inherit", "localvar_unset", "login_shell", "mailwarn",
    "no_empty_cmd_completion", "nocaseglob", "nocasematch", "noexpand_translation", "nullglob",
    "patsub_replacement", "progcomp", "progcomp_alias", "promptvars", "restricted_shell",
    "shift_verbose", "sourcepath", "varredir_close", "xpg_echo"]

/-- The further options that are on at the start. -/
def initialFeatures : List String :=
  ["checkwinsize", "cmdhist", "complete_fullquote", "extquote", "force_fignore", "globasciiranges",
    "globskipdots", "hostcomplete", "interactive_comments", "patsub_replacement", "progcomp",
    "promptvars", "sourcepath"]

/-- Turns an option on or off. The plain dialect controls jobs at a terminal only. -/
def turn (name : String) (on : Bool) : Act Unit := do
  if on ∧ name = "monitor" ∧ !(← Act.isRich) then
    Act.complain "set: can't access tty; job control turned off"
  else
    Act.modifyShell fun s =>
      let rest := s.options.filter (· != name)
      { s with options := if on then name :: rest else rest }

/-- A name and its state in a list. -/
def stateLine (width : Nat) (name : String) (on : Bool) : String :=
  String.ofList (padRight width name.toList) ++ "\t" ++ (if on then "on" else "off") ++ "\n"

/-- Tells that there is no option of a letter, or of a name. -/
def unknown (d : Dialect) (sign : Char) (letter : Char) : Act Nat := do
  match d with
  | .rich =>
    Act.complain ("set: " ++ String.ofList [sign, letter] ++ ": invalid option")
    Act.tell ("set: usage: set [-abefhkmnptuvxBCEHPT] [-o option-name] [--] [-] [arg ...]\n")
    pure 2
  | .plain =>
    Act.complain ("set: Illegal option " ++ String.ofList [sign, letter])
    Act.exitWith 2

/-- The command `set`, from its options on; `fuel` bounds their number. -/
def setFrom (d : Dialect) : (fuel : Nat) → List String → Act Nat
  | 0, _ => pure 0
  | fuel + 1, args => do
    let put (xs : List String) : Act Nat := do
      Act.modifyShell fun s => { s with arguments := xs }
      pure 0
    match args with
    | [] => pure 0
    | "--" :: rest => put rest
    | "-" :: rest => do
      turn "xtrace" false
      turn "verbose" false
      if rest.isEmpty then pure 0 else put rest
    | a :: rest =>
      match a.toList with
      | sign :: letters =>
        if (sign = '-' ∨ sign = '+') ∧ !letters.isEmpty then
          let on := sign == '-'
          let mut remaining := rest
          for c in letters do
            if c = 'o' then
              match remaining with
              | name :: more =>
                remaining := more
                if (names d).any (·.1 == name) then turn name on
                else
                  match d with
                  | .rich =>
                    Act.complain ("set: " ++ name ++ ": invalid option name")
                    return 2
                  | .plain =>
                    Act.complain ("set: Illegal option " ++ String.ofList [sign, 'o'] ++ " " ++ name)
                    Act.exitWith 2
              | [] =>
                let s ← Act.shell
                match d with
                | .rich =>
                  if on then
                    Act.print (String.join ((names d).map fun (n, _) =>
                      stateLine 15 n (s.options.contains n)))
                  else
                    Act.print (String.join ((names d).map fun (n, _) =>
                      "set " ++ (if s.options.contains n then "-o " else "+o ") ++ n ++ "\n"))
                | .plain =>
                  let state (n : String) : String :=
                    if on then
                      String.ofList (padRight 16 n.toList) ++
                        (if s.options.contains n then "on" else "off") ++ "\n"
                    else "set " ++ (if s.options.contains n then "-o " else "+o ") ++ n ++ "\n"
                  Act.print ((if on then "Current option settings\n" else "") ++
                    String.join ((names d).map fun (n, _) => state n))
            else
              match (names d).find? fun o => o.2 == some c with
              | some (name, _) =>
                turn name on
                if d = .plain ∧ on then
                  if name = "vi" then turn "emacs" false
                  else if name = "emacs" then turn "vi" false
              | none => return ← unknown d sign c
          setFrom d fuel remaining
        else put args
      | [] => put args

/-- The command `set`. -/
def set (args : List String) : Act Nat := do
  let s ← Act.shell
  if args.isEmpty then
    let all : List (String × Variable) := s.bindings.toList
    let all := all.mergeSort fun a b => decide (a.1 ≤ b.1)
    let line (n : String) (v : Variable) : String :=
      match v.value with
      | .none => ""
      | .text t =>
        n ++ "=" ++ (if s.dialect = .rich then listedValue t else singleQuoted t) ++ "\n"
      | .listed _ => n ++ "=" ++ Act.elementList v.value.elements false ++ "\n"
      | .keyed _ => n ++ "=" ++ Act.elementList v.value.elements true ++ "\n"
    Act.print (String.join (all.map fun (n, v) => line n v))
    if s.dialect = .rich then
      let functions : List (String × Defined) := s.functions.toList
      for (n, f) in functions.mergeSort fun a b => decide (a.1 ≤ b.1) do
        Act.print (f.body.functionSource n)
    pure 0
  else setFrom s.dialect (args.length + 1) args

/-- The command `shopt`. -/
def shopt (args : List String) : Act Nat := do
  let (flags, given) := args.span fun a => a.startsWith "-" && a != "--" && 1 < a.length
  let given := if given.head? = some "--" then given.drop 1 else given
  let letters := flags.flatMap fun a => a.toList.drop 1
  match letters.find? fun c => !"opqsu".toList.contains c with
  | some c =>
    Act.complain ("shopt: -" ++ String.singleton c ++ ": invalid option")
    Act.tell "shopt: usage: shopt [-pqsu] [-o] [optname ...]\n"
    pure 2
  | none =>
    let ofSet := letters.contains 'o'
    let known : List String := if ofSet then (names .rich).map fun p => p.1 else features
    let isOn (n : String) : Act Bool := if ofSet then Act.isOn n else Act.hasFeature n
    let quiet := letters.contains 'q'
    if letters.contains 's' && letters.contains 'u' then
      Act.complain "shopt: cannot set and unset shell options simultaneously"
      return 1
    let shown (n : String) (on : Bool) : String :=
      if letters.contains 'p' then
        if ofSet then "set " ++ (if on then "-o " else "+o ") ++ n ++ "\n"
        else "shopt " ++ (if on then "-s " else "-u ") ++ n ++ "\n"
      else stateLine 15 n on
    let sets := letters.contains 's' || letters.contains 'u'
    if given.isEmpty then
      for n in known do
        let on ← isOn n
        if !sets || on == letters.contains 's' then
          if !quiet then Act.print (shown n on)
      pure 0
    else
      let mut status := 0
      for n in given do
        if !known.contains n then
          Act.complain ("shopt: " ++ n ++ ": invalid shell option name")
          status := 1
        else if sets then
          let on := letters.contains 's'
          if ofSet then turn n on
          else
            Act.modifyShell fun s =>
              let rest := s.features.filter (· != n)
              { s with features := if on then n :: rest else rest }
        else
          let on ← isOn n
          if !on then status := 1
          if !quiet then Act.print (shown n on)
      pure status

/-- The command `shift`. -/
def shift (args : List String) : Act Nat := do
  let s ← Act.shell
  let drop (n : Nat) : Act Nat := do
    if n ≤ s.arguments.length then
      Act.modifyShell fun s => { s with arguments := s.arguments.drop n }
      pure 0
    else
      match s.dialect with
      | .rich => pure 1
      | .plain =>
        Act.complain "shift: can't shift that many"
        Act.exitWith 2
  match args with
  | [] => drop 1
  | a :: _ =>
    match decimalText? a, s.dialect with
    | some n, .rich =>
      if n < 0 then
        Act.complain ("shift: " ++ a ++ ": shift count out of range")
        pure 1
      else drop n.toNat
    | none, .rich =>
      Act.complain ("shift: " ++ a ++ ": numeric argument required")
      pure 1
    | n, .plain =>
      if n.any (0 ≤ ·) then drop (n.getD 0).toNat
      else
        Act.complain ("shift: Illegal number: " ++ a)
        Act.exitWith 2

/-- The command `getopts`. -/
def getopts (e : Engine) (args : List String) : Act Nat := do
  let s ← Act.shell
  match args with
  | optstring :: name :: given =>
    let given := if given.isEmpty then s.arguments else given
    let index := ((decimalText? (← Act.textOf "OPTIND")).getD 1).toNat
    let place := s.optionPlace
    let quiet := optstring.startsWith ":"
    let letters := if quiet then optstring.toList.drop 1 else optstring.toList
    let finish (index place : Nat) (option : String) (argument : Option String) (status : Nat) :
        Act Nat := do
      Act.putText "OPTIND" (natText index)
      Act.modifyShell fun s => { s with optionPlace := place }
      match argument with
      | some a => Act.putText "OPTARG" a
      | none => Act.unsetVariable "OPTARG"
      let ok ← Act.setText e name none false option
      pure (if ok then status else 1)
    match given[index - 1]? with
    | none => finish index 1 "?" none 1
    | some word =>
      if place = 1 ∧ word = "--" then finish (index + 1) 1 "?" none 1
      else if place = 1 ∧ (!word.startsWith "-" ∨ word = "-") then finish index 1 "?" none 1
      else
        let cs := word.toList
        let c := cs.getD place '?'
        let isLast := cs.length ≤ place + 1
        let (nextIndex, nextPlace) := if isLast then (index + 1, 1) else (index, place + 1)
        let behind := letters.dropWhile (· != c)
        if c = ':' ∨ behind.isEmpty then
          if quiet then finish nextIndex nextPlace "?" (some (String.singleton c)) 0
          else
            if (← Act.textOf "OPTERR") ≠ "0" then
              match s.dialect with
              | .rich => Act.tell (s.name ++ ": illegal option -- " ++ String.singleton c ++ "\n")
              | .plain => Act.tell ("Illegal option -" ++ String.singleton c ++ "\n")
            finish nextIndex nextPlace "?" none 0
        else if behind.drop 1 |>.head? |>.any (· == ':') then
          if !isLast then
            finish (index + 1) 1 (String.singleton c) (some (String.ofList (cs.drop (place + 1)))) 0
          else
            match given[index]? with
            | some a => finish (index + 2) 1 (String.singleton c) (some a) 0
            | none =>
              if quiet then finish (index + 1) 1 ":" (some (String.singleton c)) 0
              else
                if (← Act.textOf "OPTERR") ≠ "0" then
                  match s.dialect with
                  | .rich =>
                    Act.tell (s.name ++ ": option requires an argument -- " ++ String.singleton c ++
                      "\n")
                  | .plain => Act.tell ("No arg for -" ++ String.singleton c ++ " option\n")
                finish (index + 1) 1 "?" none 0
        else
          finish nextIndex nextPlace (String.singleton c)
            (if s.dialect = .plain then some "" else none) 0
  | _ =>
    match s.dialect with
    | .rich => Act.tell "getopts: usage: getopts optstring name [arg ...]\n"
    | .plain => Act.complain "getopts: Usage: getopts optstring var [arg...]"
    pure 2

end Runbook.Shell.Options
