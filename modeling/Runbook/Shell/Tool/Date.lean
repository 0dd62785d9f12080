import Runbook.Shell.Text.Calendar
import Runbook.Shell.Tool.Lines

/-!
# `Shell/Tool/Date` — the time

The present moment is the time of the latest change of a file. `date` tells moments in many forms.
-/

set_option autoImplicit false

namespace Runbook.Shell.Date

/-- The moment that a time of change stands for. -/
def ofStamp (stamp : Nat) : Moment := Moment.ofEpoch (stamp / 1000000000 : Nat) (stamp % 1000000000)

/-- The time of change that stands for a moment. -/
def stampOf (epoch : Int) (nano : Nat) : Nat := (epoch * 1000000000 + nano).toNat

/-- The present moment. -/
def now : Act Moment := do pure (ofStamp (← Act.disk).clock)

/-- A zone: its name, and how many seconds it is ahead of universal time. -/
abbrev Zone := String × Int

/-- The zone that a text names by letters and a distance, which is counted to the west. -/
def zoneOf (text : String) : Zone :=
  let (name, rest) := text.toList.span Char.isAlpha
  let (sign, rest) : Int × List Char := match rest with
    | '-' :: more => (1, more)
    | '+' :: more => (-1, more)
    | _ => (-1, rest)
  let (hours, rest) := rest.span Char.isDigit
  let minutes := match rest with
    | ':' :: more => ofDigits 10 (more.takeWhile Char.isDigit)
    | _ => 0
  if name.isEmpty then ("UTC", 0)
  else if hours.isEmpty then (if text = "UTC" ∨ text = "GMT" then text else "UTC", 0)
  else (String.ofList name, sign * (ofDigits 10 hours * 3600 + minutes * 60 : Nat))

/-- The zone that is in use. -/
def zone (universal : Bool) : Act Zone := do
  if universal then pure ("UTC", 0)
  else
    match ← Act.textOf? "TZ" with
    | some text => pure (zoneOf text)
    | none => pure ("UTC", 0)

/-- A distance from universal time in writing, with so many colons before the sign for it. -/
def offsetText (ahead : Int) (colons : Nat) : String :=
  let sign := if ahead < 0 then "-" else "+"
  let n := ahead.natAbs
  let two (n : Nat) : String := String.ofList (padLeft 2 '0' (natText n).toList)
  let h := two (n / 3600)
  let m := two (n / 60 % 60)
  match colons with
  | 0 => sign ++ h ++ m
  | 1 => sign ++ h ++ ":" ++ m
  | 2 => sign ++ h ++ ":" ++ m ++ ":" ++ two (n % 60)
  | _ => sign ++ h

/-- A format in which the signs for the zone and for the count of seconds are spelled out. -/
def spelled (z : Zone) (epoch : Int) : (fuel : Nat) → List Char → List Char
  | 0, _ => []
  | _ + 1, [] => []
  | fuel + 1, '%' :: rest =>
    let (flags, behind) := rest.span fun c => "-_0^#+:".toList.contains c || c.isDigit
    let colons := (flags.filter (· == ':')).length
    match behind with
    | 'Z' :: more =>
      (if flags.contains '#' then z.1.toLower else z.1).toList ++ spelled z epoch fuel more
    | 'z' :: more => (offsetText z.2 colons).toList ++ spelled z epoch fuel more
    | 's' :: more => (intText epoch).toList ++ spelled z epoch fuel more
    | '+' :: more => "%+".toList ++ spelled z epoch fuel more
    | c :: more => '%' :: flags ++ c :: spelled z epoch fuel more
    | [] => '%' :: flags
  | fuel + 1, c :: rest => c :: spelled z epoch fuel rest

/-- A moment in a format, in a zone. -/
def written (z : Zone) (epoch : Int) (nano : Nat) (format : String) : String :=
  let t := Moment.ofEpoch (epoch + z.2) nano
  t.written (String.ofList (spelled z epoch (format.length + 1) format.toList))

/-- The usual format. -/
def usual : String := "%a %b %e %H:%M:%S %Z %Y"

/-- The forms of the international format, by how exact they are. -/
def isoForms : List (String × String) :=
  [("hours", "%Y-%m-%dT%H%:z"), ("minutes", "%Y-%m-%dT%H:%M%:z"), ("date", "%Y-%m-%d"),
    ("seconds", "%Y-%m-%dT%H:%M:%S%:z"), ("ns", "%Y-%m-%dT%H:%M:%S,%N%:z")]

/-- The forms of the format for the network, by how exact they are. -/
def netForms : List (String × String) :=
  [("date", "%Y-%m-%d"), ("seconds", "%Y-%m-%d %H:%M:%S%:z"), ("ns", "%Y-%m-%d %H:%M:%S.%N%:z")]

/-- The form that a word chooses, which may be cut short. -/
def formOf? (forms : List (String × String)) (w : String) : Option String :=
  match forms.lookup w with
  | some f => some f
  | none =>
    match forms.filter fun f => f.1.startsWith w with
    | [f] => some f.2
    | _ => none

/-- The program `date`. -/
def date : Tool := fun _ c =>
  c.withFlags
    { letters := "d:f:I::r:Rs:u"
      long := [("date", .value, "d"), ("file", .value, "f"), ("iso-8601", .maybe, "I"),
        ("reference", .value, "r"), ("rfc-email", .nothing, "R"), ("rfc-822", .nothing, "R"),
        ("rfc-2822", .nothing, "R"), ("rfc-3339", .value, "rfc-3339"), ("set", .value, "s"),
        ("utc", .nothing, "u"), ("universal", .nothing, "u"), ("uct", .nothing, "u"),
        ("debug", .nothing, "debug"), ("resolution", .nothing, "res")] }
    1 fun p => do
    let z ← zone (p.has "u")
    let present ← now
    let wrongForm (option text : String) (forms : List (String × String)) : Act Nat := do
      c.refuseWord 1 ("--" ++ option) (forms.map fun f => [f.1]) text
    let choices := p.options.filter fun o => ["I", "R", "rfc-3339"].contains o.1
    let form : Except (String × String × List (String × String)) (Option String) :=
      match choices.getLast? with
      | some ("I", v) =>
        let w := v.getD "date"
        match formOf? isoForms w with
        | some f => .ok (some f)
        | none => .error ("iso-8601", w, isoForms)
      | some ("rfc-3339", v) =>
        let w := v.getD ""
        match formOf? netForms w with
        | some f => .ok (some f)
        | none => .error ("rfc-3339", w, netForms)
      | some _ => .ok (some "%a, %d %b %Y %H:%M:%S %z")
      | none => .ok none
    match form with
    | .error (option, w, forms) => wrongForm option w forms
    | .ok form =>
      let sources := p.options.filter fun o => ["d", "f", "r"].contains o.1
      let given := !sources.isEmpty || p.has "s"
      if 1 < choices.length then
        c.blame "multiple output formats specified"
        pure 1
      else if 1 < ((sources.map (·.1)).eraseDups).length then
        c.refuse 1 "the options to specify dates for printing are mutually exclusive"
      else
        let withFormat (form : String) : Act Nat := do
          let tell (t : Int × Nat) : Act Unit := Act.print (written z t.1 t.2 form ++ "\n")
          match sources.getLast? with
          | some ("d", v) =>
            let text := v.getD ""
            match Calendar.read? present z.2 text with
            | some t =>
              tell t
              pure 0
            | none =>
              c.blame ("invalid date " ++ curlyQuoted text)
              pure 1
          | some ("r", v) =>
            let path := v.getD ""
            match (← Act.disk).find (← Act.shell).here path with
            | .ok (_, n) =>
              let t := ofStamp n.stamp
              tell (t.epoch, t.nano)
              pure 0
            | .error err =>
              c.blameFile path err
              pure 1
          | some (_, v) =>
            let path := v.getD "-"
            match ← Call.whole path with
            | .error err =>
              c.blameFile path err
              pure 1
            | .ok cs =>
              let mut ok := true
              for l in (Lines.split '\n' cs).1 do
                match Calendar.read? present z.2 (String.ofList l) with
                | some t => tell t
                | none =>
                  c.blame ("invalid date " ++ curlyQuoted (String.ofList l))
                  ok := false
              pure (if ok then 0 else 1)
          | none =>
            match p.last? "s" with
            | some text =>
              match Calendar.read? present z.2 text with
              | some t =>
                c.blame "cannot set date: Operation not permitted"
                tell t
                pure 1
              | none =>
                c.blame ("invalid date " ++ curlyQuoted text)
                pure 1
            | none =>
              tell (present.epoch, present.nano)
              pure 0
        match p.operands with
        | _ :: extra :: _ => c.refuse 1 ("extra operand " ++ curlyQuoted extra)
        | [o] =>
          match o.toList with
          | '+' :: rest =>
            if form.isSome then
              c.blame "multiple output formats specified"
              pure 1
            else withFormat (String.ofList rest)
          | _ =>
            if given then
              c.refuse 1 ("the argument " ++ curlyQuoted o ++ " lacks a leading '+';\n" ++
                "when using an option to specify date(s), any non-option\n" ++
                "argument must be a format string beginning with '+'")
            else
              c.blame ("invalid date " ++ curlyQuoted o)
              pure 1
        | [] => withFormat (form.getD usual)

end Runbook.Shell.Date
