import Runbook.Shell.Tool.Page.Sheet

/-!
# `Shell/Tool/Page/Command` — the program `pr`

What is asked for, in the order in which it is, becomes the look of the pages.
-/

set_option autoImplicit false

namespace Runbook.Shell.Page

/-- What is asked for. -/
structure Asked where
  look : Style := {}
  firstPage : Option Nat := none
  length : Nat := 66
  number : Option Nat := none
  across : Bool := false
  joins : Bool := false
  /-- A separator, where it was asked for in the strong way. -/
  strong : Bool := false
  /-- A separator or a width was asked for in the weak way. -/
  weak : Bool := false
  weakSeparator : Bool := false
  weakWidth : Bool := false
  /-- The file that the columns numbers were given for is not told if it is missing. -/
  quiet : Bool := false
  /-- The digits of a number of columns. -/
  digits : String := ""
  operands : List String := []

/-- What is wrong with what is asked for, and whether more is told about the program. -/
structure Fault where
  text : String
  hints : Bool := false

/-- A number with bounds, or what is wrong with it. -/
def bounded (what text : String) (least most : Int) : Except Fault Int :=
  match decimalText? text with
  | none => .error { text := what ++ ": " ++ curlyQuoted text }
  | some n =>
    let fault (why : String) : Except Fault Int :=
      .error { text := what ++ ": " ++ curlyQuoted text ++ ": " ++ why }
    if 1073741823 < n && most < n || n < -1073741824 && n < least then
      fault "Value too large for defined data type"
    else if n < least || most < n then fault "Numerical result out of range"
    else .ok n

/-- The greatest number of an option. -/
def greatest : Int := 2147483647

/-- A character and a number, either of which may be missing. -/
def markAndNumber (option : String) (mark : Char) (number : Nat) (text : String) :
    Except Fault (Char × Nat) :=
  match text.toList with
  | [] => .error { text := "'-" ++ option ++ "': Invalid argument: " ++ curlyQuoted text, hints := true }
  | c :: rest =>
    let (mark, ds) := if c.isDigit then (mark, c :: rest) else (c, rest)
    let wrong (why : String) : Except Fault (Char × Nat) :=
      .error { text := "'-" ++ option ++ "' extra characters or invalid number in the argument: " ++
                 curlyQuoted (String.ofList ds) ++ why, hints := true }
    if ds.isEmpty then .ok (mark, number)
    else
      match decimalText? (String.ofList ds) with
      | some n =>
        if n ≤ 0 then wrong ""
        else if greatest < n then wrong ": Value too large for defined data type"
        else .ok (mark, n.toNat)
      | none => wrong ""

/-- Pages from one on, up to one. -/
structure Pages where
  first : Nat
  last : Option Nat

/-- The pages that a text tells, if it tells some; `option` is what it is given for. -/
def pagesOf? (option text : String) : Except Fault (Option Pages) :=
  let number (cs : List Char) : Option (Nat × List Char) :=
    match takeDecimal? cs with
    | some (n, rest) =>
      if (cs.dropWhile isNumberSpace).head? = some '-' then none else some (n.toNat, rest)
    | none => none
  let greatestCount := 18446744073709551615
  let what := option ++ " argument " ++ curlyQuoted text
  let wrong : Except Fault (Option Pages) := .error { text := "invalid " ++ what }
  let large : Except Fault (Option Pages) := .error { text := what ++ " too large" }
  match number text.toList with
  | none => wrong
  | some (first, rest) =>
    if greatestCount < first then large
    else if first = 0 then .ok none
    else
      match rest with
      | [] => .ok (some ⟨first, none⟩)
      | ':' :: more =>
        match number more with
        | none => wrong
        | some (last, []) =>
          if greatestCount < last then large
          else if last < first then .ok none
          else .ok (some ⟨first, some last⟩)
        | some _ => .error { text := "invalid suffix in " ++ what }
      | _ => .ok none

namespace Asked

/-- A number of columns is asked for. -/
def withColumns (a : Asked) (text : String) : Except Fault Asked := do
  let n ← bounded "invalid number of columns" text 1 greatest
  .ok { a with number := some n.toNat }

/-- An option besides, with its value. -/
def add (a : Asked) (key : String) (value : Option String) : Except Fault Asked := do
  let v := value.getD ""
  let look := a.look
  match key with
  | "pages" =>
    match ← pagesOf? "--pages" v with
    | some p => .ok { a with firstPage := some p.first, look := { look with lastPage := p.last } }
    | none => .error { text := "invalid page range " ++ curlyQuoted v }
  | "columns" => (a.withColumns v).map fun a => { a with digits := "" }
  | "a" => .ok { a with across := true }
  | "c" => .ok { a with look := { look with hats := true } }
  | "d" => .ok { a with look := { look with doubled := true } }
  | "D" => .ok { a with look := { look with date := v } }
  | "e" =>
    let (mark, step) ← match value with
      | some v => markAndNumber "e" look.input.mark look.input.step v
      | none => .ok (look.input.mark, look.input.step)
    .ok { a with look := { look with input := ⟨mark, step⟩, expands := true } }
  | "f" | "F" => .ok { a with look := { look with feeds := true } }
  | "h" => .ok { a with look := { look with title := some v } }
  | "i" =>
    let (mark, step) ← match value with
      | some v => markAndNumber "i" look.output.mark look.output.step v
      | none => .ok (look.output.mark, look.output.step)
    .ok { a with look := { look with output := ⟨mark, step⟩, shrinks := true } }
  | "J" => .ok { a with joins := true }
  | "l" =>
    let n ← bounded "'-l PAGE_LENGTH' invalid number of lines" v 1 greatest
    .ok { a with length := n.toNat }
  | "m" => .ok { a with look := { look with beside := true } }
  | "n" =>
    let old := look.numbers.getD {}
    let (mark, digits) ← match value with
      | some v => markAndNumber "n" old.mark old.digits v
      | none => .ok (old.mark, old.digits)
    .ok { a with look := { look with numbers := some ⟨mark, digits⟩ } }
  | "N" =>
    let n ← bounded "'-N NUMBER' invalid starting line number" v (-greatest - 1) greatest
    .ok { a with look := { look with firstLine := some n } }
  | "o" =>
    let n ← bounded "'-o MARGIN' invalid line offset" v 0 greatest
    .ok { a with look := { look with margin := n.toNat } }
  | "r" => .ok { a with quiet := true }
  | "s" =>
    let separator := if a.strong then look.separator else (value.map String.toList).getD look.separator
    .ok { a with weak := true, weakSeparator := true, look := { look with separator := separator } }
  | "S" =>
    .ok { a with weakSeparator := false, strong := true, look := { look with separator := v.toList } }
  | "t" => .ok { a with look := { look with headed := false, keepsFeeds := true } }
  | "T" => .ok { a with look := { look with headed := false, keepsFeeds := false } }
  | "v" => .ok { a with look := { look with octal := true } }
  | "w" =>
    let n ← bounded "'-w PAGE_WIDTH' invalid number of characters" v 1 greatest
    .ok { a with weak := true, weakWidth := true
                 look := { look with full := if look.cuts then look.full else n.toNat } }
  | "W" =>
    let n ← bounded "'-W PAGE_WIDTH' invalid number of characters" v 1 greatest
    .ok { a with weakWidth := false, look := { look with full := n.toNat, cuts := true } }
  | _ => .ok a

/-- An operand besides: one that tells pages is none, unless pages were told before. -/
def addOperand (a : Asked) (o : String) : Except Fault Asked := do
  let kept := { a with operands := o :: a.operands }
  match o.toList, a.firstPage with
  | '+' :: cs, none =>
    match ← pagesOf? "+" (String.ofList cs) with
    | some p => .ok { a with firstPage := some p.first, look := { a.look with lastPage := p.last } }
    | none => .ok kept
  | _, _ => .ok kept

/-- All that was given by words, in order. The digits of a number of columns are joined as long as
nothing comes between; `joined` tells that nothing has. -/
def addAll (joined : Bool) (a : Asked) : List Flags.Given → Except Fault Asked
  | [] => if a.digits = "" then .ok a else a.withColumns a.digits
  | .option key value :: rest => do
    if key.toList.all Char.isDigit then
      addAll true { a with digits := if joined then a.digits ++ key else key } rest
    else
      let a ← a.add key value
      addAll false a rest
  | .operand o :: rest => do
    let a ← a.addOperand o
    addAll joined a rest
  | .bare o :: rest => addAll joined { a with operands := o :: a.operands } rest

/-- What weak wishes come to: a width is a matter of columns only, and a separator without a width
gives up that columns are aligned. -/
def settled (a : Asked) : Asked :=
  let several := a.look.beside || a.number.isSome
  if !a.weak then a
  else if a.weakWidth then
    if several then
      { a with look := { a.look with cuts := true }, strong := a.strong || a.weakSeparator }
    else { a with joins := true }
  else if !a.strong && a.weakSeparator && several then
    if a.look.cuts then { a with strong := true }
    else { a with joins := true, strong := !a.look.separator.isEmpty }
  else a

/-- How the pages of so many texts look, if there is room for the columns. -/
def style? (a : Asked) (texts : Nat) : Option Style :=
  let s := a.look
  let beside := s.beside && 0 < texts
  let columns := if beside then texts else a.number.getD 1
  let short := a.length ≤ 10
  let headed := s.headed && !short
  let body := if headed then a.length - 10 else a.length
  let s :=
    { s with
      columns := columns, beside := beside, headed := headed
      keepsFeeds := s.keepsFeeds || short
      body := if s.doubled then max 1 (body / 2) else body
      firstPage := a.firstPage.getD 1 }
  let s :=
    if columns ≤ 1 then { s with separates := a.strong }
    else
      let separator :=
        if !a.strong then if a.joins then ['\t'] else [' ']
        else if !a.joins && s.separator == ['\t'] then [' ']
        else s.separator
      { s with
        stores := !a.across && !beside, separator := separator, separates := true, cuts := true
        expands := s.expands || separator != ['\t'], shrinks := true }
  let s := if a.joins then { s with cuts := false } else s
  let room : Int := s.full - (if beside then s.numberWidth else 0 : Nat) -
    ((columns : Int) - 1) * s.separator.length
  let width := Int.tdiv room columns
  if width < 1 then none else some { s with width := width.toNat }

end Asked

/-- A text that is laid out. -/
structure Source where
  name : String
  text : List Char
  /-- The time of its latest change, if it is a file. -/
  stamp : Option Nat

/-- The texts of operands; the input is the same wherever it is named. Those that cannot be read are
told. It gives whether more would come. -/
def sourcesOf (c : Call) (quiet : Bool) (operands : List String) :
    Act (Except Unit (List Source × Bool × Bool)) := do
  let mut found : List Source := []
  let mut cut := false
  let mut ok := true
  for o in operands do
    if o = "-" && found.any (·.name == "-") then found := { name := o, text := [], stamp := none } :: found
    else
      match ← Call.fetch o with
      | .ok (cs, more) =>
        let d ← Act.disk
        let here := (← Act.shell).here
        let stamp := if o = "-" then none else (d.find here o).toOption.map (·.2.stamp)
        found := ⟨o, Characters.singleBytes cs, stamp⟩ :: found
        cut := cut || more
      | .error err =>
        ok := false
        if err = Errno.isFolder then
          c.blameFile o err
          return .error ()
        if !quiet then c.blameFile o err
  pure (.ok (found.reverse, cut, ok))

/-- Lays texts out, and prints the pages. -/
def lay (c : Call) (s : Style) (z : Date.Zone) (sources : List Source) : Act Unit := do
  let now ← Date.now
  let first := sources.head?.filter fun _ => !s.beside
  let moment := ((first.bind (·.stamp)).map Date.ofStamp).getD now
  let date := Date.written z moment.epoch moment.nano s.date
  let title := s.title.getD (((first.filter fun f => f.name != "-").map (·.name)).getD "")
  let head := Filling.putHead s date title
  let places := if s.beside then
      sources.zipIdx.map fun (f, n) =>
        if f.name == "-" then (sources.findIdx? (·.name == "-")).getD n else n
    else List.replicate s.columns 0
  let size := sources.foldl (fun n f => n + f.text.length) 0
  let fuel := size + 2 * s.columns + 10
  let sheet : Sheet :=
    { texts := (sources.map (·.text)).toArray, columns := s.layOut places
      ready := if s.beside then sources.length else 1, number := s.firstLine.getD 1 }
  let (short, sheet) := (if 1 < s.firstPage then Filling.skipPages s s.firstPage fuel 1
    else pure none : Filling (Option Nat)).run sheet
  match short with
  | some pages =>
    c.blame ("starting page number " ++ natText s.firstPage ++ " exceeds page count " ++
      natText pages)
  | none =>
    let (_, sheet) := (Filling.putPages s head fuel).run { sheet with page := s.firstPage }
    Act.print (String.ofList (Raw.joined sheet.done.reverse))

/-- The options that `pr` knows. -/
def flags : Flags where
  letters := "0123456789D:FJN:S::TW:abcde::fh:i::l:mn::o:rs::tvw:"
  long := [("pages", .value, "pages"), ("columns", .value, "columns"), ("across", .nothing, "a"),
    ("show-control-chars", .nothing, "c"), ("double-space", .nothing, "d"),
    ("date-format", .value, "D"), ("expand-tabs", .maybe, "e"), ("form-feed", .nothing, "f"),
    ("header", .value, "h"), ("output-tabs", .maybe, "i"), ("join-lines", .nothing, "J"),
    ("length", .value, "l"), ("merge", .nothing, "m"), ("number-lines", .maybe, "n"),
    ("first-line-number", .value, "N"), ("indent", .value, "o"),
    ("no-file-warnings", .nothing, "r"), ("separator", .maybe, "s"), ("sep-string", .maybe, "S"),
    ("omit-header", .nothing, "t"), ("omit-pagination", .nothing, "T"),
    ("show-nonprinting", .nothing, "v"), ("width", .value, "w"), ("page-width", .value, "W")]

/-- The program `pr`. -/
def pr : Tool := fun _ c => do
  let refuse (text : String) : Act Nat := do
    c.blame text
    pure 1
  let asked := match flags.ordered c.args with
    | .ok given => Asked.addAll false {} given
    | .error text => .error { text := text, hints := true }
  match asked with
  | .error f => if f.hints then c.refuse 1 f.text else refuse f.text
  | .ok a =>
    if a.look.beside && a.number.isSome then
      refuse "cannot specify number of columns when printing in parallel"
    else if a.look.beside && a.across then
      refuse "cannot specify both printing across and printing in parallel"
    else
      let a := a.settled
      let operands := a.operands.reverse
      let z ← Date.zone false
      let groups := if operands.isEmpty then [["-"]] else if a.look.beside then [operands]
        else operands.map fun o => [o]
      let mut status := 0
      for group in groups do
        match a.style? (if operands.isEmpty then 0 else group.length) with
        | none => return ← refuse "page width too narrow"
        | some s =>
          match ← sourcesOf c a.quiet group with
          | .error () => return 1
          | .ok (sources, cut, ok) =>
            if !ok then status := 1
            if !sources.isEmpty then lay c s z sources
            if cut then throw Flow.starved
      pure status

end Runbook.Shell.Page
