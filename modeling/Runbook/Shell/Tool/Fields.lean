import Runbook.Shell.Tool.Characters

/-!
# `Shell/Tool/Fields` — programs that take lines apart and put them together

`cut`, `paste`, `comm` and `join`.
-/

set_option autoImplicit false

namespace Runbook.Shell.Fields

/-! ## `cut` -/

/-- Numbers from one to another, or without an upper bound. -/
abbrev Span := Nat × Option Nat

/-- What is wrong with a list of numbers. -/
def spanFault (fields : Bool) (text : String) : String :=
  "invalid " ++ (if fields then "field value " else "byte/character position ") ++ curlyQuoted text

/-- The spans of a list. -/
def spansOf (fields : Bool) (list : String) : Except String (List Span) :=
  let zero := if fields then "fields are numbered from 1"
    else "byte/character positions are numbered from 1"
  let texts := (list.toList.map fun c => if c = ' ' ∨ c = '\t' then ',' else c).splitOn ','
  texts.mapM fun cs =>
    let (a, rest) := cs.span Char.isDigit
    let n := ofDigits 10 a
    match rest with
    | [] => if a.isEmpty ∨ n = 0 then .error zero else .ok (n, some n)
    | '-' :: b =>
      let (ds, more) := b.span Char.isDigit
      if !more.isEmpty then
        .error (if more.head? = some '-' then
            (if fields then "invalid field range" else "invalid byte or character range")
          else spanFault fields (String.ofList more))
      else if a.isEmpty ∧ ds.isEmpty then .error "invalid range with no endpoint: -"
      else if !a.isEmpty ∧ n = 0 then .error zero
      else if ds.isEmpty then .ok (n, none)
      else
        let m := ofDigits 10 ds
        let n := if a.isEmpty then 1 else n
        if m < n then .error "invalid decreasing range" else .ok (n, some m)
    | more => .error (spanFault fields (String.ofList (a ++ more)))

/-- A number is in one of some spans. -/
def inSpans (spans : List Span) (n : Nat) : Bool :=
  spans.any fun (a, b) => a ≤ n && b.all (n ≤ ·)

/-- Spans in order, those that overlap put together. -/
def merged (spans : List Span) : List Span :=
  let sorted := spans.mergeSort fun a b => decide (a.1 ≤ b.1)
  (sorted.foldl (fun (done : List Span) s =>
    match done with
    | (a, b) :: rest =>
      match b with
      | none => done
      | some m =>
        if s.1 ≤ m then
          (a, match s.2 with
            | none => none
            | some k => some (max m k)) :: rest
        else s :: done
    | [] => [s]) []).reverse

/-- What spans leave out, as spans. -/
def complemented (spans : List Span) : List Span :=
  let rec go : (from_ : Nat) → List Span → List Span
    | from_, [] => [(from_, none)]
    | from_, (a, b) :: rest =>
      (if from_ < a then [(from_, some (a - 1))] else []) ++
        (match b with
          | none => []
          | some m => go (m + 1) rest)
  go 1 (merged spans)

/-- The bytes of a line that spans take. -/
def cutBytes (spans : List Span) (between : Option (List Char)) (l : List Char) : List Char :=
  match between with
  | none => (l.zipIdx.filter fun (_, n) => inSpans spans (n + 1)).map (·.1)
  | some d =>
    let parts := spans.map fun (a, b) =>
      match b with
      | some m => (l.take m).drop (a - 1)
      | none => l.drop (a - 1)
    (parts.filter (!·.isEmpty)).intersperse d |>.flatten

/-- The program `cut`. -/
def cut : Tool := fun _ c =>
  c.withFlags
    { letters := "b:c:d:f:nsz"
      long := [("bytes", .value, "b"), ("characters", .value, "c"), ("delimiter", .value, "d"),
        ("fields", .value, "f"), ("only-delimited", .nothing, "s"),
        ("output-delimiter", .value, "o"), ("complement", .nothing, "k"),
        ("zero-terminated", .nothing, "z")] }
    1 fun p => do
    let lists := p.options.filter fun o => ["b", "c", "f"].contains o.1
    match lists with
    | [] => c.refuse 1 "you must specify a list of bytes, characters, or fields"
    | _ :: _ :: _ => c.refuse 1 "only one list may be specified"
    | [(key, list)] =>
      let fields := key == "f"
      if 1 < ((p.last? "d").getD "").length then
        c.refuse 1 "the delimiter must be a single character"
      else if !fields && p.has "d" then
        c.refuse 1 "an input delimiter may be specified only when operating on fields"
      else if !fields && p.has "s" then
        c.refuse 1 ("suppressing non-delimited lines makes sense\n" ++
          "\tonly when operating on fields")
      else
        match spansOf fields (list.getD "") with
        | .error f => c.refuse 1 f
        | .ok spans =>
          let spans := if p.has "k" then complemented spans else merged spans
          let mark := if p.has "z" then Char.ofNat 0 else '\n'
          let delimiter := match p.last? "d" with
            | some d => (d.toList.head?).getD (Char.ofNat 0)
            | none => '\t'
          let byLines := fields && delimiter == '\n' && mark == '\n'
          let one (l : List Char) : Option (List Char) :=
            if fields then
              let parts := Lines.splitFrom delimiter [] [] l
              match parts with
              | [_] => if p.has "s" then none else some l
              | _ =>
                let kept := (parts.zipIdx.filter fun (_, n) => inSpans spans (n + 1)).map (·.1)
                let between := ((p.last? "o").map (·.toList)).getD [delimiter]
                some (kept.intersperse between).flatten
            else some (cutBytes spans ((p.last? "o").map (·.toList)) (Characters.singleBytes l))
          let ok ← c.eachText p.operands c.blameFile fun _ cs =>
            let ls := (Lines.split mark cs).1
            -- If lines are the fields, the whole text is one line.
            let shown := if byLines then (one (ls.intersperse ['\n']).flatten).toList
              else ls.filterMap one
            Act.print (String.ofList (Lines.join mark shown))
          pure (if ok then 0 else 1)

/-! ## `paste` -/

/-- The delimiters in a list, each a character or nothing. -/
def delimiters : List Char → List (List Char)
  | '\\' :: c :: rest =>
    (match c with
      | 'n' => ['\n']
      | 't' => ['\t']
      | '0' => []
      | '\\' => ['\\']
      | c => [c]) :: delimiters rest
  | c :: rest => [c] :: delimiters rest
  | [] => []

/-- Items with the delimiters between them, used by turns. -/
def joinedBy (ds : List (List Char)) (items : List (List Char)) : List Char :=
  match items with
  | [] => []
  | first :: rest =>
    first ++ (rest.zipIdx.flatMap fun (x, n) => ds.getD (n % max 1 ds.length) [] ++ x)

/-- The lines of several files side by side; `fuel` bounds their number. -/
def pasteRows (ds : List (List Char)) : (fuel : Nat) → List (List (List Char)) → List (List Char)
  | 0, _ => []
  | fuel + 1, files =>
    if files.all (·.isEmpty) then []
    else joinedBy ds (files.map fun f => f.head?.getD []) :: pasteRows ds fuel (files.map (·.drop 1))

/-- Lines dealt out to so many files by turns. -/
def dealt (count : Nat) (ls : List (List Char)) : List (List (List Char)) :=
  (List.range count).map fun k => (ls.zipIdx.filter fun (_, n) => n % count == k).map (·.1)

/-- The program `paste`. -/
def paste : Tool := fun _ c =>
  c.withFlags
    { letters := "d:sz"
      long := [("delimiters", .value, "d"), ("serial", .nothing, "s"),
        ("zero-terminated", .nothing, "z")] }
    1 fun p => do
    let ds := match p.last? "d" with
      | some d => delimiters d.toList
      | none => [['\t']]
    if let some d := p.last? "d" then
      if (d.toList.reverse.takeWhile (· == '\\')).length % 2 == 1 then
        c.blame ("delimiter list ends with an unescaped backslash: " ++ d)
        return 1
    let ds := if ds.isEmpty then [[]] else ds
    let mark := if p.has "z" then Char.ofNat 0 else '\n'
    let operands := if p.operands.isEmpty then ["-"] else p.operands
    if p.has "s" then
      let ok ← c.eachText operands c.blameFile fun _ cs =>
        Act.print (String.ofList (joinedBy ds (Lines.split mark cs).1 ++ [mark]))
      pure (if ok then 0 else 1)
    else
      let inputs := operands.count "-"
      let shared ←
        if inputs = 0 then pure []
        else
          match ← Call.whole "-" with
          | .ok cs => pure (dealt inputs (Lines.split mark cs).1)
          | .error _ => pure []
      let mut files := #[]
      let mut rest := shared
      for o in operands do
        if o = "-" then
          files := files.push (rest.head?.getD [])
          rest := rest.drop 1
        else
          match ← Call.whole o with
          | .ok cs => files := files.push (Lines.split mark cs).1
          | .error err =>
            c.blameFile o err
            return 1
      let longest := files.foldl (fun n f => max n f.length) 0
      Act.print (String.ofList (Lines.join mark (pasteRows ds (longest + 1) files.toList)))
      pure 0

/-! ## `comm` -/

/-- Order of lines: by bytes. -/
def before (a b : List Char) : Bool := decide (String.ofList a < String.ofList b)

/-- Whether the order of lines is checked. -/
inductive OrderCheck where
  | always
  /-- Only when some line has had no partner. -/
  | afterUnpaired
  | never
  deriving DecidableEq

/-- What comes of two files whose lines are compared. -/
inductive Compared where
  /-- A line of the first file only (0), of the second only (1), or of both (2). -/
  | line (column : Nat) (text : List Char)
  /-- A file is not in order. -/
  | disordered (file : Nat)

/-- A line comes before the one above it, in a file that has not been told of; `rest` is what
follows the line above, from which the lines before that may be looked at once more at the end. -/
def disorderHere (check : OrderCheck) (unpaired : Bool) (told : List Nat) (file : Nat)
    (above : Option (List Char)) (line : List Char) (rest : List (List Char)) : Bool :=
  (check = .always || (check = .afterUnpaired && unpaired)) && !told.contains file &&
    match rest with
    | next :: _ => before next line
    | [] => above.any fun a => before line a

/-- The lines of two sorted files, one after another. `above` are the latest lines of both that are
done with, and `told` the files that are known not to be in order. If the order is always checked,
the first disorder is the end. -/
def together (check : OrderCheck) : (fuel : Nat) → (unpaired : Bool) → (told : List Nat) →
    (above : Option (List Char) × Option (List Char)) → List (List Char) → List (List Char) →
    List Compared
  | 0, _, _, _, _, _ => []
  | fuel + 1, unpaired, told, above, as, bs =>
    let go (column : Nat) (text : List Char) (steps : Bool × Bool) : List Compared :=
      let unpaired := unpaired || column != 2
      let wrong (file : Nat) (isStepped : Bool) (above : Option (List Char))
          (ls : List (List Char)) : Bool :=
        match isStepped, ls with
        | true, l :: rest => disorderHere check unpaired told file above l rest
        | _, _ => false
      let new := (if wrong 1 steps.1 above.1 as then [1] else []) ++
        (if wrong 2 steps.2 above.2 bs then [2] else [])
      .line column text :: new.map .disordered ++
        (if check = .always && !new.isEmpty then []
        else
          together check fuel unpaired (new ++ told)
            (if steps.1 then as.head? else above.1, if steps.2 then bs.head? else above.2)
            (if steps.1 then as.drop 1 else as) (if steps.2 then bs.drop 1 else bs))
    match as, bs with
    | [], [] => []
    | a :: _, [] => go 0 a (true, false)
    | [], b :: _ => go 1 b (false, true)
    | a :: _, b :: _ =>
      if before a b then go 0 a (true, false)
      else if before b a then go 1 b (false, true)
      else go 2 a (true, true)

/-- The program `comm`. -/
def comm : Tool := fun _ c =>
  c.withFlags
    { letters := "123z"
      long := [("check-order", .nothing, "check"), ("nocheck-order", .nothing, "nocheck"),
        ("output-delimiter", .value, "o"), ("total", .nothing, "total"),
        ("zero-terminated", .nothing, "z")] }
    1 fun p => do
    match p.operands with
    | [] => c.refuse 1 "missing operand"
    | [o] => c.refuse 1 ("missing operand after " ++ curlyQuoted o)
    | a :: b :: more =>
      match more with
      | x :: _ => c.extraOperand x 1
      | [] =>
        let mark := if p.has "z" then Char.ofNat 0 else '\n'
        let readLines (o : String) : Act (Option (List (List Char))) := do
          match ← Call.whole o with
          | .ok cs => pure (some (Lines.split mark cs).1)
          | .error err =>
            c.blameFile o err
            pure none
        match ← readLines a with
        | none => pure 1
        | some as =>
          match ← readLines b with
          | none => pure 1
          | some bs =>
            let check : OrderCheck :=
              if p.has "nocheck" then .never else if p.has "check" then .always else .afterUnpaired
            let all := together check (as.length + bs.length + 1) false [] (none, none) as bs
            let rows := all.filterMap fun
              | .line n l => some (n, l)
              | .disordered _ => none
            let wrong := all.filterMap fun
              | .disordered n => some n
              | .line .. => none
            let sep := ((p.last? "o").getD "\t").toList
            let hidden (n : Nat) : Bool := p.has (natText (n + 1))
            let lead (n : Nat) : List Char :=
              (((List.range n).filter fun k => !hidden k).map fun _ => sep).flatten
            let shown := rows.filterMap fun (n, l) => if hidden n then none else some (lead n ++ l)
            Act.print (String.ofList (Lines.join mark shown))
            if p.has "total" then
              let count (n : Nat) : List Char := (natText (rows.countP fun r => r.1 == n)).toList
              Act.print (String.ofList (count 0 ++ sep ++ count 1 ++ sep ++ count 2 ++ sep ++
                "total\n".toList))
            for n in wrong do
              c.blame ("file " ++ natText n ++ " is not in sorted order")
            if !wrong.isEmpty && check = .afterUnpaired then c.blame "input is not in sorted order"
            pure (if wrong.isEmpty then 0 else 1)

/-! ## `join` -/

/-- The fields of a line: between marks, or runs without blanks. -/
def fieldsOf (mark : Option Char) (l : List Char) : List (List Char) :=
  match mark with
  | some m => Lines.splitFrom m [] [] l
  | none =>
    (Lines.splitFrom ' ' [] [] (l.map fun c => if c = '\t' then ' ' else c)).filter (!·.isEmpty)

/-- A field of a joined line: the common one, or one of a file. -/
inductive Wanted where
  | common
  | field (file number : Nat)

/-- The number of a field in writing. -/
def fieldNumber (text : String) : Except String Nat :=
  match natText? text with
  | some (n + 1) => .ok (n + 1)
  | _ => .error ("invalid field number: " ++ curlyQuoted text)

/-- The fields of a format. -/
def formatOf (texts : List String) : Except String (List Wanted) :=
  let parts := texts.flatMap fun t =>
    (t.toList.map fun c => if c = ' ' then ',' else c).splitOn ',' |>.filter (!·.isEmpty)
  parts.mapM fun cs =>
    let whole := curlyQuoted (String.ofList cs)
    match cs with
    | ['0'] => .ok .common
    | f :: more =>
      if f = '1' ∨ f = '2' then
        match more with
        | '.' :: ds => (fieldNumber (String.ofList ds)).map fun n => .field (f.toNat - 48) n
        | _ => .error ("invalid field specifier: " ++ whole)
      else if f = '0' then .error ("invalid field specifier: " ++ whole)
      else .error ("invalid file number in field spec: " ++ whole)
    | [] => .ok .common

/-- What is wrong with the options of `join`, in the order in which they are given. -/
def joinFault? (p : Parsed) : Option String :=
  p.options.findSome? fun (key, value) =>
    let v := value.getD ""
    let fault (r : Except String Unit) : Option String := match r with
      | .error e => some e
      | .ok () => none
    match key with
    | "1" | "2" | "j" => fault ((fieldNumber v).map fun _ => ())
    | "a" | "v" =>
      fault (if v = "1" ∨ v = "2" then .ok () else .error ("invalid field number: " ++ curlyQuoted v))
    | "o" => if v = "auto" then none else fault ((formatOf [v]).map fun _ => ())
    | "t" =>
      if 1 < v.length && v != "\\0" then some ("multi-character tab " ++ curlyQuoted v) else none
    | _ => none

/-- A line with its fields and the field that is compared. -/
structure Row where
  fields : List (List Char)
  key : List Char
  line : List Char

/-- Rows with the same key as the first one, and the others. -/
def sameKey (same : List Char → List Char → Bool) : List Row → List Row × List Row
  | [] => ([], [])
  | r :: rest => (r :: rest).span fun x => same x.key r.key

/-- The joined rows of two sorted files: rows of both, or of one without a partner. -/
def joinRows (less same : List Char → List Char → Bool) : (fuel : Nat) → List Row → List Row →
    List (Option Row × Option Row)
  | 0, _, _ => []
  | _ + 1, [], bs => bs.map fun b => (none, some b)
  | _ + 1, as, [] => as.map fun a => (some a, none)
  | fuel + 1, a :: as, b :: bs =>
    if same a.key b.key then
      let (xs, as') := sameKey same (a :: as)
      let (ys, bs') := sameKey same (b :: bs)
      (xs.flatMap fun x => ys.map fun y => (some x, some y)) ++ joinRows less same fuel as' bs'
    else if less a.key b.key then (some a, none) :: joinRows less same fuel as (b :: bs)
    else (none, some b) :: joinRows less same fuel (a :: as) bs

/-- The program `join`. -/
def join : Tool := fun _ c =>
  c.withFlags
    { letters := "a:e:i1:2:j:o:t:v:z"
      long := [("ignore-case", .nothing, "i"), ("header", .nothing, "header"),
        ("check-order", .nothing, "check"), ("nocheck-order", .nothing, "nocheck"),
        ("zero-terminated", .nothing, "z")] }
    1 fun p => do
    match p.operands with
    | [] => c.refuse 1 "missing operand"
    | [o] => c.refuse 1 ("missing operand after " ++ curlyQuoted o)
    | _ :: _ :: x :: _ => c.extraOperand x 1
    | [a, b] =>
      if let some fault := joinFault? p then
        c.blame fault
        return 1
      let mark := (p.last? "t").map fun t => match t.toList with
        | [] => '\n'
        | [x] => x
        | _ => Char.ofNat 0
      let place (key : String) : Nat :=
        (((p.last? key).orElse fun _ => p.last? "j").bind natText?).getD 1
      let fold (cs : List Char) : List Char := if p.has "i" then cs.map Char.toLower else cs
      let same (x y : List Char) : Bool := fold x == fold y
      let less (x y : List Char) : Bool := before (fold x) (fold y)
      let readRows (o : String) (n : Nat) : Act (Option (List Row)) := do
        match ← Call.whole o with
        | .ok cs =>
          pure (some ((Lines.split '\n' cs).1.map fun l =>
            let fs := fieldsOf mark l
            ⟨fs, fs.getD (n - 1) [], l⟩))
        | .error err =>
          c.blameFile o err
          pure none
      match ← readRows a (place "1") with
      | none => pure 1
      | some as =>
        match ← readRows b (place "2") with
        | none => pure 1
        | some bs =>
          let header := p.has "header"
          let (heads, as', bs') :=
            if header then
              (match as.head?, bs.head? with
                | some x, some y => [(some x, some y)]
                | _, _ => [], as.drop 1, bs.drop 1)
            else ([], as, bs)
          let rows := heads ++ joinRows less same (as.length + bs.length + 1) as' bs'
          let empty := ((p.last? "e").getD "").toList
          let sep := [mark.getD ' ']
          let format := (formatOf ((p.all "o").filter (· != "auto"))).toOption
          let count (rs : List Row) (place : Nat) : List Nat :=
            ((List.range ((rs.head?.map (·.fields.length)).getD 0)).map (· + 1)).filter (· != place)
          let format := if (p.all "o").contains "auto" then
              some (Wanted.common :: (count as (place "1")).map (.field 1) ++
                (count bs (place "2")).map (.field 2))
            else format
          let alone (n : String) : Bool := (p.all "a").contains n || (p.all "v").contains n
          let others (r : Row) (n : Nat) : List (List Char) :=
            (r.fields.zipIdx.filter fun (_, k) => k + 1 != n).map (·.1)
          let filled (cs : List Char) : List Char := if cs.isEmpty then empty else cs
          let text (x y : Option Row) : List Char :=
            match format with
            | some (w :: ws) =>
              let one : Wanted → List Char
                | .common => ((x.orElse fun _ => y).map (·.key)).getD []
                | .field 1 n => (x.map fun r => filled (r.fields.getD (n - 1) [])).getD empty
                | .field _ n => (y.map fun r => filled (r.fields.getD (n - 1) [])).getD empty
              ((w :: ws).map one).intersperse sep |>.flatten
            | _ =>
              let key := ((x.orElse fun _ => y).map (·.key)).getD []
              let fs := [key] ++ ((x.map fun r => others r (place "1")).getD []) ++
                ((y.map fun r => others r (place "2")).getD [])
              (fs.intersperse sep).flatten
          let shown := rows.filterMap fun (x, y) =>
            match x, y with
            | some _, some _ => if (p.all "v").isEmpty then some (text x y) else none
            | some _, none => if alone "1" then some (text x y) else none
            | none, some _ => if alone "2" then some (text x y) else none
            | none, none => none
          Act.print (Lines.text shown)
          let check (o : String) (rs : List Row) (skipped : Nat) : Act Bool := do
            let rec find : Nat → List Row → Option (Nat × List Char)
              | n, x :: y :: rest =>
                if less y.key x.key then some (n + 1, y.line) else find (n + 1) (y :: rest)
              | _, _ => none
            match find (1 + skipped) rs with
            | some (n, l) =>
              c.blame (o ++ ":" ++ natText n ++ ": is not sorted: " ++ String.ofList l)
              pure true
            | none => pure false
          let unpaired := rows.any fun (x, y) => x.isNone || y.isNone
          if p.has "nocheck" || (!unpaired && !p.has "check") then pure 0
          else
            let skipped := if header then 1 else 0
            let one ← check a as' skipped
            let two ← check b bs' skipped
            if one || two then
              c.blame "input is not in sorted order"
              pure 1
            else pure 0

end Runbook.Shell.Fields
