import Runbook.Datum.Basic
import Runbook.Text.Cut
import Runbook.Text.Utf8

/-!
# `Datum/Json` — reading and writing JSON

Reading is strict: one value, nothing around it but white space, no comments, no trailing commas, no
leading zeros, no raw control characters, no half of a surrogate pair. Beyond the standard it takes
the names `NaN`, `Infinity` and `-Infinity` as numbers. Containers that hold something may be nested
`maxDepth` deep; the reader is a structural recursion on the depth that is left. Every reader
takes at least one character (`Takes`), so the loops over items and fields end with the text.

Writing puts every item and field on a line of its own, indented by two blanks for each level, and
escapes what the standard demands. The two layouts that the library writes differ in one point
(`Layout.ascii`): the tasks file keeps characters beyond ASCII, the machine output escapes them.
-/

set_option autoImplicit false

namespace Runbook.Json

open Runbook.Text

/-! ## Reading -/

/-- How deep containers that hold something may be nested. -/
def maxDepth : Nat := 200

/-- A function that takes something off the front of a text takes at least one character. -/
def Takes {α : Type} (read : List Char → Option (α × List Char)) : Prop :=
  ∀ cs a rest, read cs = some (a, rest) → rest.length < cs.length

/-- JSON's white space. -/
def isSpace (c : Char) : Bool := c == ' ' || c == '\t' || c == '\n' || c == '\r'

/-- The text behind its leading white space. -/
def skipSpace (cs : List Char) : List Char := cs.dropWhile isSpace

theorem length_skipSpace (cs : List Char) : (skipSpace cs).length ≤ cs.length :=
  (List.dropWhile_suffix isSpace).length_le

theorem length_after? {lead cs rest : List Char} (h : after? lead cs = some rest) :
    cs.length = lead.length + rest.length := by
  rw [after?_eq_some_iff.1 h, List.length_append]

/-! ### Strings -/

/-- The value of a hexadecimal digit. -/
def hexValue? (c : Char) : Option Nat :=
  if '0' ≤ c ∧ c ≤ '9' then some (c.toNat - 48)
  else if 'a' ≤ c ∧ c ≤ 'f' then some (c.toNat - 87)
  else if 'A' ≤ c ∧ c ≤ 'F' then some (c.toNat - 55)
  else none

/-- Four hexadecimal digits. -/
def hex4 : List Char → Option (Nat × List Char)
  | a :: b :: c :: d :: rest =>
    match hexValue? a, hexValue? b, hexValue? c, hexValue? d with
    | some a, some b, some c, some d => some (((a * 16 + b) * 16 + c) * 16 + d, rest)
    | _, _, _, _ => none
  | _ => none

theorem hex4_takes : Takes hex4 := by
  intro cs n rest h
  unfold hex4 at h
  split at h
  · split at h
    · simp only [Option.some.injEq, Prod.mk.injEq] at h
      simp only [← h.2, List.length_cons]
      omega
    · simp at h
  · simp at h

/-- The character that an escape with hexadecimal digits stands for. A character beyond the first
65,536 takes two such escapes; neither half may stand alone. -/
def hexEscape (cs : List Char) : Option (Char × List Char) :=
  match hex4 cs with
  | none => none
  | some (high, rest) =>
    if 0xD800 ≤ high ∧ high < 0xDC00 then
      match after? "\\u".toList rest with
      | none => none
      | some rest =>
        match hex4 rest with
        | none => none
        | some (low, rest) =>
          if 0xDC00 ≤ low ∧ low < 0xE000 then
            some (Char.ofNat (0x10000 + (high - 0xD800) * 0x400 + (low - 0xDC00)), rest)
          else none
    else if 0xDC00 ≤ high ∧ high < 0xE000 then none
    else some (Char.ofNat high, rest)

theorem hexEscape_takes : Takes hexEscape := by
  intro cs c final h
  unfold hexEscape at h
  split at h
  · simp at h
  · next high rest hr =>
    have h1 := hex4_takes _ _ _ hr
    split at h
    · split at h
      · simp at h
      · next mid hm =>
        have h2 := length_after? hm
        split at h
        · simp at h
        · next low last hl =>
          have h3 := hex4_takes _ _ _ hl
          split at h
          · simp only [Option.some.injEq, Prod.mk.injEq] at h
            rw [← h.2]
            omega
          · simp at h
    · split at h
      · simp at h
      · simp only [Option.some.injEq, Prod.mk.injEq] at h
        rw [← h.2]
        exact h1

/-- The character that an escape stands for; the text begins behind the backslash. -/
def escape : List Char → Option (Char × List Char)
  | [] => none
  | c :: rest =>
    if c = '"' ∨ c = '\\' ∨ c = '/' then some (c, rest)
    else if c = 'b' then some (Char.ofNat 8, rest)
    else if c = 'f' then some (Char.ofNat 12, rest)
    else if c = 'n' then some ('\n', rest)
    else if c = 'r' then some ('\r', rest)
    else if c = 't' then some ('\t', rest)
    else if c = 'u' then hexEscape rest
    else none

theorem escape_takes : Takes escape := by
  intro cs a final h
  cases cs with
  | nil => simp [escape] at h
  | cons c rest =>
    unfold escape at h
    by_cases hu : c = 'u'
    · subst hu
      have := hexEscape_takes rest a final (by simpa using h)
      simp only [List.length_cons]
      omega
    · repeat' split at h
      all_goals simp_all

/-- The rest of a string; the text begins behind the opening quote. -/
def stringRest (cs : List Char) : Option (List Char × List Char) :=
  match cs with
  | [] => none
  | c :: rest =>
    if c = '"' then some ([], rest)
    else if c = '\\' then
      match h : escape rest with
      | some (c, more) =>
        have := escape_takes _ _ _ h
        (stringRest more).map fun (s, final) => (c :: s, final)
      | none => none
    else if c.toNat < 0x20 then none
    else (stringRest rest).map fun (s, final) => (c :: s, final)
  termination_by cs.length

theorem stringRest_takes : Takes stringRest := by
  intro cs
  fun_induction stringRest cs with
  | case1 => simp
  | case2 => simp_all
  | case3 c rest hq c' more he ih =>
    intro s final h
    obtain ⟨⟨t, f⟩, hs, heq⟩ := Option.map_eq_some_iff.1 h
    simp only [Prod.mk.injEq] at heq
    have := ih _ _ hs
    simp only [← heq.2, List.length_cons]
    omega
  | case4 => simp
  | case5 => simp
  | case6 c rest hq hb hc ih =>
    intro s final h
    obtain ⟨⟨t, f⟩, hs, heq⟩ := Option.map_eq_some_iff.1 h
    simp only [Prod.mk.injEq] at heq
    have := ih _ _ hs
    simp only [← heq.2, List.length_cons]
    omega

/-- A string. -/
def string : List Char → Option (String × List Char)
  | '"' :: rest => (stringRest rest).map fun (s, final) => (String.ofList s, final)
  | _ => none

theorem string_takes : Takes string := by
  intro cs s final h
  unfold string at h
  split at h
  · obtain ⟨⟨t, f⟩, hs, heq⟩ := Option.map_eq_some_iff.1 h
    simp only [Prod.mk.injEq] at heq
    have := stringRest_takes _ _ _ hs
    simp only [← heq.2, List.length_cons]
    omega
  · simp at h

/-! ### Numbers -/

/-- A run of ASCII digits, at least one. -/
def digits (cs : List Char) : Option (List Char × List Char) :=
  if (cs.takeWhile Char.isDigit).isEmpty then none
  else some (cs.takeWhile Char.isDigit, cs.dropWhile Char.isDigit)

theorem digits_takes : Takes digits := by
  intro cs ds rest h
  unfold digits at h
  split at h
  · simp at h
  · next hne =>
    simp only [Option.some.injEq, Prod.mk.injEq] at h
    have hlen :=
      congrArg List.length (List.takeWhile_append_dropWhile (p := Char.isDigit) (l := cs))
    rw [List.length_append] at hlen
    have : 0 < (cs.takeWhile Char.isDigit).length := by
      rw [List.length_pos_iff]
      simpa using hne
    rw [← h.2]
    omega

/-- The digits behind a point, if there is one; a point needs digits. -/
def fraction : List Char → Option (Option (List Char) × List Char)
  | '.' :: rest => (digits rest).map fun (ds, final) => (some ds, final)
  | rest => some (none, rest)

theorem length_fraction {cs : List Char} {point : Option (List Char)} {rest : List Char}
    (h : fraction cs = some (point, rest)) : rest.length ≤ cs.length := by
  unfold fraction at h
  split at h
  · obtain ⟨⟨t, f⟩, hs, heq⟩ := Option.map_eq_some_iff.1 h
    simp only [Prod.mk.injEq] at heq
    have := digits_takes _ _ _ hs
    simp only [← heq.2, List.length_cons]
    omega
  · simp_all

/-- The digits of an exponent, as a number with the exponent's sign. -/
def exponentDigits (negative : Bool) (cs : List Char) : Option (Option Int × List Char) :=
  (digits cs).map fun (ds, final) =>
    (some (if negative then -(ofDecimal ds : Int) else ofDecimal ds), final)

theorem exponentDigits_takes (negative : Bool) : Takes (exponentDigits negative) := by
  intro cs e rest h
  obtain ⟨⟨t, f⟩, hs, heq⟩ := Option.map_eq_some_iff.1 h
  simp only [Prod.mk.injEq] at heq
  exact heq.2 ▸ digits_takes _ _ _ hs

/-- The exponent of a number, if it has one. -/
def exponent (cs : List Char) : Option (Option Int × List Char) :=
  match cs with
  | [] => some (none, [])
  | e :: rest =>
    if e = 'e' ∨ e = 'E' then
      match rest with
      | '+' :: more => exponentDigits false more
      | '-' :: more => exponentDigits true more
      | _ => exponentDigits false rest
    else some (none, e :: rest)

theorem length_exponent {cs : List Char} {exp : Option Int} {rest : List Char}
    (h : exponent cs = some (exp, rest)) : rest.length ≤ cs.length := by
  unfold exponent at h
  split at h
  · simp_all
  · split at h
    · split at h <;>
        (have hx := exponentDigits_takes _ _ _ _ h; simp only [List.length_cons] at *; omega)
    · simp_all

/-- The number that its parts denote. -/
def assemble (negative : Bool) (ds : List Char) (point : Option (List Char)) (exp : Option Int) :
    Number :=
  match point, exp with
  | none, none => .integer (if negative then -(ofDecimal ds : Int) else ofDecimal ds)
  | _, _ =>
    let behind := point.getD []
    Number.ofParts negative (ofDecimal (ds ++ behind)) (exp.getD 0 - behind.length)

/-- The most characters before the point of a number, its sign included. -/
def maxWhole : Nat := 4300

/-- The digits before the point of a number are too many. -/
def isTooLong (negative : Bool) (ds : List Char) : Bool :=
  maxWhole < ds.length + if negative then 1 else 0

/-- A number in digits, behind its sign. A zero in front may only be followed by a point or an
exponent. -/
def numeral (negative : Bool) (cs : List Char) : Option (Number × List Char) :=
  match digits cs with
  | none => none
  | some (ds, rest) =>
    if ds.head? == some '0' && 1 < ds.length then none
    else if isTooLong negative ds then none
    else
      match fraction rest with
      | none => none
      | some (point, rest) =>
        (exponent rest).map fun (exp, final) => (assemble negative ds point exp, final)

theorem numeral_takes (negative : Bool) : Takes (numeral negative) := by
  intro cs n final h
  unfold numeral at h
  split at h
  · simp at h
  · next ds rest hd =>
    have h1 := digits_takes _ _ _ hd
    split at h
    · simp at h
    split at h
    · simp at h
    · split at h
      · simp at h
      · next point rest' hf =>
        have h2 := length_fraction hf
        obtain ⟨⟨t, f⟩, hs, heq⟩ := Option.map_eq_some_iff.1 h
        simp only [Prod.mk.injEq] at heq
        have h3 := length_exponent hs
        rw [← heq.2]
        omega

/-- A number behind its sign. -/
def unsigned (negative : Bool) (cs : List Char) : Option (Number × List Char) :=
  match after? "Infinity".toList cs with
  | some rest => some (.infinity negative, rest)
  | none => numeral negative cs

theorem unsigned_takes (negative : Bool) : Takes (unsigned negative) := by
  intro cs n final h
  unfold unsigned at h
  split at h
  · next rest hr =>
    have h1 := length_after? hr
    simp only [Option.some.injEq, Prod.mk.injEq] at h
    rw [← h.2]
    have : "Infinity".toList.length = 8 := by decide
    omega
  · exact numeral_takes negative _ _ _ h

/-- A number. -/
def number : List Char → Option (Number × List Char)
  | '-' :: rest => unsigned true rest
  | cs =>
    match after? "NaN".toList cs with
    | some rest => some (.nan, rest)
    | none => unsigned false cs

theorem number_takes : Takes number := by
  intro cs n final h
  unfold number at h
  split at h
  · have := unsigned_takes _ _ _ _ h
    simp only [List.length_cons]
    omega
  · split at h
    · next rest hr =>
      have h1 := length_after? hr
      simp only [Option.some.injEq, Prod.mk.injEq] at h
      rw [← h.2]
      have : "NaN".toList.length = 3 := by decide
      omega
    · exact unsigned_takes _ _ _ _ h

/-! ### Values -/

/-- A reader takes a value off the front of a text, at least one character of it. -/
structure Reader (α : Type) where
  read : List Char → Option (α × List Char)
  takes : Takes read

/-- A name that stands for a value. -/
def word (name : String) (d : Datum) (cs : List Char) : Option (Datum × List Char) :=
  (after? name.toList cs).map fun rest => (d, rest)

theorem word_takes (name : String) (d : Datum) (hname : name.toList ≠ []) :
    Takes (word name d) := by
  intro cs e final h
  obtain ⟨rest, hs, heq⟩ := Option.map_eq_some_iff.1 h
  simp only [Prod.mk.injEq] at heq
  have h1 := length_after? hs
  have := List.length_pos_iff.2 hname
  rw [← heq.2]
  omega

/-- A scalar: a string, a name or a number. -/
def scalar (cs : List Char) : Option (Datum × List Char) :=
  match string cs with
  | some (s, rest) => some (.text s, rest)
  | none =>
    word "true" (.bool true) cs <|> word "false" (.bool false) cs <|> word "null" .null cs <|>
      (number cs).map fun (n, rest) => (.number n, rest)

theorem scalar_takes : Takes scalar := by
  intro cs d final h
  unfold scalar at h
  split at h
  · next s rest hs =>
    simp only [Option.some.injEq, Prod.mk.injEq] at h
    exact h.2 ▸ string_takes _ _ _ hs
  · simp only [Option.orElse_eq_orElse, Option.orElse_eq_or, Option.or_eq_some_iff] at h
    rcases h with h | ⟨-, h | ⟨-, h | ⟨-, h⟩⟩⟩
    · exact word_takes _ _ (by decide) _ _ _ h
    · exact word_takes _ _ (by decide) _ _ _ h
    · exact word_takes _ _ (by decide) _ _ _ h
    · obtain ⟨⟨n, rest⟩, hs, heq⟩ := Option.map_eq_some_iff.1 h
      simp only [Prod.mk.injEq] at heq
      exact heq.2 ▸ number_takes _ _ _ hs

/-- The items of a list; the text begins at an item. -/
def items (item : Reader Datum) (cs : List Char) : Option (List Datum × List Char) :=
  match h : item.read (skipSpace cs) with
  | none => none
  | some (d, rest) =>
    match h' : skipSpace rest with
    | ']' :: final => some ([d], final)
    | ',' :: more =>
      have : more.length < cs.length := by
        have h1 := item.takes _ _ _ h
        have h2 := length_skipSpace cs
        have h3 := length_skipSpace rest
        rw [h', List.length_cons] at h3
        omega
      (items item more).map fun (ds, final) => (d :: ds, final)
    | _ => none
  termination_by cs.length

theorem items_takes (item : Reader Datum) : Takes (items item) := by
  intro cs
  fun_induction items item cs with
  | case1 => simp
  | case2 cs d rest hd final hf =>
    intro ds last h
    simp only [Option.some.injEq, Prod.mk.injEq] at h
    have h1 := item.takes _ _ _ hd
    have h2 := length_skipSpace cs
    have h3 := length_skipSpace rest
    rw [hf, List.length_cons] at h3
    rw [← h.2]
    omega
  | case3 cs d rest hd more hm hlt ih =>
    intro ds last h
    obtain ⟨⟨t, f⟩, hs, heq⟩ := Option.map_eq_some_iff.1 h
    simp only [Prod.mk.injEq] at heq
    have := ih _ _ hs
    rw [← heq.2]
    omega
  | case4 => simp

/-- A field of a record: its name, a colon, its value. -/
def field (value : Reader Datum) (cs : List Char) : Option ((String × Datum) × List Char) :=
  match string (skipSpace cs) with
  | none => none
  | some (name, rest) =>
    match after? [':'] (skipSpace rest) with
    | none => none
    | some rest => (value.read (skipSpace rest)).map fun (d, final) => ((name, d), final)

theorem field_takes (value : Reader Datum) : Takes (field value) := by
  intro cs f final h
  unfold field at h
  split at h
  · simp at h
  · next name rest hn =>
    have h1 := string_takes _ _ _ hn
    have h2 := length_skipSpace cs
    split at h
    · simp at h
    · next rest' hc =>
      have h3 := length_after? hc
      have h4 := length_skipSpace rest
      obtain ⟨⟨t, f⟩, hs, heq⟩ := Option.map_eq_some_iff.1 h
      simp only [Prod.mk.injEq] at heq
      have h5 := value.takes _ _ _ hs
      have h6 := length_skipSpace rest'
      rw [← heq.2]
      omega

/-- The fields of a record; the text begins at a field. -/
def fields (value : Reader Datum) (cs : List Char) : Option (Fields × List Char) :=
  match h : field value cs with
  | none => none
  | some (f, rest) =>
    match h' : skipSpace rest with
    | '\x7d' :: final => some ([f], final)
    | ',' :: more =>
      have : more.length < cs.length := by
        have h1 := field_takes value _ _ _ h
        have h3 := length_skipSpace rest
        rw [h', List.length_cons] at h3
        omega
      (fields value more).map fun (fs, final) => (f :: fs, final)
    | _ => none
  termination_by cs.length

theorem fields_takes (value : Reader Datum) : Takes (fields value) := by
  intro cs
  fun_induction fields value cs with
  | case1 => simp
  | case2 cs f rest hd final hf =>
    intro ds last h
    simp only [Option.some.injEq, Prod.mk.injEq] at h
    have h1 := field_takes value _ _ _ hd
    have h3 := length_skipSpace rest
    rw [hf, List.length_cons] at h3
    rw [← h.2]
    omega
  | case3 cs f rest hd more hm hlt ih =>
    intro ds last h
    obtain ⟨⟨t, g⟩, hs, heq⟩ := Option.map_eq_some_iff.1 h
    simp only [Prod.mk.injEq] at heq
    have := ih _ _ hs
    rw [← heq.2]
    omega
  | case4 => simp

/-- The items of a list behind its bracket; without a reader for them there may be none. -/
def listRest (inner : Option (Reader Datum)) (cs : List Char) : Option (Datum × List Char) :=
  match skipSpace cs, inner with
  | ']' :: final, _ => some (.list [], final)
  | _, none => none
  | _, some item => (items item cs).map fun (ds, final) => (.list ds, final)

theorem listRest_takes (inner : Option (Reader Datum)) : Takes (listRest inner) := by
  intro cs d final h
  unfold listRest at h
  split at h
  · next rest hr =>
    have h1 := length_skipSpace cs
    simp only [Option.some.injEq, Prod.mk.injEq] at h
    rw [hr, List.length_cons] at h1
    rw [← h.2]
    omega
  · simp at h
  · obtain ⟨⟨t, f⟩, hs, heq⟩ := Option.map_eq_some_iff.1 h
    simp only [Prod.mk.injEq] at heq
    exact heq.2 ▸ items_takes _ _ _ _ hs

/-- The fields of a record behind its brace; without a reader for their values there may be none. -/
def recordRest (inner : Option (Reader Datum)) (cs : List Char) : Option (Datum × List Char) :=
  match skipSpace cs, inner with
  | '\x7d' :: final, _ => some (.record [], final)
  | _, none => none
  | _, some value => (fields value cs).map fun (fs, final) => (.record fs, final)

theorem recordRest_takes (inner : Option (Reader Datum)) : Takes (recordRest inner) := by
  intro cs d final h
  unfold recordRest at h
  split at h
  · next rest hr =>
    have h1 := length_skipSpace cs
    simp only [Option.some.injEq, Prod.mk.injEq] at h
    rw [hr, List.length_cons] at h1
    rw [← h.2]
    omega
  · simp at h
  · obtain ⟨⟨t, f⟩, hs, heq⟩ := Option.map_eq_some_iff.1 h
    simp only [Prod.mk.injEq] at heq
    exact heq.2 ▸ fields_takes _ _ _ _ hs

/-- A value whose parts are read by `inner`. -/
def valueOver (inner : Option (Reader Datum)) : List Char → Option (Datum × List Char)
  | '[' :: rest => listRest inner rest
  | '\x7b' :: rest => recordRest inner rest
  | cs => scalar cs

theorem valueOver_takes (inner : Option (Reader Datum)) : Takes (valueOver inner) := by
  intro cs d final h
  unfold valueOver at h
  split at h
  · have := listRest_takes _ _ _ _ h
    simp only [List.length_cons]
    omega
  · have := recordRest_takes _ _ _ _ h
    simp only [List.length_cons]
    omega
  · exact scalar_takes _ _ _ h

/-- A value whose containers may be nested `depth` deep, not counting empty ones. -/
def value : (depth : Nat) → Reader Datum
  | 0 => ⟨valueOver none, valueOver_takes none⟩
  | depth + 1 => ⟨valueOver (some (value depth)), valueOver_takes _⟩

/-- The value that a text denotes. -/
def read? (cs : List Char) : Option Datum :=
  match (value maxDepth).read (skipSpace cs) with
  | some (d, rest) => if (skipSpace rest).isEmpty then some d else none
  | none => none

/-- The value that a file denotes; a file that is not text denotes none. -/
def readBytes? (bytes : Utf8.Bytes) : Option Datum :=
  match Utf8.decode bytes with
  | .ok cs => read? cs
  | .error _ => none

/-! ## Writing -/

/-- A layout of written JSON. -/
structure Layout where
  /-- Characters beyond printable ASCII are escaped too. -/
  ascii : Bool
  deriving DecidableEq, Repr

/-- The layout of the tasks file. -/
def Layout.stored : Layout := { ascii := false }

/-- The layout of machine output. -/
def Layout.printed : Layout := { ascii := true }

/-- Four hexadecimal digits of a number below 65,536. -/
def hexQuad (n : Nat) : List Char :=
  [n / 4096, n / 256 % 16, n / 16 % 16, n % 16].map Utf8.hexDigit

/-- An escape with hexadecimal digits. -/
def writeHex (n : Nat) : List Char := '\\' :: 'u' :: hexQuad n

/-- A character of a string, escaped where it has to be. -/
def writeChar (layout : Layout) (c : Char) : List Char :=
  let n := c.toNat
  if c = '"' then ['\\', '"']
  else if c = '\\' then ['\\', '\\']
  else if n = 8 then ['\\', 'b']
  else if n = 9 then ['\\', 't']
  else if n = 10 then ['\\', 'n']
  else if n = 12 then ['\\', 'f']
  else if n = 13 then ['\\', 'r']
  else if n < 0x20 then writeHex n
  else if layout.ascii && 0x7F ≤ n then
    if n < 0x10000 then writeHex n
    else
      writeHex (0xD800 + (n - 0x10000) / 0x400) ++ writeHex (0xDC00 + (n - 0x10000) % 0x400)
  else [c]

/-- A string. -/
def writeString (layout : Layout) (s : String) : List Char :=
  '"' :: s.toList.flatMap (writeChar layout) ++ ['"']

/-- The start of a line at a level. -/
def newline (level : Nat) : List Char := '\n' :: List.replicate (2 * level) ' '

mutual

/-- A value; `level` is that of the line it begins on. -/
def writeValue (layout : Layout) (level : Nat) : Datum → List Char
  | .null => "null".toList
  | .bool true => "true".toList
  | .bool false => "false".toList
  | .number n => n.render
  | .text s => writeString layout s
  | .moment => "null".toList
  | .list [] => ['[', ']']
  | .list (d :: ds) =>
    '[' :: newline (level + 1) ++ writeValue layout (level + 1) d ++
      writeItems layout (level + 1) ds ++ newline level ++ [']']
  | .record [] => ['\x7b', '\x7d']
  | .record ((name, d) :: fs) =>
    '\x7b' :: newline (level + 1) ++ writeString layout name ++ ':' :: ' ' ::
      writeValue layout (level + 1) d ++
      writeFields layout (level + 1) fs ++ newline level ++ ['\x7d']

/-- The items of a list after the first. -/
def writeItems (layout : Layout) (level : Nat) : List Datum → List Char
  | [] => []
  | d :: ds => ',' :: newline level ++ writeValue layout level d ++ writeItems layout level ds

/-- The fields of a record after the first. -/
def writeFields (layout : Layout) (level : Nat) : List (String × Datum) → List Char
  | [] => []
  | (name, d) :: fs =>
    ',' :: newline level ++ writeString layout name ++ ':' :: ' ' ::
      writeValue layout level d ++ writeFields layout level fs

end

/-- A value in a layout. -/
def write (layout : Layout) (d : Datum) : String := String.ofList (writeValue layout 0 d)

end Runbook.Json
