import Runbook.Datum.Basic
import Runbook.Datum.Toml.Scalar

/-!
# `Datum/Toml` — reading TOML

A document is read line by line: a field, the heading of a table, the heading of a further table in
a list, or nothing, and behind each of them perhaps a comment. Only lists and strings in three
quotes go on over lines. The draft of the document decides what each line may add.

The document fills one table of tables. A field is assigned under a dotted name, and a heading names
the table that the fields after it belong to, or adds a table to a list of them. A place in the tables
is the list of names that leads to it. What may be written to twice is decided by marks on places. A
place is *opened* by a heading, which may happen once, or by a dotted name in an earlier section; it
is *sealed*, with all below it, when an inline table or a list is assigned to it. A new table in a
list clears the marks below the list, since its fields are new.

The readers call each other in a circle, because values hold values. Every round of it takes a
character at least, so `fuel`, the length of the text, is enough.
-/

set_option autoImplicit false

namespace Runbook.Toml

open Runbook.Text

/-! ## Tables that are filled piece by piece -/

/-- The names that lead to a place in the tables. -/
abbrev Place := List String

/-- The fields with another value under a name that they have. -/
def replace (name : String) (d : Datum) : Fields → Fields
  | [] => []
  | (n, e) :: rest => if n = name then (name, d) :: rest else (n, e) :: replace name d rest

/-- The fields with those of the table at a place changed by `f`. Tables that are missing on the way
are made; a list of tables is entered at its last table, if lists may be entered at all. -/
def edit (enterLists : Bool) (f : Fields → Option Fields) : Place → Fields → Option Fields
  | [], fields => f fields
  | name :: place, fields =>
    match fields.get? name with
    | none => (edit enterLists f place []).map fun inner => fields ++ [(name, .record inner)]
    | some (.record inner) =>
      (edit enterLists f place inner).map fun inner => replace name (.record inner) fields
    | some (.list items) =>
      match enterLists, items.getLast? with
      | true, some (.record inner) =>
        (edit enterLists f place inner).map fun inner =>
          replace name (.list (items.dropLast ++ [.record inner])) fields
      | _, _ => none
    | some _ => none

/-- A new field; the name may not be there yet. -/
def addField (name : String) (d : Datum) (fields : Fields) : Option Fields :=
  match fields.get? name with
  | none => some (fields ++ [(name, d)])
  | some _ => none

/-- A new table at the end of a list of tables, which is made if the name is not there yet. -/
def addItem (name : String) (fields : Fields) : Option Fields :=
  match fields.get? name with
  | none => some (fields ++ [(name, .list [.record []])])
  | some (.list items) => some (replace name (.list (items ++ [.record []])) fields)
  | some _ => none

/-- A value that holds others. -/
def isContainer : Datum → Bool
  | .list _ | .record _ => true
  | _ => false

/-- The place and what leads to it and is longer than `header`, the place itself left out. -/
def below (header : Place) (place : Place) : List Place :=
  (List.range' 1 (place.length - 1)).map fun n => header ++ place.take n

/-- A document that has been read in part. -/
structure Draft where
  fields : Fields := []
  opened : List Place := []
  /-- Places that count as opened from the next heading on. -/
  pending : List Place := []
  sealed : List Place := []
  /-- The table that fields now belong to. -/
  header : Place := []

namespace Draft

/-- A place is sealed if some place that leads to it is. -/
def isSealed (d : Draft) (place : Place) : Bool := d.sealed.any (·.isPrefixOf place)

/-- What dotted names have opened counts from the next heading on. -/
def closeSection (d : Draft) : Draft := { d with opened := d.opened ++ d.pending, pending := [] }

/-- The document behind the heading of a table. -/
def openTable (d : Draft) (place : Place) : Option Draft :=
  let d := d.closeSection
  if d.opened.contains place || d.isSealed place then none
  else
    (edit true some place d.fields).map fun fields =>
      { d with fields, opened := place :: d.opened, header := place }

/-- The document behind the heading of a further table in a list. -/
def openItem (d : Draft) (place : Place) : Option Draft :=
  let d := d.closeSection
  if d.isSealed place then none
  else
    match place.getLast? with
    | none => none
    | some name =>
      (edit true (addItem name) place.dropLast d.fields).map fun fields =>
        { d with
          fields
          opened := place :: d.opened.filter (!place.isPrefixOf ·)
          sealed := d.sealed.filter (!place.isPrefixOf ·)
          header := place }

/-- The document behind a field. -/
def assign (d : Draft) (place : Place) (value : Datum) : Option Draft :=
  let parent := d.header ++ place.dropLast
  if (below d.header place).any d.opened.contains || d.isSealed parent then none
  else
    match place.getLast? with
    | none => none
    | some name =>
      (edit true (addField name value) parent d.fields).map fun fields =>
        { d with
          fields
          pending := below d.header place ++ d.pending
          sealed := if isContainer value then (d.header ++ place) :: d.sealed else d.sealed }

end Draft

/-- An inline table with one more field. What a field of it holds can not be added to. -/
def addInline (fields : Fields) (sealed : List Place) (place : Place) (value : Datum) :
    Option (Fields × List Place) :=
  if sealed.any (·.isPrefixOf place) then none
  else
    match place.getLast? with
    | none => none
    | some name =>
      (edit false (addField name value) place.dropLast fields).map fun fields =>
        (fields, if isContainer value then place :: sealed else sealed)

/-! ## Names -/

/-- The characters of a name without quotes. -/
def isBare (c : Char) : Bool := c.isAlphanum || c == '-' || c == '_'

/-- One name. -/
def name (cs : List Char) : Option (String × List Char) :=
  match cs with
  | '"' :: _ | '\'' :: _ => (shortString cs).map fun (s, rest) => (String.ofList s, rest)
  | _ =>
    if (cs.takeWhile isBare).isEmpty then none
    else some (String.ofList (cs.takeWhile isBare), cs.dropWhile isBare)

/-- Names with points between them, blanks aside. -/
def dotted : (fuel : Nat) → List Char → Option (Place × List Char)
  | 0, _ => none
  | fuel + 1, cs =>
    match name cs with
    | none => none
    | some (first, rest) =>
      match skipSpace rest with
      | '.' :: more =>
        (dotted fuel (skipSpace more)).map fun (place, final) => (first :: place, final)
      | final => some ([first], final)

/-- A dotted name. -/
def dottedName (cs : List Char) : Option (Place × List Char) := dotted (cs.length + 1) cs

/-- A dotted name and the sign that a value follows. -/
def fieldName (cs : List Char) : Option (Place × List Char) :=
  match dottedName cs with
  | some (place, '=' :: rest) => some (place, skipSpace rest)
  | _ => none

/-! ## Values -/

/-- The text behind blanks, line ends and comments. -/
def skipLines : (fuel : Nat) → List Char → Option (List Char)
  | 0, cs => some cs
  | fuel + 1, cs =>
    match cs.dropWhile fun c => isSpace c || c == '\n' with
    | '#' :: rest => (skipComment ('#' :: rest)).bind (skipLines fuel)
    | rest => some rest

/-- The text behind blanks, line ends and comments. -/
def skipBetween (cs : List Char) : Option (List Char) := skipLines (cs.length + 1) cs

mutual

/-- A value. -/
def value : (fuel : Nat) → List Char → Except Refusal (Datum × List Char)
  | 0, _ => .error .malformed
  | fuel + 1, cs =>
    match cs with
    | '[' :: rest =>
      match skipBetween rest with
      | some more => items fuel [] more
      | none => .error .malformed
    | '\x7b' :: rest =>
      match skipSpace rest with
      | '\x7d' :: final => .ok (.record [], final)
      | more => fields fuel [] [] more
    | _ => scalar cs

/-- The items of a list that has some already. -/
def items : (fuel : Nat) → (found : List Datum) → List Char → Except Refusal (Datum × List Char)
  | 0, _, _ => .error .malformed
  | _ + 1, found, ']' :: rest => .ok (.list found.reverse, rest)
  | fuel + 1, found, cs =>
    match value fuel cs with
    | .error e => .error e
    | .ok (d, rest) =>
      match skipBetween rest with
      | some (']' :: final) => .ok (.list (d :: found).reverse, final)
      | some (',' :: more) =>
        match skipBetween more with
        | some more => items fuel (d :: found) more
        | none => .error .malformed
      | _ => .error .malformed

/-- The fields of an inline table that has some already. -/
def fields : (fuel : Nat) → Fields → (sealed : List Place) → List Char →
    Except Refusal (Datum × List Char)
  | 0, _, _, _ => .error .malformed
  | fuel + 1, found, sealed, cs =>
    match fieldName cs with
    | none => .error .malformed
    | some (place, rest) =>
      match value fuel rest with
      | .error e => .error e
      | .ok (d, rest) =>
        match addInline found sealed place d with
        | none => .error .malformed
        | some (found, sealed) =>
          match skipSpace rest with
          | '\x7d' :: final => .ok (.record found, final)
          | ',' :: more => fields fuel found sealed (skipSpace more)
          | _ => .error .malformed

end

/-! ## Documents -/

/-- The document behind a heading; the text begins behind the opening bracket. -/
def heading (d : Draft) : List Char → Option (Draft × List Char)
  | '[' :: rest =>
    match dottedName (skipSpace rest) with
    | some (place, ']' :: ']' :: final) => (d.openItem place).map fun d => (d, final)
    | _ => none
  | rest =>
    match dottedName (skipSpace rest) with
    | some (place, ']' :: final) => (d.openTable place).map fun d => (d, final)
    | _ => none

/-- The document behind a field. -/
def assignment (fuel : Nat) (d : Draft) (cs : List Char) : Except Refusal (Draft × List Char) :=
  match fieldName cs with
  | none => .error .malformed
  | some (place, rest) =>
    match value fuel rest with
    | .error e => .error e
    | .ok (v, final) => required ((d.assign place v).map fun d => (d, final))

/-- The document behind what a line says. -/
def statement (fuel : Nat) (d : Draft) : List Char → Except Refusal (Draft × List Char)
  | '[' :: rest => required (heading d rest)
  | '#' :: rest => .ok (d, '#' :: rest)
  | cs => assignment fuel d cs

/-- The document behind the lines of a text. -/
def document : (fuel : Nat) → Draft → List Char → Except Refusal Fields
  | 0, _, _ => .error .malformed
  | fuel + 1, d, cs =>
    match skipSpace cs with
    | [] => .ok d.fields
    | '\n' :: rest => document fuel d rest
    | line =>
      match statement fuel d line with
      | .error e => .error e
      | .ok (d, rest) =>
        match skipComment (skipSpace rest) with
        | some [] => .ok d.fields
        | some ('\n' :: rest) => document fuel d rest
        | _ => .error .malformed

/-- Line ends of two characters turned into one. -/
def joinReturns : List Char → List Char
  | '\r' :: '\n' :: rest => '\n' :: joinReturns rest
  | c :: rest => c :: joinReturns rest
  | [] => []

/-- The table that a document denotes. -/
def read (cs : List Char) : Except Refusal Datum :=
  let cs := joinReturns cs
  (document (cs.length + 1) {} cs).map .record

end Runbook.Toml
