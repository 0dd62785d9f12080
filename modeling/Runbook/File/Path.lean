import Runbook.Text.Cut
import Runbook.Text.Lines

/-!
# `File/Path` — paths

A path is a list of names behind an anchor. Its text is normalised when it is read: repeated and
trailing slashes and the name `.` vanish, and `..` stays, because where it leads depends on the
files. Two slashes in front are an anchor of their own; three or more count as one.

Joining puts names behind a path. An absolute path does not join: it stands for itself.
-/

set_option autoImplicit false

namespace Runbook.File

open Runbook.Text

/-- Where a path starts. -/
inductive Anchor where
  /-- At a place that is known otherwise. -/
  | relative
  | root
  /-- At the root, in the spelling with two slashes. -/
  | doubleRoot
  deriving DecidableEq, Repr

/-- An anchor in writing. -/
def Anchor.text : Anchor → String
  | .relative => ""
  | .root => "/"
  | .doubleRoot => "//"

/-- A path. -/
structure Path where
  anchor : Anchor
  names : List String
  deriving DecidableEq, Repr

namespace Path

/-- The names in a text: what stands between its slashes and is neither empty nor a single dot. -/
def namesOf (cs : List Char) : List String :=
  ((pieces (· == '/') cs).map String.ofList).filter fun name => name ≠ "" ∧ name ≠ "."

/-- The anchor that a text begins with. -/
def anchorOf : List Char → Anchor
  | '/' :: '/' :: '/' :: _ => .root
  | '/' :: '/' :: _ => .doubleRoot
  | '/' :: _ => .root
  | _ => .relative

/-- The path that a text denotes. -/
def ofString (s : String) : Path := ⟨anchorOf s.toList, namesOf s.toList⟩

/-- A path in writing. The relative path without names is the place itself. -/
def text (p : Path) : String :=
  if p.names.isEmpty ∧ p.anchor = .relative then "." else p.anchor.text ++ joinWith "/" p.names

/-- A path that does not depend on a place. -/
def isAbsolute (p : Path) : Bool := p.anchor != .relative

/-- A path seen from the place of another. -/
def join (base p : Path) : Path :=
  if p.isAbsolute then p else { base with names := base.names ++ p.names }

/-- A text read as a path seen from a place. -/
def child (base : Path) (s : String) : Path := base.join (ofString s)

/-- The path without its last name. -/
def parent (p : Path) : Path := { p with names := p.names.dropLast }

/-- The last name, or nothing. -/
def name (p : Path) : String := p.names.getLast?.getD ""

theorem join_of_isAbsolute {base p : Path} (h : p.isAbsolute = true) : base.join p = p := by
  rw [join, if_pos h]

theorem isAbsolute_join {base p : Path} (h : base.isAbsolute = true) :
    (base.join p).isAbsolute = true := by
  unfold join
  split
  · assumption
  · exact h

end Path

end Runbook.File
