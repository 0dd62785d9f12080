import Runbook.Shell.Pattern
import Runbook.Shell.Process.Channel

/-!
# `Shell/Expand/Names` — the names that a pattern stands for

A pattern in a word stands for the paths that it matches, in order. Every part between slashes is
matched against the names in a folder; a name that begins with a dot is matched only by a pattern
that says so.
-/

set_option autoImplicit false

namespace Runbook.Shell

/-- How names are matched. -/
structure NameStyle where
  pattern : Pattern.Style := {}
  /-- Names that begin with a dot are matched like others. -/
  dots : Bool := false
  /-- Two stars stand for any number of folders. -/
  deep : Bool := false
  /-- The folder itself and the one above it are never matched. -/
  skipsDots : Bool := false
  /-- Paths that these patterns match are left out. -/
  ignored : List Marked := []

namespace NameStyle

/-- The parts of a pattern between its slashes. -/
def partsFrom : (here : Marked) → Marked → List Marked
  | here, [] => [here.reverse]
  | here, (c, q) :: rest =>
    if c = '/' then here.reverse :: partsFrom [] rest
    else partsFrom ((c, q) :: here) rest

/-- Parts of a pattern without those that are two stars in front of two stars. -/
def withoutRepeats : List Marked → List Marked
  | a :: b :: rest =>
    if a.text == ['*', '*'] && b.text == ['*', '*'] then withoutRepeats (b :: rest)
    else a :: withoutRepeats (b :: rest)
  | parts => parts

/-- The text of a part of a pattern that matches only itself. -/
def plainText (m : Marked) : String :=
  let rec go : Marked → List Char
    | ('\\', false) :: (c, _) :: rest => c :: go rest
    | (c, _) :: rest => c :: go rest
    | [] => []
  String.ofList (go m)

/-- The names in a folder that a part of a pattern matches. -/
def namesIn (style : NameStyle) (d : Disk) (l : Location) (part : Marked) : List String :=
  let dotted := part.head?.any fun p => p.1 == '.'
  let names := d.sortedNames l
  let special := if dotted && !style.skipsDots then [".", ".."] else []
  (special ++ names).filter fun n =>
    (style.dots || dotted || !n.startsWith ".") && Pattern.isMatch style.pattern part n.toList

/-- A name is shown to patterns that do not say that it begins with a dot. -/
def isOpen (style : NameStyle) (name : String) : Bool := style.dots || !name.startsWith "."

/-- The folders below a folder, itself included, by the paths that lead there. -/
def foldersBelow (style : NameStyle) (d : Disk) : (fuel : Nat) → (start : String) → Location → List (String × Location)
  | 0, start, l => [(start, l)]
  | fuel + 1, start, l =>
    (start, l) :: (d.sortedNames l).flatMap fun n =>
      if style.isOpen n && (d.at? (l ++ [n])).any (·.isFolder) then
        foldersBelow style d fuel (start ++ n ++ "/") (l ++ [n])
      else []

/-- The paths that parts of a pattern lead to. `start` is the path so far, up to a slash. -/
def walk (style : NameStyle) (d : Disk) (here : Location) : (start : String) → List Marked →
    List String
  | start, [] => [start]
  | start, [part] =>
    let base := if start = "" then "." else start
    if part.isEmpty then
      if (d.find here base).toOption.any (·.2.isFolder) then [start] else []
    else if Pattern.isPattern style.pattern part then
      match d.find here base with
      | .ok (l, n) =>
        if !n.isFolder then []
        else if style.deep && part.text == ['*', '*'] then
          (style.foldersBelow d 64 start l).flatMap fun (s, l) =>
            (if s = "" then [] else if s = start then [s] else []) ++
              ((d.sortedNames l).filter style.isOpen).map fun n => s ++ n
        else (style.namesIn d l part).map fun name => start ++ name
      | .error _ => []
    else
      let path := start ++ plainText part
      if (d.resolve here path false).toOption.any fun l => (d.at? l).isSome then [path] else []
  | start, part :: more =>
    let base := if start = "" then "." else start
    if part.isEmpty then walk style d here (start ++ "/") more
    else if Pattern.isPattern style.pattern part then
      match d.find here base with
      | .ok (l, n) =>
        if !n.isFolder then []
        else if style.deep && part.text == ['*', '*'] then
          (style.foldersBelow d 64 start l).flatMap fun (s, _) => walk style d here s more
        else
          (style.namesIn d l part).flatMap fun name =>
            let next := start ++ name
            if (d.find here next).toOption.any (·.2.isFolder) then
              walk style d here (next ++ "/") more
            else []
      | .error _ => []
    else walk style d here (start ++ plainText part ++ "/") more

/-- A pattern matches a path, part by part. -/
def matchesPath (style : NameStyle) (g : Marked) (path : String) : Bool :=
  let names := path.toList.splitOn '/'
  let parts := partsFrom [] g
  parts.length == names.length &&
    (parts.zip names).all fun (p, n) => Pattern.isMatch style.pattern p n

/-- The paths that a pattern stands for, in order. -/
def paths (style : NameStyle) (d : Disk) (here : Location) (m : Marked) : List String :=
  let parts := partsFrom [] m
  let parts := if style.deep then withoutRepeats parts else parts
  let found := (style.walk d here "" parts).filter fun path =>
    path != "" && !style.ignored.any fun g => style.matchesPath g path
  (found.mergeSort fun a b => decide (a ≤ b)).eraseReps

end NameStyle

end Runbook.Shell
