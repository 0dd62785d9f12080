import Runbook.File.Path
import Runbook.Text.Utf8

/-!
# `File/Tree` — files and folders

The files that a project consists of, as a value: a list of locations with what is there. A location
is the list of names that leads down from the root; it has no `..`, because `locate` follows a path
through the folders that are there. Every folder but the root has an entry of its own, so an empty
one exists too.
-/

set_option autoImplicit false

namespace Runbook.File

open Runbook.Text.Utf8

/-- What may be at a location. -/
inductive Node where
  | folder
  | file (bytes : Bytes)
  deriving DecidableEq, Repr

/-- Files and folders. -/
structure Tree where
  entries : List (List String × Node)
  deriving Repr

namespace Tree

/-- The tree of which nothing is known but its root. -/
def empty : Tree := ⟨[]⟩

/-- What is at a location. -/
def at? (t : Tree) (location : List String) : Option Node :=
  if location = [] then some .folder
  else (t.entries.find? (·.1 == location)).map (·.2)

/-- There is a folder at a location. -/
def isFolderAt (t : Tree) (location : List String) : Bool := t.at? location == some .folder

/-- Where names lead from a location. Every name but the last has to lead to a folder. -/
def locateFrom (t : Tree) : (here : List String) → (names : List String) → Option (List String)
  | here, [] => some here
  | here, name :: names =>
    if t.isFolderAt here then
      t.locateFrom (if name = ".." then here.dropLast else here ++ [name]) names
    else none

/-- Where a path leads from the root. -/
def locate (t : Tree) (p : Path) : Option (List String) := t.locateFrom [] p.names

/-- What a path leads to. -/
def node? (t : Tree) (p : Path) : Option Node := (t.locate p).bind t.at?

/-- A path leads to a folder. -/
def isFolder (t : Tree) (p : Path) : Bool := t.node? p == some .folder

/-- Something is where a path leads. -/
def exists? (t : Tree) (p : Path) : Bool := (t.node? p).isSome

/-- The contents of the file that a path leads to. -/
def read? (t : Tree) (p : Path) : Option Bytes :=
  match t.node? p with
  | some (.file bytes) => some bytes
  | _ => none

/-- The entries of the folder at a location: a name and what it stands for. -/
def entriesAt (t : Tree) (location : List String) : List (String × Node) :=
  t.entries.filterMap fun (l, node) =>
    match l.getLast? with
    | some name => if l.dropLast = location then some (name, node) else none
    | none => none

/-- The entries of the folder that a path leads to. -/
def entriesOf (t : Tree) (p : Path) : List (String × Node) :=
  match t.locate p with
  | some location => if t.isFolderAt location then t.entriesAt location else []
  | none => []

/-- The contents of all files. -/
def files (t : Tree) : List Bytes :=
  t.entries.filterMap fun
    | (_, .file bytes) => some bytes
    | (_, .folder) => none

/-! ## Changing -/

/-- The tree with something else at a location. -/
def put (t : Tree) (location : List String) (node : Node) : Tree :=
  if t.entries.any (·.1 == location) then
    ⟨t.entries.map fun e => if e.1 = location then (location, node) else e⟩
  else ⟨t.entries ++ [(location, node)]⟩

/-- The tree without what is at a location. -/
def drop (t : Tree) (location : List String) : Tree :=
  ⟨t.entries.filter (·.1 != location)⟩

/-- The tree with the folders that names lead through from a location, and where they lead. A file
in the way is an obstacle. -/
def makeFolders (t : Tree) : (here : List String) → (names : List String) →
    Option (Tree × List String)
  | here, [] => some (t, here)
  | here, name :: names =>
    let next := if name = ".." then here.dropLast else here ++ [name]
    match t.at? next with
    | some .folder => t.makeFolders next names
    | some (.file _) => none
    | none => (t.put next .folder).makeFolders next names

/-- The tree with a folder where a path leads, as far as nothing is in the way. -/
def withFolder (t : Tree) (p : Path) : Tree :=
  match t.makeFolders [] p.names with
  | some (t, _) => t
  | none => t

/-- The tree with a file where a path leads and the folders on the way there, unless something is
in the way. -/
def write (t : Tree) (p : Path) (bytes : Bytes) : Tree :=
  match t.makeFolders [] p.parent.names with
  | some (t', here) =>
    let location := here ++ [p.name]
    if t'.isFolderAt location then t else t'.put location (.file bytes)
  | none => t

/-- The tree without the file that a path leads to. -/
def remove (t : Tree) (p : Path) : Tree :=
  match t.locate p with
  | some location => t.drop location
  | none => t

/-! ## Comparing -/

/-- What a later tree has and an earlier one does not have in the same place. -/
def added (before after : Tree) : List (List String × Node) :=
  after.entries.filter fun (location, node) => before.at? location != some node

/-- The locations of an earlier tree at which a later one has nothing. -/
def gone (before after : Tree) : List (List String) :=
  (before.entries.map (·.1)).filter fun location => (after.at? location).isNone

/-! ## What is read is a file of the tree -/

theorem mem_files_of_read? {t : Tree} {p : Path} {bytes : Bytes} (h : t.read? p = some bytes) :
    bytes ∈ t.files := by
  unfold read? node? at? at h
  split at h
  · next hn =>
    injection h with h
    subst h
    obtain ⟨location, -, hat⟩ := Option.bind_eq_some_iff.1 hn
    split at hat
    · simp at hat
    · obtain ⟨entry, hf, hnode⟩ := Option.map_eq_some_iff.1 hat
      refine List.mem_filterMap.2 ⟨entry, List.mem_of_find?_eq_some hf, ?_⟩
      obtain ⟨l, node⟩ := entry
      simp_all
  · simp at h

/-! ## What is written is read -/

/-- Where a name leads from a location. -/
def descend (here : List String) (name : String) : List String :=
  if name = ".." then here.dropLast else here ++ [name]

/-- Where names lead does not depend on the tree, if they lead anywhere. -/
theorem eq_foldl_of_locateFrom {t : Tree} {here names location : List String}
    (h : t.locateFrom here names = some location) : location = names.foldl descend here := by
  induction names generalizing here with
  | nil => exact (Option.some.inj h).symm
  | cons name names ih =>
    rw [locateFrom] at h
    split at h
    · exact ih h
    · cases h

theorem eq_foldl_of_makeFolders {t t' : Tree} {here names location : List String}
    (h : t.makeFolders here names = some (t', location)) : location = names.foldl descend here := by
  induction names generalizing t here with
  | nil => exact (Prod.mk.inj (Option.some.inj h)).2.symm
  | cons name names ih =>
    rw [makeFolders] at h
    split at h
    · exact ih h
    · cases h
    · exact ih h

theorem at?_put (t : Tree) {location : List String} (h : location ≠ []) (node : Node) :
    (t.put location node).at? location = some node := by
  unfold at? put
  rw [if_neg h]
  split
  · next hany =>
    have hsame : ((fun e : List String × Node => e.1 == location) ∘ fun e =>
        if e.1 = location then (location, node) else e) = fun e => e.1 == location := by
      funext e
      by_cases he : e.1 = location <;> simp [he]
    obtain ⟨e, he, hlocation⟩ := List.any_eq_true.1 hany
    rw [List.find?_map, hsame]
    cases hfind : t.entries.find? (·.1 == location) with
    | none => exact absurd hlocation (List.find?_eq_none.1 hfind e he)
    | some found =>
      have hfound : found.1 = location := by simpa using List.find?_some hfind
      simp [hfound]
  · next hany =>
    have hnone : t.entries.find? (·.1 == location) = none := by
      refine List.find?_eq_none.2 fun e he hlocation => hany ?_
      exact List.any_eq_true.2 ⟨e, he, hlocation⟩
    simp [hnone]

/-- A file that is written is read back, unless something was in the way; then nothing is changed, or
the path leads nowhere. -/
theorem read?_write (t : Tree) {p : Path} (hnames : p.names ≠ []) (hname : p.name ≠ "..")
    (bytes : Bytes) : t.write p bytes = t ∨ (t.write p bytes).read? p = none ∨
      (t.write p bytes).read? p = some bytes := by
  have hsplit : p.names = p.parent.names ++ [p.name] := by
    unfold Path.parent Path.name
    rw [List.getLast?_eq_some_getLast hnames]
    exact (List.dropLast_concat_getLast hnames).symm
  unfold write
  cases hmade : t.makeFolders [] p.parent.names with
  | none => exact .inl rfl
  | some made =>
    obtain ⟨t', here⟩ := made
    dsimp only
    split
    · exact .inl rfl
    · refine .inr ?_
      unfold read? node? locate
      cases hlocated : (t'.put (here ++ [p.name]) (.file bytes)).locateFrom [] p.names with
      | none => exact .inl rfl
      | some location =>
        have hhere := eq_foldl_of_makeFolders hmade
        have hlocation : location = here ++ [p.name] := by
          rw [eq_foldl_of_locateFrom hlocated, hsplit, List.foldl_append, ← hhere]
          simp [descend, hname]
        rw [hlocation, Option.bind_some, at?_put t' (by simp)]
        exact .inr rfl

end Tree

end Runbook.File
