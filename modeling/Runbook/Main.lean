import Runbook.CommandLine.Answer
import Runbook.Shell.Run
import Std.Time.DateTime.Timestamp

/-!
# `Main` — the program

Reads the folder that the program is started in, lets the library answer, and writes what changed.
Printed text goes to the standard output, and what was told on the way to the standard error.
-/

set_option autoImplicit false

open Runbook

/-- How deep folders are looked into. -/
def maxFolders : Nat := 64

/-- What is in a folder of the disk, with locations from the root; no deeper than `depth`
folders. -/
def readEntries (folder : IO.FS.DirEntry) (location : List String) :
    (depth : Nat) → IO (List (List String × File.Node))
  | 0 => pure []
  | depth + 1 => do
    let mut found := []
    for entry in ← folder.path.readDir do
      let here := location ++ [entry.fileName]
      if ← entry.path.isDir then
        found := found ++ (here, .folder) :: (← readEntries entry here depth)
      else
        let bytes ← IO.FS.readBinFile entry.path
        found := found ++ [(here, .file bytes.toList)]
    pure found

/-- The project around the folder that the program is started in. -/
def readProject : IO Project := do
  let root := File.Path.ofString (toString (← IO.currentDir))
  let entries ← readEntries ⟨".", "."⟩ root.names maxFolders
  let above := File.Tree.empty.withFolder root
  pure ⟨⟨above.entries ++ entries⟩, root⟩

/-- A location as the operating system spells it. -/
def diskPath (location : List String) : String := File.Path.text ⟨.root, location⟩

/-- What a later state of the files has and an earlier one has not, on the disk. -/
def writeChanges (before after : File.Tree) : IO Unit := do
  for (location, node) in before.added after do
    match node with
    | .folder => IO.FS.createDirAll (diskPath location)
    | .file bytes => IO.FS.writeBinFile (diskPath location) ⟨bytes.toArray⟩
  for location in before.gone after do
    IO.FS.removeFile (diskPath location)

/-- The time of day. -/
def readClock : IO Time.Timestamp := do
  let now ← Std.Time.Timestamp.now
  let micro := (now.val.nano.val / 1000).toNat
  match Time.Timestamp.ofEpoch now.val.second.val micro with
  | .ok t => pure t
  | .error _ => throw (IO.userError "The clock is outside the calendar.")

/-- The program. -/
def main (arguments : List String) : IO UInt32 := do
  let invocation := CommandLine.Invocation.ofArguments arguments
  let project ← readProject
  let host : Host := ⟨← readClock, fun p asked => Shell.execute p.files p.root asked⟩
  let answer := invocation.answer host project
  writeChanges project.files answer.project.files
  for event in answer.events do
    if invocation.shown.rank ≤ event.level.rank then IO.eprintln event.message
  if invocation = .misuse then IO.eprint CommandLine.helpText
  IO.print answer.out
  pure answer.exit.toUInt32
