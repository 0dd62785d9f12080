import Runbook.Command.Basic
import Runbook.Datum.Check
import Runbook.Datum.Toml.Basic
import Runbook.File.Path
import Runbook.Text.Utf8
import Runbook.Workflow.Reading

/-!
# `Settings` — how a project is set up

A project says in a file where its workflows and its tasks file are, how loop commands are run, and
how strictly documents are read. All of it may be left out. The file is either read or refused with
the reason (`SettingsError`), and a value that makes no sense is refused with all the others.

Paths are taken as they are written. Where they lead is decided by `resolve`: a path that was given
on the command line goes before the one in the file, and a relative one starts at the project's
root.
-/

set_option autoImplicit false

namespace Runbook

open Runbook.Text Runbook.Workflow

/-- How a project is set up. -/
structure Settings where
  /-- The folder of the workflow documents. -/
  workflows : File.Path := .ofString ".windsurf/workflows"
  /-- The tasks file. -/
  store : File.Path := .ofString ".plait/tasks.json"
  /-- The shell that runs loop commands. -/
  shell : String := Command.defaultShell
  /-- The seconds that a loop command has. -/
  timeout : Nat := Command.defaultTimeout.toNat
  /-- Steps with more than one marker are refused. -/
  strict : Bool := true
  deriving DecidableEq, Repr

/-- Why a settings file can not be gone through at all. -/
inductive Unreadable where
  /-- It is not text. -/
  | notText (fault : Utf8.Fault)
  /-- A number in it is too long to be read. -/
  | overlong
  deriving DecidableEq, Repr

/-- Why a settings file is of no use. -/
inductive SettingsError where
  /-- It can not be gone through. -/
  | undecodable (reason : Unreadable)
  /-- It is not TOML. -/
  | malformed
  /-- Some of its values make no sense. -/
  | invalid (faults : List Fault)
  deriving DecidableEq, Repr

/-- What is said of a settings file at a path. Nothing is said of one that can not be gone through:
that ends the program. -/
def SettingsError.message? (path : String) : SettingsError → Option String
  | .undecodable _ => none
  | .malformed => some ("Invalid TOML in " ++ path)
  | .invalid _ => some ("Invalid configuration in " ++ path)

/-- Paths that go before those of the settings file. -/
structure Overrides where
  workflows : Option File.Path := none
  store : Option File.Path := none
  deriving DecidableEq, Repr

namespace Settings

/-- A section that may be left out. -/
def checkSection {α : Type} (fields : Fields) (name : String) (absent : α)
    (check : Fields → Checked α) : Checked α :=
  fields.default (.plain name) absent (Datum.asRecordOf check)

/-- A value that may be left out of a section. -/
def checkValue {α : Type} (fields : Fields) (name : String) (absent : α)
    (check : Datum → Checked α) : Checked α :=
  fields.default (.plain name) absent check

/-- A path. -/
def checkPath (d : Datum) : Checked File.Path := File.Path.ofString <$> d.asPath

/-- The settings that data denotes. -/
def ofDatum : Datum → Checked Settings :=
  let usual : Settings := {}
  Datum.asRecordOf fun fields =>
    (fun workflows store (loop : String × Nat) strict =>
        { workflows, store, shell := loop.1, timeout := loop.2, strict }) <$>
      checkSection fields "workflows" usual.workflows
        (fun f => checkValue f "dir" usual.workflows checkPath) <*>
      checkSection fields "store" usual.store
        (fun f => checkValue f "path" usual.store checkPath) <*>
      checkSection fields "loop" (usual.shell, usual.timeout)
        (fun f => Prod.mk <$> checkValue f "shell" usual.shell Datum.asText <*>
          checkValue f "timeout" usual.timeout Datum.asPositive) <*>
      checkSection fields "parser" usual.strict
        (fun f => checkValue f "strict_markers" usual.strict (Datum.asBool .toml))

/-- The settings that a file holds. -/
def read (bytes : Utf8.Bytes) : Except SettingsError Settings :=
  match Utf8.decode bytes with
  | .error fault => .error (.undecodable (.notText fault))
  | .ok cs =>
    match Toml.read cs with
    | .error .malformed => .error .malformed
    | .error .overlong => .error (.undecodable .overlong)
    | .ok d =>
      match ofDatum d with
      | .valid s => .ok s
      | .invalid faults => .error (.invalid faults)

/-- The settings of a project whose file is there or not. -/
def load (file : Option Utf8.Bytes) : Except SettingsError Settings :=
  match file with
  | some bytes => read bytes
  | none => .ok {}

/-- The settings with the paths of the command line before them, seen from a root. -/
def resolve (s : Settings) (overrides : Overrides) (root : File.Path) : Settings :=
  { s with
    workflows := root.join (overrides.workflows.getD s.workflows)
    store := root.join (overrides.store.getD s.store) }

/-- How documents are read under the settings. -/
def strictness (s : Settings) : Strictness := if s.strict then .strict else .lenient

/-! ## The template -/

/-- A section in writing: its name and its lines. -/
def writeSection (name : String) (lines : List String) : String :=
  unlines (("[" ++ name ++ "]") :: lines) ++ "\n"

/-- A line of a section with a text that needs no escapes. -/
def writeText (name value : String) : String := name ++ " = \"" ++ value ++ "\""

/-- A settings file with what holds anyway, for the user to change. -/
def template : String :=
  let usual : Settings := {}
  unlines
    [writeSection "workflows" [writeText "dir" usual.workflows.text],
      writeSection "store" [writeText "path" usual.store.text],
      writeSection "loop"
        [writeText "shell" usual.shell, "timeout = " ++ number usual.timeout],
      writeSection "parser" ["strict_markers = " ++ if usual.strict then "true" else "false"]]

end Settings

end Runbook
