import Runbook.Session.Operation
import Runbook.Settings.Basic
import Runbook.Store.InTree
import Runbook.Workflow.Folder

/-!
# `Project` — a folder in which work is done

A project is a folder with a settings file, workflow documents and a tasks file in it. Nothing else
of it is remembered from one command to the next, so each command is a new session on the files.

What lies outside is a `Host`: it tells the time, and how a process ends that runs among the files,
and what it leaves behind there. A loop's command is such a process, so what comes after it in an
expansion is read from the files as the command has left them.
-/

set_option autoImplicit false

namespace Runbook

/-- Files, and the folder among them in which work is done. -/
structure Project where
  files : File.Tree
  root : File.Path

/-- What a project does not decide itself. -/
structure Host where
  now : Time.Timestamp
  execute : Project → Command.Request → Command.Ending × File.Tree

namespace Project

/-- The folder for what the program keeps. -/
def ownFolder (p : Project) : File.Path := p.root.child ".plait"

/-- The settings file. -/
def settingsPath (p : Project) : File.Path := p.ownFolder.child "config.toml"

/-- The settings of the project, seen from its root. -/
def settings (p : Project) (overrides : Overrides) : Except SettingsError Settings :=
  (Settings.load (p.files.read? p.settingsPath)).map fun s => s.resolve overrides p.root

/-- The project with the template of a settings file written. -/
def withTemplate (p : Project) : Project :=
  { p with files := p.files.write p.settingsPath (Text.Utf8.ofString Settings.template) }

/-- The workflow documents. -/
def documents (p : Project) (s : Settings) : Workflow.Folder := ⟨p.files, s.workflows, s.strictness⟩

/-- The files and the place of the tasks file among them, as a store. -/
def workspace (p : Project) (s : Settings) : Workspace := ⟨p.files, s.store⟩

/-- The most workflows that are open at a time: as many as the documents refer to, and some more in
case commands write further ones. -/
def maxNesting (p : Project) (s : Settings) : Nat :=
  (p.documents s).library.references.length + 960

/-- A process that runs among the files of a session. -/
def execute (p : Project) (host : Host) (asked : Command.Request) :
    Work Workspace Command.Ending := fun s =>
  let (ending, files) := host.execute { p with files := s.store.files } asked
  ⟨[], { s with store := { s.store with files } }, .ok ending⟩

/-- The steps of a workflow whose document is among the files of a session. -/
def read (p : Project) (settings : Settings) (workflow : String) :
    Work Workspace (List Workflow.Step) := fun s =>
  let docs := { p with files := s.store.files }.documents settings
  let read := docs.read workflow
  ⟨read.events, s, read.outcome.mapError .document⟩

/-- What sessions on the project depend on. -/
def context (p : Project) (host : Host) (s : Settings) : Context Workspace where
  tasks := flatten (.bounded (p.maxNesting s) (p.read s))
    (Command.runner (p.execute host) (some s.shell) (some s.timeout))
  read := (p.documents s).read
  names := (p.documents s).names
  now := host.now

/-- Work in a new session: its report, and the project after it. -/
def perform {α : Type} (p : Project) (s : Settings) (work : Work Workspace α) :
    Report Workspace α × Project :=
  let report := work { store := p.workspace s }
  (report, { p with files := report.session.store.files })

end Project

end Runbook
