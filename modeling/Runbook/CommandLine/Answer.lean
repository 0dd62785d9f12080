import Runbook.CommandLine.Arguments
import Runbook.CommandLine.Reply
import Runbook.Project.Basic
import Runbook.Text.Case

/-!
# `CommandLine/Answer` — what comes back from a command line

A command takes a project to a project and gives a reply. The options for printing come in only
afterwards (`Run.print`): what is done is a function of the command and the paths alone.

An invocation ends with an exit status and some printed text, whatever it was. Questions for help or
for the version are answered without a look at the project, and so is a line that makes no sense.
-/

set_option autoImplicit false

namespace Runbook.CommandLine

open Runbook.Console Runbook.Text

/-! ## Commands carried out -/

/-- A command carried out. -/
structure Run where
  events : List Event := []
  /-- What is on the console in any case. -/
  preface : List Block := []
  reply : Reply
  /-- The project afterwards. -/
  project : Project

namespace Run

/-- What is printed. -/
def print (r : Run) (audience : Audience) : String :=
  textOf r.preface ++ r.reply.notice.text audience

/-- A run under the settings of a project, or else the reply that they are bad. -/
def withSettings (p : Project) (overrides : Overrides) (run : Settings → Run) : Run :=
  match p.settings overrides with
  | .ok s => run s
  | .error e => { reply := .badSettings p.settingsPath.text e, project := p }

/-- Work on the plan of a project. -/
def ofWork {α : Type} (host : Host) (p : Project) (s : Settings) (work : Context Workspace → Work Workspace α)
    (answer : α → Reply) (failed : Failure → Reply) : Run :=
  let (report, after) := p.perform s (work (p.context host s))
  { events := report.events
    reply :=
      match report.answer with
      | .ok a => answer a
      | .error e => failed e
    project := after }

/-- What programs are told when a task cannot be completed. -/
def completeDetails : Failure → Fields
  | .store (.unknownTask id known) =>
    [("task_id", .text id), ("valid_ids", .list (known.map .text))]
  | _ => []

/-- The folder of the workflow documents, for people who set a project up. -/
def folderBlocks (p : Project) (s : Settings) : List Block :=
  if p.files.isFolder s.workflows then
    [.line ("✓ workflows: " ++ s.workflows.text ++ " (" ++ number (p.documents s).documentCount ++
      " documents)")]
  else
    [.line ("? workflows directory not found: " ++ s.workflows.text),
      .line "  Set [workflows] dir in config.toml"]

/-- A project set up. A settings file that is there is left alone. -/
def init (p : Project) (overrides : Overrides) : Run :=
  let known := p.files.exists? p.settingsPath
  let after := if known then p else p.withTemplate
  let first : Block := .line
    ((if known then "Config already exists: " else "Created config template: ") ++
      p.settingsPath.text)
  let rest := withSettings after overrides fun s =>
    { preface := folderBlocks after s ++ [.line "\nPlait initialized successfully!"]
      reply := .ready
      project := after }
  { rest with preface := first :: rest.preface }

/-- A command carried out in a project. -/
def ofInstruction (host : Host) (p : Project) (overrides : Overrides) : Instruction → Run
  | .init => init p overrides
  | .generate workflow =>
    withSettings p overrides fun s =>
      ofWork host p s (Session.generate · workflow) .generated
        (.failed [("workflow", .text workflow)])
  | .start workflow =>
    withSettings p overrides fun s =>
      ofWork host p s (Session.start · workflow) (.start workflow)
        (.failed [("workflow", .text workflow)])
  | .next =>
    withSettings p overrides fun s =>
      ofWork host p s (fun c => Session.next c.now) .next (.failed [])
  | .complete id =>
    withSettings p overrides fun s =>
      ofWork host p s (fun c => Session.complete c.now (upper id)) (.completed (upper id))
        fun e => .failed (completeDetails e) e
  | .status =>
    withSettings p overrides fun s =>
      ofWork host p s (fun c => Work.load c.now) .status (.failed [])
  | .reset =>
    withSettings p overrides fun s =>
      ofWork host p s (fun _ => Session.reset) .reset (.failed [])
  | .list =>
    withSettings p overrides fun s =>
      ofWork host p s Session.list (.listed s.workflows.text) (.failed [])

end Run

/-! ## Invocations answered -/

/-- What comes back: an exit status, what is printed, what is told on the way, and the project. -/
structure Answer where
  exit : Nat := 0
  out : String := ""
  events : List Event := []
  project : Project

/-- The version in print. -/
def versionText : String := "plait 0.1.0\n"

/-- How the program is used. -/
def helpText : String :=
  unlines
    ["Usage: plait [OPTIONS] COMMAND [ARGS]...", "",
      "Flatten markdown workflows into a numbered task list and execute it one task at a time", "",
      "Options: --version, --verbose, --quiet, --json, --no-color, --workflows-dir PATH,",
      "  --tasks-file PATH", "",
      "Commands: init, generate WORKFLOW, start WORKFLOW, next, complete TASK_ID, status, reset,",
      "  list",
      ""]

/-- The least level of the events that are shown to the user. -/
def Invocation.shown : Invocation → Level
  | .run options _ => shownLevel options.verbosity options.quiet false
  | _ => .info

/-- What comes back from an invocation in a project. -/
def Invocation.answer (host : Host) (p : Project) : Invocation → Answer
  | .help => { out := helpText, project := p }
  | .version => { out := versionText, project := p }
  | .misuse => { exit := 2, project := p }
  | .run options instruction =>
    let run := Run.ofInstruction host p options.overrides instruction
    { exit := run.reply.exit
      out := run.print options.audience
      events := run.events
      project := run.project }

end Runbook.CommandLine
