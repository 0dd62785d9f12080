import Runbook.Main
import Runbook.Project.Completion
import Runbook.Proofs.CommandLine.Effects
import Runbook.Proofs.CommandLine.Machine
import Runbook.Proofs.Expansion.Visited
import Runbook.Proofs.Loop.Items
import Runbook.Proofs.Loop.Tasks
import Runbook.Proofs.Plan.Respelling
import Runbook.Proofs.Project.Completion
import Runbook.Proofs.Project.Places
import Runbook.Proofs.Session.Advance
import Runbook.Proofs.Session.Corrupt
import Runbook.Proofs.Session.Flags
import Runbook.Proofs.Session.Interchange
import Runbook.Proofs.Session.Listing
import Runbook.Proofs.Session.Renewal
import Runbook.Proofs.Session.WorkOff
import Runbook.Proofs.Text.Lower
import Runbook.Proofs.Text.Slug
import Runbook.Proofs.Workflow.Conservation
import Runbook.Proofs.Workflow.Grammar
import Runbook.Proofs.Workflow.Inert
import Runbook.Proofs.Workflow.Joined
import Runbook.Proofs.Workflow.Name
import Runbook.Proofs.Workflow.Spelling
import Runbook.Proofs.Workflow.Strictness
import Runbook.Workflow.Record
