import Runbook.Datum.Check
import Runbook.Workflow.Step

/-!
# `Workflow/Record` — steps as data

Steps can be handed over as data as well as read from documents. What is left out has the value that
a plain step has.
-/

set_option autoImplicit false

namespace Runbook.Workflow

/-- The name of a kind. -/
def Kind.ofDatum : Datum → Checked Kind
  | .text s => .ofOption .noKind (Kind.ofText? s)
  | _ => .fault .noKind

/-- The step that data denotes. -/
def Step.ofDatum : Datum → Checked Step :=
  Datum.asRecordOf fun fields =>
    Step.mk <$> fields.require (.plain "id") Datum.asText
      <*> fields.require (.plain "name") Datum.asText
      <*> fields.default (.plain "kind") .task Kind.ofDatum
      <*> fields.default (.plain "body") "" Datum.asText
      <*> fields.default (.plain "target_workflow") none Datum.asTextOrNull
      <*> fields.default (.plain "loop_command") none Datum.asTextOrNull
      <*> fields.default (.plain "loop_variable") none Datum.asTextOrNull
      <*> fields.require (.plain "source_workflow") Datum.asText
      <*> fields.require (.plain "line_number") Datum.asInt

end Runbook.Workflow
