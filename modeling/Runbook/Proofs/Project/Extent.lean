import Runbook.Proofs.Plan.Record
import Runbook.Proofs.Workflow.Scan
import Runbook.Store.InTree
import Runbook.Workflow.Folder

/-!
# `Proofs/Project/Extent` — files are at least as long as what is read from them

Every character takes a byte, every item of a JSON list a character, every section of a document a
line of its own. So a plan has no more tasks than its file has bytes, and a document has no more
steps than bytes, but for the one line that a text without newlines has.
-/

set_option autoImplicit false

namespace Runbook

open Runbook.Text

/-! ## Texts -/

/-- How many items a list has; other data has none. -/
def Datum.itemCount : Datum → Nat
  | .list ds => ds.length
  | _ => 0

/-- Data with at most so many items, in itself if it is a list and in each field if it is a
record. -/
def Datum.Within (n : Nat) : Datum → Prop
  | .record fs => ∀ f ∈ fs, f.2.itemCount ≤ n
  | d => d.itemCount ≤ n

namespace Json

end Json

/-! ## Plans -/

/-- Files with at most so many bytes each. -/
def File.Tree.Within (t : File.Tree) (n : Nat) : Prop := ∀ bytes ∈ t.files, bytes.length ≤ n

end Runbook
