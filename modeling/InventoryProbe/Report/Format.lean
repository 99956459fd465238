import InventoryProbe.Report.Basic

/-!
# Report documents

How reports are written as documents. A finding is one object that holds its identifier beside the
members of its judgement.
-/

namespace InventoryProbe

namespace Finding

/-- The one field that a finding has beside those of its judgement. -/
def idLayout : Layout Finding String :=
  Layout.start (fun s => s) |>.required "finding_id" .text (·.id)

/-- Findings in documents. The members of the judgement are held back until the identifier has been
found. -/
def codec : Codec Finding where
  read
    | form, .object members => do
      let id ← idLayout.read .kept form (.object members)
      return ⟨id, ← Judgement.codec.read .held (.object members)⟩
    | _, _ => .error .malformed
  write f := .object (idLayout.members f ++ Judgement.layout.members f.judgement)

end Finding

namespace Report

def layout : Layout Report Report :=
  Layout.start Report.mk
    |>.required "check" .text (·.check)
    |>.required "state" Severity.codec (·.state)
    |>.required "summary" .text (·.summary)
    |>.optional "collected_at" Timestamp.codec (·.collectedAt)
    |>.required "evaluated_objects" .count (·.evaluated)
    |>.required "findings" Finding.codec.list (·.findings)

def codec : Codec Report := layout.codec .skipped

/-- The report as an indented JSON text. -/
def json (r : Report) : String := Json.write .indented (codec.write r)

end Report

end InventoryProbe
