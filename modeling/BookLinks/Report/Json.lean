import BookLinks.Report.Diagnostic
import BookLinks.Data.Json.Write
/-!
# Reports as JSON

The JSON form of a report: whether it succeeded, how many links were checked, then every
diagnostic with its document, the span of its href, its severity, message, reason and
notes, and every anomaly with its document, if any, and message. Fields stand in this order.
-/
namespace BookLinks.Report

open BookLinks.Data BookLinks.Book

/-- The JSON form of a span: its byte range, line and column. -/
def spanValue (s : Span) : Value :=
  Value.object [("start", .int s.start), ("end", .int s.stop), ("line", .int s.line),
    ("column", .int s.column)]

def Diagnostic.toValue (d : Diagnostic) : Value :=
  Value.object [("document", .str d.link.document.path), ("span", spanValue d.span),
    ("severity", .str d.severity.name), ("message", .str d.message),
    ("reason", .str d.link.outcome.reason), ("notes", .list (d.link.outcome.notes.map .str))]

/-- The JSON form of an anomaly; a missing document is null. -/
def Anomaly.toValue (a : Anomaly) : Value :=
  Value.object [("document", (a.document.map Value.str).getD .null), ("message", .str a.message)]

/-- The fields of the JSON form of a report, in order. -/
def fields (r : Report) : List (String × Value) :=
  [("success", .bool r.success), ("checked", .int r.checked),
   ("diagnostics", .list (r.diagnostics.map Diagnostic.toValue)),
   ("anomalies", .list (r.anomalies.map Anomaly.toValue))]

def toValue (r : Report) : Value := Value.object r.fields

/-- The report as JSON text, indented by two spaces, with a final line break. -/
def json (r : Report) : String :=
  Json.write ⟨some 2, false⟩ r.toValue ++ "\n"

end BookLinks.Report
