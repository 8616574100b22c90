import BookLinks.Book.Document
import BookLinks.Markdown.Scan
import BookLinks.Outcome
import BookLinks.Config.Settings
import BookLinks.Text.Utf8
import BookLinks.Text.CaseMap
/-!
# Reports

The outcome of every checked link becomes a diagnostic unless it is valid. The warning
policy may drop all of them or raise them all to errors. Diagnostics are ordered by the place
of their document among the documents of the report, then by its path, then by where their
href starts, ties keeping the order of the checks; a report is rendered as compiler-style
messages that quote the line and underline the href.
-/
namespace BookLinks.Report

open BookLinks.Book BookLinks.Markdown BookLinks.Config BookLinks.Text

/-- The reason of a reference link whose label has no definition. -/
def incompleteReason : String := "no matching reference definition"

/-- The outcome of a reference link whose label has no definition, at the configured
severity. -/
def incompleteOutcome (href : String) (severity : Severity) : Outcome :=
  ⟨if severity == .error then .error else .warning, incompleteReason,
    ["help: declare the link's URL. For example: `[" ++ href ++ "]: http://example.com/`"]⟩

/-- A checked link: the position of its document in the book, the document, the
occurrence and its outcome. -/
structure CheckedLink where
  docIndex : Nat
  document : Document
  occurrence : Occurrence
  outcome : Outcome
  deriving Inhabited

structure Diagnostic where
  link : CheckedLink
  severity : Status
  deriving Inhabited

namespace Diagnostic

/-- The span of the href the diagnostic is about. -/
def span (d : Diagnostic) : Span :=
  d.link.document.span d.link.occurrence.hrefStart d.link.occurrence.hrefStop

/-- The text of a diagnostic: a question for a missing definition, else the reason with
a capital letter and the href. -/
def message (d : Diagnostic) : String :=
  let o := d.link.occurrence
  if o.kind == .incomplete then "Did you forget to define a URL for `" ++ o.href ++ "`?"
  else
    let r := d.link.outcome.reason.toList
    String.ofList (upperCase (r.take 1) ++ r.drop 1) ++ ": " ++ o.href

/-- The number of characters to underline: those of the span up to its first line break,
but no more than the line holds after the column, and at least one. -/
def underlineWidth (d : Diagnostic) (source : String) : Nat :=
  let s := d.span
  let bytes := Text.String.utf8Bytes d.link.document.text
  let covered := decodeLossy ((bytes.take s.stop).drop s.start)
  let firstLine := covered.takeWhile (· != '\n')
  let available : Int := (source.length : Int) - (s.column - 1)
  max 1 (min (firstLine.length : Int) available) |>.toNat

/-- The diagnostic as a block of lines: the message, the location, the quoted line with the
href underlined, and the notes. -/
def render (d : Diagnostic) : String :=
  let s := d.span
  let source := d.link.document.lineText s.line
  let gutter := String.ofList (List.replicate (toString s.line).length ' ')
  let pad := String.ofList (List.replicate (s.column - 1).toNat ' ')
  let marks := String.ofList (List.replicate (d.underlineWidth source) '^')
  "\n".intercalate ([d.severity.name ++ ": " ++ d.message,
    gutter ++ "--> " ++ d.link.document.path ++ ":" ++ toString s.line ++ ":" ++ toString s.column,
    gutter ++ " |",
    toString s.line ++ " | " ++ source,
    gutter ++ " | " ++ pad ++ marks] ++ d.link.outcome.notes.map (fun n => gutter ++ " = " ++ n))

/-- The diagnostic a checked link gives under a warning policy: none for a valid outcome or
when problems are ignored; an error when every problem counts as one, else a message of the
outcome's own status. -/
def ofLink? (policy : WarningPolicy) (l : CheckedLink) : Option Diagnostic :=
  if l.outcome.isValid || policy == .ignore then none
  else some ⟨l, if policy == .error then .error else l.outcome.status⟩

end Diagnostic

/-- The key a checked link's diagnostic is ordered by, given the rank of each document: the
rank of its document, the document's path, and the byte where its href starts. -/
def CheckedLink.orderKey (rank : Nat → Nat) (l : CheckedLink) : Nat × String × Nat :=
  (rank l.docIndex, l.document.path,
    (l.document.span l.occurrence.hrefStart l.occurrence.hrefStop).start)

/-- Whether one key comes no later than another: by rank, then by path, then by start. -/
def keyLE (a b : Nat × String × Nat) : Bool :=
  decide (a.1 < b.1 ∨ a.1 = b.1 ∧ (a.2.1 < b.2.1 ∨ a.2.1 = b.2.1 ∧ a.2.2 ≤ b.2.2))

/-- The rank of a document among the documents a report is given, documents being named by
their place in the book: the last position at which `documents` lists it, or, for a document
it does not list, the number of distinct documents it lists. -/
def documentRank (documents : List Nat) (doc : Nat) : Nat :=
  if doc ∈ documents then documents.length - 1 - documents.reverse.idxOf doc
  else documents.eraseDups.length

/-- A failure inside the checker that kept part of the book from being checked, with the
document it happened in, if any. -/
structure Anomaly where
  message : String
  document : Option String
  deriving Repr, Inhabited

end BookLinks.Report

namespace BookLinks

/-- A report: ordered diagnostics, anomalies, whether the run succeeded, and how many links
were checked. -/
structure Report where
  diagnostics : List Report.Diagnostic
  anomalies : List Report.Anomaly
  success : Bool
  checked : Nat
  deriving Inhabited

end BookLinks

namespace BookLinks.Report

open BookLinks.Book BookLinks.Markdown BookLinks.Config BookLinks.Text

/-- Whether a run succeeded: there is no anomaly, and no diagnostic when every problem
counts as an error. -/
def verdict (policy : WarningPolicy) (diagnostics : List Diagnostic) (anomalies : List Anomaly) :
    Bool :=
  anomalies.isEmpty && !(policy == .error && !diagnostics.isEmpty)

/-- Builds a report from checked links under a warning policy, ranking documents by `rank`:
the diagnostics of the links whose outcome is a problem, in a stable order by their keys. -/
def buildBy (policy : WarningPolicy) (rank : Nat → Nat) (links : List CheckedLink)
    (anomalies : List Anomaly) : Report :=
  let sorted := (links.filterMap (Diagnostic.ofLink? policy)).mergeSort
    (fun a b => keyLE (a.link.orderKey rank) (b.link.orderKey rank))
  ⟨sorted, anomalies, verdict policy sorted anomalies, links.length⟩

/-- The report over a sequence of documents, each ranked by `documentRank`: the last place at
which the sequence lists it. -/
def aggregate (policy : WarningPolicy) (links : List CheckedLink) (documents : List Nat)
    (anomalies : List Anomaly) : Report :=
  buildBy policy (documentRank documents) links anomalies

/-- The report of a book check, whose links carry the place of their document in the book. The
run succeeds unless there are anomalies, or the policy makes every diagnostic an error and
there is one. -/
def build (policy : WarningPolicy) (links : List CheckedLink) (anomalies : List Anomaly) :
    Report :=
  buildBy policy id links anomalies

/-- The report as text: a block per diagnostic and per anomaly, then the counts, blocks
separated by blank lines. -/
def text (r : Report) : String :=
  let errors := (r.diagnostics.filter (·.severity == .error)).length
  let warnings := (r.diagnostics.filter (·.severity == .warning)).length
  let blocks := r.diagnostics.map Diagnostic.render ++ r.anomalies.map (fun a =>
    "error: internal failure" ++ (match a.document with
      | some doc => if doc.isEmpty then "" else " (" ++ doc ++ ")"
      | none => "") ++ ": " ++ a.message)
  let summary := toString errors ++ " error(s), " ++ toString warnings ++ " warning(s), " ++
    toString r.anomalies.length ++ " internal failure(s) in " ++ toString r.checked ++ " link(s)"
  "\n\n".intercalate (blocks ++ [summary]) ++ "\n"

end BookLinks.Report
