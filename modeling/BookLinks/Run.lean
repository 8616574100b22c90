import BookLinks.Report.Diagnostic
import BookLinks.Book.Resolve
import BookLinks.Web.Check
/-!
# Checking a book

A check first makes the book's root real, and each document's path under it; a path that
cannot be made real stops it. Then every link of every document is checked: references
without a definition and excluded links at once, in-page anchors against the anchors of their
document, file links against the file system from the real root. Web links are gathered by
normalised URL, and each URL is checked once, for the first link that names it; its outcome
holds for all of them. A failure while checking one link becomes an anomaly of the report and
the check goes on.
-/
namespace BookLinks

open BookLinks.Book BookLinks.Fs BookLinks.Markdown BookLinks.Config BookLinks.Report BookLinks.Web

/-- The name and message of a failure in a check. -/
structure Failure where
  kind : String
  message : String
  deriving Repr, Inhabited

def faultFailure : CheckFault → Failure
  | .badUrl e => ⟨"ValueError", e.message⟩
  | .client r => match r with
    | .unreachable m => ⟨"URLError", "<urlopen error " ++ m ++ ">"⟩
    | .timeout m => ⟨"TimeoutError", m⟩
    | .systemError m => ⟨"OSError", m⟩
    | .badValue m => ⟨"ValueError", m⟩
    | .protocolError m => ⟨"HTTPException", m⟩
    | .other m => ⟨"RuntimeError", m⟩
    | .transport m => ⟨"TransportError", m⟩
    | .status n | .httpError n => ⟨"HTTPError", toString n⟩

/-- What checking a link in place gives: its outcome, a web URL to check later, or a
failure. -/
inductive LocalResult where
  | done (o : Outcome)
  | web (url : String)
  | failed (f : Failure)
  deriving Inhabited

/-- A check of a whole book: the settings, the web checker and how file links are checked,
from the book's root as given. -/
structure BookCheck where
  settings : Settings
  web : WebChecker
  files : FileCheck

/-- Why a check of a book stops without a report. -/
inductive RunError where
  /-- The book's root or a document's path cannot be made real. -/
  | path (e : RealError)
  /-- A web URL cannot be normalised. -/
  | url (e : Url.UrlError)
  deriving Repr

def RunError.message : RunError → String
  | .path e => e.message
  | .url e => e.message

namespace BookCheck

/-- The book's root, seen from the working directory, made real; the root as given when it
cannot be made real, in which case no check gets past its start. -/
def realRoot (c : BookCheck) : String :=
  (c.files.volume.realPath (join c.files.cwd c.files.root)).toOption.getD c.files.root

/-- How file links are checked: from the real root. -/
def resolver (c : BookCheck) : FileCheck := { c.files with root := c.realRoot }

/-- What a check does as it starts: it makes the root real, then the path of each document
under the real root; the first path that cannot be made real stops the check. -/
def prepare (c : BookCheck) (docs : List Document) : Except RealError Unit := do
  let root ← c.files.volume.realPath (join c.files.cwd c.files.root)
  docs.forM fun doc => do
    let _ ← c.files.volume.realPath (join root doc.path)

def checkHere (c : BookCheck) (doc : Document) (o : Occurrence) : LocalResult :=
  if o.kind == .incomplete then .done (incompleteOutcome o.href c.settings.incompleteSeverity)
  else if c.settings.shouldSkip o.href then .done (Outcome.valid "excluded")
  else match Link.classify o.href with
    | .error e => .failed ⟨"ValueError", e.message⟩
    | .ok (.web url) => .web url
    | .ok (.anchor f) => .done (checkFragment f (collectAnchors doc.text))
    | .ok (.file path fragment) =>
      match c.resolver.check path fragment doc with
      | .ok out => .done out
      | .error e => .failed ⟨"RuntimeError", e.message⟩

/-- What the local pass gathers: checked links, web links waiting by key in order of first
appearance, anomalies and error records. -/
structure Gathered where
  links : List CheckedLink := []
  pending : List (String × List (CheckedLink × String)) := []
  anomalies : List Anomaly := []
  logs : List LogRecord := []
  deriving Inhabited

def Gathered.addWeb (g : Gathered) (key : String) (link : CheckedLink) (url : String) : Gathered :=
  if g.pending.any (·.1 == key) then
    { g with pending := g.pending.map (fun (k, ls) => if k == key then (k, ls ++ [(link, url)]) else (k, ls)) }
  else { g with pending := g.pending ++ [(key, [(link, url)])] }

/-- The local pass over one link of the `i`-th document: its outcome, its anomaly, or its
web URL under the URL's normal form; a web URL that cannot be normalised stops the pass. -/
def gatherLink (c : BookCheck) (doc : Document) (i : Nat) (g : Gathered) (o : Occurrence) :
    Except Url.UrlError Gathered :=
  let link : CheckedLink := ⟨i, doc, o, Outcome.valid⟩
  match c.checkHere doc o with
  | .done out => pure { g with links := g.links ++ [{ link with outcome := out }] }
  | .failed f => pure { g with
      anomalies := g.anomalies ++ [⟨f.kind ++ " while checking \"" ++ o.href ++ "\": " ++ f.message, some doc.path⟩],
      logs := g.logs ++ [⟨.error, "Unable to check \"" ++ o.href ++ "\" in " ++ doc.path⟩] }
  | .web url => do
    let key ← Url.normalize url
    pure (g.addWeb key link url)

/-- The local pass over the documents of a book; a web URL that cannot be normalised stops
it. -/
def gather (c : BookCheck) (docs : List Document) : Except Url.UrlError Gathered :=
  (docs.zipIdx).foldlM (fun g (doc, i) => (scan doc).foldlM (c.gatherLink doc i) g) {}

/-- Checks a web group: the URL of its first link, whose outcome all its links take; a failed
check becomes an anomaly of the group. -/
def checkGroup (c : BookCheck) (acc : Gathered) :
    String × List (CheckedLink × String) → StateM Session Gathered
  | (key, group) => do
    match group.head? with
    | none => pure acc
    | some (_, url) =>
      match ← (c.web.check url).run with
      | .ok out => pure { acc with links := acc.links ++ group.map (fun (l, _) => { l with outcome := out }) }
      | .error fault =>
        let f := faultFailure fault
        pure { acc with
          anomalies := acc.anomalies ++ [⟨f.kind ++ " while checking \"" ++ key ++ "\": " ++ f.message, none⟩],
          logs := acc.logs ++ [⟨.error, "Unable to check " ++ key⟩] }

/-- Checks the web links of the gathered groups, one URL per group. -/
def checkWeb (c : BookCheck) (g : Gathered) : StateM Session Gathered :=
  g.pending.foldlM c.checkGroup g

/-- Checks the links of a book: the report, or the URL error that stopped the check. The
error records of failed checks are added to the session's log. -/
def checkLinks (c : BookCheck) (docs : List Document) :
    StateM Session (Except Url.UrlError Report) := do
  match c.gather docs with
  | .error e => pure (.error e)
  | .ok g =>
    let g ← c.checkWeb g
    modify (fun s => { s with logs := s.logs ++ g.logs })
    pure (.ok (Report.build c.settings.warningPolicy g.links g.anomalies))

/-- Checks a book: its start, then its links; the report, or the error that stopped the
check. -/
def run (c : BookCheck) (docs : List Document) : StateM Session (Except RunError Report) := do
  match c.prepare docs with
  | .error e => pure (.error (.path e))
  | .ok () => return (← c.checkLinks docs).mapError .url

end BookCheck

end BookLinks
