import BookLinks.Cli.Parse
import BookLinks.Run
import BookLinks.Report.Json
import BookLinks.Config.File
import BookLinks.Book.Load
/-!
# A run of the command

A run reads its command line first: help is printed and a wrong line is reported with the
usage, before anything else happens. Then it opens the log file, reads the book, the
settings and the cache, checks the book, saves the cache and prints the report.

Paths on the command line are seen from the working directory and named in messages as
written, in their canonical form. The book's root and the log file are named by their
absolute paths. A missing book directory, a missing settings file named on the command
line and refused settings end the run with status 2 and a message. A cache that cannot be
read, or saved, is only a warning. The status is 0 when the report succeeds, and 1 when it
does not. Other failures stop the run as a crash, which the command does not report
itself.
-/
namespace BookLinks.Cli

open BookLinks.Fs BookLinks.Config BookLinks.Report BookLinks.Web

/-- What a run sees: the files, the working directory, the arguments, the environment,
the web, and the time. -/
structure Invocation where
  volume : Volume
  cwd : String
  args : List String
  env : List (String × String)
  client : Client
  script : Script
  clock : Float

/-- What a run leaves: its status, what it printed on standard output and standard error,
what it logged, the files after it, and the web requests it sent. -/
structure Completion where
  status : Nat
  stdout : String := ""
  stderr : String := ""
  logs : List LogRecord := []
  volume : Volume
  requests : List FetchRequest := []

/-- Why a run stopped with a failure that the command does not report itself. -/
inductive Crash where
  /-- The log file could not be opened; the path is absolute. -/
  | logFile (e : FsError) (path : String)
  /-- The book could not be read. -/
  | book (e : Book.LoadError)
  /-- The settings file could not be read. -/
  | settings (e : FileError)
  /-- The cache file could not be read. -/
  | cache (e : CacheFault)
  /-- The check of the book stopped. -/
  | check (e : RunError)

def Crash.message : Crash → String
  | .logFile e path => e.message path
  | .book e => e.message
  | .settings e => e.message
  | .cache f => f.message
  | .check e => e.message

def statusSuccess : Nat := 0

def statusFailed : Nat := 1

/-- The status of a run refused for its command line or its files. -/
def statusUsage : Nat := 2

/-- The cache file of a book, below its root. -/
def defaultCacheFile : String := ".linkcheck/cache.json"

/-- Opens the log file at `path`, seen from `cwd`, to add to it: a missing file is made
empty. A failure names the absolute path, folded lexically. -/
def openLog (v : Volume) (cwd path : String) : Except Crash Volume :=
  let full := normalize (join cwd path)
  match v.stat full with
  | .ok (.file _) => .ok v
  | .ok .dir => .error (.logFile .isDirectory full)
  | _ => (v.writeFile full []).mapError (fun e => .logFile e full)

/-- The settings with the command line's overrides: flags given turn settings on, and a
policy given replaces the configured one. -/
def Options.override (o : Options) (s : Settings) : Settings :=
  { s with followWebLinks := s.followWebLinks || o.followWebLinks,
           traverseParents := s.traverseParents || o.traverseParents,
           warningPolicy := o.warningPolicy.getD s.warningPolicy }

/-- The cache file the options name, as written: none without a cache, the one given, or
the book's own. -/
def Options.cacheFileIn (o : Options) (root : String) : Option String :=
  if o.noCache then none
  else some (match o.cacheFile with
    | some p => canonical p
    | none => join root defaultCacheFile)

/-- A run refused with a message on standard error. -/
def refusal (v : Volume) (message : String) : Completion :=
  { status := statusUsage, stderr := message ++ "\n", volume := v }

namespace Invocation

/-- The path of a command-line path, seen from the working directory. -/
def locate (inv : Invocation) (path : String) : String := join inv.cwd (canonical path)

def check (inv : Invocation) (o : Options) : Except Crash Completion := do
  let v ← match o.logFile with
    | some p => openLog inv.volume inv.cwd (canonical p)
    | none => pure inv.volume
  let (book, bookLogs) ← match Book.load v (inv.locate o.path) with
    | .ok r => pure r
    | .error (.noRoot root) => return refusal v (Book.LoadError.noRoot root).message
    | .error e => throw (.book e)
  let chosen := o.config.filter (· ≠ "")
  if let some c := chosen then
    if !v.pathExists (inv.locate c) then
      return refusal v ("Configuration file not found: " ++ canonical c)
  let settings ← match loadSettings v ((chosen.map inv.locate).getD book.root) with
    | .ok s => pure (o.override s)
    | .error (.settings e) =>
      if !e.isRefusal then throw (.settings (.settings e))
      else return refusal v (programName ++ ": invalid configuration: " ++ e.message)
    | .error e => throw (.settings e)
  let cacheFile := o.cacheFileIn book.root
  let (cache, cacheLogs) ← match cacheFile with
    | some p => (OutcomeCache.load v inv.cwd p).mapError Crash.cache
    | none => pure ({}, [])
  let check : BookCheck :=
    ⟨settings, ⟨settings, inv.env, inv.client⟩, ⟨v, book.root, settings.traverseParents, inv.cwd⟩⟩
  let (result, session) := (check.run book.documents).run
    { cache := cache, clock := inv.clock, script := inv.script }
  let report ← result.mapError Crash.check
  let (v, saveLogs) := match (session.cache.persist v inv.cwd).2 with
    | .ok (_, w) => (w, [])
    | .error (e, at_) => (v, [LogRecord.warning ("Unable to save the link cache to " ++
        cacheFile.getD "" ++ ": " ++ e.message at_)])
  pure { status := if report.success then statusSuccess else statusFailed,
         stdout := if o.json then report.json else report.text,
         logs := bookLogs ++ cacheLogs ++ session.logs ++ saveLogs,
         volume := v, requests := session.requests }

/-- Runs the command: help and a wrong command line are answered at once, and any other
command line checks a book. -/
def run (inv : Invocation) : Except Crash Completion :=
  match readArgs inv.args with
  | .help => .ok { status := statusSuccess, stdout := helpPage, volume := inv.volume }
  | .usageError m =>
    let message := usage ++ programName ++ ": error: " ++ m ++ "\n"
    .ok { status := statusUsage, stderr := message, volume := inv.volume }
  | .run o => inv.check o

end Invocation

end BookLinks.Cli
