import BookLinks.Web.Cache
import BookLinks.Web.Fetch
import BookLinks.Web.Template
import BookLinks.Config.Settings
import BookLinks.Link.Href
import BookLinks.Url.Split
/-!
# Checking web links

A web link is valid without a request when an exclusion pattern matches it, when web links
are not followed, or when its scheme is not HTTP. Otherwise its outcome comes from the
cache under the normalised URL, or from fetching it: a 2xx status is valid, any other is an
error, and statuses 429 and 5xx and transport failures are tried again, up to the number of
retries, after a pause that grows by the backoff with each attempt.
-/
namespace BookLinks.Web

open BookLinks.Config

inductive CheckFault where
  /-- The client met a failure that the checker does not handle. -/
  | client (r : Response)
  /-- The URL cannot be split into its parts. -/
  | badUrl (e : Url.UrlError)
  deriving Repr, Inhabited

/-- Everything a web check changes or records: the cache, the clock, the scripted web,
the requests sent, the pauses made and the warnings given. -/
structure Session where
  cache : OutcomeCache
  clock : Float
  script : Script
  requests : List FetchRequest := []
  sleeps : List Float := []
  logs : List LogRecord := []
  deriving Inhabited

/-- A computation of a check: it changes the session and may stop with a fault, the
session kept as it was then. -/
abbrev CheckM := ExceptT CheckFault (StateM Session)

def warn (message : String) : CheckM Unit :=
  modify (fun s => { s with logs := s.logs ++ [LogRecord.warning message] })

/-- A web checker: its settings, the environment that header values read from, and the
client it fetches with. -/
structure WebChecker where
  settings : Settings
  env : List (String × String)
  client : Client
  deriving Inhabited

namespace WebChecker

/-- The headers sent to a URL: the user agent, then every configured header for it, its
value read from the environment; a header whose variable is not set is left out with a
warning. -/
def buildHeaders (w : WebChecker) (url : String) : CheckM (List (String × String)) :=
  (w.settings.headersFor url).foldlM (fun hs h =>
    match interpolate w.env h.value with
    | .ok value => pure (setHeader hs h.name value)
    | .error name => do
      warn ("Unable to interpolate \"" ++ h.text ++ "\" because " ++ unsetMessage name)
      pure hs) [("User-Agent", w.settings.userAgent)]

def send (w : WebChecker) (r : FetchRequest) : CheckM Reply := do
  let s ← get
  let (answer, script) := s.script.next r.url
  set { s with script, requests := s.requests ++ [w.client.sent r] }
  match w.client.reply answer with
  | .fault f => throw (.client f)
  | reply => pure reply

def retryable (code : Int) : Bool := code == 429 || code ≥ 500

/-- Attempts `attempt` and later ones, up to `last`, with the outcome so far. -/
def attemptFrom (w : WebChecker) (r : FetchRequest) (last : Nat) :
    Nat → Nat → Outcome → CheckM Outcome
  | 0, _, outcome => pure outcome
  | fuel + 1, attempt, _ => do
    let (outcome, retry) ← match ← w.send r with
      | .status code =>
        if 200 ≤ code ∧ code < 300 then return Outcome.valid
        else pure (Outcome.error ("HTTP status " ++ toString code), retryable code)
      | .transportFailure m => pure (Outcome.error ("transport failure: " ++ m), true)
      | .fault f => throw (.client f)
    if !retry || attempt == last then pure outcome
    else
      modify (fun s => { s with sleeps := s.sleeps ++ [w.settings.retryBackoff * Float.ofNat attempt] })
      w.attemptFrom r last fuel (attempt + 1) outcome

def fetch (w : WebChecker) (url : String) : CheckM Outcome := do
  let headers ← w.buildHeaders url
  let r : FetchRequest := ⟨url, headers, w.settings.requestTimeout, "GET"⟩
  let attempts := w.settings.maxRetries + 1
  w.attemptFrom r attempts attempts 1 (Outcome.error "transport failure: no attempt made")

/-- The outcome under a cache key: the fresh cached one at the clock's reading, or a computed
one that is then stored at the clock's reading after the computation; a computation that fails
stores nothing. Also whether it came from the cache. -/
def cached (key : String) (timeout : Seconds) (compute : CheckM Outcome) :
    CheckM (Outcome × Bool) := do
  let s ← get
  let (found, cache) := s.cache.lookup key s.clock timeout
  set { s with cache }
  match found with
  | some e => pure (e.outcome, true)
  | none =>
    let o ← compute
    modify (fun s => { s with cache := (s.cache.store key o s.clock).2 })
    pure (o, false)

def check (w : WebChecker) (url : String) : CheckM Outcome := do
  if w.settings.shouldSkip url then return Outcome.valid "excluded"
  if !w.settings.followWebLinks then return Outcome.valid "not followed"
  if !Link.isWebScheme url then return Outcome.valid "unsupported scheme"
  let key ← match Url.normalize url with
    | .ok k => pure k
    | .error e => throw (.badUrl e)
  let (o, _) ← cached key (.whole w.settings.cacheTimeout) (w.fetch url)
  pure o

end WebChecker

end BookLinks.Web
