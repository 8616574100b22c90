import BookLinks.Config.Header
import BookLinks.Data.Literal
import BookLinks.Decimal.Read
import BookLinks.Regex.Match
import BookLinks.Text.CaseMap
/-!
# Settings of a link check

The settings that a book's configuration file gives, read from a mapping. Keys may be
written with dashes or underscores; when both spellings of a key are given, the later one
counts. Every setting has a default, and a value of the wrong kind is refused with a
message that names the setting.
-/
namespace BookLinks.Data.Value

open BookLinks.Text BookLinks.Decimal

/-- A value as a truth value: a boolean, or one of the words `true`, `yes`, `1`, `false`,
`no`, `0` in any case with blanks around. -/
def asBool? : Value → Option Bool
  | .bool b => some b
  | .str s =>
    let w := String.lower (strip s)
    if w == "true" || w == "yes" || w == "1" then some true
    else if w == "false" || w == "no" || w == "0" then some false
    else none
  | _ => none

/-- Whether an integer can be written in decimal: it has at most `maxIntDigits` digits. -/
@[irreducible] def intTextFits (n : Int) : Bool := n.natAbs < Nat.pow 10 maxIntDigits

/-- Whether a value can be written as text: every integer in it can be. -/
def textFits : Value → Bool
  | .int n => intTextFits n
  | .list items => items.attach.all (fun ⟨v, _⟩ => v.textFits)
  | .map entries => entries.attach.all (fun ⟨(k, v), _⟩ => k.textFits && v.textFits)
  | _ => true
termination_by v => sizeOf v
decreasing_by
  · have := List.sizeOf_lt_of_mem ‹_›
    simp only [Value.list.sizeOf_spec]; omega
  · have := List.sizeOf_lt_of_mem ‹_›
    simp only [Value.map.sizeOf_spec, Prod.mk.sizeOf_spec] at this ⊢; omega
  · have := List.sizeOf_lt_of_mem ‹_›
    simp only [Value.map.sizeOf_spec, Prod.mk.sizeOf_spec] at this ⊢; omega

/-- A value as text: text, numbers and booleans. -/
def asText? : Value → Option String
  | .str s => some s
  | v@(.int _) | v@(.float _) | v@(.bool _) => some v.text
  | _ => none

/-- A value as an integer: an integer, or text that reads as one. -/
def asInt? : Value → Option Int
  | .int n => some n
  | .str s => readInt s
  | _ => none

/-- Whether a value is an integer too large for a double. -/
def overflowsFloat : Value → Bool
  | .int n => (Int.toFloat? n).isNone
  | _ => false

/-- A value as a double: a number, or text that reads as one. -/
def asFloat? : Value → Option Float
  | .int n => Int.toFloat? n
  | .float x => some x
  | .str s => readFloat s
  | _ => none

/-- A value as a list of texts: nothing, one text, or a list of texts. -/
def asTextList? : Value → Option (List String)
  | .null => some []
  | .str s => some [s]
  | .bytes [] => some []
  | .list items => items.mapM str?
  | _ => none

end BookLinks.Data.Value

namespace BookLinks.Config

open BookLinks.Data BookLinks.Text BookLinks.Decimal

inductive WarningPolicy where
  | warn
  | error
  | ignore
  deriving Repr, DecidableEq, Inhabited

def WarningPolicy.name : WarningPolicy → String
  | .warn => "warn"
  | .error => "error"
  | .ignore => "ignore"

/-- The policies, in the order messages list them. -/
def WarningPolicy.all : List WarningPolicy := [.warn, .error, .ignore]

/-- How serious a reference link without a definition is. -/
inductive Severity where
  | warning
  | error
  deriving Repr, DecidableEq, Inhabited

def Severity.name : Severity → String
  | .warning => "warning"
  | .error => "error"

/-- A pattern together with the text it was read from. -/
structure UrlPattern where
  source : String
  pattern : Regex.Pattern
  deriving Inhabited

def UrlPattern.matches (p : UrlPattern) (text : String) : Bool := p.pattern.search text

/-- Headers sent to every URL that a pattern matches. -/
structure HeaderRule where
  url : UrlPattern
  headers : List HttpHeader
  deriving Inhabited

structure Settings where
  followWebLinks : Bool := false
  traverseParents : Bool := false
  exclude : List UrlPattern := []
  userAgent : String := "mdlinkcheck-0.1.0"
  cacheTimeout : Nat := 43200
  warningPolicy : WarningPolicy := .warn
  httpHeaders : List HeaderRule := []
  requestTimeout : Float := 30.0
  maxRetries : Nat := 2
  retryBackoff : Float := 0.5
  incompleteSeverity : Severity := .warning
  jobs : Option Nat := none
  deriving Inhabited

/-- Whether a link is excluded from checking: some exclusion pattern matches it. -/
def Settings.shouldSkip (s : Settings) (href : String) : Bool :=
  s.exclude.any (·.matches href)

/-- The headers to send to a URL: those of every rule whose pattern matches it, in order. -/
def Settings.headersFor (s : Settings) (url : String) : List HttpHeader :=
  s.httpHeaders.flatMap (fun r => if r.url.matches url then r.headers else [])

inductive ConfigError where
  | notBoolean (key : String) (value : Value)
  | badExclude
  | badPattern (pattern : String) (e : Regex.PatternError)
  | badCacheTimeout
  | badWarningPolicy (policy : String)
  | headersNotMapping
  | headersNotList (pattern : String)
  | badHeader (e : HeaderError)
  | badRequestTimeout
  | badMaxRetries
  | badRetryBackoff
  | badSeverity
  | badJobs
  /-- A repetition count in a pattern beyond those that can be counted. -/
  | countTooLarge
  /-- A repetition count in a pattern written with more digits than an integer is read
  with. -/
  | countTooLong (digits : Nat)
  /-- An integer setting too large for a double. -/
  | floatOverflow
  /-- An integer to be written as text has more digits than an integer is written with. -/
  | textTooLong
  /-- The configuration file is not well-formed; `detail` says where. -/
  | unreadable (file detail : String)
  | notMapping (file : String)
  deriving Inhabited

def ConfigError.message : ConfigError → String
  | .notBoolean key v => key ++ " must be true or false, got " ++ v.literal
  | .badExclude => "exclude must be a regex or a list of regexes"
  | .badPattern p e => "Invalid regex \"" ++ p ++ "\": " ++ e.text p
  | .badCacheTimeout => "cache-timeout must be a non-negative number of seconds"
  | .badWarningPolicy p =>
    "warning-policy must be one of " ++ ", ".intercalate (WarningPolicy.all.map (·.name)) ++
      ", got \"" ++ p ++ "\""
  | .headersNotMapping => "http-headers must map a URL regex to a list of headers"
  | .headersNotList p =>
    "http-headers for \"" ++ p ++ "\" must be a list of \"Name: Value\" strings"
  | .badHeader e => e.message
  | .badRequestTimeout => "request-timeout must be a positive number of seconds"
  | .badMaxRetries => "max-retries must be a non-negative integer"
  | .badRetryBackoff => "retry-backoff must be a non-negative number of seconds"
  | .badSeverity => "incomplete-link-severity must be \"warning\" or \"error\""
  | .badJobs => "jobs must be a positive integer"
  | .countTooLarge => "the repetition number is too large"
  | .countTooLong digits => Decimal.tooManyDigitsMessage digits
  | .floatOverflow => "int too large to convert to float"
  | .textTooLong =>
    "Exceeds the limit (" ++ toString maxIntDigits ++ " digits) for integer string conversion; " ++
      "use sys.set_int_max_str_digits() to increase the limit"
  | .unreadable file detail => "Failed to parse " ++ file ++ ": " ++ detail
  | .notMapping file => file ++ " must contain a mapping at the root"

def ConfigError.isOverflow : ConfigError → Bool
  | .countTooLarge | .floatOverflow => true
  | _ => false

/-- Whether the error refuses a setting, rather than meeting a limit of numbers on the way. -/
def ConfigError.isRefusal : ConfigError → Bool
  | .countTooLarge | .countTooLong _ | .floatOverflow | .textTooLong => false
  | _ => true

def UrlPattern.compile (source : String) : Except ConfigError UrlPattern :=
  match Regex.compile source with
  | .ok p => .ok ⟨source, p⟩
  | .error e => .error (match e.kind with
    | .countTooLarge => .countTooLarge
    | .countTooLong digits => .countTooLong digits
    | .malformed => .badPattern source e)

/-- Settings as given: each key with dashes for underscores, the later of two equal keys
counting. -/
abbrev Given := List (String × Value)

/-- The settings a mapping gives: each key as text, with dashes for underscores. -/
def Given.ofMapping (data : List (Value × Value)) : Given :=
  data.map (fun (k, v) => (String.map (fun c => if c = '_' then '-' else c) k.text, v))

def Given.get? (g : Given) (key : String) : Option Value :=
  (g.reverse.find? (·.1 == key)).map Prod.snd

/-- The value given for a key, unless it is missing or null. -/
def Given.present? (g : Given) (key : String) : Option Value :=
  match g.get? key with
  | some .null | none => none
  | some v => some v

def Given.has (g : Given) (key : String) : Bool := g.any (·.1 == key)

/-- A boolean setting, when given. The refusal quotes the value, so a value that cannot be
written is refused for that. -/
def Given.flag (g : Given) (key : String) : Except ConfigError (Option Bool) :=
  match g.present? key with
  | none => .ok none
  | some v => match v.asBool? with
    | some b => .ok (some b)
    | none => .error (if v.textFits then .notBoolean key v else .textTooLong)

/-- A setting as text, when it is given as text, a number or a boolean. -/
def Given.text? (g : Given) (key : String) : Except ConfigError (Option String) :=
  match g.get? key with
  | some v => match v.asText? with
    | some t => if v.textFits then .ok (some t) else .error .textTooLong
    | none => .ok none
  | none => .ok none

/-- The header rule of one entry of the `http-headers` setting: a pattern and its headers. -/
def headerRule (k v : Value) : Except ConfigError HeaderRule := do
  let some raws := v.asTextList? |
    throw (if k.textFits then .headersNotList k.text else .textTooLong)
  let headers ← raws.mapM (fun raw => (HttpHeader.parse raw).mapError .badHeader)
  if !k.textFits then throw .textTooLong
  let url ← UrlPattern.compile k.text
  pure ⟨url, headers⟩

/-- The header rules of the `http-headers` setting. -/
def headerRules : Value → Except ConfigError (List HeaderRule)
  | .null => .ok []
  | .map entries => entries.mapM (fun (k, v) => headerRule k v)
  | _ => .error .headersNotMapping

/-- One setting read into the settings so far, from what is given. -/
abbrev SettingRead := Given → Settings → Except ConfigError Settings

/-- A boolean setting, which `set` stores when it is given. -/
def readFlag (key : String) (set : Settings → Bool → Settings) : SettingRead := fun g s =>
  match g.flag key with
  | .ok (some b) => .ok (set s b)
  | .ok none => .ok s
  | .error e => .error e

/-- The `exclude` setting: the patterns of links that are not checked. -/
def readExclude : SettingRead := fun g s =>
  match ((g.get? "exclude").getD .null).asTextList? with
  | some patterns => (patterns.mapM UrlPattern.compile).map ({ s with exclude := · })
  | none => .error .badExclude

/-- The `user-agent` setting, unless it is empty. -/
def readUserAgent : SettingRead := fun g s =>
  match g.text? "user-agent" with
  | .ok (some ua) => .ok (if ua.isEmpty then s else { s with userAgent := ua })
  | .ok none => .ok s
  | .error e => .error e

/-- A count setting: when its key is given, an integer that is not negative, which `set`
stores; anything else is refused with `err`. -/
def readCount (key : String) (err : ConfigError) (set : Settings → Nat → Settings) :
    SettingRead := fun g s =>
  if g.has key then
    match ((g.get? key).getD .null).asInt? with
    | some n => if n < 0 then .error err else .ok (set s n.toNat)
    | none => .error err
  else .ok s

/-- The `warning-policy` setting: the name of a policy, in any case. -/
def readWarningPolicy : SettingRead := fun g s =>
  match g.text? "warning-policy" with
  | .ok (some p) =>
    let p := String.lower p
    match WarningPolicy.all.find? (·.name == p) with
    | some w => .ok { s with warningPolicy := w }
    | none => .error (.badWarningPolicy p)
  | .ok none => .ok s
  | .error e => .error e

/-- The `http-headers` setting. -/
def readHeaders : SettingRead := fun g s =>
  (headerRules ((g.get? "http-headers").getD .null)).map ({ s with httpHeaders := · })

/-- A duration setting: when its key is given, a number of seconds that `accepts` lets
through, which `set` stores. An integer too large for a double overflows; anything else is
refused with `err`. -/
def readSeconds (key : String) (accepts : Float → Bool) (err : ConfigError)
    (set : Settings → Float → Settings) : SettingRead := fun g s =>
  if g.has key then
    let v := (g.get? key).getD .null
    if v.overflowsFloat then .error .floatOverflow
    else match v.asFloat? with
      | some x => if accepts x then .ok (set s x) else .error err
      | none => .error err
  else .ok s

/-- The `incomplete-link-severity` setting: `warning` or `error`, in any case. -/
def readSeverity : SettingRead := fun g s =>
  match g.text? "incomplete-link-severity" with
  | .ok (some v) =>
    let v := String.lower v
    if v == "warning" then .ok { s with incompleteSeverity := .warning }
    else if v == "error" then .ok { s with incompleteSeverity := .error }
    else .error .badSeverity
  | .ok none => .ok s
  | .error e => .error e

/-- The `jobs` setting: when given and not null, a positive integer. -/
def readJobs : SettingRead := fun g s =>
  match g.present? "jobs" with
  | some v => match v.asInt? with
    | some n => if n < 1 then .error .badJobs else .ok { s with jobs := some n.toNat }
    | none => .error .badJobs
  | none => .ok s

def settingReads : List SettingRead :=
  [readFlag "follow-web-links" (fun s b => { s with followWebLinks := b }),
   readFlag "traverse-parent-directories" (fun s b => { s with traverseParents := b }),
   readExclude,
   readUserAgent,
   readCount "cache-timeout" .badCacheTimeout (fun s n => { s with cacheTimeout := n }),
   readWarningPolicy,
   readHeaders,
   readSeconds "request-timeout" (fun x => !(x <= 0)) .badRequestTimeout
     (fun s x => { s with requestTimeout := x }),
   readCount "max-retries" .badMaxRetries (fun s n => { s with maxRetries := n }),
   readSeconds "retry-backoff" (fun x => !(x < 0)) .badRetryBackoff
     (fun s x => { s with retryBackoff := x }),
   readSeverity,
   readJobs]

/-- Settings from a mapping of keys to values: every key is written as text first, then the
settings are read in order from the defaults, and the first refusal stops the reading. -/
def Settings.ofMapping (data : List (Value × Value)) : Except ConfigError Settings :=
  if data.all (·.1.textFits) then
    settingReads.foldlM (fun s read => read (Given.ofMapping data) s) {}
  else .error .textTooLong

end BookLinks.Config
