import BookLinks.Outcome
import BookLinks.Log
import BookLinks.Fs.Volume
import BookLinks.Data.Json.Read
import BookLinks.Data.Json.Write
import BookLinks.Decimal.Exact
import BookLinks.Decimal.Read
/-!
# The outcome cache

Outcomes of web checks by normalised URL, each with the time it was stored. An entry is
fresh while less than the timeout has passed since it was stored; a lookup that finds a
stale entry drops it. The cache may live in a JSON file: it is read when the cache is
made, a file that cannot be read is ignored with a warning, and it is written back only
when something changed.
-/
namespace BookLinks.Web

open BookLinks.Data BookLinks.Decimal BookLinks.Fs

/-- A length of time as settings and requests give it: whole seconds or a double. -/
inductive Seconds where
  | whole (n : Int)
  | real (x : Float)
  deriving Inhabited

/-- Whether the time `x` is at least `s`, compared exactly. -/
def Seconds.reachedBy (s : Seconds) (x : Float) : Bool :=
  match s with
  | .whole n => Float.atLeastInt x n
  | .real y => x >= y

structure CacheEntry where
  valid : Bool
  reason : String
  timestamp : Float
  deriving Inhabited

/-- The outcome an entry stands for: valid or an error, with the stored reason. -/
def CacheEntry.outcome (e : CacheEntry) : Outcome :=
  if e.valid then Outcome.valid e.reason else Outcome.error e.reason

/-- The cache: entries in the order their keys were first stored, whether they changed
since the file was read or written, and the file, if any. -/
structure OutcomeCache where
  entries : List (String × CacheEntry) := []
  dirty : Bool := false
  file : Option String := none
  deriving Inhabited

namespace OutcomeCache

def size (c : OutcomeCache) : Nat := c.entries.length

/-- Whether there is an entry for a key, fresh or not. -/
def contains (c : OutcomeCache) (key : String) : Bool := c.entries.any (·.1 == key)

/-- The fresh entry for a key at time `now`; a stale one is dropped. -/
def lookup (c : OutcomeCache) (key : String) (now : Float) (timeout : Seconds) :
    Option CacheEntry × OutcomeCache :=
  match c.entries.lookup key with
  | none => (none, c)
  | some e =>
    if timeout.reachedBy (now - e.timestamp) then
      (none, { c with entries := c.entries.filter (·.1 != key), dirty := true })
    else (some e, c)

/-- Stores an outcome at time `now`; a key already there keeps its place. -/
def store (c : OutcomeCache) (key : String) (o : Outcome) (now : Float) :
    CacheEntry × OutcomeCache :=
  let e : CacheEntry := ⟨o.isValid, o.reason, now⟩
  let entries := if c.contains key then c.entries.map (fun (k, old) => if k == key then (k, e) else (k, old))
    else c.entries ++ [(key, e)]
  (e, { c with entries, dirty := true })

/-- The outcome under a key, looked up at time `now`: the fresh cached one, or the computed
one, which is then stored at `later`, the clock's reading after the computation; and whether
it came from the cache. -/
def getOrCompute (c : OutcomeCache) (key : String) (now : Float) (timeout : Seconds)
    (compute : Unit → Outcome) (later : Float) : (Outcome × Bool) × OutcomeCache :=
  match c.lookup key now timeout with
  | (some e, c) => ((e.outcome, true), c)
  | (none, c) =>
    let o := compute ()
    ((o, false), (c.store key o later).2)

def clear (c : OutcomeCache) : OutcomeCache := { c with entries := [], dirty := true }

def formatVersion : Nat := 1

def CacheEntry.toValue (e : CacheEntry) : Value :=
  Value.object [("valid", .bool e.valid), ("reason", .str e.reason),
    ("timestamp", .float e.timestamp)]

/-- The file text of the cache: indented by two, keys sorted. -/
def text (c : OutcomeCache) : String :=
  Json.write ⟨some 2, true⟩ (Value.object [("version", .int formatVersion),
    ("entries", Value.object (c.entries.map (fun (k, e) => (k, CacheEntry.toValue e))))])

/-- Writes the cache to its file, seen from the directory `cwd`, when it changed: the cache
after, and whether it wrote with the volume after, or the failure with the path it happened
at. The directories above the file are made first. The cache is marked unchanged before the
file is touched, so it is unchanged after a write that fails too. -/
def persist (c : OutcomeCache) (v : Volume) (cwd : String) :
    OutcomeCache × Except (FsError × String) (Bool × Volume) :=
  match c.file with
  | some path =>
    if !c.dirty then (c, .ok (false, v))
    else ({ c with dirty := false }, do
      let dir := parent path
      let v ← v.makeDirTree cwd ((names dir).length + 2) dir
      let v ← (v.writeFile (join cwd path) (Text.String.utf8Bytes c.text)).mapError (·, path)
      pure (true, v))
  | none => (c, .ok (false, v))

end OutcomeCache

/-- Why a cache file stops the cache from being made. -/
inductive CacheFault where
  /-- The file is not UTF-8. -/
  | undecodable (message : String)
  /-- A number in the file is beyond the limits of numbers. -/
  | outOfRange (message : String)
  /-- A timestamp is an integer too large for a double. -/
  | overflow
  deriving Repr, Inhabited

def CacheFault.message : CacheFault → String
  | .undecodable m | .outOfRange m => m
  | .overflow => "int too large to convert to float"

/-- Whether a value equals one: the integer, the double or true. -/
def Value.isOne : Value → Bool
  | .int 1 | .bool true => true
  | .float x => x == 1
  | _ => false

/-- An entry of a cache file, if it has the form of one. -/
def entryOf (raw : Value) : Except CacheFault (Option CacheEntry) :=
  match raw with
  | .map _ =>
    let reason := match raw.field? "reason" with
      | some (.str s) => s
      | _ => ""
    match raw.field? "valid", raw.field? "timestamp" with
    | some (.bool valid), some (.int n) =>
      match Int.toFloat? n with
      | some t => .ok (some ⟨valid, reason, t⟩)
      | none => .error .overflow
    | some (.bool valid), some (.float t) => .ok (some ⟨valid, reason, t⟩)
    | some (.bool valid), some (.bool b) => .ok (some ⟨valid, reason, if b then 1 else 0⟩)
    | _, _ => .ok none
  | _ => .ok none

/-- The entries of a parsed cache file; a file of another form has none. -/
def entriesOf (data : Value) : Except CacheFault (List (String × CacheEntry)) :=
  match data with
  | .map _ =>
    if !((data.field? "version").map Value.isOne).getD false then .ok []
    else match data.field? "entries" with
      | some (.map es) => es.foldlM (fun acc (k, raw) =>
          match k with
          | .str key => do
            match ← entryOf raw with
            | some e => pure (acc ++ [(key, e)])
            | none => pure acc
          | _ => pure acc) []
      | _ => .ok []
  | _ => .ok []

/-- Makes a cache backed by the file at `path`, seen from the directory `cwd`: its entries
when the file can be read, and the warning given when it cannot. Messages name the path as
given. -/
def OutcomeCache.load (v : Volume) (cwd path : String) :
    Except CacheFault (OutcomeCache × List LogRecord) :=
  let empty : OutcomeCache := { file := some path }
  let ignore (why : String) : Except CacheFault (OutcomeCache × List LogRecord) :=
    .ok (empty, [LogRecord.warning ("Ignoring unreadable cache " ++ path ++ ": " ++ why)])
  match v.readText (join cwd path) with
  | .error (.fs .notFound) => .ok (empty, [])
  | .error (.fs e) => ignore (e.message path)
  | .error (.undecodable bs e) => .error (.undecodable (e.message bs))
  | .ok text =>
    match Json.parse text with
    | .error f =>
      if f.error.isSyntax then ignore (f.message text.toList)
      else .error (.outOfRange f.error.text)
    | .ok data => do
      let entries ← entriesOf data
      pure ({ empty with entries }, [])

end BookLinks.Web
