import BookLinks.Decimal.Text
import BookLinks.Decimal.Exact
/-! Dynamic data: the values that configuration files, cache files and requests carry.
Integers are unbounded and kept apart from floating-point numbers; mappings keep their
entries in insertion order, a key being stored once. -/
namespace BookLinks.Data

/-- A moment of a calendar day: date, time of day to the microsecond and, when it is
known, the distance from universal time in minutes. -/
structure Stamp where
  year : Nat
  month : Nat
  day : Nat
  hour : Nat
  minute : Nat
  second : Nat
  micro : Nat
  offset : Option Int
  deriving Repr, DecidableEq, Inhabited

namespace Stamp

/-- Days from the first of January of year 1 to the first of `month` in `year`, before the
`day`. -/
def dayNumber (year month day : Nat) : Nat :=
  let y := year - 1
  let leap := year % 4 == 0 && (year % 100 != 0 || year % 400 == 0)
  let before := [0, 31, 59, 90, 120, 151, 181, 212, 243, 273, 304, 334].getD (month - 1) 0
  y * 365 + y / 4 - y / 100 + y / 400 + before + (if leap && month > 2 then 1 else 0) + day

/-- Microseconds since the start of the calendar in universal time, for a stamp with an
offset. -/
def instant (t : Stamp) : Int :=
  ((((dayNumber t.year t.month t.day * 24 + t.hour) * 60 + t.minute : Nat) : Int) -
    t.offset.getD 0) * 60000000 + (t.second * 1000000 + t.micro : Nat)

/-- Two stamps are equal when both lack an offset and agree in every field, or both have
one and name the same instant. -/
def same (a b : Stamp) : Bool :=
  match a.offset, b.offset with
  | none, none => a == b
  | some _, some _ => a.instant == b.instant
  | _, _ => false

end Stamp

inductive Value where
  | null
  | bool (b : Bool)
  | int (n : Int)
  | float (x : Float)
  | str (s : String)
  | bytes (bs : List UInt8)
  | date (year month day : Nat)
  | stamp (t : Stamp)
  | list (items : List Value)
  | map (entries : List (Value × Value))
  deriving Inhabited, Repr

namespace Value

/-- Whether two keys name the same entry: numbers by their exact value (a boolean counts as
`0` or `1`), everything else by its text. -/
def sameKey : Value → Value → Bool
  | .str a, .str b => a == b
  | .null, .null => true
  | .int a, .int b => a == b
  | .bool a, .bool b => a == b
  | .int a, .bool b | .bool b, .int a => a == (if b then 1 else 0)
  | .float x, .float y => x == y
  | .float x, .int n | .int n, .float x => Decimal.compareFloatInt x n == some .eq
  | .float x, .bool b | .bool b, .float x => x == (if b then 1 else 0)
  | .bytes a, .bytes b => a == b
  | .date y m d, .date y' m' d' => y == y' && m == m' && d == d'
  | .stamp a, .stamp b => a.same b
  | _, _ => false

/-- Stores `v` under `k`: an existing entry keeps its key and place and takes the value. -/
def insertEntry (entries : List (Value × Value)) (k v : Value) : List (Value × Value) :=
  if entries.any (fun e => sameKey e.1 k) then
    entries.map (fun e => if sameKey e.1 k then (e.1, v) else e)
  else entries ++ [(k, v)]

/-- A mapping built from its entries in order, later entries replacing earlier ones. -/
def ofEntries (entries : List (Value × Value)) : Value :=
  .map (entries.foldl (fun acc e => insertEntry acc e.1 e.2) [])

/-- The value stored under a text key of a mapping. -/
def field? (v : Value) (key : String) : Option Value :=
  match v with
  | .map entries => (entries.find? (fun e => sameKey e.1 (.str key))).map Prod.snd
  | _ => none

/-- A mapping with text keys, in the given order. -/
def object (fields : List (String × Value)) : Value :=
  .map (fields.map (fun f => (.str f.1, f.2)))

/-- Whether a value counts as true in a test: all but null, false, zero, and empty texts,
byte strings and collections. A NaN is not zero. -/
def truthy : Value → Bool
  | .null => false
  | .bool b => b
  | .int n => n != 0
  | .float x => !(x == 0)
  | .str s => !s.isEmpty
  | .bytes bs => !bs.isEmpty
  | .list items => !items.isEmpty
  | .map entries => !entries.isEmpty
  | .date _ _ _ | .stamp _ => true

def str? : Value → Option String
  | .str s => some s
  | _ => none

end Value

end BookLinks.Data
