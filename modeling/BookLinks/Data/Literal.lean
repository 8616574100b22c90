import BookLinks.Data.Value
import BookLinks.Text.Printable
/-! The literal text of a value, as messages quote it. Text is put in single quotes, or in
double quotes when it holds a single quote and no double quote; backslashes, the chosen
quote and the usual control characters are escaped, and characters that are not printable
are written as `\x`, `\u` or `\U` escapes. Lists and mappings are written with their items
separated by `, `. -/
namespace BookLinks.Data

open BookLinks.Text

/-- Lower-case hexadecimal digits of `n`, at least `width` of them. -/
def hexDigits (width n : Nat) : List Char :=
  let ds := Nat.toDigits 16 n
  List.replicate (width - ds.length) '0' ++ ds

def quoteFor (cs : List Char) : Char :=
  if cs.contains '\'' ∧ ¬cs.contains '"' then '"' else '\''

def literalChar (q : Char) (c : Char) : List Char :=
  if c = '\\' then ['\\', '\\']
  else if c = q then ['\\', c]
  else if c = '\t' then ['\\', 't']
  else if c = '\n' then ['\\', 'n']
  else if c = '\r' then ['\\', 'r']
  else if c.toNat < 0x20 ∨ c.toNat = 0x7F then '\\' :: 'x' :: hexDigits 2 c.toNat
  else if c.toNat < 0x80 ∨ isPrintable c then [c]
  else if c.toNat < 0x100 then '\\' :: 'x' :: hexDigits 2 c.toNat
  else if c.toNat < 0x10000 then '\\' :: 'u' :: hexDigits 4 c.toNat
  else '\\' :: 'U' :: hexDigits 8 c.toNat

def quoted (s : String) : String :=
  let cs := s.toList
  let q := quoteFor cs
  String.ofList (q :: cs.flatMap (literalChar q) ++ [q])

def literalByte (q : Char) (b : UInt8) : List Char :=
  let c := Char.ofNat b.toNat
  if c = '\\' then ['\\', '\\']
  else if c = q then ['\\', c]
  else if c = '\t' then ['\\', 't']
  else if c = '\n' then ['\\', 'n']
  else if c = '\r' then ['\\', 'r']
  else if b.toNat < 0x20 ∨ b.toNat ≥ 0x7F then '\\' :: 'x' :: hexDigits 2 b.toNat
  else [c]

/-- A byte string in quotes, marked by a leading `b`. -/
def quotedBytes (bs : List UInt8) : String :=
  let q := quoteFor (bs.map (fun b => Char.ofNat b.toNat))
  String.ofList ('b' :: q :: bs.flatMap (literalByte q) ++ [q])

/-- Decimal digits of `n`, at least `width` of them. -/
def padded (width n : Nat) : String :=
  let ds := Nat.toDigits 10 n
  String.ofList (List.replicate (width - ds.length) '0' ++ ds)

/-- The literal of a span of seconds: whole days, rounded down, and the seconds left
over, each left out when zero. -/
def spanLiteral (seconds : Int) : String :=
  let days := seconds.fdiv 86400
  let secs := seconds - days * 86400
  let parts := (if days != 0 then ["days=" ++ toString days] else []) ++
    (if secs != 0 then ["seconds=" ++ toString secs] else [])
  "datetime.timedelta(" ++ (if parts.isEmpty then "0" else ", ".intercalate parts) ++ ")"

/-- The literal of a distance from universal time given in minutes. -/
def offsetLiteral (minutes : Int) : String :=
  if minutes == 0 then "datetime.timezone.utc"
  else "datetime.timezone(" ++ spanLiteral (minutes * 60) ++ ")"

/-- The literal of a stamp: trailing zero seconds and microseconds are left out. -/
def Stamp.literal (t : Stamp) : String :=
  let fields := [t.year, t.month, t.day, t.hour, t.minute] ++
    (if t.micro != 0 then [t.second, t.micro] else if t.second != 0 then [t.second] else [])
  let zone := match t.offset with
    | some m => ", tzinfo=" ++ offsetLiteral m
    | none => ""
  "datetime.datetime(" ++ ", ".intercalate (fields.map toString) ++ zone ++ ")"

/-- The text of a stamp: date and time apart by a space, microseconds when there are any,
and the offset as signed hours and minutes. -/
def Stamp.text (t : Stamp) : String :=
  let zone := match t.offset with
    | some m => (if m < 0 then "-" else "+") ++ padded 2 (m.natAbs / 60) ++ ":" ++
        padded 2 (m.natAbs % 60)
    | none => ""
  padded 4 t.year ++ "-" ++ padded 2 t.month ++ "-" ++ padded 2 t.day ++ " " ++
    padded 2 t.hour ++ ":" ++ padded 2 t.minute ++ ":" ++ padded 2 t.second ++
    (if t.micro != 0 then "." ++ padded 6 t.micro else "") ++ zone

def Value.literal : Value → String
  | .null => "None"
  | .bool true => "True"
  | .bool false => "False"
  | .int n => Decimal.intText n
  | .float x => Decimal.floatText .message x
  | .str s => quoted s
  | .bytes bs => quotedBytes bs
  | .date y m d => "datetime.date(" ++ toString y ++ ", " ++ toString m ++ ", " ++
      toString d ++ ")"
  | .stamp t => t.literal
  | .list items => "[" ++ ", ".intercalate (items.attach.map (fun ⟨v, _⟩ => v.literal)) ++ "]"
  | .map entries =>
    "\x7b" ++ ", ".intercalate (entries.attach.map (fun ⟨(k, v), _⟩ =>
      k.literal ++ ": " ++ v.literal)) ++ "\x7d"
termination_by v => sizeOf v
decreasing_by
  · have := List.sizeOf_lt_of_mem ‹_›
    simp only [Value.list.sizeOf_spec]; omega
  · have := List.sizeOf_lt_of_mem ‹_›
    simp only [Value.map.sizeOf_spec, Prod.mk.sizeOf_spec] at this ⊢; omega
  · have := List.sizeOf_lt_of_mem ‹_›
    simp only [Value.map.sizeOf_spec, Prod.mk.sizeOf_spec] at this ⊢; omega

/-- The text a value converts to: text as it is, other values as their literal. -/
def Value.text : Value → String
  | .str s => s
  | .date y m d => padded 4 y ++ "-" ++ padded 2 m ++ "-" ++ padded 2 d
  | .stamp t => t.text
  | v => v.literal

end BookLinks.Data
