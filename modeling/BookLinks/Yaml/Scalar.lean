import BookLinks.Yaml.Mark
import BookLinks.Decimal.Read
import BookLinks.Data.Bytes
import BookLinks.Text.CaseMap
/-!
# Values of YAML scalars

The texts of the scalar types of YAML 1.1 and the values they stand for: truth values
(`yes`, `no`, `true`, `false`, `on`, `off` in any case), integers (binary after `0b`,
hexadecimal after `0x`, octal after a leading zero, base 60 with `:`, underscores
ignored), floating-point numbers (also `.inf` and `.nan`, and base 60), base64 data, and
dates with an optional time of day and offset. A tag may be given to any text, so each
reader also says why a text is not of its type.
-/
namespace BookLinks.Yaml

open BookLinks.Data BookLinks.Decimal BookLinks.Text

/-- The words for truth values, in lower case. -/
def truthWords : List (String × Bool) :=
  [("yes", true), ("no", false), ("true", true), ("false", false), ("on", true), ("off", false)]

/-- The truth value of a text, by its lower case. -/
def truthOf (text : String) : Except LoadError Bool :=
  let w := String.lower text
  match truthWords.lookup w with
  | some b => .ok b
  | none => .error (.unknownWord w)

def withoutUnderscores (s : String) : String := String.ofList (s.toList.filter (· != '_'))

/-- The message for a text that is not an integer in `base`; the text is quoted and cut at
200 characters. -/
def intMessage (base : Nat) (s : String) : String :=
  "invalid literal for int() with base " ++ toString base ++ ": " ++
    String.ofList ((quoted s).toList.take 200)

/-- An integer written in `base`. -/
def intIn (base : Nat) (s : String) : Except LoadError Int :=
  match readIntIn base s with
  | .ok n => .ok n
  | .error .malformed => .error (.invalidValue (intMessage base s))
  | .error (.tooManyDigits n) => .error (.invalidValue (tooManyDigitsMessage n))

/-- The value of an integer scalar: underscores are dropped, a sign is read, and then `0`,
a binary `0b`, a hexadecimal `0x`, an octal with a leading zero, base-60 parts apart by
`:`, or decimal digits. -/
def intOf (text : String) : Except LoadError Int := do
  let v := (withoutUnderscores text).toList
  let c ← match v.head? with
    | some c => pure c
    | none => throw .emptyNumber
  let sign : Int := if c == '-' then -1 else 1
  let v := if c == '+' || c == '-' then v.drop 1 else v
  if v == ['0'] then return 0
  match v with
  | '0' :: 'b' :: r => return sign * (← intIn 2 (String.ofList r))
  | '0' :: 'x' :: r => return sign * (← intIn 16 (String.ofList r))
  | '0' :: _ => return sign * (← intIn 8 (String.ofList v))
  | [] => throw .emptyNumber
  | _ =>
    if v.contains ':' then
      let parts ← ((String.ofList v).splitOn ":").mapM (intIn 10)
      return sign * parts.foldl (fun acc d => 60 * acc + d) 0
    else return sign * (← intIn 10 (String.ofList v))

def floatIn (s : String) : Except LoadError Float :=
  match readFloat s with
  | some x => .ok x
  | none => .error (.invalidValue ("could not convert string to float: " ++ quoted s))

/-- The value of a floating-point scalar: underscores are dropped and letters lowered, a
sign is read, and then `.inf`, `.nan`, base-60 parts apart by `:`, or a decimal
fraction. Base-60 parts are summed from the last, each times its power of 60. -/
def floatOf (text : String) : Except LoadError Float := do
  let v := (String.lower (withoutUnderscores text)).toList
  let c ← match v.head? with
    | some c => pure c
    | none => throw .emptyNumber
  let signed (x : Float) : Float := if c == '-' then -x else x
  let s := String.ofList (if c == '+' || c == '-' then v.drop 1 else v)
  if s == ".inf" then return signed infinity
  if s == ".nan" then return notANumber
  if s.toList.contains ':' then
    let parts ← (s.splitOn ":").mapM floatIn
    let sum := parts.reverse.foldl (fun (acc : Float × Nat) d =>
      (acc.1 + d * Float.ofNat acc.2, acc.2 * 60)) (0.0, 1)
    return signed sum.1
  return signed (← floatIn s)

/-- Why a text is not ASCII: the first run of other characters, as a message. -/
def asciiFault (cs : List Char) : Option String :=
  match cs.findIdx? (fun c => c.toNat ≥ 128) with
  | none => none
  | some i =>
    let j := i + ((cs.drop i).takeWhile (fun c => c.toNat ≥ 128)).length
    if j == i + 1 then
      let n := (cs.getD i ' ').toNat
      let esc := if n ≤ 0xff then "\\x" ++ String.ofList (hexDigits 2 n)
        else if n ≤ 0xffff then "\\u" ++ String.ofList (hexDigits 4 n)
        else "\\U" ++ String.ofList (hexDigits 8 n)
      some ("'ascii' codec can't encode character '" ++ esc ++ "' in position " ++ toString i ++
        ": ordinal not in range(128)")
    else
      some ("'ascii' codec can't encode characters in position " ++ toString i ++ "-" ++
        toString (j - 1) ++ ": ordinal not in range(128)")

/-- The bytes of a base64 scalar that starts at `start`. -/
def binaryOf (text : String) (start : Mark) : Except LoadError (List UInt8) := do
  if let some m := asciiFault text.toList then
    throw (LoadError.fail none none ("failed to convert base64 data into ascii: " ++ m) start)
  match decodeBase64 text.toList with
  | .ok bs => return bs
  | .error f => throw (LoadError.fail none none ("failed to decode base64 data: " ++ f.text) start)

/-! ## Dates and times -/

/-- The value of `n` ASCII digits at the front of a text, and the rest. -/
def exactDigits (n : Nat) (cs : List Char) : Option (Nat × List Char) :=
  let ds := cs.take n
  if ds.length == n && ds.all Char.isDigit then some (digitsValue ds, cs.drop n) else none

/-- The value of one or two ASCII digits at the front of a text, as many as there are, and
the rest. -/
def shortDigits (cs : List Char) : Option (Nat × List Char) :=
  let ds := (cs.take 2).takeWhile Char.isDigit
  if ds.isEmpty then none else some (digitsValue ds, cs.drop ds.length)

def afterChar (c : Char) : List Char → Option (List Char)
  | d :: rest => if d == c then some rest else none
  | [] => none

/-- An offset from universal time: `Z`, or a sign, hours, and optionally `:` and minutes. -/
inductive ZoneText where
  | utc
  | offset (negative : Bool) (hours : Nat) (minutes : Option Nat)

/-- The parts of a time of day: hours, minutes, seconds, the digits of the fraction of a
second, and the zone. -/
structure TimeText where
  hour : Nat
  minute : Nat
  second : Nat
  fraction : List Char
  zone : Option ZoneText

/-- The parts of a date, with a time of day when there is one. -/
structure StampText where
  year : Nat
  month : Nat
  day : Nat
  time : Option TimeText

def isSpaceOrTab (c : Char) : Bool := c == ' ' || c == '\t'

/-- Reads the zone at the end of a time of day. -/
def zoneText : List Char → Option ZoneText
  | ['Z'] => some .utc
  | c :: rest => do
    if c != '+' && c != '-' then none
    let (h, rest) ← shortDigits rest
    match rest with
    | [] => some (.offset (c == '-') h none)
    | _ => do
      let rest ← afterChar ':' rest
      let (m, rest) ← exactDigits 2 rest
      if rest.isEmpty then some (.offset (c == '-') h (some m)) else none
  | [] => none

/-- Reads a time of day after the date: `T`, `t` or blanks, hours, minutes and seconds
apart by `:`, a fraction after a point, then blanks and a zone. -/
def timeText (cs : List Char) : Option TimeText := do
  let cs ← match cs with
    | 'T' :: r | 't' :: r => some r
    | c :: _ => if isSpaceOrTab c then some (cs.dropWhile isSpaceOrTab) else none
    | [] => none
  let (h, cs) ← shortDigits cs
  let cs ← afterChar ':' cs
  let (mi, cs) ← exactDigits 2 cs
  let cs ← afterChar ':' cs
  let (s, cs) ← exactDigits 2 cs
  let (fraction, cs) := match cs with
    | '.' :: r => (r.takeWhile Char.isDigit, r.dropWhile Char.isDigit)
    | _ => ([], cs)
  if cs.isEmpty then return ⟨h, mi, s, fraction, none⟩
  let zone ← zoneText (cs.dropWhile isSpaceOrTab)
  return ⟨h, mi, s, fraction, some zone⟩

/-- Reads a date, `YYYY-M-D` with one or two digits for month and day, and an optional
time of day; one line feed may end the text. -/
def stampText (text : String) : Option StampText := do
  let cs := text.toList
  let cs := if cs.getLast? == some '\n' then cs.dropLast else cs
  let (y, cs) ← exactDigits 4 cs
  let cs ← afterChar '-' cs
  let (mo, cs) ← shortDigits cs
  let cs ← afterChar '-' cs
  let (d, cs) ← shortDigits cs
  if cs.isEmpty then return ⟨y, mo, d, none⟩
  return ⟨y, mo, d, some (← timeText cs)⟩

def daysInMonth (year month : Nat) : Nat :=
  if month == 2 then
    if year % 4 == 0 && (year % 100 != 0 || year % 400 == 0) then 29 else 28
  else if month == 4 || month == 6 || month == 9 || month == 11 then 30 else 31

/-- Checks that a date exists: a year from 1 to 9999, a month from 1 to 12, and a day of
that month. -/
def checkDate (y m d : Nat) : Except LoadError Unit := do
  if y < 1 || y > 9999 then throw (.invalidValue ("year " ++ toString y ++ " is out of range"))
  if m < 1 || m > 12 then throw (.invalidValue "month must be in 1..12")
  if d < 1 || d > daysInMonth y m then throw (.invalidValue "day is out of range for month")

/-- Checks a time of day: hours below 24, minutes and seconds below 60. -/
def checkTime (h mi s : Nat) : Except LoadError Unit := do
  if h > 23 then throw (.invalidValue "hour must be in 0..23")
  if mi > 59 then throw (.invalidValue "minute must be in 0..59")
  if s > 59 then throw (.invalidValue "second must be in 0..59")

/-- The offset of a zone in minutes, which must be less than a day either way. -/
def zoneMinutes : ZoneText → Except LoadError Int
  | .utc => .ok 0
  | .offset negative h m =>
    let total : Int := h * 60 + m.getD 0
    let signed := if negative then -total else total
    if total ≥ 1440 then
      .error (.invalidValue ("offset must be a timedelta strictly between " ++
        "-timedelta(hours=24) and timedelta(hours=24), not " ++ spanLiteral (signed * 60) ++ "."))
    else .ok signed

/-- The value of a timestamp scalar: a date, or a moment when a time of day is given. The
fraction of a second keeps six digits; the zone is checked before the date. -/
def stampOf (text : String) : Except LoadError Value := do
  match stampText text with
  | none => throw .noDate
  | some p =>
    match p.time with
    | none =>
      checkDate p.year p.month p.day
      return .date p.year p.month p.day
    | some t =>
      let offset ← match t.zone with
        | some z => some <$> zoneMinutes z
        | none => pure none
      checkDate p.year p.month p.day
      checkTime t.hour t.minute t.second
      let micro := if t.fraction.isEmpty then 0
        else digitsValue ((t.fraction.take 6) ++ List.replicate (6 - t.fraction.length) '0')
      return .stamp ⟨p.year, p.month, p.day, t.hour, t.minute, t.second, micro, offset⟩

end BookLinks.Yaml
