import BookLinks.Decimal.Text
import BookLinks.Text.Blank
import BookLinks.Text.Digit
/-!
# Reading numbers from text

Integers and decimal fractions as settings write them. Blanks around the number are
dropped, all but the ASCII separators `0x1C` to `0x1F`, and every decimal digit of any script
counts as its ASCII digit. A single
underscore may stand between two digits. A fraction may also be `inf`, `infinity` or `nan`
in any case, after an optional sign, and a fraction too large for a double reads as an
infinity.
-/
namespace BookLinks.Decimal

open BookLinks.Text

/-- A character as numbers are read: ASCII characters below `DEL` stay as they are, other
blanks become spaces, other decimal digits their ASCII digit, and the rest a character that
no number holds. -/
def numberChar (c : Char) : Char :=
  if c.toNat < 127 then c
  else if isBlank c then ' '
  else match decimalValue? c with
    | some d => Char.ofNat (48 + d)
    | none => '?'

def isAsciiSpace (c : Char) : Bool := c == ' ' || ('\t' ≤ c && c ≤ '\r')

/-- The characters of a number's text, with blanks at both ends dropped. -/
def numberBody (s : String) : List Char :=
  ((s.toList.map numberChar).dropWhile isAsciiSpace).reverse.dropWhile isAsciiSpace |>.reverse

/-- Whether every underscore of a text, after the character `prev`, follows a digit and is
followed by one. -/
def underscoresFrom (prev : Char) : List Char → Bool
  | [] => prev != '_'
  | c :: rest => (c != '_' || prev.isDigit) && (prev != '_' || c.isDigit) && underscoresFrom c rest

/-- Whether every underscore of a text stands between two digits. -/
def underscoresBetweenDigits (cs : List Char) : Bool := underscoresFrom ' ' cs

def digitsValue (ds : List Char) : Nat := ds.foldl (fun n c => 10 * n + (c.toNat - 48)) 0

/-- The sign of a number and the text after it. -/
def splitSign : List Char → Bool × List Char
  | '-' :: rest => (true, rest)
  | '+' :: rest => (false, rest)
  | cs => (false, cs)

def maxIntDigits : Nat := 4300

/-- The message of an integer's text with `count` decimal digits, more than are read. -/
def tooManyDigitsMessage (count : Nat) : String :=
  "Exceeds the limit (" ++ toString maxIntDigits ++
    " digits) for integer string conversion: value has " ++ toString count ++
    " digits; use sys.set_int_max_str_digits() to increase the limit"

/-- Reads an integer: a sign, then digits with single underscores between them. -/
def readInt (s : String) : Option Int :=
  let (negative, rest) := splitSign (numberBody s)
  if rest.isEmpty || !rest.all (fun c => c.isDigit || c == '_') ||
      !underscoresBetweenDigits rest then none
  else
    let ds := rest.filter (· != '_')
    if ds.length > maxIntDigits then none
    else
      let n : Int := digitsValue ds
      some (if negative then -n else n)

/-- Why a text is not an integer: it is not one, or it has more decimal digits than are
read. -/
inductive IntFault where
  | malformed
  | tooManyDigits (count : Nat)
  deriving Repr, DecidableEq

/-- The value of a digit or letter as a digit of bases up to 36. -/
def digitIn (c : Char) : Option Nat :=
  if c.isDigit then some (c.toNat - 48)
  else if 'a' ≤ c && c ≤ 'z' then some (c.toNat - 87)
  else if 'A' ≤ c && c ≤ 'Z' then some (c.toNat - 55)
  else none

/-- The letter that names a base after a leading zero. -/
def baseLetter : Nat → Option Char
  | 2 => some 'b'
  | 8 => some 'o'
  | 16 => some 'x'
  | _ => none

/-- Reads an integer written in `base`: blanks around it, a sign, for bases 2, 8 and 16 an
optional `0b`, `0o` or `0x` (in either case, and an underscore may follow it), then digits
with single underscores between them. A decimal integer of more than `maxIntDigits` digits
is refused. -/
def readIntIn (base : Nat) (s : String) : Except IntFault Int := do
  let (negative, rest) := splitSign (numberBody s)
  let rest := match rest, baseLetter base with
    | '0' :: l :: r, some b =>
      if l.toLower == b then (match r with
        | '_' :: r' => r'
        | _ => r)
      else rest
    | _, _ => rest
  let isDigit (c : Char) : Bool := match digitIn c with
    | some d => d < base
    | none => false
  let run := rest.takeWhile (fun c => isDigit c || c == '_')
  let after := rest.dropWhile (fun c => isDigit c || c == '_')
  if run.isEmpty || run.head? == some '_' || run.getLast? == some '_' ||
      (run.zip (run.drop 1)).any (fun p => p.1 == '_' && p.2 == '_') then throw .malformed
  let ds := run.filter (· != '_')
  if base == 10 && ds.length > maxIntDigits then throw (.tooManyDigits ds.length)
  if !after.isEmpty then throw .malformed
  let n : Int := ds.foldl (fun n c => base * n + (digitIn c).getD 0) 0
  return if negative then -n else n

def infinity : Float := Float.ofScientific 1 false 400

def notANumber : Float := 0 / 0

/-- Reads a decimal fraction without sign: digits with an optional point, at least one
digit in all, then an optional exponent. -/
def readUnsigned (cs : List Char) : Option (Nat × Int) :=
  let whole := cs.takeWhile Char.isDigit
  let afterWhole := cs.dropWhile Char.isDigit
  let (frac, afterFrac) := match afterWhole with
    | '.' :: r => (r.takeWhile Char.isDigit, r.dropWhile Char.isDigit)
    | r => ([], r)
  if whole.isEmpty && frac.isEmpty then none
  else
    let mantissa := digitsValue (whole ++ frac)
    let shift : Int := frac.length
    match afterFrac with
    | [] => some (mantissa, -shift)
    | e :: r =>
      if e != 'e' && e != 'E' then none
      else
        let (negExp, ds) := splitSign r
        if ds.isEmpty || !ds.all Char.isDigit then none
        else
          let ex : Int := digitsValue ds
          some (mantissa, (if negExp then -ex else ex) - shift)

/-- Reads a fraction: a sign, then a decimal fraction, an infinity or `nan`. -/
def readFloat (s : String) : Option Float :=
  let body := numberBody s
  if !underscoresBetweenDigits body then none
  else
    let (negative, rest) := splitSign (body.filter (· != '_'))
    let word := String.ofList (rest.map Char.toLower)
    if word == "inf" || word == "infinity" then some (if negative then -infinity else infinity)
    else if word == "nan" then some notANumber
    else (readUnsigned rest).map (fun (m, e) => toFloat negative m e)

/-- The least magnitude of an integer that rounds beyond the largest double. -/
def floatOverflowBound : Nat := Nat.pow 2 1024 - Nat.pow 2 970

/-- An integer as a double, when it rounds to a finite one. -/
def Int.toFloat? (n : Int) : Option Float :=
  if n.natAbs ≥ floatOverflowBound then none else some (Float.ofInt n)

end BookLinks.Decimal
