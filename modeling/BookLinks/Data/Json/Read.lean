import BookLinks.Data.Value
/-! Reading JSON text into values. Numbers with a fraction or an exponent are floats, the
others integers; `NaN`, `Infinity` and `-Infinity` are accepted; strings may not hold raw
control characters. A failure names what was expected and the character position where it
was found, counted in characters from the start. -/
namespace BookLinks.Data.Json

inductive ReadError where
  | expectingValue
  | expectingName
  | expectingColon
  | expectingComma
  | unterminatedString
  | controlCharacter
  | badEscape
  | badUnicodeEscape
  | extraData
  | byteOrderMark
  /-- An integer with more decimal digits than may be converted. -/
  | integerTooLong (digits : Nat)
  deriving Repr, DecidableEq

/-- A failure and the character position it refers to. -/
structure ReadFailure where
  error : ReadError
  pos : Nat
  deriving Repr, DecidableEq

def maxIntegerDigits : Nat := 4300

def ReadError.text : ReadError → String
  | .expectingValue => "Expecting value"
  | .expectingName => "Expecting property name enclosed in double quotes"
  | .expectingColon => "Expecting ':' delimiter"
  | .expectingComma => "Expecting ',' delimiter"
  | .unterminatedString => "Unterminated string starting at"
  | .controlCharacter => "Invalid control character at"
  | .badEscape => "Invalid \\escape"
  | .badUnicodeEscape => "Invalid \\uXXXX escape"
  | .extraData => "Extra data"
  | .byteOrderMark => "Unexpected UTF-8 BOM (decode using utf-8-sig)"
  | .integerTooLong n =>
    "Exceeds the limit (" ++ toString maxIntegerDigits ++
      " digits) for integer string conversion: value has " ++ toString n ++
      " digits; use sys.set_int_max_str_digits() to increase the limit"

/-- Whether a failure is one of malformed text, as opposed to a number out of limits. -/
def ReadError.isSyntax : ReadError → Bool
  | .integerTooLong _ => false
  | _ => true

/-- The message of a failure in `doc`: its description, then line, column and position. -/
def ReadFailure.message (doc : List Char) (f : ReadFailure) : String :=
  match f.error with
  | .integerTooLong _ => f.error.text
  | _ =>
    let before := doc.take f.pos
    let line := before.count '\n' + 1
    let lastBreak := (before.reverse.findIdx? (· == '\n')).map (fun k => f.pos - k - 1)
    let col := match lastBreak with
      | some b => f.pos - b
      | none => f.pos + 1
    f.error.text ++ ": line " ++ toString line ++ " column " ++ toString col ++
      " (char " ++ toString f.pos ++ ")"

def isJsonBlank (c : Char) : Bool := c == ' ' || c == '\t' || c == '\n' || c == '\r'

/-- The first position at or after `i` that holds no blank. -/
def skipBlank (doc : Array Char) (i : Nat) : Nat :=
  if h : i < doc.size then
    if isJsonBlank doc[i] then skipBlank doc (i + 1) else i
  else i
termination_by doc.size - i

def hexValue? (c : Char) : Option Nat :=
  if '0' ≤ c ∧ c ≤ '9' then some (c.toNat - '0'.toNat)
  else if 'a' ≤ c ∧ c ≤ 'f' then some (c.toNat - 'a'.toNat + 10)
  else if 'A' ≤ c ∧ c ≤ 'F' then some (c.toNat - 'A'.toNat + 10)
  else none

/-- The number written by four hexadecimal digits at `i`. -/
def hex4? (doc : Array Char) (i : Nat) : Option Nat := do
  let a ← hexValue? (doc.getD i ' ')
  let b ← hexValue? (doc.getD (i + 1) ' ')
  let c ← hexValue? (doc.getD (i + 2) ' ')
  let d ← hexValue? (doc.getD (i + 3) ' ')
  pure (((a * 16 + b) * 16 + c) * 16 + d)

/-- The character of a code point; a lone surrogate becomes the replacement character. -/
def codeChar (n : Nat) : Char :=
  if 0xD800 ≤ n ∧ n ≤ 0xDFFF then '�' else Char.ofNat n

def escapeChar? : Char → Option Char
  | '"' => some '"'
  | '\\' => some '\\'
  | '/' => some '/'
  | 'b' => some '\x08'
  | 'f' => some '\x0c'
  | 'n' => some '\n'
  | 'r' => some '\r'
  | 't' => some '\t'
  | _ => none

/-- Reads a `\u` escape whose `u` is at `u`: the character and the position after it. A high
surrogate followed by an escaped low surrogate makes one character. -/
def unicodeEscape (doc : Array Char) (u : Nat) : Except ReadFailure (Char × Nat) :=
  if u + 5 ≥ doc.size then .error ⟨.badUnicodeEscape, u⟩
  else
    match hex4? doc (u + 1) with
    | none => .error ⟨.badUnicodeEscape, u⟩
    | some hi =>
      if 0xD800 ≤ hi ∧ hi ≤ 0xDBFF ∧ u + 11 < doc.size ∧ doc.getD (u + 5) ' ' = '\\' ∧
          doc.getD (u + 6) ' ' = 'u' then
        match hex4? doc (u + 7) with
        | none => .error ⟨.badUnicodeEscape, u + 6⟩
        | some lo =>
          if 0xDC00 ≤ lo ∧ lo ≤ 0xDFFF then
            .ok (Char.ofNat (0x10000 + (hi - 0xD800) * 0x400 + (lo - 0xDC00)), u + 11)
          else .ok (codeChar hi, u + 5)
      else .ok (codeChar hi, u + 5)

/-- Reads the rest of a string whose opening quote is at `start`, from `i`. -/
def readString (doc : Array Char) (start i : Nat) (acc : List Char) :
    Except ReadFailure (String × Nat) :=
  if h : i < doc.size then
    let c := doc[i]
    if c = '"' then .ok (String.ofList acc.reverse, i + 1)
    else if c = '\\' then
      if h2 : i + 1 < doc.size then
        let e := doc[i + 1]
        if e = 'u' then
          match hu : unicodeEscape doc (i + 1) with
          | .error f => .error f
          | .ok (ch, next) =>
            if hn : i < next then readString doc start next (ch :: acc)
            else .error ⟨.badUnicodeEscape, i + 1⟩
        else
          match escapeChar? e with
          | some ch => readString doc start (i + 2) (ch :: acc)
          | none => .error ⟨.badEscape, i⟩
      else .error ⟨.unterminatedString, start⟩
    else if c.toNat < 0x20 then .error ⟨.controlCharacter, i⟩
    else readString doc start (i + 1) (c :: acc)
  else .error ⟨.unterminatedString, start⟩
termination_by doc.size - i

/-- Whether the text at `i` spells `word`. -/
def spells (doc : Array Char) (i : Nat) (word : List Char) : Bool :=
  (List.range word.length).all (fun k => doc[i + k]? == word[k]?)

/-- The first position at or after `i` that holds no ASCII digit. -/
def skipDigits (doc : Array Char) (i : Nat) : Nat :=
  if h : i < doc.size then
    if doc[i].isDigit then skipDigits doc (i + 1) else i
  else i
termination_by doc.size - i

def digitsValue (ds : List Char) : Nat :=
  ds.foldl (fun n c => n * 10 + (c.toNat - '0'.toNat)) 0

/-- Reads a number at `i`: an optional minus, an integer part without leading zeros, then an
optional fraction and an optional exponent, each taken only when digits follow. -/
def readNumber (doc : Array Char) (i : Nat) : Option (Except ReadFailure (Value × Nat)) :=
  let negative := doc[i]? == some '-'
  let j := if negative then i + 1 else i
  match doc[j]? with
  | none => none
  | some c =>
    if !c.isDigit then none
    else
      let intEnd := if c = '0' then j + 1 else skipDigits doc (j + 1)
      let hasFrac := doc[intEnd]? == some '.' && (doc[intEnd + 1]?.map Char.isDigit == some true)
      let fracEnd := if hasFrac then skipDigits doc (intEnd + 2) else intEnd
      let expStart := if doc[fracEnd]? == some 'e' || doc[fracEnd]? == some 'E' then
          (if doc[fracEnd + 1]? == some '+' || doc[fracEnd + 1]? == some '-' then fracEnd + 2
           else fracEnd + 1)
        else fracEnd
      let expEnd := skipDigits doc expStart
      let hasExp := expStart ≠ fracEnd ∧ expEnd > expStart
      let stop := if hasExp then expEnd else fracEnd
      let intDigits := (doc.extract j intEnd).toList
      if !hasFrac ∧ !hasExp then
        if intDigits.length > maxIntegerDigits then
          some (.error ⟨.integerTooLong intDigits.length, i⟩)
        else
          let n : Int := digitsValue intDigits
          some (.ok (.int (if negative then -n else n), stop))
      else
        let fracDigits := if hasFrac then (doc.extract (intEnd + 1) fracEnd).toList else []
        let expNeg := doc[fracEnd + 1]? == some '-'
        let expValue : Int := if hasExp then digitsValue (doc.extract expStart expEnd).toList
          else 0
        let e10 := (if expNeg then -expValue else expValue) - fracDigits.length
        some (.ok (.float (Decimal.toFloat negative (digitsValue (intDigits ++ fracDigits)) e10),
          stop))

mutual

/-- Reads one value at `i`, with `fuel` bounding the nesting. -/
def readValue (doc : Array Char) (i : Nat) : Nat → Except ReadFailure (Value × Nat)
  | 0 => .error ⟨.expectingValue, i⟩
  | fuel + 1 =>
    match doc[i]? with
    | none => .error ⟨.expectingValue, i⟩
    | some '"' => (readString doc i (i + 1) []).map (fun r => (.str r.1, r.2))
    | some '{' => readObject doc (skipBlank doc (i + 1)) true [] fuel
    | some '[' => readArray doc (skipBlank doc (i + 1)) true [] fuel
    | some c =>
      if c = 'n' ∧ spells doc i "null".toList then .ok (.null, i + 4)
      else if c = 't' ∧ spells doc i "true".toList then .ok (.bool true, i + 4)
      else if c = 'f' ∧ spells doc i "false".toList then .ok (.bool false, i + 5)
      else if c = 'N' ∧ spells doc i "NaN".toList then .ok (.float (0.0 / 0.0), i + 3)
      else if c = 'I' ∧ spells doc i "Infinity".toList then .ok (.float (1.0 / 0.0), i + 8)
      else if c = '-' ∧ spells doc i "-Infinity".toList then .ok (.float (-1.0 / 0.0), i + 9)
      else
        match readNumber doc i with
        | some r => r
        | none => .error ⟨.expectingValue, i⟩

/-- Reads the members of an object from `i`, which holds no blank; `first` is set before
the first member. -/
def readObject (doc : Array Char) (i : Nat) (first : Bool) (acc : List (Value × Value)) :
    Nat → Except ReadFailure (Value × Nat)
  | 0 => .error ⟨.expectingValue, i⟩
  | fuel + 1 =>
    if first ∧ doc[i]? = some '}' then .ok (.map [], i + 1)
    else if doc[i]? ≠ some '"' then .error ⟨.expectingName, i⟩
    else
      match readString doc i (i + 1) [] with
      | .error f => .error f
      | .ok (key, afterKey) =>
        let colon := skipBlank doc afterKey
        if doc[colon]? ≠ some ':' then .error ⟨.expectingColon, colon⟩
        else
          match readValue doc (skipBlank doc (colon + 1)) fuel with
          | .error f => .error f
          | .ok (v, afterValue) =>
            let acc := Value.insertEntry acc (.str key) v
            let k := skipBlank doc afterValue
            if doc[k]? = some '}' then .ok (.map acc, k + 1)
            else if doc[k]? ≠ some ',' then .error ⟨.expectingComma, k⟩
            else readObject doc (skipBlank doc (k + 1)) false acc fuel

/-- Reads the items of an array from `i`, which holds no blank. -/
def readArray (doc : Array Char) (i : Nat) (first : Bool) (acc : List Value) :
    Nat → Except ReadFailure (Value × Nat)
  | 0 => .error ⟨.expectingValue, i⟩
  | fuel + 1 =>
    if first ∧ doc[i]? = some ']' then .ok (.list [], i + 1)
    else
      match readValue doc i fuel with
      | .error f => .error f
      | .ok (v, afterValue) =>
        let acc := v :: acc
        let k := skipBlank doc afterValue
        if doc[k]? = some ']' then .ok (.list acc.reverse, k + 1)
        else if doc[k]? ≠ some ',' then .error ⟨.expectingComma, k⟩
        else readArray doc (skipBlank doc (k + 1)) false acc fuel

end

/-- Reads a whole JSON text: one value between optional blanks. -/
def parse (text : String) : Except ReadFailure Value :=
  let doc := text.toList.toArray
  if doc[0]? = some '﻿' then .error ⟨.byteOrderMark, 0⟩
  else
    match readValue doc (skipBlank doc 0) (2 * doc.size + 2) with
    | .error f => .error f
    | .ok (v, stop) =>
      let k := skipBlank doc stop
      if k < doc.size then .error ⟨.extraData, k⟩ else .ok v

end BookLinks.Data.Json
