import BookLinks.Text.Utf8
/-! Percent-decoding of text. Each maximal run of ASCII characters is decoded on its own:
`%` and two hexadecimal digits stand for a byte, any other `%` for itself, and the bytes of
the run are read as UTF-8 with a replacement character for each faulty sequence. Characters
outside ASCII are kept as they are. -/
namespace BookLinks.Url

open BookLinks.Text

def hexDigit? (c : Char) : Option Nat :=
  if '0' ≤ c ∧ c ≤ '9' then some (c.toNat - '0'.toNat)
  else if 'a' ≤ c ∧ c ≤ 'f' then some (c.toNat - 'a'.toNat + 10)
  else if 'A' ≤ c ∧ c ≤ 'F' then some (c.toNat - 'A'.toNat + 10)
  else none

/-- The bytes of an ASCII run with its percent escapes decoded. -/
def percentBytes : List Char → List UInt8
  | '%' :: a :: b :: rest =>
    match hexDigit? a, hexDigit? b with
    | some x, some y => (x * 16 + y).toUInt8 :: percentBytes rest
    | _, _ => '%'.toNat.toUInt8 :: percentBytes (a :: b :: rest)
  | c :: rest => c.toNat.toUInt8 :: percentBytes rest
  | [] => []

/-- Decodes a text whose ASCII run so far is `run`, reversed. -/
def percentDecodeFrom : List Char → List Char → List Char
  | [], run => decodeLossy (percentBytes run.reverse)
  | c :: rest, run =>
    if c.toNat < 0x80 then percentDecodeFrom rest (c :: run)
    else decodeLossy (percentBytes run.reverse) ++ c :: percentDecodeFrom rest []

def percentDecode (s : String) : String :=
  if s.toList.contains '%' then String.ofList (percentDecodeFrom s.toList []) else s

end BookLinks.Url
