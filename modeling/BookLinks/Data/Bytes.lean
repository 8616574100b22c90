/-!
# Bytes written as text

Hexadecimal pairs and base64, the two ways data files write raw bytes. Hexadecimal pairs
may be separated by blanks. Base64 decoding skips characters outside its alphabet and stops
at the first padding character.
-/
namespace BookLinks.Data

def hexValue? (c : Char) : Option Nat :=
  if '0' ≤ c ∧ c ≤ '9' then some (c.toNat - '0'.toNat)
  else if 'a' ≤ c ∧ c ≤ 'f' then some (c.toNat - 'a'.toNat + 10)
  else if 'A' ≤ c ∧ c ≤ 'F' then some (c.toNat - 'A'.toNat + 10)
  else none

/-- Bytes from hexadecimal pairs, blanks allowed between pairs. -/
def bytesOfHex? : List Char → Option (List UInt8)
  | [] => some []
  | c :: rest =>
    if c == ' ' || c == '\t' || c == '\n' || c == '\r' || c == '\x0b' || c == '\x0c' then
      bytesOfHex? rest
    else match rest with
      | d :: rest' => do
        let hi ← hexValue? c
        let lo ← hexValue? d
        let tail ← bytesOfHex? rest'
        pure ((16 * hi + lo).toUInt8 :: tail)
      | [] => none

def base64Value? (c : Char) : Option Nat :=
  if 'A' ≤ c ∧ c ≤ 'Z' then some (c.toNat - 'A'.toNat)
  else if 'a' ≤ c ∧ c ≤ 'z' then some (c.toNat - 'a'.toNat + 26)
  else if '0' ≤ c ∧ c ≤ '9' then some (c.toNat - '0'.toNat + 52)
  else if c == '+' then some 62
  else if c == '/' then some 63
  else none

/-- Bytes from groups of base64 values: four values make three bytes, a last group of two
or three values makes one or two. -/
def bytesOfSextets : List Nat → List UInt8
  | a :: b :: c :: d :: rest =>
    let n := ((a * 64 + b) * 64 + c) * 64 + d
    (n / 65536).toUInt8 :: (n / 256 % 256).toUInt8 :: (n % 256).toUInt8 :: bytesOfSextets rest
  | [a, b, c] =>
    let n := (a * 64 + b) * 64 + c
    [(n / 1024).toUInt8, (n / 4 % 256).toUInt8]
  | [a, b] => [((a * 64 + b) / 16).toUInt8]
  | _ => []

def bytesOfBase64 (s : String) : List UInt8 :=
  bytesOfSextets ((s.toList.takeWhile (· != '=')).filterMap base64Value?)

/-- Why base64 text does not decode: one data character is left over after the given
number of data characters, or a last group lacks its padding. -/
inductive Base64Fault where
  | lone (count : Nat)
  | padding
  deriving Repr, DecidableEq

def Base64Fault.text : Base64Fault → String
  | .lone n => "Invalid base64-encoded string: number of data characters (" ++ toString n ++
      ") cannot be 1 more than a multiple of 4"
  | .padding => "Incorrect padding"

/-- Lenient base64 decoding from the place `quad` in a group of four, with the bits `left`
carried and `pads` padding characters seen. Characters outside the alphabet are skipped;
padding that completes a group of at least two data characters ends the data. -/
def decodeBase64From : List Char → Nat → Nat → Nat → Array UInt8 → Except Base64Fault (List UInt8)
  | [], quad, _, _, out =>
    if quad == 0 then .ok out.toList
    else if quad == 1 then .error (.lone (out.size / 3 * 4 + 1))
    else .error .padding
  | c :: rest, quad, left, pads, out =>
    if c == '=' then
      if quad ≥ 2 && quad + pads + 1 ≥ 4 then .ok out.toList
      else decodeBase64From rest quad left (if quad ≥ 2 then pads + 1 else pads) out
    else match base64Value? c with
      | none => decodeBase64From rest quad left pads out
      | some v => match quad with
        | 0 => decodeBase64From rest 1 v 0 out
        | 1 => decodeBase64From rest 2 (v % 16) 0 (out.push (left * 4 + v / 16).toUInt8)
        | 2 => decodeBase64From rest 3 (v % 4) 0 (out.push (left * 16 + v / 4).toUInt8)
        | _ => decodeBase64From rest 0 0 0 (out.push (left * 64 + v).toUInt8)

def decodeBase64 (cs : List Char) : Except Base64Fault (List UInt8) := decodeBase64From cs 0 0 0 #[]

end BookLinks.Data
