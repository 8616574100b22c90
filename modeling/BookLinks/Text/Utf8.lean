/-! UTF-8 as bytes: the encoding of text, and a strict and a lossy decoding. A faulty
sequence is the longest prefix of a well-formed sequence found at that point, or a single
byte when none is; the strict decoding reports the first faulty sequence with its position,
and the lossy decoding writes one replacement character for each. -/
namespace BookLinks.Text

def encodeUtf8 (cs : List Char) : List UInt8 := cs.flatMap String.utf8EncodeChar

def String.utf8Bytes (s : String) : List UInt8 := encodeUtf8 s.toList

inductive Utf8Problem where
  /-- A byte that begins no sequence. -/
  | invalidStart
  /-- A byte that does not continue the sequence begun before it. -/
  | invalidContinuation
  /-- The bytes end inside a sequence. -/
  | unexpectedEnd
  deriving Repr, DecidableEq

/-- The first faulty sequence: its byte range `[start, stop)` and its problem. -/
structure Utf8Error where
  start : Nat
  stop : Nat
  problem : Utf8Problem
  deriving Repr, DecidableEq

inductive Utf8Piece where
  | char (c : Char) (rest : List UInt8)
  | fault (problem : Utf8Problem) (length : Nat) (rest : List UInt8)

/-- The range of the second byte allowed after a lead byte, and the sequence length. -/
def leadShape (b : UInt8) : Option (UInt8 × UInt8 × Nat) :=
  if 0xC2 ≤ b && b ≤ 0xDF then some (0x80, 0xBF, 2)
  else if b == 0xE0 then some (0xA0, 0xBF, 3)
  else if b == 0xED then some (0x80, 0x9F, 3)
  else if 0xE1 ≤ b && b ≤ 0xEF then some (0x80, 0xBF, 3)
  else if b == 0xF0 then some (0x90, 0xBF, 4)
  else if b == 0xF4 then some (0x80, 0x8F, 4)
  else if 0xF1 ≤ b && b ≤ 0xF3 then some (0x80, 0xBF, 4)
  else none

def isContByte (x : UInt8) : Bool := 0x80 ≤ x && x ≤ 0xBF

def contBits (b : UInt8) : Nat := b.toNat % 64

/-- Decodes the sequence at the head of the bytes. -/
def Utf8Piece.next : List UInt8 → Option Utf8Piece
  | [] => none
  | b :: rest =>
    if b < 0x80 then some (.char (Char.ofNat b.toNat) rest)
    else
      match leadShape b with
      | none => some (.fault .invalidStart 1 rest)
      | some (lo, hi, n) =>
        match rest with
        | [] => some (.fault .unexpectedEnd 1 rest)
        | b1 :: r1 =>
          if !(lo ≤ b1 && b1 ≤ hi) then some (.fault .invalidContinuation 1 rest)
          else if n = 2 then
            some (.char (Char.ofNat ((b.toNat % 32) * 64 + contBits b1)) r1)
          else
            match r1 with
            | [] => some (.fault .unexpectedEnd 2 r1)
            | b2 :: r2 =>
              if !isContByte b2 then some (.fault .invalidContinuation 2 r1)
              else if n = 3 then
                some (.char (Char.ofNat ((b.toNat % 16) * 4096 + contBits b1 * 64 +
                  contBits b2)) r2)
              else
                match r2 with
                | [] => some (.fault .unexpectedEnd 3 r2)
                | b3 :: r3 =>
                  if !isContByte b3 then some (.fault .invalidContinuation 3 r2)
                  else some (.char (Char.ofNat ((b.toNat % 8) * 262144 +
                    contBits b1 * 4096 + contBits b2 * 64 + contBits b3)) r3)

theorem Utf8Piece.next_char_length {bs rest : List UInt8} {c : Char}
    (h : Utf8Piece.next bs = some (.char c rest)) : rest.length < bs.length := by
  unfold Utf8Piece.next at h
  repeat' split at h
  all_goals simp only [Option.some.injEq, Utf8Piece.char.injEq, reduceCtorEq] at h
  all_goals (obtain ⟨-, rfl⟩ := h; simp only [List.length_cons]; omega)

theorem Utf8Piece.next_fault_length {bs rest : List UInt8} {p : Utf8Problem} {n : Nat}
    (h : Utf8Piece.next bs = some (.fault p n rest)) : rest.length < bs.length := by
  unfold Utf8Piece.next at h
  repeat' split at h
  all_goals simp only [Option.some.injEq, Utf8Piece.fault.injEq, reduceCtorEq] at h
  all_goals (obtain ⟨-, -, rfl⟩ := h; simp only [List.length_cons]; omega)

/-- Strict decoding from byte position `pos`; `acc` holds the characters so far, reversed. -/
def decodeFrom (bs : List UInt8) (pos : Nat) (acc : List Char) :
    Except Utf8Error (List Char) :=
  match h : Utf8Piece.next bs with
  | none => .ok acc.reverse
  | some (.char c rest) =>
    have := Utf8Piece.next_char_length h
    decodeFrom rest (pos + (bs.length - rest.length)) (c :: acc)
  | some (.fault p n _) => .error ⟨pos, pos + n, p⟩
termination_by bs.length

def Utf8Problem.text : Utf8Problem → String
  | .invalidStart => "invalid start byte"
  | .invalidContinuation => "invalid continuation byte"
  | .unexpectedEnd => "unexpected end of data"

/-- The message for the first faulty sequence of `bs`: the byte itself when the sequence is
one byte long, else its range of positions. -/
def Utf8Error.message (bs : List UInt8) (e : Utf8Error) : String :=
  let hex (n : Nat) : String :=
    let ds := Nat.toDigits 16 n
    String.ofList (List.replicate (2 - ds.length) '0' ++ ds)
  let place := if e.stop = e.start + 1 then
      "byte 0x" ++ hex ((bs[e.start]?.getD 0).toNat) ++ " in position " ++ toString e.start
    else "bytes in position " ++ toString e.start ++ "-" ++ toString (e.stop - 1)
  "'utf-8' codec can't decode " ++ place ++ ": " ++ e.problem.text

/-- Strict decoding: the text, or the first faulty sequence. -/
def decodeUtf8 (bs : List UInt8) : Except Utf8Error (List Char) := decodeFrom bs 0 []

/-- Lossy decoding: each faulty sequence becomes one replacement character. -/
def decodeLossy (bs : List UInt8) : List Char :=
  match h : Utf8Piece.next bs with
  | none => []
  | some (.char c rest) =>
    have := Utf8Piece.next_char_length h
    c :: decodeLossy rest
  | some (.fault _ _ rest) =>
    have := Utf8Piece.next_fault_length h
    '�' :: decodeLossy rest
termination_by bs.length

end BookLinks.Text
