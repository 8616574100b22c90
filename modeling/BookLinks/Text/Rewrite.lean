/-! Rewriting a text by a recognizer: scanning from the left, each position where the
recognizer finds a match is replaced by the match's replacement and the scan resumes after
the match; elsewhere the character is kept. Matches therefore never overlap. -/
namespace BookLinks.Text

/-- A recognizer: at a position of the text, the end of a match and its replacement. -/
abbrev Recognizer := Array Char → Nat → Option (Nat × List Char)

/-- Rewrites the matches of `r` in `t` from `p` on. -/
def rewriteFrom (r : Recognizer) (t : Array Char) (p : Nat) : List Char :=
  if h : p < t.size then
    match r t p with
    | some (e, rep) =>
      if p < e then rep ++ rewriteFrom r t e else t[p] :: rewriteFrom r t (p + 1)
    | none => t[p] :: rewriteFrom r t (p + 1)
  else []
termination_by t.size - p

/-- Rewrites the matches of `r` in a text. -/
def rewrite (r : Recognizer) (cs : List Char) : List Char := rewriteFrom r cs.toArray 0

/-- The characters of `t` in `[a, b)`. -/
def sliceChars (t : Array Char) (a b : Nat) : List Char := (t.extract a b).toList

/-- The first position at or after `i` whose character does not satisfy `p`. -/
def scanWhile (t : Array Char) (p : Char → Bool) (i : Nat) : Nat :=
  if h : i < t.size then
    if p t[i] then scanWhile t p (i + 1) else i
  else i
termination_by t.size - i

/-- Whether the characters from `i` spell `w`. -/
def spellsFrom (t : Array Char) (i : Nat) (w : List Char) : Bool :=
  (List.range w.length).all (fun k => t[i + k]? == w[k]?)

end BookLinks.Text
