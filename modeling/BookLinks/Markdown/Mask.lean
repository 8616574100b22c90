import BookLinks.Text.Blank
import BookLinks.Text.LineBreak
import BookLinks.Text.Digit
/-! Masking the parts of a document that never hold links: fenced and indented code blocks,
code spans, HTML comments and math. Masking replaces each character of such a region by a
space, keeping carriage returns and line feeds, so offsets into the masked text are offsets
into the document. The passes run in a fixed order and each sees the text masked by the
ones before it: fences, indented blocks, code spans, comments, then block, inline,
parenthesised and bracketed math. -/
namespace BookLinks.Markdown

open BookLinks.Text

inductive RegionKind where
  | code
  | comment
  | mathBlock
  | mathInline
  | mathParen
  | mathBracket
  deriving Repr, DecidableEq, Inhabited

def RegionKind.name : RegionKind → String
  | .code => "code"
  | .comment => "comment"
  | .mathBlock => "math-block"
  | .mathInline => "math-inline"
  | .mathParen => "math-paren"
  | .mathBracket => "math-bracket"

def RegionKind.isMath : RegionKind → Bool
  | .code | .comment => false
  | _ => true

/-- A masked range `[start, stop)` of character offsets. -/
structure Region where
  start : Nat
  stop : Nat
  kind : RegionKind
  deriving Repr, DecidableEq, Inhabited

/-- The masked form of a character: line feeds and carriage returns stay, all else is a
space. -/
def blankChar (c : Char) : Char := if c = '\r' ∨ c = '\n' then c else ' '

def blankOut (cs : List Char) : List Char := cs.map blankChar

/-- A line without the carriage returns and line feeds at its end. -/
def lineContent (line : List Char) : List Char := dropEndWhile (fun c => c = '\r' ∨ c = '\n') line

/-- Number of spaces at the start of a line. -/
def leadingSpaces (cs : List Char) : Nat := (cs.takeWhile (· = ' ')).length

/-! ### Fenced code -/

/-- The mark and width of the fence a line opens: at most three spaces, then a run of at
least three backticks or tildes; a backtick fence whose info text holds a backtick opens
nothing. -/
def fenceOpening (body : List Char) : Option (Char × Nat) :=
  let spaces := leadingSpaces body
  if spaces > 3 then none
  else
    match body.drop spaces with
    | c :: rest =>
      if c = '`' ∨ c = '~' then
        let width := 1 + (rest.takeWhile (· = c)).length
        let info := rest.drop (width - 1)
        if width ≥ 3 ∧ ¬(c = '`' ∧ '`' ∈ info) then some (c, width) else none
      else none
    | [] => none

/-- Whether a line closes a fence of the given mark and width: without its blank ends it is
a run of the mark at least as wide, after at most three spaces. -/
def closesFence (mark : Char) (width : Nat) (body : List Char) : Bool :=
  let core := trim body
  !core.isEmpty && core.all (· = mark) && decide (core.length ≥ width) &&
    decide (leadingSpaces body ≤ 3)

/-- A fence that is open: its mark, width and the offset of its opening line. -/
structure OpenFence where
  mark : Char
  width : Nat
  start : Nat

/-- Masks fenced code in `lines`, the first of which starts at `offset`. -/
def maskFencesFrom : List (List Char) → Nat → Option OpenFence → List (List Char) × List Region
  | [], _, none => ([], [])
  | [], offset, some f => ([], [⟨f.start, offset, .code⟩])
  | line :: rest, offset, state =>
    let body := lineContent line
    let next := offset + line.length
    match state with
    | none =>
      match fenceOpening body with
      | some (c, w) =>
        let r := maskFencesFrom rest next (some ⟨c, w, offset⟩)
        (blankOut line :: r.1, r.2)
      | none =>
        let r := maskFencesFrom rest next none
        (line :: r.1, r.2)
    | some f =>
      if closesFence f.mark f.width body then
        let r := maskFencesFrom rest next none
        (blankOut line :: r.1, ⟨f.start, offset + body.length, .code⟩ :: r.2)
      else
        let r := maskFencesFrom rest next (some f)
        (blankOut line :: r.1, r.2)

/-- Masks fenced code blocks; an unclosed fence runs to the end of the text. -/
def maskFences (text : List Char) : List Char × List Region :=
  let r := maskFencesFrom (splitLines text) 0 none
  (r.1.flatten, r.2)

/-! ### Indented code -/

/-- Whether a line starts with four spaces, or with at most three spaces and a tab. -/
def isIndented (body : List Char) : Bool :=
  let spaces := leadingSpaces body
  spaces ≥ 4 || body[spaces]? == some '\t'

/-- Whether a line starts a list item: at most three spaces, a bullet or one to nine digits
with a dot or parenthesis, then a space, a tab or the end of the line. -/
def isListItem (body : List Char) : Bool :=
  let spaces := leadingSpaces body
  if spaces > 3 then false
  else
    let rest := body.drop spaces
    let afterMarker : Option (List Char) :=
      match rest with
      | c :: r =>
        if c = '-' ∨ c = '*' ∨ c = '+' then some r
        else
          let digits := (rest.takeWhile isDecimal).length
          if 1 ≤ digits ∧ digits ≤ 9 then
            match rest.drop digits with
            | d :: r' => if d = '.' ∨ d = ')' then some r' else none
            | [] => none
          else none
      | [] => none
    match afterMarker with
    | some [] => true
    | some (d :: _) => d = ' ' ∨ d = '\t'
    | none => false

structure IndentState where
  blockStart : Option Nat := none
  blockEnd : Nat := 0
  previousBlank : Bool := true
  inList : Bool := false

/-- Masks indented code in `lines`, the first of which starts at `offset`. An indented line
opens a block after a blank line outside a list, and continues an open block; a block ends
at the first line that is neither blank nor indented. -/
def maskIndentedFrom : List (List Char) → Nat → IndentState → List (List Char) × List Region
  | [], _, st =>
    match st.blockStart with
    | some s => ([], [⟨s, st.blockEnd, .code⟩])
    | none => ([], [])
  | line :: rest, offset, st =>
    let body := lineContent line
    let blank := (trim body).isEmpty
    let indented := !blank && isIndented body
    let (closed, st) : List Region × IndentState :=
      match st.blockStart with
      | some s =>
        if !(blank || indented) then ([⟨s, st.blockEnd, .code⟩], ⟨none, st.blockEnd, st.previousBlank, st.inList⟩)
        else ([], st)
      | none => ([], st)
    let next := offset + line.length
    if indented && (st.blockStart.isSome || (st.previousBlank && !st.inList)) then
      let opened : IndentState :=
        ⟨some (st.blockStart.getD offset), offset + body.length, blank, st.inList⟩
      let r := maskIndentedFrom rest next opened
      (blankOut line :: r.1, closed ++ r.2)
    else
      let inList := if isListItem body then true
        else if st.inList && st.previousBlank && !blank && !indented then false
        else st.inList
      let r := maskIndentedFrom rest next ⟨st.blockStart, st.blockEnd, blank, inList⟩
      (line :: r.1, closed ++ r.2)

def maskIndented (text : List Char) : List Char × List Region :=
  let r := maskIndentedFrom (splitLines text) 0 {}
  (r.1.flatten, r.2)

/-! ### Spans found by scanning -/

/-- Whether the character before `p` is not a backslash. -/
def notEscapedAt (t : Array Char) (p : Nat) : Bool := p = 0 || t[p - 1]? != some '\\'

/-- Number of backticks in the run that starts at `i`. -/
def backtickRun (t : Array Char) (i : Nat) : Nat :=
  if h : i < t.size then
    if t[i] = '`' then backtickRun t (i + 1) + 1 else 0
  else 0
termination_by t.size - i

/-- The first position at or after `i` that is neither a space nor a tab. -/
def skipSpaceTab (t : Array Char) (i : Nat) : Nat :=
  if h : i < t.size then
    if t[i] = ' ' ∨ t[i] = '\t' then skipSpaceTab t (i + 1) else i
  else i
termination_by t.size - i

/-- Whether a blank line begins at `j`: a line feed, spaces and tabs, then a line feed,
possibly after a carriage return. -/
def blankLineAt (t : Array Char) (j : Nat) : Bool :=
  t[j]? == some '\n' &&
    (let k := skipSpaceTab t (j + 1)
     t[k]? == some '\n' || (t[k]? == some '\r' && t[k + 1]? == some '\n'))

/-- The end of a code span of `n` backticks whose body continues at `j`: the first later run
of exactly `n` backticks, unless a blank line comes first. -/
def codeSpanEnd (t : Array Char) (n j : Nat) : Option Nat :=
  if h : j < t.size then
    if blankLineAt t j then none
    else if t[j] ≠ '`' ∧ backtickRun t (j + 1) = n then some (j + 1 + n)
    else codeSpanEnd t n (j + 1)
  else none
termination_by t.size - j

/-- A code span at `p`: a whole run of backticks, not after a backslash, with a non-empty
body up to the next run of the same width. -/
def codeSpanAt (t : Array Char) (p : Nat) : Option Nat :=
  if t[p]? == some '`' && (p = 0 || (t[p - 1]? != some '`' && t[p - 1]? != some '\\')) then
    let n := backtickRun t p
    codeSpanEnd t n (p + n)
  else none

/-- Whether the characters from `i` spell `w`. -/
def spellsAt (t : Array Char) (i : Nat) (w : List Char) : Bool :=
  (List.range w.length).all (fun k => t[i + k]? == w[k]?)

/-- The first position at or after `i` where `w` is spelled. -/
def findFrom (t : Array Char) (w : List Char) (i : Nat) : Option Nat :=
  if h : i < t.size then
    if spellsAt t i w then some i else findFrom t w (i + 1)
  else none
termination_by t.size - i

/-- An HTML comment at `p`, up to the first `-->` after `<!--`. -/
def commentAt (t : Array Char) (p : Nat) : Option Nat :=
  if spellsAt t p "<!--".toList then (findFrom t "-->".toList (p + 4)).map (· + 3) else none

/-- Block math at `p`: `$$`, not after a backslash, up to the next `$`, which must begin
`$$`. -/
def blockMathAt (t : Array Char) (p : Nat) : Option Nat :=
  if notEscapedAt t p && spellsAt t p "$$".toList then
    match findFrom t ['$'] (p + 2) with
    | some k => if t[k + 1]? == some '$' then some (k + 2) else none
    | none => none
  else none

/-- The end of inline math whose body continues at `j`: a dollar closes it, a line break
ends it unclosed, a backslash takes the next character unless that is a line break. -/
def inlineMathEnd (t : Array Char) (j : Nat) : Option Nat :=
  if h : j < t.size then
    let c := t[j]
    if c = '$' then some (j + 1)
    else if c = '\r' ∨ c = '\n' then none
    else if c = '\\' then
      match t[j + 1]? with
      | some d => if d = '\r' ∨ d = '\n' then none else inlineMathEnd t (j + 2)
      | none => none
    else inlineMathEnd t (j + 1)
  else none
termination_by t.size - j

/-- Inline math at `p`: a dollar, not after a backslash, closed on the same line. -/
def inlineMathAt (t : Array Char) (p : Nat) : Option Nat :=
  if notEscapedAt t p && t[p]? == some '$' then inlineMathEnd t (p + 1) else none

/-- The end of parenthesised math whose body continues at `j`: the first `\)` on the same
line. -/
def parenMathEnd (t : Array Char) (j : Nat) : Option Nat :=
  if h : j < t.size then
    if t[j] = '\\' ∧ t[j + 1]? = some ')' then some (j + 2)
    else if t[j] = '\r' ∨ t[j] = '\n' then none
    else parenMathEnd t (j + 1)
  else none
termination_by t.size - j

/-- Parenthesised math at `p`: `\(` up to the first `\)` on the same line. -/
def parenMathAt (t : Array Char) (p : Nat) : Option Nat :=
  if spellsAt t p "\\(".toList then parenMathEnd t (p + 2) else none

/-- Bracketed math at `p`: `\[` up to the first `\]`, across lines. -/
def bracketMathAt (t : Array Char) (p : Nat) : Option Nat :=
  if spellsAt t p "\\[".toList then (findFrom t "\\]".toList (p + 2)).map (· + 2) else none

/-- Masks the characters of `[a, b)`. -/
def blankRange (out : Array Char) (a b : Nat) : Array Char :=
  (List.range (b - a)).foldl (fun acc k => acc.modify (a + k) blankChar) out

/-- Masks the matches of a recognizer in `input` from `p` on, left to right and without
overlap; the recognizer sees the unmasked input, and a match resumes the scan at its end. -/
def maskMatchesFrom (recognize : Array Char → Nat → Option Nat) (kind : RegionKind)
    (input : Array Char) (p : Nat) (out : Array Char) (acc : List Region) :
    Array Char × List Region :=
  if p < input.size then
    match recognize input p with
    | some e =>
      let e := max e (p + 1)
      maskMatchesFrom recognize kind input e (blankRange out p e) (⟨p, e, kind⟩ :: acc)
    | none => maskMatchesFrom recognize kind input (p + 1) out acc
  else (out, acc.reverse)
termination_by input.size - p

def maskMatches (recognize : Array Char → Nat → Option Nat) (kind : RegionKind)
    (input : Array Char) : Array Char × List Region :=
  maskMatchesFrom recognize kind input 0 input []

/-- A masked document text and its regions, sorted by start. -/
structure Masked where
  text : Array Char
  regions : List Region
  deriving Inhabited

/-- Masks code, comments and math in a text. -/
def mask (text : List Char) : Masked :=
  let (m1, r1) := maskFences text
  let (m2, r2) := maskIndented m1
  let (m3, r3) := maskMatches codeSpanAt .code m2.toArray
  let (m4, r4) := maskMatches commentAt .comment m3
  let (m5, r5) := maskMatches blockMathAt .mathBlock m4
  let (m6, r6) := maskMatches inlineMathAt .mathInline m5
  let (m7, r7) := maskMatches parenMathAt .mathParen m6
  let (m8, r8) := maskMatches bracketMathAt .mathBracket m7
  { text := m8,
    regions := (r1 ++ r2 ++ r3 ++ r4 ++ r5 ++ r6 ++ r7 ++ r8).mergeSort
      (fun a b => decide (a.start ≤ b.start)) }

end BookLinks.Markdown
