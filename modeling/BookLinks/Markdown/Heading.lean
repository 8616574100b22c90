import BookLinks.Text.Alnum
import BookLinks.Text.Blank
import BookLinks.Text.LineBreak
import BookLinks.Text.Digit
import BookLinks.Text.Rewrite
/-! Headings and the identifiers made from them. The text of a heading is what a reader sees:
images and links give their bracketed text, HTML tags and backticks go, emphasis marks are
removed until none is left, and backslash escapes give the escaped character. An identifier
keeps letters, numbers, `_` and `-` (ASCII letters in lower case), turns blanks into `-`,
and drops the rest. Headings are ATX lines `# title #` and setext lines underlined by `=`
or `-`, outside fenced code. -/
namespace BookLinks.Markdown

open BookLinks.Text

/-- An image `![text](dest)`, replaced by its text. -/
def imageAt : Recognizer := fun t p => do
  guard (spellsFrom t p "![".toList)
  let k := scanWhile t (· != ']') (p + 2)
  guard (t[k]? == some ']' && t[k + 1]? == some '(')
  let m := scanWhile t (· != ')') (k + 2)
  guard (t[m]? == some ')')
  pure (m + 1, sliceChars t (p + 2) k)

/-- A link `[text](dest)` or `[text][label]`, replaced by its text. -/
def inlineLinkAt : Recognizer := fun t p => do
  guard (t[p]? == some '[')
  let k := scanWhile t (· != ']') (p + 1)
  guard (t[k]? == some ']')
  let closer ← match t[k + 1]? with
    | some '(' => some ')'
    | some '[' => some ']'
    | _ => none
  let m := scanWhile t (· != closer) (k + 2)
  guard (t[m]? == some closer)
  pure (m + 1, sliceChars t (p + 1) k)

def isAsciiLetter (c : Char) : Bool := ('a' ≤ c && c ≤ 'z') || ('A' ≤ c && c ≤ 'Z')

def isAsciiAlnum (c : Char) : Bool := isAsciiLetter c || ('0' ≤ c && c ≤ '9')

/-- An HTML tag `<name …>` or `</name …>`, removed. -/
def htmlTagAt : Recognizer := fun t p => do
  guard (t[p]? == some '<')
  let q := if t[p + 1]? == some '/' then p + 2 else p + 1
  let c ← t[q]?
  guard (isAsciiLetter c)
  let m := scanWhile t (· != '>') (q + 1)
  guard (t[m]? == some '>')
  pure (m + 1, [])

/-- The end of an emphasised body that starts at `j`, closed by `n` copies of `mark`: the
first position after a non-blank character where the closing run stands, unless a line feed
comes first; `after` tests the character after the closing run. -/
def emphasisClose (t : Array Char) (mark : Char) (n : Nat) (after : Option Char → Bool)
    (j : Nat) : Option Nat :=
  if h : j < t.size then
    if t[j] = '\n' then none
    else if !isBlank t[j] && spellsFrom t (j + 1) (List.replicate n mark) &&
        after t[j + 1 + n]? then some (j + 1)
    else emphasisClose t mark n after (j + 1)
  else none
termination_by t.size - j

/-- Emphasis with `n` copies of `mark` opening at `p`: the body starts with a non-blank
character and ends with one, and the same run closes it. -/
def emphasisWith (t : Array Char) (p : Nat) (mark : Char) (n : Nat)
    (after : Option Char → Bool) : Option (Nat × List Char) := do
  let first ← t[p + n]?
  guard (!isBlank first)
  let q ← emphasisClose t mark n after (p + n)
  pure (q + n, sliceChars t (p + n) q)

/-- The first of the widths `ns` with which emphasis opens at `p`. -/
def firstEmphasis (t : Array Char) (p : Nat) (mark : Char) (after : Option Char → Bool) :
    List Nat → Option (Nat × List Char)
  | [] => none
  | n :: ns =>
    match emphasisWith t p mark n after with
    | some r => some r
    | none => firstEmphasis t p mark after ns

/-- The widths to try for a run of `mark` at `p`: the run's width up to three, then smaller. -/
def runWidths (t : Array Char) (p : Nat) (mark : Char) : List Nat :=
  let run := min 3 (scanWhile t (· == mark) p - p)
  (List.range run).reverse.map (· + 1)

/-- Emphasis by one to three asterisks, or strikethrough by two tildes, replaced by its
body. -/
def starEmphasisAt : Recognizer := fun t p =>
  if t[p]? == some '*' then firstEmphasis t p '*' (fun _ => true) (runWidths t p '*')
  else if spellsFrom t p "~~".toList then firstEmphasis t p '~' (fun _ => true) [2]
  else none

/-- Emphasis by one to three underscores, not inside a word, replaced by its body. -/
def underscoreEmphasisAt : Recognizer := fun t p =>
  if t[p]? == some '_' && (p = 0 || !(t[p - 1]?.map isAsciiAlnum).getD false) then
    firstEmphasis t p '_' (fun c => !(c.map isAsciiAlnum).getD false) (runWidths t p '_')
  else none

/-- A backslash escape, replaced by the escaped character. -/
def escapeAt : Recognizer := fun t p => do
  guard (t[p]? == some '\\')
  let c ← t[p + 1]?
  guard (c != '\n')
  pure (p + 2, [c])

/-- One round of stripping: emphasis by asterisks and tildes, then by underscores. -/
def emphasisRound (cs : List Char) : List Char :=
  rewrite underscoreEmphasisAt (rewrite starEmphasisAt cs)

/-- Removes emphasis until none is left; each round that changes the text shortens it, so
as many rounds as characters suffice. -/
def stripEmphasis : Nat → List Char → List Char
  | 0, cs => cs
  | fuel + 1, cs =>
    let next := emphasisRound cs
    if next = cs then cs else stripEmphasis fuel next

/-- A heading's text with images and links given by their text, and HTML tags and backticks
removed: what emphasis is stripped from. -/
def inlineText (raw : String) : List Char :=
  (rewrite htmlTagAt (rewrite inlineLinkAt (rewrite imageAt raw.toList))).filter (· != '`')

def headingText (raw : String) : String :=
  let cs := inlineText raw
  let cs := stripEmphasis (cs.length + 1) cs
  String.ofList (trim (rewrite escapeAt cs))

def normalizeId (content : String) : String :=
  String.ofList (content.toList.filterMap fun c =>
    if isAlnum c || c = '_' || c = '-' then
      some (if c.toNat < 0x80 then c.toLower else c)
    else if isBlank c then some '-'
    else none)

/-- The fence a line opens or closes: at most three spaces, then a run of at least three
backticks or tildes. -/
def fenceRun (line : List Char) : Option (Char × Nat) :=
  let spaces := (line.takeWhile (· = ' ')).length
  if spaces > 3 then none
  else
    match line.drop spaces with
    | c :: rest =>
      if c = '`' ∨ c = '~' then
        let width := 1 + (rest.takeWhile (· = c)).length
        if width ≥ 3 then some (c, width) else none
      else none
    | [] => none

def allSpaceTab (cs : List Char) : Bool := cs.all (fun c => c = ' ' || c = '\t')

/-- Whether a text is a closing sequence of a heading: optionally spaces or tabs and a run
of `#`, then spaces and tabs only. -/
def isClosingSequence (cs : List Char) : Bool :=
  allSpaceTab cs ||
    (let lead := cs.takeWhile (fun c => c = ' ' || c = '\t')
     let rest := cs.drop lead.length
     let hashes := rest.takeWhile (· = '#')
     !lead.isEmpty && !hashes.isEmpty && allSpaceTab (rest.drop hashes.length))

/-- The shortest prefix of `cs` after which a closing sequence follows, `taken` holding the
prefix so far, reversed. -/
def shortestTitle : List Char → List Char → List Char
  | [], taken => taken.reverse
  | c :: rest, taken =>
    if isClosingSequence (c :: rest) then taken.reverse else shortestTitle rest (c :: taken)

/-- The title of an ATX heading line: at most three spaces, one to six `#`, then either the
end or blanks, the title and an optional closing sequence. -/
def atxTitle (line : List Char) : Option (List Char) :=
  let spaces := (line.takeWhile (· = ' ')).length
  if spaces > 3 then none
  else
    let rest := line.drop spaces
    let hashes := (rest.takeWhile (· = '#')).length
    if hashes < 1 ∨ hashes > 6 then none
    else
      match rest.drop hashes with
      | [] => some []
      | c :: tail =>
        if c = ' ' ∨ c = '\t' then
          some (shortestTitle ((c :: tail).dropWhile (fun c => c = ' ' || c = '\t')) [])
        else none

/-- Whether a line underlines a setext heading: at most three spaces, a run of `=` or of
`-`, then spaces and tabs only. -/
def isSetextUnderline (line : List Char) : Bool :=
  let spaces := (line.takeWhile (· = ' ')).length
  if spaces > 3 then false
  else
    match line.drop spaces with
    | c :: rest =>
      (c = '=' ∨ c = '-') && allSpaceTab (rest.dropWhile (· = c))
    | [] => false

/-- Whether a line starts a list item or a quote, which a following underline does not turn
into a heading. -/
def startsBlock (line : List Char) : Bool :=
  let rest := line.dropWhile isBlank
  let afterMarker : Option (List Char) :=
    match rest with
    | c :: r =>
      if c = '-' ∨ c = '*' ∨ c = '+' ∨ c = '>' then some r
      else
        let digits := (rest.takeWhile isDecimal).length
        if 1 ≤ digits ∧ digits ≤ 9 then
          match rest.drop digits with
          | d :: r' => if d = '.' ∨ d = ')' then some r' else none
          | [] => none
        else none
    | [] => none
  match afterMarker with
  | some [] => true
  | some (d :: _) => isBlank d
  | none => false

/-- The raw headings of `lines`, given the open fence and the line before. -/
def headingsFrom : List (List Char) → Option (Char × Nat) → List Char → List String
  | [], _, _ => []
  | line :: rest, some (mark, width), _ =>
    match fenceRun line with
    | some (c, w) =>
      if c = mark ∧ w ≥ width then headingsFrom rest none []
      else headingsFrom rest (some (mark, width)) []
    | none => headingsFrom rest (some (mark, width)) []
  | line :: rest, none, previous =>
    match fenceRun line with
    | some f => headingsFrom rest (some f) []
    | none =>
      match atxTitle line with
      | some title => String.ofList title :: headingsFrom rest none []
      | none =>
        if !(trim previous).isEmpty && isSetextUnderline line &&
            !(previous.take 4 == "    ".toList || previous.take 1 == ['\t']) &&
            !startsBlock previous then
          String.ofList (trim previous) :: headingsFrom rest none []
        else headingsFrom rest none line

/-- The raw headings of a text, in order. -/
def headings (text : String) : List String :=
  headingsFrom ((splitLines text.toList).map lineBody) none []

end BookLinks.Markdown
