import BookLinks.Book.Document
import BookLinks.Markdown.Label
import BookLinks.Markdown.Mask
/-! Finding links in a document. The text is masked first; brackets, destinations and
definitions are recognised in the masked text, while labels and destinations are read from
the document itself. Five kinds of link are found: inline links and images
`[text](dest "title")`, references `[text][label]`, `[label][]` and `[label]` to a
definition line `[label]: dest "title"`, autolinks `<scheme:rest>`, and incomplete
references, whose label names no definition. The first definition of a label wins. -/
namespace BookLinks.Markdown

open BookLinks.Text
open BookLinks.Book

inductive LinkKind where
  | inline
  | image
  | reference
  | autolink
  | incomplete
  deriving Repr, DecidableEq, Inhabited

def LinkKind.name : LinkKind → String
  | .inline => "inline"
  | .image => "image"
  | .reference => "reference"
  | .autolink => "autolink"
  | .incomplete => "incomplete"

/-- A link found in a document: the construct `[start, stop)` and the destination
`[hrefStart, hrefStop)`, both in character offsets. -/
structure Occurrence where
  kind : LinkKind
  href : String
  title : Option String
  start : Nat
  stop : Nat
  hrefStart : Nat
  hrefStop : Nat
  deriving Repr, DecidableEq, Inhabited

/-- A definition line `[label]: dest "title"`, with its label normalised, the range of its
destination without angle brackets, and the range of the whole line. -/
structure Definition where
  label : String
  destStart : Nat
  destStop : Nat
  title : Option String
  start : Nat
  stop : Nat
  deriving Repr, DecidableEq, Inhabited

/-- The characters of `[a, b)`. -/
def charsIn (t : Array Char) (a b : Nat) : List Char := (t.extract a b).toList

/-- The first position at or after `i` that is not a space, counting at most `n`. -/
def skipSpaces (t : Array Char) (i : Nat) : Nat → Nat
  | 0 => i
  | n + 1 => if t[i]? == some ' ' then skipSpaces t (i + 1) n else i

/-- The end of a label whose text starts at `j`: the first `[`, `]`, or backslash that
escapes nothing on its line; with the number of label items before it. -/
def labelEnd (t : Array Char) (j count : Nat) : Nat × Nat :=
  if h : j < t.size then
    let c := t[j]
    if c = '\\' then
      match t[j + 1]? with
      | some d => if d = '\n' then (j, count) else labelEnd t (j + 2) (count + 1)
      | none => (j, count)
    else if c = '[' ∨ c = ']' then (j, count)
    else labelEnd t (j + 1) (count + 1)
  else (j, count)
termination_by t.size - j

/-- The first position at or after `i` that satisfies `p` not. -/
def skipWhile (t : Array Char) (p : Char → Bool) (i : Nat) : Nat :=
  if h : i < t.size then
    if p t[i] then skipWhile t p (i + 1) else i
  else i
termination_by t.size - i

/-- Whether a line ends at `i`: the end of the text or a line feed. -/
def lineEndsAt (t : Array Char) (i : Nat) : Bool := i ≥ t.size || t[i]? == some '\n'

def isSpaceTab (c : Char) : Bool := c = ' ' || c = '\t'

/-- A definition line at the line start `p`: the label range, the destination range, the
title range with its quotes, and the end of the line's match. -/
structure DefinitionMatch where
  start : Nat
  labelStart : Nat
  labelStop : Nat
  destStart : Nat
  destStop : Nat
  title : Option (Nat × Nat)
  stop : Nat

/-- Where a definition's destination starts, from the blanks at `k1` after its colon: past
at most one line break and the spaces and tabs after it. -/
def afterDefinitionBreak (t : Array Char) (k1 : Nat) : Nat :=
  if t[k1]? == some '\n' then skipWhile t isSpaceTab (k1 + 1)
  else if t[k1]? == some '\r' && t[k1 + 1]? == some '\n' then skipWhile t isSpaceTab (k1 + 2)
  else k1

/-- The end of a definition's destination that starts at `k2`: in angle brackets, or up to
the first blank. -/
def definitionDestEnd (t : Array Char) (k2 : Nat) : Option Nat := do
  let first ← t[k2]?
  if first = '<' then
    let m := skipWhile t (fun c => !(c = '<' || c = '>' || c = '\r' || c = '\n')) (k2 + 1)
    if t[m]? == some '>' then some (m + 1) else none
  else if isBlank first || first = '>' then none
  else some (skipWhile t (fun c => !isBlank c) (k2 + 1))

/-- The quote that closes a definition's title opened by `opener`. -/
def titleCloser (opener : Char) : Option Char :=
  if opener = '"' then some '"' else if opener = '\'' then some '\''
  else if opener = '(' then some ')' else none

/-- The title after a definition's destination that ends at `destStop`, at least one space
or tab away and quoted by `"`, `'` or parentheses, with nothing but spaces and tabs after
it on its line: the title's range with its quotes, and the end of the line's match. -/
def definitionTitle (t : Array Char) (destStop : Nat) : Option ((Nat × Nat) × Nat) := do
  let a := skipWhile t isSpaceTab destStop
  guard (a > destStop)
  let opener ← t[a]?
  let closer ← titleCloser opener
  let b := skipWhile t (fun c => !(c = closer || c = '\r' || c = '\n')) (a + 1)
  guard (t[b]? == some closer)
  let c := skipWhile t isSpaceTab (b + 1)
  guard (lineEndsAt t c)
  pure ((a, b + 1), c)

/-- Recognises a definition line at `p`: at most three spaces, a bracketed label of one to
999 items, a colon, blanks with at most one line break, a destination, an optional title
after spaces, and nothing but spaces and tabs to the end of the line. -/
def definitionAt (t : Array Char) (p : Nat) : Option DefinitionMatch := do
  let i := skipSpaces t p 3
  guard (t[i]? == some '[')
  let (j, count) := labelEnd t (i + 1) 0
  guard (1 ≤ count ∧ count ≤ 999 ∧ t[j]? == some ']' ∧ t[j + 1]? == some ':')
  let k2 := afterDefinitionBreak t (skipWhile t isSpaceTab (j + 2))
  let destStop ← definitionDestEnd t k2
  match definitionTitle t destStop with
  | some (title, c) => some ⟨p, i + 1, j, k2, destStop, some title, c⟩
  | none =>
    let a := skipWhile t isSpaceTab destStop
    guard (lineEndsAt t a)
    pure ⟨p, i + 1, j, k2, destStop, none, a⟩

/-- Shrinks `[a, b)` by one at each end when it is enclosed in angle brackets. -/
def stripAngles (t : Array Char) (a b : Nat) : Nat × Nat :=
  if b ≥ a + 2 ∧ t[a]? == some '<' ∧ t[b - 1]? == some '>' then (a + 1, b - 1) else (a, b)

/-- The definitions matched at line starts from `p` on, each search resuming after the
previous match; `fuel` bounds the number of lines. -/
def definitionMatchesFrom (t : Array Char) : Nat → Nat → List DefinitionMatch
  | 0, _ => []
  | fuel + 1, p =>
    if p > t.size then []
    else
      let nextLine (q : Nat) : Nat := (skipWhile t (· != '\n') q) + 1
      match definitionAt t p with
      | some m => m :: definitionMatchesFrom t fuel (nextLine (max m.stop p))
      | none => definitionMatchesFrom t fuel (nextLine p)

/-- The definition that a matched definition line gives: its label normalised, its
destination without angle brackets, and its title without quotes. -/
def DefinitionMatch.toDefinition (t : Array Char) (m : DefinitionMatch) : Definition :=
  let (ds, de) := stripAngles t m.destStart m.destStop
  ⟨normalizeLabel (String.ofList (charsIn t m.labelStart m.labelStop)), ds, de,
    m.title.map fun r => String.ofList (charsIn t (r.1 + 1) (r.2 - 1)), m.start, m.stop⟩

/-- Adds the definition of a matched line, unless its label is empty, starts with a caret,
or is taken. -/
def addDefinition (t : Array Char) (acc : List Definition) (m : DefinitionMatch) :
    List Definition :=
  let d := m.toDefinition t
  if d.label.isEmpty || d.label.startsWith "^" || acc.any (·.label == d.label) then acc
  else acc ++ [d]

/-- The definitions of a masked text, by normalised label; the first of a label wins, and
empty labels and labels starting with a caret are left out. -/
def collectDefinitions (t : Array Char) : List Definition :=
  (definitionMatchesFrom t (t.size + 1) 0).foldl (addDefinition t) []

/-- Whether the character at `i` is escaped: an odd number of backslashes stands before it. -/
def isEscaped (t : Array Char) (i : Nat) : Bool :=
  let before := (charsIn t 0 i).reverse
  (before.takeWhile (· = '\\')).length % 2 = 1

/-- The first blank line at or after `i`, or the end of the text. -/
def blankLineFrom (t : Array Char) (i : Nat) : Nat :=
  if i < t.size then
    if blankLineAt t i then i else blankLineFrom t (i + 1)
  else t.size
termination_by t.size - i

/-- The bracket that closes the one at `i`, before `limit`: brackets nest, and a backslash
hides the character after it. -/
def closingBracketFrom (t : Array Char) (limit : Nat) (i depth : Nat) : Option Nat :=
  if i < limit then
    match t[i]? with
    | some '\\' => closingBracketFrom t limit (i + 2) depth
    | some '[' => closingBracketFrom t limit (i + 1) (depth + 1)
    | some ']' =>
      if depth = 1 then some i else closingBracketFrom t limit (i + 1) (depth - 1)
    | _ => closingBracketFrom t limit (i + 1) depth
  else none
termination_by limit - i

/-- The bracket that closes the one at `start`, within its paragraph. -/
def matchingBracket (t : Array Char) (start : Nat) : Option Nat :=
  closingBracketFrom t (blankLineFrom t start) start 0

/-- Skips spaces, tabs and line breaks from `i`, stopping at a second line feed. -/
def skipLinkBlanks (t : Array Char) (i : Nat) (newlines : Nat) : Nat :=
  if h : i < t.size then
    let c := t[i]
    if c = '\n' then
      if newlines ≥ 1 then i else skipLinkBlanks t (i + 1) (newlines + 1)
    else if c = ' ' ∨ c = '\t' ∨ c = '\r' then skipLinkBlanks t (i + 1) newlines
    else i
  else i
termination_by t.size - i

/-- The end of a destination in angle brackets whose text continues at `i`: the first `<`,
`>` or line break, a backslash hiding the character after it. -/
def angleDestEnd (t : Array Char) (i : Nat) : Nat :=
  if h : i < t.size then
    let c := t[i]
    if c = '<' ∨ c = '>' ∨ c = '\r' ∨ c = '\n' then i
    else if c = '\\' then angleDestEnd t (i + 2)
    else angleDestEnd t (i + 1)
  else i
termination_by t.size - i

/-- The end of a bare destination continuing at `i`: the first blank or control character,
or an unbalanced closing parenthesis; a backslash hides the character after it. -/
def bareDestEnd (t : Array Char) (i depth : Nat) : Nat :=
  if h : i < t.size then
    let c := t[i]
    if c = '\\' ∧ i + 1 < t.size then bareDestEnd t (i + 2) depth
    else if isBlank c ∨ c.toNat < 0x20 then i
    else if c = '(' then bareDestEnd t (i + 1) (depth + 1)
    else if c = ')' then
      if depth = 0 then i else bareDestEnd t (i + 1) (depth - 1)
    else bareDestEnd t (i + 1) depth
  else i
termination_by t.size - i

/-- The position of `closer` at or after `i`, a backslash hiding the character after it;
none when the text ends first. -/
def titleEnd (t : Array Char) (closer : Char) (i : Nat) : Option Nat :=
  if h : i < t.size then
    if t[i] = closer then some i
    else if t[i] = '\\' then titleEnd t closer (i + 2)
    else titleEnd t closer (i + 1)
  else none
termination_by t.size - i

/-- A parsed `(dest "title")`: the destination range, the title and the end. -/
structure Destination where
  start : Nat
  stop : Nat
  title : Option String
  stop' : Nat

/-- The destination that starts at `i`, in angle brackets or bare: its range, and where the
text after it goes on. -/
def destinationAt (t : Array Char) (i : Nat) : Option (Nat × Nat × Nat) := do
  let c ← t[i]?
  if c = '<' then
    let close := angleDestEnd t (i + 1)
    if t[close]? == some '>' then some (i, close + 1, close + 1) else none
  else
    let e := bareDestEnd t i 0
    some (i, e, e)

/-- The title that may stand at `k`, after a destination that ends at `de`: the title, and
where the text after it goes on; none for a title that is never closed. -/
def titleAt (t : Array Char) (de k : Nat) : Option (Option String × Nat) :=
  match t[k]? with
  | some o =>
    if (o = '"' ∨ o = '\'' ∨ o = '(') ∧ k > de then
      let closer := if o = '(' then ')' else o
      match titleEnd t closer (k + 1) with
      | some close =>
        some (some (String.ofList (charsIn t (k + 1) close)), skipLinkBlanks t (close + 1) 0)
      | none => none
    else some (none, k)
  | none => some (none, k)

/-- Parses `(dest "title")` whose parenthesis is at `openParen`. -/
def parseDestination (t : Array Char) (openParen : Nat) : Option Destination := do
  let (ds, de, afterDest) ← destinationAt t (skipLinkBlanks t (openParen + 1) 0)
  let (title, k) ← titleAt t de (skipLinkBlanks t afterDest 0)
  guard (t[k]? == some ')')
  pure ⟨ds, de, title, k + 1⟩

/-- Whether a character is ASCII punctuation that a backslash may escape in a destination. -/
def isEscapable (c : Char) : Bool := "!\"#$%&'()*+,./:;<=>?@[\\]^_`\x7b|\x7d~".toList.contains c

/-- Drops the backslash before escapable punctuation, except before `#`, which stays
escaped so that it is not taken for a fragment. -/
def unescapeHref : List Char → List Char
  | '\\' :: c :: rest =>
    if isEscapable c then
      if c = '#' then '\\' :: '#' :: unescapeHref rest else c :: unescapeHref rest
    else '\\' :: unescapeHref (c :: rest)
  | c :: rest => c :: unescapeHref rest
  | [] => []

/-- Whether the text before a bracket on its line is a list marker with blanks around it,
as before the `[x]` of a task. -/
def isListMarkerPrefix (cs : List Char) : Bool :=
  let rest := cs.dropWhile isBlank
  let afterMarker : Option (List Char) :=
    match rest with
    | c :: r =>
      if c = '-' ∨ c = '*' ∨ c = '+' then some r
      else
        let digits := (rest.takeWhile isDecimal).length
        if 1 ≤ digits ∧ digits ≤ 9 then
          match rest.drop digits with
          | d :: r' => if d = '.' ∨ d = ')' then some r' else none
          | [] => none
        else none
    | [] => none
  match afterMarker with
  | some r => !r.isEmpty && r.all isBlank
  | none => false

structure ScanState where
  found : List Occurrence := []
  linkTexts : List (Nat × Nat) := []
  destinations : List (Nat × Nat) := []
  consumed : List Nat := []

/-- Records a found link, with the range of its bracketed text and of its destination. -/
def ScanState.record (st : ScanState) (o : Occurrence) (linkText : Option (Nat × Nat))
    (dest : Option (Nat × Nat)) : ScanState :=
  ⟨st.found ++ [o], st.linkTexts ++ linkText.toList, st.destinations ++ dest.toList,
    st.consumed⟩

/-- The link of a destination `[ds, de)` in the document: angle brackets dropped and
escapes removed. -/
def linkOccurrence (text : Array Char) (kind : LinkKind) (ds de start stop : Nat)
    (title : Option String) : Occurrence :=
  let (ds, de) := stripAngles text ds de
  { kind, href := String.ofList (unescapeHref (charsIn text ds de)), title, start, stop,
    hrefStart := ds, hrefStop := de }

/-- Whether the bracket at `start` is passed over: it was taken as the second bracket of a
reference, or it stands on the line of a definition or in a destination found before. -/
def ScanState.passesOver (st : ScanState) (defs : List Definition) (start : Nat) : Bool :=
  st.consumed.contains start || defs.any (fun d => d.start ≤ start ∧ start < d.stop) ||
    st.destinations.any (fun d => d.1 ≤ start ∧ start < d.2)

/-- Whether the bracket at `start` opens an image: an unescaped `!` stands before it. -/
def opensImage (masked : Array Char) (start : Nat) : Bool :=
  start > 0 && masked[start - 1]? == some '!' && !isEscaped masked (start - 1)

/-- The kind of a link with a destination at the bracket at `start`: an image after `!`,
else an inline link. -/
def bracketKind (masked : Array Char) (start : Nat) : LinkKind :=
  if opensImage masked start then .image else .inline

/-- Where the construct of the bracket at `start` opens: at the `!` of an image, else at the
bracket. -/
def constructStart (masked : Array Char) (start : Nat) : Nat :=
  if opensImage masked start then start - 1 else start

/-- The shape of a reference whose bracketed text is `[start + 1, close)`: the range of its
label, where it stops, and the second bracket it takes, if any. -/
structure ReferenceShape where
  labelStart : Nat
  labelStop : Nat
  stop : Nat
  second : Option Nat

/-- The reference after the bracketed text `[start + 1, close)`. A second bracket right after
it is taken into the construct, and names the label unless it is blank. -/
def referenceShape (masked : Array Char) (start close : Nat) : ReferenceShape :=
  let after := close + 1
  match (if masked[after]? == some '[' then matchingBracket masked after else none) with
  | some second =>
    if !(trim (charsIn masked (after + 1) second)).isEmpty then
      ⟨after + 1, second, second + 1, some after⟩
    else ⟨start + 1, close, second + 1, some after⟩
  | none => ⟨start + 1, close, after, none⟩

/-- The label of the reference whose bracketed text is `[start + 1, close)`, read from the
document: the text of a second bracket that names one, else the bracketed text. -/
def referenceLabel (text masked : Array Char) (start close : Nat) : List Char :=
  let r := referenceShape masked start close
  charsIn text r.labelStart r.labelStop

/-- The start of the line holding `start`. -/
def lineStartBefore (masked : Array Char) (start : Nat) : Nat :=
  match (charsIn masked 0 start).reverse.findIdx? (· = '\n') with
  | some k => start - k
  | none => 0

/-- Whether `](` stands in a text. -/
def holdsCloseOpen : List Char → Bool
  | ']' :: '(' :: _ => true
  | _ :: rest => holdsCloseOpen rest
  | [] => false

/-- Whether a reference with bracketed text `[start + 1, close)` and the normalised label
`label` that names no definition is reported as incomplete: not for an empty label, a
footnote, a label holding `](`, a bracket inside the text of a link found before, or the
`[x]` of a task. -/
def isIncompleteCandidate (masked : Array Char) (st : ScanState) (start close : Nat)
    (label : String) : Bool :=
  !label.isEmpty && !label.startsWith "^" && !holdsCloseOpen label.toList &&
    !st.linkTexts.any (fun r => r.1 ≤ start ∧ close ≤ r.2) &&
    !(label == "x" && isListMarkerPrefix (charsIn masked (lineStartBefore masked start) start))

/-- Looks at the unescaped bracket at `start`: an inline link or image, a reference, or an
incomplete reference. -/
def scanBracket (text masked : Array Char) (defs : List Definition) (st : ScanState)
    (start : Nat) : ScanState :=
  if st.passesOver defs start then st
  else
    match matchingBracket masked start with
    | none => st
    | some close =>
      let cs := constructStart masked start
      let after := close + 1
      match (if masked[after]? == some '(' then parseDestination masked after else none) with
      | some d =>
        st.record (linkOccurrence text (bracketKind masked start) d.start d.stop cs d.stop' d.title)
          (some (start + 1, close)) (some (after, d.stop'))
      | none =>
        let r := referenceShape masked start close
        let st : ScanState := { st with consumed := st.consumed ++ r.second.toList }
        if r.stop = after ∧ masked[after]? == some ':' then st
        else
          let raw := referenceLabel text masked start close
          let label := String.ofList (normalizeLabelChars raw)
          match defs.find? (·.label == label) with
          | some d =>
            st.record
              (linkOccurrence text .reference d.destStart d.destStop cs r.stop d.title)
              (some (start + 1, close)) none
          | none =>
            if isIncompleteCandidate masked st start close label then
              st.record ⟨.incomplete, String.ofList raw, none, cs, r.stop, cs, r.stop⟩ none none
            else st

/-- An autolink at `p`: `<`, a scheme of two to thirty-two letters, digits, `+`, `.` or
`-` beginning with a letter, a colon, and no blank, `<` or `>` up to the closing `>`. -/
def autolinkAt (t : Array Char) (p : Nat) : Option Nat := do
  guard (t[p]? == some '<')
  let first ← t[p + 1]?
  guard (first.isAlpha)
  let schemeEnd := skipWhile t (fun c => c.isAlphanum || c = '+' || c = '.' || c = '-') (p + 2)
  guard (p + 3 ≤ schemeEnd ∧ schemeEnd ≤ p + 33 ∧ t[schemeEnd]? == some ':')
  let m := skipWhile t (fun c => !(isBlank c || c = '<' || c = '>')) (schemeEnd + 1)
  guard (t[m]? == some '>')
  pure (m + 1)

/-- The autolinks from `p` on, left to right without overlap. -/
def autolinksFrom (t : Array Char) (p : Nat) : List (Nat × Nat) :=
  if p < t.size then
    match autolinkAt t p with
    | some e => (p, e) :: autolinksFrom t (max e (p + 1))
    | none => autolinksFrom t (p + 1)
  else []
termination_by t.size - p

/-- The unescaped opening brackets of a masked text, left to right. -/
def openBrackets (masked : Array Char) : List Nat :=
  (List.range masked.size).filter (fun i => masked[i]? == some '[' && !isEscaped masked i)

/-- Looks at every unescaped opening bracket of a masked text, left to right. -/
def scanBrackets (text masked : Array Char) (defs : List Definition) : ScanState :=
  (openBrackets masked).foldl (scanBracket text masked defs) {}

/-- The links of a document text as the two passes find them: the links at brackets, then
the autolinks that lie wholly inside no destination found at a bracket. -/
def foundLinks (text : Array Char) : List Occurrence :=
  let masked := (mask text.toList).text
  let st := scanBrackets text masked (collectDefinitions masked)
  let autos := (autolinksFrom masked 0).filter
    (fun r => !st.destinations.any (fun d => d.1 ≤ r.1 ∧ r.2 ≤ d.2))
  st.found ++ autos.map (fun r => linkOccurrence text .autolink (r.1 + 1) (r.2 - 1) r.1 r.2 none)

/-- The links of a document text, ordered by where they start and then by where their
destination starts. -/
def scanText (text : Array Char) : List Occurrence :=
  (foundLinks text).mergeSort
    (fun a b => a.start < b.start || (a.start == b.start && a.hrefStart ≤ b.hrefStart))

def scan (d : Document) : List Occurrence := scanText d.chars

end BookLinks.Markdown
