import BookLinks.Yaml.Token
import BookLinks.Data.Bytes
import BookLinks.Text.Utf8
/-!
# Cutting a YAML text into tokens

The lexer reads a YAML text one token ahead of its reader, and further where a plain or
quoted scalar may turn out to be a key: a key needs no `?` when a `:` follows it on the
same line, within 1024 characters, and the key token is then put in front of it once the
`:` is seen. Block collections open where a line is indented deeper than the current
block, and close, with one block-end token each, where a line is indented less.

Every loop here moves through the text, so each is bounded by the number of characters
left.
-/
namespace BookLinks.Yaml

open BookLinks.Data BookLinks.Text

/-- A place where a key may have started without a `?`: the number its token would have,
whether a key must start there, and its mark. -/
structure KeyCandidate where
  tokenNumber : Nat
  required : Bool
  mark : Mark
  deriving Repr, Inhabited

/-- The state of the lexer: the text followed by a NUL character, the reading place, the
depth of flow collections, the tokens read and not yet taken, the indentation of the open
block collections, and the key candidates by flow depth in the order they were noted. -/
structure Lexer where
  chars : Array Char
  pos : Nat
  line : Nat
  column : Nat
  done : Bool
  flowLevel : Int
  tokens : List Token
  taken : Nat
  indent : Int
  indents : List Int
  allowKey : Bool
  candidates : List (Int × KeyCandidate)
  deriving Inhabited

namespace Lexer

/-- The lexer at the start of `text`, with the stream-start token read. -/
def init (text : List Char) : Lexer :=
  { chars := (text ++ ['\x00']).toArray, pos := 0, line := 0, column := 0, done := false,
    flowLevel := 0, tokens := [⟨.streamStart, ⟨0, 0, 0⟩, ⟨0, 0, 0⟩⟩], taken := 0,
    indent := -1, indents := [], allowKey := true, candidates := [] }

/-- The character `k` places ahead; NUL past the end. -/
def peekAt (l : Lexer) (k : Nat) : Char := l.chars.getD (l.pos + k) '\x00'

/-- The next `n` characters. -/
def ahead (l : Lexer) (n : Nat) : String := String.ofList (l.chars.extract l.pos (l.pos + n)).toList

def mark (l : Lexer) : Mark := ⟨l.pos, l.line, l.column⟩

/-- Moves one character on. A line feed, a lone carriage return and the other line breaks
start a new line; a byte order mark takes no column. -/
def step (l : Lexer) : Lexer :=
  let c := l.peekAt 0
  let newLine := c == '\n' || c == '\x85' || c == '\u2028' || c == '\u2029' ||
    (c == '\r' && l.peekAt 1 != '\n')
  { l with pos := l.pos + 1,
           line := if newLine then l.line + 1 else l.line,
           column := if newLine then 0 else if c == '\uFEFF' then l.column else l.column + 1 }

/-- Moves `n` characters on. -/
def advance (l : Lexer) : Nat → Lexer
  | 0 => l
  | n + 1 => l.step.advance n

/-- Moves on while `p` holds of the lexer and the text has not ended. -/
def skipWhile (p : Lexer → Bool) (l : Lexer) : Lexer :=
  if _h : l.pos < l.chars.size ∧ p l = true then skipWhile p l.step else l
termination_by l.chars.size - l.pos
decreasing_by have := _h.1; simp only [step]; omega

/-- The first offset from `k` on at which `stops` holds, or the offset of the end. -/
def firstFrom (l : Lexer) (stops : Nat → Bool) (k : Nat) : Nat :=
  if h : l.pos + k < l.chars.size then (if stops k then k else l.firstFrom stops (k + 1)) else k
termination_by l.chars.size - (l.pos + k)

/-- How many of the next characters satisfy `p`. -/
def countWhile (l : Lexer) (p : Char → Bool) : Nat := l.firstFrom (fun k => !p (l.peekAt k)) 0

/-- Whether a document marker `---` or `...` stands next, followed by a blank. -/
def separatorAhead (l : Lexer) : Bool :=
  (l.ahead 3 == "---" || l.ahead 3 == "...") && isBlankOrEnd (l.peekAt 3)

end Lexer

/-- Reading with a lexer, which may fail. -/
abbrev LexM := StateT Lexer (Except LoadError)

def shown (c : Char) : String := quoted (String.singleton c)

/-- Letters, digits, `-` and `_`: the characters of names. -/
def isNameChar (c : Char) : Bool :=
  ('0' ≤ c && c ≤ '9') || ('A' ≤ c && c ≤ 'Z') || ('a' ≤ c && c ≤ 'z') || c == '-' || c == '_'

def isUriChar (c : Char) : Bool :=
  isNameChar c || ";/?:@&=+$,.!~*'()[]%".contains c

def isFlowIndicator (c : Char) : Bool :=
  c == ',' || c == '[' || c == ']' || c == '{' || c == '}'

def isHexDigit (c : Char) : Bool := (hexValue? c).isSome

def hexNumber (s : String) : Nat := s.toList.foldl (fun n c => 16 * n + (hexValue? c).getD 0) 0

namespace LexM

/-- The character `k` places ahead. -/
def peek (k : Nat) : LexM Char := return (← get).peekAt k

/-- Moves `n` characters on. -/
def forward (n : Nat) : LexM Unit := modify (·.advance n)

def here : LexM Mark := return (← get).mark

/-- A bound on the steps of a loop that moves through the rest of the text. -/
def budget : LexM Nat := return (← get).chars.size - (← get).pos + 1

def fail {α : Type} (context : Option String) (contextMark : Option Mark) (problem : String) :
    LexM α := do
  throw (LoadError.fail context contextMark problem (← here))

/-- Adds a token at the end of those read. -/
def push (t : Token) : LexM Unit := modify fun l => { l with tokens := l.tokens ++ [t] }

/-- Reads one line break: a carriage return with a line feed, either alone or a next-line
character become a line feed, a line or paragraph separator stays itself; no break gives
the empty text. -/
def lineBreak : LexM String := do
  let ch ← peek 0
  if ch == '\r' || ch == '\n' || ch == '\x85' then
    if ch == '\r' && (← peek 1) == '\n' then forward 2 else forward 1
    return "\n"
  else if ch == '\u2028' || ch == '\u2029' then
    forward 1
    return ch.toString
  else return ""

/-- Removes the candidates that can no longer be keys: those on an earlier line or more
than 1024 characters back. A required one among them is an error. -/
def dropStaleCandidates : LexM Unit := do
  let l ← get
  let stale (k : KeyCandidate) : Bool := k.mark.line != l.line || l.pos - k.mark.index > 1024
  match l.candidates.find? (fun e => stale e.2 && e.2.required) with
  | some (_, k) =>
    fail (some "while scanning a simple key") (some k.mark) "could not find expected ':'"
  | none => set { l with candidates := l.candidates.filter (fun e => !stale e.2) }

/-- Removes the candidate at the current flow depth; a required one is an error. -/
def removeCandidate : LexM Unit := do
  let l ← get
  match l.candidates.lookup l.flowLevel with
  | some k =>
    if k.required then
      fail (some "while scanning a simple key") (some k.mark) "could not find expected ':'"
    else set { l with candidates := l.candidates.filter (·.1 != l.flowLevel) }
  | none => pure ()

/-- Notes the reading place as a candidate key at the current flow depth, when a key may
start here. It must be a key when it opens a line of the current block. -/
def saveCandidate : LexM Unit := do
  let l ← get
  let required := l.flowLevel == 0 && l.indent == (l.column : Int)
  if l.allowKey then
    removeCandidate
    let l : Lexer ← get
    let k : KeyCandidate := ⟨l.taken + l.tokens.length, required, l.mark⟩
    let rest : List (Int × KeyCandidate) := l.candidates.filter (fun e => e.1 != l.flowLevel)
    set { l with candidates := rest ++ [(l.flowLevel, k)] }

def firstCandidate (l : Lexer) : Option Nat :=
  l.candidates.foldl (fun acc e => match acc with
    | none => some e.2.tokenNumber
    | some n => some (min n e.2.tokenNumber)) none

/-- Pops the block indentations deeper than `column`, with a block end for each. -/
def closeBlocks (m : Mark) (column : Int) : Int → List Int → List Token → Int × List Int × List Token
  | indent, top :: rest, acc =>
    if indent > column then closeBlocks m column top rest (acc ++ [⟨.blockEnd, m, m⟩])
    else (indent, top :: rest, acc)
  | indent, [], acc => (indent, [], acc)

/-- Closes the block collections indented deeper than `column`; flow collections have no
blocks. -/
def unwindIndent (column : Int) : LexM Unit := do
  let l ← get
  if l.flowLevel == 0 then
    let (indent, indents, ends) := closeBlocks l.mark column l.indent l.indents []
    set { l with indent := indent, indents := indents, tokens := l.tokens ++ ends }

/-- Opens a block at `column` when it is deeper than the current one. -/
def addIndent (column : Int) : LexM Bool := do
  let l ← get
  if l.indent < column then
    set { l with indents := l.indent :: l.indents, indent := column }
    return true
  else return false

/-- Moves past spaces, comments and line breaks to the next token. A line break in block
context allows a key to start. -/
def skipToToken : Nat → LexM Unit
  | 0 => pure ()
  | fuel + 1 => do
    modify (Lexer.skipWhile (·.peekAt 0 == ' '))
    if (← peek 0) == '#' then modify (Lexer.skipWhile (fun l => !isBreakOrEnd (l.peekAt 0)))
    let br ← lineBreak
    if br.isEmpty then return
    if (← get).flowLevel == 0 then modify fun l => { l with allowKey := true }
    skipToToken fuel

/-! ## Directives -/

def directiveName (start : Mark) : LexM String := do
  let ctx := some "while scanning a directive"
  let l ← get
  let length := l.countWhile isNameChar
  if length == 0 then
    fail ctx (some start) ("expected alphabetic or numeric character, but found " ++ shown (l.peekAt 0))
  let value := l.ahead length
  forward length
  let ch ← peek 0
  if !isSpaceOrEnd ch then
    fail ctx (some start) ("expected alphabetic or numeric character, but found " ++ shown ch)
  return value

def versionNumber (start : Mark) : LexM Nat := do
  let ch ← peek 0
  if !ch.isDigit then
    fail (some "while scanning a directive") (some start) ("expected a digit, but found " ++ shown ch)
  let l ← get
  let length := l.countWhile Char.isDigit
  forward length
  return (l.ahead length).toList.foldl (fun n c => 10 * n + (c.toNat - 48)) 0

/-- The value of a version directive: two numbers with a point between them. -/
def versionValue (start : Mark) : LexM Directive := do
  let ctx := some "while scanning a directive"
  modify (Lexer.skipWhile (·.peekAt 0 == ' '))
  let major ← versionNumber start
  let ch ← peek 0
  if ch != '.' then fail ctx (some start) ("expected a digit or '.', but found " ++ shown ch)
  forward 1
  let minor ← versionNumber start
  let ch ← peek 0
  if !isSpaceOrEnd ch then fail ctx (some start) ("expected a digit or ' ', but found " ++ shown ch)
  return .version major minor

/-- A tag handle: `!`, `!!`, or a name between two `!`. -/
def tagHandle (name : String) (start : Mark) : LexM String := do
  let ctx := some ("while scanning a " ++ name)
  let ch ← peek 0
  if ch != '!' then fail ctx (some start) ("expected '!', but found " ++ shown ch)
  let l ← get
  let length ← if l.peekAt 1 != ' ' then do
      let n := l.firstFrom (fun k => !isNameChar (l.peekAt k)) 1
      if l.peekAt n != '!' then
        forward n
        fail ctx (some start) ("expected '!', but found " ++ shown (l.peekAt n))
      pure (n + 1)
    else pure 1
  forward length
  return l.ahead length

/-- Bytes written as `%` and two hexadecimal digits, one after another. -/
def uriBytes (name : String) (start : Mark) : Nat → Array UInt8 → LexM (Array UInt8)
  | 0, codes => pure codes
  | fuel + 1, codes => do
    if (← peek 0) != '%' then return codes
    forward 1
    let l ← get
    match [0, 1].find? (fun k => !isHexDigit (l.peekAt k)) with
    | some k =>
      fail (some ("while scanning a " ++ name)) (some start)
        ("expected URI escape sequence of 2 hexadecimal numbers, but found " ++ shown (l.peekAt k))
    | none =>
      forward 2
      uriBytes name start fuel (codes.push (hexNumber (l.ahead 2)).toUInt8)

def uriEscapes (name : String) (start : Mark) : LexM String := do
  let m ← here
  let codes ← uriBytes name start (← budget) #[]
  match decodeUtf8 codes.toList with
  | .ok cs => return String.ofList cs
  | .error e =>
    throw (LoadError.fail (some ("while scanning a " ++ name)) (some start)
      (Utf8Error.message codes.toList e) m)

/-- The pieces of a tag's text, and whether there were any. -/
def uriPieces (name : String) (start : Mark) : Nat → Array String → Bool →
    LexM (Array String × Bool)
  | 0, chunks, any => pure (chunks, any)
  | fuel + 1, chunks, any => do
    let l ← get
    let length := l.firstFrom (fun k => !isUriChar (l.peekAt k) || l.peekAt k == '%') 0
    if l.peekAt length == '%' then
      forward length
      let s ← uriEscapes name start
      uriPieces name start fuel ((chunks.push (l.ahead length)).push s) true
    else if length > 0 then
      forward length
      return (chunks.push (l.ahead length), true)
    else return (chunks, any)

/-- The text of a tag, with `%` escapes decoded. -/
def tagUri (name : String) (start : Mark) : LexM String := do
  let (chunks, any) ← uriPieces name start (← budget) #[] false
  if !any then
    fail (some ("while parsing a " ++ name)) (some start) ("expected URI, but found " ++ shown (← peek 0))
  return String.join chunks.toList

/-- The value of a tag directive: a handle and a prefix. -/
def tagDirectiveValue (start : Mark) : LexM Directive := do
  let ctx := some "while scanning a directive"
  modify (Lexer.skipWhile (·.peekAt 0 == ' '))
  let handle ← tagHandle "directive" start
  let ch ← peek 0
  if ch != ' ' then fail ctx (some start) ("expected ' ', but found " ++ shown ch)
  modify (Lexer.skipWhile (·.peekAt 0 == ' '))
  let pre ← tagUri "directive" start
  let ch ← peek 0
  if !isSpaceOrEnd ch then fail ctx (some start) ("expected ' ', but found " ++ shown ch)
  return .tagPrefix handle pre

/-- The rest of a directive's line: spaces and a comment, then a line break. -/
def directiveLineEnd (start : Mark) : LexM Unit := do
  modify (Lexer.skipWhile (·.peekAt 0 == ' '))
  if (← peek 0) == '#' then modify (Lexer.skipWhile (fun l => !isBreakOrEnd (l.peekAt 0)))
  let ch ← peek 0
  if !isBreakOrEnd ch then
    fail (some "while scanning a directive") (some start)
      ("expected a comment or a line break, but found " ++ shown ch)
  let _ ← lineBreak

/-- A directive: `%`, a name, and for `YAML` and `TAG` their values; other directives are
read to the end of their line. -/
def directive : LexM Token := do
  let start ← here
  forward 1
  let name ← directiveName start
  let (value, stop) ← if name == "YAML" then do
      let v ← versionValue start
      pure (v, ← here)
    else if name == "TAG" then do
      let v ← tagDirectiveValue start
      pure (v, ← here)
    else do
      let stop ← here
      modify (Lexer.skipWhile (fun l => !isBreakOrEnd (l.peekAt 0)))
      pure (.other, stop)
  directiveLineEnd start
  return ⟨.directive name value, start, stop⟩

/-! ## Anchors, aliases and tags -/

/-- An anchor `&name` or an alias `*name`. -/
def anchorOrAlias (isAlias : Bool) : LexM Token := do
  let start ← here
  let ctx := some (if isAlias then "while scanning an alias" else "while scanning an anchor")
  forward 1
  let l ← get
  let length := l.countWhile isNameChar
  if length == 0 then
    fail ctx (some start) ("expected alphabetic or numeric character, but found " ++ shown (l.peekAt 0))
  let value := l.ahead length
  forward length
  let ch ← peek 0
  if !(isBlankOrEnd ch || ch == '?' || ch == ':' || ch == ',' || ch == ']' || ch == '}' ||
      ch == '%' || ch == '@' || ch == '`') then
    fail ctx (some start) ("expected alphabetic or numeric character, but found " ++ shown ch)
  return ⟨if isAlias then .alias value else .anchor value, start, ← here⟩

/-- A tag: `!<text>`, a lone `!`, or a handle and a suffix. -/
def tag : LexM Token := do
  let start ← here
  let l ← get
  let ch := l.peekAt 1
  let (handle, suffix) ← if ch == '<' then do
      forward 2
      let suffix ← tagUri "tag" start
      let c ← peek 0
      if c != '>' then fail (some "while parsing a tag") (some start) ("expected '>', but found " ++ shown c)
      forward 1
      pure (none, suffix)
    else if isBlankOrEnd ch then do
      forward 1
      pure (none, "!")
    else do
      let k := l.firstFrom (fun k => isSpaceOrEnd (l.peekAt k) || l.peekAt k == '!') 1
      let handle ← if l.peekAt k == '!' then tagHandle "tag" start else do
        forward 1
        pure "!"
      let suffix ← tagUri "tag" start
      pure (some handle, suffix)
  let c ← peek 0
  if !isSpaceOrEnd c then fail (some "while scanning a tag") (some start) ("expected ' ', but found " ++ shown c)
  return ⟨.tag handle suffix, start, ← here⟩

/-! ## Block scalars -/

/-- The indicators after `|` or `>`: keeping (`+`) or stripping (`-`) the final line
breaks, and an indentation step from 1 to 9, in either order. -/
def blockIndicators (start : Mark) : LexM (Option Bool × Option Nat) := do
  let ctx := some "while scanning a block scalar"
  let zero := "expected indentation indicator in the range 1-9, but found 0"
  let ch ← peek 0
  let (chomping, increment) ← if ch == '+' || ch == '-' then do
      forward 1
      let d ← peek 0
      if d.isDigit then
        if d == '0' then fail ctx (some start) zero
        forward 1
        pure (some (ch == '+'), some (d.toNat - 48))
      else pure (some (ch == '+'), none)
    else if ch.isDigit then do
      if ch == '0' then fail ctx (some start) zero
      forward 1
      let c ← peek 0
      if c == '+' || c == '-' then
        forward 1
        pure (some (c == '+'), some (ch.toNat - 48))
      else pure (none, some (ch.toNat - 48))
    else pure (none, none)
  let ch ← peek 0
  if !isSpaceOrEnd ch then
    fail ctx (some start) ("expected chomping or indentation indicators, but found " ++ shown ch)
  return (chomping, increment)

/-- The rest of the header line of a block scalar: spaces and a comment, then a break. -/
def blockHeaderEnd (start : Mark) : LexM Unit := do
  modify (Lexer.skipWhile (·.peekAt 0 == ' '))
  if (← peek 0) == '#' then modify (Lexer.skipWhile (fun l => !isBreakOrEnd (l.peekAt 0)))
  let ch ← peek 0
  if !isBreakOrEnd ch then
    fail (some "while scanning a block scalar") (some start)
      ("expected a comment or a line break, but found " ++ shown ch)
  let _ ← lineBreak

/-- The blank lines before the first line of a block scalar, the deepest column their
spaces reach, and the mark after the last break. -/
def blockIndentation : Nat → Array String → Nat → Mark → LexM (Array String × Nat × Mark)
  | 0, chunks, deepest, stop => pure (chunks, deepest, stop)
  | fuel + 1, chunks, deepest, stop => do
    let ch ← peek 0
    if ch == ' ' then
      forward 1
      blockIndentation fuel chunks (max deepest (← get).column) stop
    else if isBreak ch then
      let b ← lineBreak
      blockIndentation fuel (chunks.push b) deepest (← here)
    else return (chunks, deepest, stop)

/-- Moves past the indentation of a block scalar's line, up to `indent` spaces. -/
def skipIndentation (indent : Int) : LexM Unit :=
  modify (Lexer.skipWhile (fun l => (l.column : Int) < indent && l.peekAt 0 == ' '))

def blockBreaksFrom (indent : Int) : Nat → Array String → Mark → LexM (Array String × Mark)
  | 0, chunks, stop => pure (chunks, stop)
  | fuel + 1, chunks, stop => do
    if isBreak (← peek 0) then
      let b ← lineBreak
      let stop ← here
      skipIndentation indent
      blockBreaksFrom indent fuel (chunks.push b) stop
    else return (chunks, stop)

/-- The indentation of the current line and the blank lines after it. -/
def blockBreaks (indent : Int) : LexM (Array String × Mark) := do
  let stop ← here
  skipIndentation indent
  blockBreaksFrom indent (← budget) #[] stop

/-- The lines of a block scalar at `indent`. Folding joins two lines that start with no
blank by a space, or by the blank lines between them. Returns the text so far, the last
line break, the blank lines after it and the end mark. -/
def blockLines (folded : Bool) (indent : Int) : Nat → Array String → Array String → String →
    Mark → LexM (Array String × String × Array String × Mark)
  | 0, chunks, breaks, last, stop => pure (chunks, last, breaks, stop)
  | fuel + 1, chunks, breaks, last, stop => do
    let l ← get
    if !((l.column : Int) == indent && l.peekAt 0 != '\x00') then
      return (chunks, last, breaks, stop)
    let leadingNonSpace := l.peekAt 0 != ' ' && l.peekAt 0 != '\t'
    let length := l.countWhile (fun c => !isBreakOrEnd c)
    let chunks := (chunks ++ breaks).push (l.ahead length)
    forward length
    let br ← lineBreak
    let (breaks, stop) ← blockBreaks indent
    let l ← get
    if (l.column : Int) == indent && l.peekAt 0 != '\x00' then
      let chunks := if folded && br == "\n" && leadingNonSpace && l.peekAt 0 != ' ' &&
          l.peekAt 0 != '\t' then (if breaks.isEmpty then chunks.push " " else chunks)
        else chunks.push br
      blockLines folded indent fuel chunks breaks br stop
    else return (chunks, br, breaks, stop)

/-- A literal (`|`) or folded (`>`) block scalar. -/
def blockScalar (folded : Bool) : LexM Token := do
  let start ← here
  forward 1
  let (chomping, increment) ← blockIndicators start
  blockHeaderEnd start
  let minIndent : Int := max ((← get).indent + 1) 1
  let (breaks, indent, stop) ← match increment with
    | none => do
      let (b, deepest, stop) ← blockIndentation (← budget) #[] 0 (← here)
      pure (b, max minIndent (deepest : Int), stop)
    | some inc => do
      let indent := minIndent + inc - 1
      let (b, stop) ← blockBreaks indent
      pure (b, indent, stop)
  let (chunks, last, breaks, stop) ← blockLines folded indent (← budget) #[] breaks "" stop
  let chunks := if chomping != some false then chunks.push last else chunks
  let chunks := if chomping == some true then chunks ++ breaks else chunks
  return ⟨.scalar (String.join chunks.toList) false, start, stop⟩

/-! ## Quoted scalars -/

/-- What a one-character escape of a double-quoted scalar stands for. -/
def escapeFor : Char → Option Char
  | '0' => some '\x00'
  | 'a' => some '\x07'
  | 'b' => some '\x08'
  | 't' => some '\t'
  | '\t' => some '\t'
  | 'n' => some '\n'
  | 'v' => some '\x0b'
  | 'f' => some '\x0c'
  | 'r' => some '\r'
  | 'e' => some '\x1b'
  | ' ' => some ' '
  | '"' => some '"'
  | '\\' => some '\\'
  | '/' => some '/'
  | 'N' => some '\x85'
  | '_' => some '\xa0'
  | 'L' => some '\u2028'
  | 'P' => some '\u2029'
  | _ => none

/-- How many hexadecimal digits follow an escape that gives a code point. -/
def escapeWidth : Char → Option Nat
  | 'x' => some 2
  | 'u' => some 4
  | 'U' => some 8
  | _ => none

/-- The character of a code point; a surrogate, which no text holds, becomes the
replacement character. -/
def codeChar (code : Nat) : Char :=
  if 0xD800 ≤ code ∧ code < 0xE000 then '\uFFFD' else Char.ofNat code

/-- Line breaks inside a quoted scalar, after the first one; a document marker at the
start of such a line is an error. -/
def quotedBreaks (start : Mark) : Nat → Array String → LexM (Array String)
  | 0, chunks => pure chunks
  | fuel + 1, chunks => do
    if (← get).separatorAhead then
      fail (some "while scanning a quoted scalar") (some start) "found unexpected document separator"
    modify (Lexer.skipWhile (fun l => l.peekAt 0 == ' ' || l.peekAt 0 == '\t'))
    if isBreak (← peek 0) then
      let b ← lineBreak
      quotedBreaks start fuel (chunks.push b)
    else return chunks

/-- Stretches of a quoted scalar without blanks, with quotes and escapes decoded. -/
def quotedRun (double : Bool) (start : Mark) : Nat → Array String → LexM (Array String)
  | 0, chunks => pure chunks
  | fuel + 1, chunks => do
    let ctx := some "while scanning a double-quoted scalar"
    let l ← get
    let length := l.countWhile (fun c => !(c == '\'' || c == '"' || c == '\\' || isBlankOrEnd c))
    let chunks := if length > 0 then chunks.push (l.ahead length) else chunks
    forward length
    let ch ← peek 0
    if !double && ch == '\'' && (← peek 1) == '\'' then
      forward 2
      quotedRun double start fuel (chunks.push "'")
    else if (double && ch == '\'') || (!double && (ch == '"' || ch == '\\')) then
      forward 1
      quotedRun double start fuel (chunks.push ch.toString)
    else if double && ch == '\\' then
      forward 1
      let e ← peek 0
      match escapeFor e with
      | some r =>
        forward 1
        quotedRun double start fuel (chunks.push r.toString)
      | none =>
        match escapeWidth e with
        | some n =>
          forward 1
          let l ← get
          match (List.range n).find? (fun k => !isHexDigit (l.peekAt k)) with
          | some k =>
            fail ctx (some start) ("expected escape sequence of " ++ toString n ++
              " hexadecimal numbers, but found " ++ shown (l.peekAt k))
          | none =>
            let code := hexNumber (l.ahead n)
            if code ≥ 0x80000000 then throw .codeOverflow
            if code ≥ 0x110000 then throw (.invalidValue "chr() arg not in range(0x110000)")
            forward n
            quotedRun double start fuel (chunks.push (codeChar code).toString)
        | none =>
          if isBreak e then
            let _ ← lineBreak
            let bs ← quotedBreaks start (← budget) #[]
            quotedRun double start fuel (chunks ++ bs)
          else fail ctx (some start) ("found unknown escape character " ++ shown e)
    else return chunks

/-- Blanks inside a quoted scalar: kept within a line; a line break folds to a space, or to
the blank lines that follow it. -/
def quotedSpaces (start : Mark) : LexM (Array String) := do
  let l ← get
  let length := l.countWhile (fun c => c == ' ' || c == '\t')
  forward length
  let ch ← peek 0
  if ch == '\x00' then
    fail (some "while scanning a quoted scalar") (some start) "found unexpected end of stream"
  else if isBreak ch then
    let br ← lineBreak
    let bs ← quotedBreaks start (← budget) #[]
    let lead := if br != "\n" then #[br] else if bs.isEmpty then #[" "] else #[]
    return lead ++ bs
  else return #[l.ahead length]

/-- The body of a quoted scalar up to its closing quote. -/
def quotedBody (double : Bool) (start : Mark) (quote : Char) : Nat → Array String →
    LexM (Array String)
  | 0, chunks => pure chunks
  | fuel + 1, chunks => do
    if (← peek 0) == quote then return chunks
    let chunks := chunks ++ (← quotedSpaces start)
    let chunks ← quotedRun double start (← budget) chunks
    quotedBody double start quote fuel chunks

def quotedScalar (double : Bool) : LexM Token := do
  let start ← here
  let quote ← peek 0
  forward 1
  let chunks ← quotedRun double start (← budget) #[]
  let chunks ← quotedBody double start quote (← budget) chunks
  forward 1
  return ⟨.scalar (String.join chunks.toList) false, start, ← here⟩

/-! ## Plain scalars -/

/-- Line breaks and spaces after the first break inside a plain scalar; `none` where a
document marker starts a line. -/
def plainBreaks : Nat → Array String → LexM (Option (Array String))
  | 0, bs => pure (some bs)
  | fuel + 1, bs => do
    let ch ← peek 0
    if ch == ' ' then
      forward 1
      plainBreaks fuel bs
    else if isBreak ch then
      let b ← lineBreak
      if (← get).separatorAhead then return none
      plainBreaks fuel (bs.push b)
    else return some bs

/-- The blanks after a stretch of a plain scalar, as they join it to the next stretch;
`none` where a document marker ends the scalar. -/
def plainSpaces : LexM (Option (Array String)) := do
  let l ← get
  let length := l.countWhile (· == ' ')
  forward length
  let ch ← peek 0
  if isBreak ch then
    let br ← lineBreak
    modify fun l => { l with allowKey := true }
    if (← get).separatorAhead then return none
    match ← plainBreaks (← budget) #[] with
    | none => return none
    | some bs =>
      let lead := if br != "\n" then #[br] else if bs.isEmpty then #[" "] else #[]
      return some (lead ++ bs)
  else if length > 0 then return some #[l.ahead length]
  else return some #[]

/-- How long the next stretch of a plain scalar is: it stops at a blank, at a `:` followed
by a blank, and in flow context at a `:` followed by a flow indicator and at `,?[]{}`. -/
def plainLength (l : Lexer) : Nat :=
  let flow := l.flowLevel != 0
  l.firstFrom (fun k =>
    let ch := l.peekAt k
    let next := l.peekAt (k + 1)
    isBlankOrEnd ch || (ch == ':' && (isBlankOrEnd next || (flow && isFlowIndicator next))) ||
      (flow && (ch == '?' || isFlowIndicator ch))) 0

/-- The stretches of a plain scalar and the mark after the last one. -/
def plainStretches (indent : Int) : Nat → Array String → Array String → Mark →
    LexM (Array String × Mark)
  | 0, chunks, _, stop => pure (chunks, stop)
  | fuel + 1, chunks, spaces, stop => do
    if (← peek 0) == '#' then return (chunks, stop)
    let l ← get
    let length := plainLength l
    if length == 0 then return (chunks, stop)
    set { l with allowKey := false }
    let chunks := (chunks ++ spaces).push (l.ahead length)
    forward length
    let stop ← here
    match ← plainSpaces with
    | none => return (chunks, stop)
    | some spaces =>
      let l ← get
      if spaces.isEmpty || l.peekAt 0 == '#' || (l.flowLevel == 0 && (l.column : Int) < indent) then
        return (chunks, stop)
      plainStretches indent fuel chunks spaces stop

/-- A plain scalar: stretches joined across blanks and lines, ending at a comment, at a
line indented no deeper than the current block, or at a document marker. -/
def plainScalar : LexM Token := do
  let start ← here
  let indent := (← get).indent + 1
  let (chunks, stop) ← plainStretches indent (← budget) #[] #[] start
  return ⟨.scalar (String.join chunks.toList) true, start, stop⟩

/-! ## Reading the next tokens -/

def streamEnd : LexM Unit := do
  unwindIndent (-1)
  removeCandidate
  modify fun l => { l with allowKey := false, candidates := [] }
  let m ← here
  push ⟨.streamEnd, m, m⟩
  modify fun l => { l with done := true }

/-- A `---` or `...` marker: all blocks close. -/
def documentMarker (kind : TokenKind) : LexM Unit := do
  unwindIndent (-1)
  removeCandidate
  modify fun l => { l with allowKey := false }
  let start ← here
  forward 3
  push ⟨kind, start, ← here⟩

/-- An opening bracket or brace: it may start a key, and a key may follow it. -/
def flowOpen (kind : TokenKind) : LexM Unit := do
  saveCandidate
  modify fun l => { l with flowLevel := l.flowLevel + 1, allowKey := true }
  let start ← here
  forward 1
  push ⟨kind, start, ← here⟩

def flowClose (kind : TokenKind) : LexM Unit := do
  removeCandidate
  modify fun l => { l with flowLevel := l.flowLevel - 1, allowKey := false }
  let start ← here
  forward 1
  push ⟨kind, start, ← here⟩

/-- A `,` between flow entries. -/
def flowEntry : LexM Unit := do
  modify fun l => { l with allowKey := true }
  removeCandidate
  let start ← here
  forward 1
  push ⟨.flowEntry, start, ← here⟩

/-- A `-` entry of a block sequence, which opens the sequence when it is indented deeper
than the current block. -/
def blockEntry : LexM Unit := do
  let l ← get
  if l.flowLevel == 0 then
    if !l.allowKey then fail none none "sequence entries are not allowed here"
    if ← addIndent l.column then
      let m ← here
      push ⟨.blockSequenceStart, m, m⟩
  modify fun l => { l with allowKey := true }
  removeCandidate
  let start ← here
  forward 1
  push ⟨.blockEntry, start, ← here⟩

/-- A `?` before a key. -/
def keyIndicator : LexM Unit := do
  let l ← get
  if l.flowLevel == 0 then
    if !l.allowKey then fail none none "mapping keys are not allowed here"
    if ← addIndent l.column then
      let m ← here
      push ⟨.blockMappingStart, m, m⟩
  modify fun l => { l with allowKey := l.flowLevel == 0 }
  removeCandidate
  let start ← here
  forward 1
  push ⟨.key, start, ← here⟩

/-- Puts `t` at position `i` of a list, or at its end. -/
def insertAt (xs : List Token) (i : Nat) (t : Token) : List Token := xs.take i ++ t :: xs.drop i

/-- A `:` before a value. When a key candidate stands at this depth, a key token is put in
front of it, and in block context a mapping opens at its column. -/
def valueIndicator : LexM Unit := do
  let l ← get
  match l.candidates.lookup l.flowLevel with
  | some k =>
    let i := k.tokenNumber - l.taken
    set { l with candidates := l.candidates.filter (·.1 != l.flowLevel),
                 tokens := insertAt l.tokens i ⟨.key, k.mark, k.mark⟩ }
    if l.flowLevel == 0 then
      if ← addIndent k.mark.column then
        modify fun l => { l with tokens := insertAt l.tokens i ⟨.blockMappingStart, k.mark, k.mark⟩ }
    modify fun l => { l with allowKey := false }
  | none =>
    if l.flowLevel == 0 then
      if !l.allowKey then fail none none "mapping values are not allowed here"
      if ← addIndent l.column then
        let m ← here
        push ⟨.blockMappingStart, m, m⟩
    modify fun l => { l with allowKey := l.flowLevel == 0 }
    removeCandidate
  let start ← here
  forward 1
  push ⟨.value, start, ← here⟩

def startsPlain (l : Lexer) : Bool :=
  let ch := l.peekAt 0
  let indicator := isBlankOrEnd ch || "-?:,[]#&*!|>'\"%@`".contains ch || ch == '{' || ch == '}'
  !indicator || (!isBlankOrEnd (l.peekAt 1) && (ch == '-' || (l.flowLevel == 0 && (ch == '?' || ch == ':'))))

/-- Whether the next three characters are the marker `marker` at the start of a line,
followed by a blank. -/
def markerAhead (l : Lexer) (marker : String) : Bool :=
  l.column == 0 && l.ahead 3 == marker && isBlankOrEnd (l.peekAt 3)

/-- Reads the next token or tokens, chosen by the next character. A byte order mark at the
start of the text is skipped. -/
def fetchMore : LexM Unit := do
  let l ← get
  if l.pos == 0 && l.peekAt 0 == '\uFEFF' then forward 1
  skipToToken (← budget)
  dropStaleCandidates
  unwindIndent (← get).column
  let l ← get
  let ch := l.peekAt 0
  let flow := l.flowLevel != 0
  let blankNext := isBlankOrEnd (l.peekAt 1)
  if ch == '\x00' then streamEnd
  else if ch == '%' && l.column == 0 then do
    unwindIndent (-1)
    removeCandidate
    modify fun l => { l with allowKey := false }
    push (← directive)
  else if ch == '-' && markerAhead l "---" then documentMarker .documentStart
  else if ch == '.' && markerAhead l "..." then documentMarker .documentEnd
  else if ch == '[' then flowOpen .flowSequenceStart
  else if ch == '{' then flowOpen .flowMappingStart
  else if ch == ']' then flowClose .flowSequenceEnd
  else if ch == '}' then flowClose .flowMappingEnd
  else if ch == ',' then flowEntry
  else if ch == '-' && blankNext then blockEntry
  else if ch == '?' && (flow || blankNext) then keyIndicator
  else if ch == ':' && (flow || blankNext) then valueIndicator
  else if ch == '*' || ch == '&' then do
    saveCandidate
    modify fun l => { l with allowKey := false }
    push (← anchorOrAlias (ch == '*'))
  else if ch == '!' then do
    saveCandidate
    modify fun l => { l with allowKey := false }
    push (← tag)
  else if (ch == '|' || ch == '>') && !flow then do
    modify fun l => { l with allowKey := true }
    removeCandidate
    push (← blockScalar (ch == '>'))
  else if ch == '\'' || ch == '"' then do
    saveCandidate
    modify fun l => { l with allowKey := false }
    push (← quotedScalar (ch == '"'))
  else if startsPlain l then do
    saveCandidate
    modify fun l => { l with allowKey := false }
    push (← plainScalar)
  else
    fail (some "while scanning for the next token") none
      ("found character " ++ shown ch ++ " that cannot start any token")

/-- Whether more tokens must be read before the next one can be handed out: none is
waiting, or the next one may still turn out to follow a key. -/
def needMore : LexM Bool := do
  let l ← get
  if l.done then return false
  if l.tokens.isEmpty then return true
  dropStaleCandidates
  let l ← get
  return firstCandidate l == some l.taken

/-- Reads tokens until the next one can be handed out. -/
def fill : Nat → LexM Unit
  | 0 => pure ()
  | fuel + 1 => do
    if ← needMore then
      fetchMore
      fill fuel

/-- The next token, read as far as needed, without taking it. -/
def peekToken : LexM (Option Token) := do
  fill (2 * (← budget))
  return (← get).tokens.head?

def takeToken : LexM Token := do
  fill (2 * (← budget))
  let l ← get
  match l.tokens with
  | t :: rest =>
    set { l with tokens := rest, taken := l.taken + 1 }
    return t
  | [] => return default

end LexM

end BookLinks.Yaml
