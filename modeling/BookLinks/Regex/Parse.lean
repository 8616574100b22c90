import BookLinks.Regex.Syntax
import BookLinks.Text.Alnum
import BookLinks.Data.Literal
import BookLinks.Decimal.Read
/-! Reading a pattern text into its syntax tree. The text is read as a stream of tokens, a
token being one character or a backslash with the character after it; each error names the
position where it was found. Groups are numbered from 1 in the order their parentheses
open. -/
namespace BookLinks.Regex

open BookLinks.Text

/-- A token of a pattern: a plain character, or an escape `\c`. -/
inductive Tok where
  | plain (c : Char)
  | esc (c : Char)
  deriving Repr, DecidableEq, Inhabited

def Tok.text : Tok → String
  | .plain c => String.ofList [c]
  | .esc c => String.ofList ['\\', c]

def maxRepeat : Nat := 4294967295

def maxGroups : Nat := 1073741823

def Tok.size : Tok → Nat
  | .plain _ => 1
  | .esc _ => 2

structure ReadState where
  flags : Flags := {}
  groups : Nat := 1
  closed : List (Nat × (Nat × Option Nat)) := []
  names : List (String × Nat) := []
  lookbehindFrom : Option Nat := none
  condRefs : List (Nat × Nat) := []
  deriving Inhabited

/-- The bounds on the length of what a closed group matches. -/
def ReadState.groupWidth (st : ReadState) (i : Nat) : Nat × Option Nat :=
  (st.closed.lookup i).getD (0, none)

abbrev Src := Array Char

/-- The token at `i`, if any. -/
def tokenAt (src : Src) (i : Nat) : Option Tok :=
  match src[i]? with
  | none => none
  | some '\\' => (src[i + 1]?).map Tok.esc
  | some c => some (.plain c)

/-- An error at position `p`. -/
def errAt (msg : String) (p : Nat) : PatternError := ⟨msg, some p, .malformed⟩

/-- Inside a look-behind, a reference to group `gid`, ending at `k`, must name a closed group
opened before the look-behind. -/
def ReadState.checkLookbehindRef (st : ReadState) (gid k : Nat) : Except PatternError Unit :=
  match st.lookbehindFrom with
  | none => .ok ()
  | some from_ =>
    if !(gid < st.groups && st.closed.any (·.1 == gid)) then
      .error (errAt "cannot refer to an open group" k)
    else if gid ≥ from_ then
      .error (errAt "cannot refer to group defined in the same lookbehind subpattern" k)
    else .ok ()

/-- Checks the token that starts at `j`: a backslash at the very end escapes nothing. -/
def checkToken (src : Src) (j : Nat) : Except PatternError Nat :=
  if src[j]? = some '\\' ∧ j + 1 = src.size then
    .error (errAt "bad escape (end of pattern)" (src.size - 1))
  else .ok j

/-- The position after the token at `i`, the token there checked. -/
def advance (src : Src) (i : Nat) : Except PatternError Nat :=
  match tokenAt src i with
  | some t => checkToken src (i + t.size)
  | none => .ok i

/-- Consumes the token at `i` when it is the plain character `c`. -/
def accept (src : Src) (i : Nat) (c : Char) : Except PatternError (Option Nat) :=
  if tokenAt src i = some (.plain c) then (advance src i).map some else .ok none

/-- Reads up to `n` plain characters satisfying `p`. -/
def takeChars (src : Src) (i : Nat) (p : Char → Bool) : Nat → Except PatternError (List Char × Nat)
  | 0 => .ok ([], i)
  | n + 1 =>
    match tokenAt src i with
    | some (.plain c) =>
      if p c then do
        let j ← advance src i
        let (rest, k) ← takeChars src j p n
        pure (c :: rest, k)
      else .ok ([], i)
    | _ => .ok ([], i)

def isHexChar (c : Char) : Bool := c.isDigit || ('a' ≤ c && c ≤ 'f') || ('A' ≤ c && c ≤ 'F')

def isOctChar (c : Char) : Bool := '0' ≤ c && c ≤ '7'

def digitsIn (base : Nat) (cs : List Char) : Nat :=
  cs.foldl (fun n c =>
    let d := if c.isDigit then c.toNat - '0'.toNat
      else if 'a' ≤ c ∧ c ≤ 'f' then c.toNat - 'a'.toNat + 10
      else c.toNat - 'A'.toNat + 10
    n * base + d) 0

/-- A repetition count: its decimal digits read as an integer, which fails for more digits than
an integer is read with, and then kept below `maxRepeat`. -/
def readCount (ds : List Char) : Except PatternError Nat :=
  if ds.length > Decimal.maxIntDigits then
    .error ⟨Decimal.tooManyDigitsMessage ds.length, none, .countTooLong ds.length⟩
  else if digitsIn 10 ds ≥ maxRepeat then
    .error ⟨"the repetition number is too large", none, .countTooLarge⟩
  else .ok (digitsIn 10 ds)

/-- The literal of a code point, if it is a character. -/
def codeChar? (n : Nat) : Option Char :=
  if n < 0x110000 ∧ ¬(0xD800 ≤ n ∧ n ≤ 0xDFFF) then some (Char.ofNat n)
  else if 0xD800 ≤ n ∧ n ≤ 0xDFFF then some '�' else none

inductive Escaped where
  | lit (c : Char)
  | cat (c : Category)
  | anchor (a : Anchor)
  | backref (n : Nat)

/-- The quoted form of a group name in messages. -/
def quotedName (s : String) : String := BookLinks.Data.quoted s

/-- Reads a name up to `terminator`, as a group name. -/
def readName (src : Src) (terminator : Char) (what : String) (acc : String) (i : Nat) :
    Nat → Except PatternError (String × Nat)
  | 0 => .error (errAt ("missing " ++ what) i)
  | fuel + 1 => do
    match tokenAt src i with
    | none =>
      if acc.isEmpty then throw (errAt ("missing " ++ what) i)
      throw (errAt ("missing " ++ String.ofList [terminator] ++ ", unterminated name")
        (i - acc.length))
    | some t =>
      let j ← advance src i
      if t = .plain terminator then
        if acc.isEmpty then throw (errAt ("missing " ++ what) (j - 1))
        return (acc, j)
      readName src terminator what (acc ++ t.text) j fuel

/-- A named character escape, whose name this library does not know: it reads the name in
braces after `\N`, from `i`, and reports it. -/
def namedEscape (src : Src) (i : Nat) : Except PatternError (Char × Nat) := do
  let some k := ← accept src i '{' | throw (errAt "missing \x7b" i)
  let (name, k) ← readName src '}' "character name" "" k (src.size + 1)
  throw (errAt ("undefined character name " ++ quotedName name) (k - name.length - 4))

/-- Hexadecimal escapes `\xhh`, `\uhhhh`, `\Uhhhhhhhh`: the character and where reading goes
on, given the position `i` after the escape's letter. -/
def hexEscape (src : Src) (letter : Char) (digits : Nat) (i : Nat) :
    Except PatternError (Char × Nat) := do
  let (ds, j) ← takeChars src i isHexChar digits
  let text := "\\" ++ String.ofList [letter] ++ String.ofList ds
  if ds.length ≠ digits then throw (errAt ("incomplete escape " ++ text) (j - text.length))
  match codeChar? (digitsIn 16 ds) with
  | some c => pure (c, j)
  | none => throw (errAt ("bad escape " ++ text) (j - text.length))

def controlEscape? : Char → Option Char
  | 'a' => some '\x07'
  | 'f' => some '\x0c'
  | 'n' => some '\n'
  | 'r' => some '\r'
  | 't' => some '\t'
  | 'v' => some '\x0b'
  | '\\' => some '\\'
  | _ => none

def categoryEscape? : Char → Option Category
  | 'd' => some .digit
  | 'D' => some .notDigit
  | 's' => some .space
  | 'S' => some .notSpace
  | 'w' => some .word
  | 'W' => some .notWord
  | _ => none

def isAsciiLetterChar (c : Char) : Bool := ('a' ≤ c && c ≤ 'z') || ('A' ≤ c && c ≤ 'Z')

/-- An escape inside a character set, whose letter is `c` and which ends before `i`. -/
def setEscape (src : Src) (c : Char) (i : Nat) : Except PatternError (Escaped × Nat) := do
  if c = 'b' then return (.lit '\x08', i)
  if let some l := controlEscape? c then return (.lit l, i)
  if let some k := categoryEscape? c then return (.cat k, i)
  if c = 'x' then let (ch, j) ← hexEscape src c 2 i; return (.lit ch, j)
  if c = 'u' then let (ch, j) ← hexEscape src c 4 i; return (.lit ch, j)
  if c = 'U' then let (ch, j) ← hexEscape src c 8 i; return (.lit ch, j)
  if c = 'N' then let (ch, j) ← namedEscape src i; return (.lit ch, j)
  if isOctChar c then
    let (ds, j) ← takeChars src i isOctChar 2
    let v := digitsIn 8 (c :: ds)
    let text := "\\" ++ String.ofList (c :: ds)
    if v > 0o377 then
      throw (errAt ("octal escape value " ++ text ++ " outside of range 0-0o377") (j - text.length))
    return (.lit (Char.ofNat v), j)
  if c.isDigit || isAsciiLetterChar c then
    throw (errAt ("bad escape \\" ++ String.ofList [c]) (i - 2))
  return (.lit c, i)

/-- An escape outside a character set, whose letter is `c` and which ends before `i`. -/
def plainEscape (src : Src) (st : ReadState) (c : Char) (i : Nat) :
    Except PatternError (Escaped × Nat) := do
  match c with
  | 'A' => return (.anchor .textStart, i)
  | 'Z' => return (.anchor .textEnd, i)
  | 'b' => return (.anchor .boundary, i)
  | 'B' => return (.anchor .nonBoundary, i)
  | _ => pure ()
  if let some k := categoryEscape? c then return (.cat k, i)
  if let some l := controlEscape? c then return (.lit l, i)
  if c = 'x' then let (ch, j) ← hexEscape src c 2 i; return (.lit ch, j)
  if c = 'u' then let (ch, j) ← hexEscape src c 4 i; return (.lit ch, j)
  if c = 'U' then let (ch, j) ← hexEscape src c 8 i; return (.lit ch, j)
  if c = 'N' then let (ch, j) ← namedEscape src i; return (.lit ch, j)
  if c = '0' then
    let (ds, j) ← takeChars src i isOctChar 2
    return (.lit (Char.ofNat (digitsIn 8 ds)), j)
  if c.isDigit then
    -- an octal escape of three digits, or a group reference
    let (more, j) ← takeChars src i Char.isDigit 1
    let (third, k) ← if isOctChar c ∧ more.all isOctChar ∧ more.length = 1 then
        takeChars src j isOctChar 1
      else pure ([], j)
    if third.length = 1 then
      let ds := c :: more ++ third
      let v := digitsIn 8 ds
      let text := "\\" ++ String.ofList ds
      if v > 0o377 then
        throw (errAt ("octal escape value " ++ text ++ " outside of range 0-0o377")
          (k - text.length))
      return (.lit (Char.ofNat v), k)
    let n := digitsIn 10 (c :: more)
    let text := "\\" ++ String.ofList (c :: more)
    if n < st.groups then
      if !(st.closed.any (·.1 == n)) then
        throw (errAt "cannot refer to an open group" (j - text.length))
      st.checkLookbehindRef n j
      return (.backref n, j)
    throw (errAt ("invalid group reference " ++ toString n) (j - text.length + 1))
  if isAsciiLetterChar c then
    throw (errAt ("bad escape \\" ++ String.ofList [c]) (i - 2))
  return (.lit c, i)

def Escaped.node : Escaped → Node
  | .lit c => .char c
  | .cat k => .set false [.category k]
  | .anchor a => .anchor a
  | .backref n => .backref n

/-- Reads the rest of a character set after `[`, which is at `here`. -/
def readSet (src : Src) (here : Nat) (items : List SetItem) (i : Nat) :
    Nat → Except PatternError (List SetItem × Nat)
  | 0 => .error (errAt "unterminated character set" here)
  | fuel + 1 => do
    let some this := tokenAt src i | throw (errAt "unterminated character set" here)
    let j ← advance src i
    if this = .plain ']' ∧ !items.isEmpty then return (items, j)
    let (code1, j) ← match this with
      | .esc c => setEscape src c j
      | .plain c => pure (Escaped.lit c, j)
    match ← accept src j '-' with
    | some k =>
      let some that := tokenAt src k | throw (errAt "unterminated character set" here)
      let k' ← advance src k
      if that = .plain ']' then
        let first := match code1 with
          | .cat c => SetItem.category c
          | .lit c => .char c
          | _ => .char ' '
        return (items ++ [first, .char '-'], k')
      let (code2, k'') ← match that with
        | .esc c => setEscape src c k'
        | .plain c => pure (Escaped.lit c, k')
      let rangeErr := errAt ("bad character range " ++ this.text ++ "-" ++ that.text)
        (k'' - (this.text.length + 1 + that.text.length))
      match code1, code2 with
      | .lit lo, .lit hi =>
        if hi < lo then throw rangeErr
        readSet src here (items ++ [.range lo hi]) k'' fuel
      | _, _ => throw rangeErr
    | none =>
      let item := match code1 with
        | .cat c => SetItem.category c
        | .lit c => .char c
        | _ => .char ' '
      readSet src here (items ++ [item]) j fuel

/-- Whether a text is an identifier: a letter or `_`, then letters, digits and `_`. -/
def isIdentifier (s : String) : Bool :=
  match s.toList with
  | c :: rest => (c = '_' || (isAlnum c && !c.isDigit)) && rest.all (fun d => d = '_' || isAlnum d)
  | [] => false

def flagOf? : Char → Option (Flags → Flags)
  | 'i' => some (fun f => { f with ignoreCase := true })
  | 'm' => some (fun f => { f with multiline := true })
  | 's' => some (fun f => { f with dotAll := true })
  | 'x' => some (fun f => { f with verbose := true })
  | 'a' => some (fun f => { f with ascii := true })
  | 'u' => some (fun f => { f with unicode := true })
  | 'L' => some (fun f => { f with locale := true })
  | 't' => some (fun f => { f with template := true })
  | _ => none

def Flags.overlap (a b : Flags) : Bool :=
  (a.ignoreCase && b.ignoreCase) || (a.multiline && b.multiline) || (a.dotAll && b.dotAll) ||
  (a.verbose && b.verbose) || (a.ascii && b.ascii) || (a.unicode && b.unicode) ||
  (a.locale && b.locale) || (a.template && b.template)

def Flags.union (a b : Flags) : Flags :=
  ⟨a.ignoreCase || b.ignoreCase, a.multiline || b.multiline, a.dotAll || b.dotAll,
   a.verbose || b.verbose, a.ascii || b.ascii, a.unicode || b.unicode, a.locale || b.locale,
   a.template || b.template⟩

/-- Flags of the first without those of the second. -/
def Flags.minus (a b : Flags) : Flags :=
  ⟨a.ignoreCase && !b.ignoreCase, a.multiline && !b.multiline, a.dotAll && !b.dotAll,
   a.verbose && !b.verbose, a.ascii && !b.ascii, a.unicode && !b.unicode, a.locale && !b.locale,
   a.template && !b.template⟩

/-- Reads the letters of flags to turn on, the first of them `c` already read, up to `)`,
`-` or `:`: the flags and the character that ended them. -/
def readOnFlags (src : Src) (on : Flags) (c : Char) (i : Nat) :
    Nat → Except PatternError (Flags × Char × Nat)
  | 0 => .error (errAt "missing -, : or )" i)
  | fuel + 1 => do
    let some set := flagOf? c | throw (errAt "unknown flag" i)
    if c = 'L' then throw (errAt "bad inline flags: cannot use 'L' flag with a str pattern" i)
    let on := set on
    if on.ascii && on.unicode then
      throw (errAt "bad inline flags: flags 'a', 'u' and 'L' are incompatible" i)
    let some t := tokenAt src i | throw (errAt "missing -, : or )" i)
    let j ← advance src i
    match t with
    | .plain d =>
      if d = ')' ∨ d = '-' ∨ d = ':' then return (on, d, j)
      if (flagOf? d).isNone then
        throw (errAt (if d.isAlpha then "unknown flag" else "missing -, : or )") (j - 1))
      readOnFlags src on d j fuel
    | .esc _ => throw (errAt "missing -, : or )" (j - 2))

/-- Reads the letters of flags to turn off, the first of them `c` already read, up to `:`. -/
def readOffFlags (src : Src) (off : Flags) (c : Char) (i : Nat) :
    Nat → Except PatternError (Flags × Nat)
  | 0 => .error (errAt "missing :" i)
  | fuel + 1 => do
    if c = 'a' ∨ c = 'u' ∨ c = 'L' then
      throw (errAt "bad inline flags: cannot turn off flags 'a', 'u' and 'L'" i)
    let some set := flagOf? c | throw (errAt "unknown flag" i)
    let off := set off
    let some t := tokenAt src i | throw (errAt "missing :" i)
    let j ← advance src i
    match t with
    | .plain d =>
      if d = ':' then return (off, j)
      if (flagOf? d).isNone then
        throw (errAt (if d.isAlpha then "unknown flag" else "missing :") (j - 1))
      readOffFlags src off d j fuel
    | .esc _ => throw (errAt "missing :" (j - 2))

/-- Reads inline flags whose first character `c` is already read: flags to turn on, to turn
off, whether they apply to the whole pattern, and where reading goes on. -/
def readFlags (src : Src) (c : Char) (i : Nat) (fuel : Nat) :
    Except PatternError (Flags × Flags × Bool × Nat) := do
  let (on, ch, j) ← if c = '-' then pure (({} : Flags), '-', i)
    else readOnFlags src {} c i fuel
  if ch = ')' then return (on, {}, true, j)
  if on.template then throw (errAt "bad inline flags: cannot turn on global flag" (j - 1))
  if ch = ':' then return (on, {}, false, j)
  let some t := tokenAt src j | throw (errAt "missing flag" j)
  let k ← advance src j
  match t with
  | .plain d =>
    if (flagOf? d).isNone then
      throw (errAt (if d.isAlpha then "unknown flag" else "missing flag") (k - 1))
    let (off, k) ← readOffFlags src {} d k fuel
    if off.template then throw (errAt "bad inline flags: cannot turn off global flag" (k - 1))
    if on.overlap off then throw (errAt "bad inline flags: flag turned on and off" (k - 1))
    return (on, off, false, k)
  | .esc _ => throw (errAt "missing flag" (k - 2))

def isVerboseSpace (c : Char) : Bool :=
  c = ' ' || c = '\t' || c = '\n' || c = '\r' || c = '\x0b' || c = '\x0c'

/-- Skips a verbose comment up to the end of its line. -/
def skipComment (src : Src) (i : Nat) : Nat → Except PatternError Nat
  | 0 => .ok i
  | fuel + 1 =>
    match tokenAt src i with
    | none => .ok i
    | some t => do
      let j ← advance src i
      if t = .plain '\n' then pure j else skipComment src j fuel

/-- Skips a comment group up to its `)`; `start` is where the group opened. -/
def skipGroupComment (src : Src) (start : Nat) (k : Nat) : Nat → Except PatternError Nat
  | 0 => .error (errAt "missing ), unterminated comment" start)
  | fuel + 1 => do
    let some t := tokenAt src k | throw (errAt "missing ), unterminated comment" start)
    let k' ← advance src k
    if t = .plain ')' then pure k' else skipGroupComment src start k' fuel

def Node.isRepeat : Node → Bool
  | .rep _ _ _ _ => true
  | _ => false

def Node.isAnchor : Node → Bool
  | .anchor _ => true
  | _ => false

/-- The body that a repetition of `n` repeats: a plain group is opened up. -/
def Node.repeatBody : Node → Node
  | .group none body => body
  | n => n

mutual

/-- Reads alternatives separated by `|` from `i`. -/
def readAlternatives (src : Src) (st : ReadState) (verbose : Bool) (nested : Nat) (i : Nat) :
    Nat → Except PatternError (Node × ReadState × Nat)
  | 0 => .error (errAt "pattern too deeply nested" i)
  | fuel + 1 => do
    let (first, st, j) ← readSequence src st verbose (nested + 1) (nested == 0) [] i fuel
    readMoreAlternatives src nested st verbose [first] j fuel
termination_by structural f => f

/-- Reads further alternatives, each after a `|`, joining them to `acc`. -/
def readMoreAlternatives (src : Src) (nested : Nat) (st : ReadState) (verbose : Bool)
    (acc : List Node) (j : Nat) : Nat → Except PatternError (Node × ReadState × Nat)
  | 0 => .error (errAt "pattern too deeply nested" j)
  | fuel + 1 => do
    match ← accept src j '|' with
    | none => return (if acc.length = 1 then acc.headD (.seq []) else .alt acc, st, j)
    | some k =>
      let verbose := if nested == 0 then st.flags.verbose else verbose
      let (item, st, k) ← readSequence src st verbose (nested + 1) false [] k fuel
      readMoreAlternatives src nested st verbose (acc ++ [item]) k fuel
termination_by structural f => f

/-- Reads the items of a sequence from `i` up to `|`, `)` or the end. -/
def readSequence (src : Src) (st : ReadState) (verbose : Bool) (nested : Nat) (first : Bool)
    (items : List Node) (i : Nat) : Nat → Except PatternError (Node × ReadState × Nat)
  | 0 => .error (errAt "pattern too deeply nested" i)
  | fuel + 1 => do
    let some this := tokenAt src i | return (.seq items, st, i)
    if this = .plain '|' ∨ this = .plain ')' then return (.seq items, st, i)
    let j ← advance src i
    let continue_ (st : ReadState) (items : List Node) (k : Nat) :=
      readSequence src st verbose nested first items k fuel
    if verbose then
      if let .plain c := this then
        if isVerboseSpace c then return ← continue_ st items j
        if c = '#' then return ← continue_ st items (← skipComment src j (src.size + 1))
    match this with
    | .esc c =>
      let (e, k) ← plainEscape src st c j
      continue_ st (items ++ [e.node]) k
    | .plain c =>
      if c = '[' then
        let negated ← accept src j '^'
        let (set, k) ← readSet src i [] (negated.getD j) (src.size + 1)
        let node := match set, negated.isSome with
          | [.char ch], false => Node.char ch
          | [.char ch], true => Node.notChar ch
          | s, neg => Node.set neg s
        continue_ st (items ++ [node]) k
      else if c = '?' ∨ c = '*' ∨ c = '+' ∨ c = '{' then
        let here := j
        let bounds : Option (Nat × Option Nat × Nat) ← do
          if c = '?' then pure (some (0, some 1, j))
          else if c = '*' then pure (some (0, none, j))
          else if c = '+' then pure (some (1, none, j))
          else if tokenAt src j = some (.plain '}') then pure none
          else
            let (lo, k) ← takeChars src j Char.isDigit (src.size + 1)
            let (hi, k, comma) ← match ← accept src k ',' with
              | some k' => do
                let (hi, k'') ← takeChars src k' Char.isDigit (src.size + 1)
                pure (hi, k'', true)
              | none => pure (lo, k, false)
            match ← accept src k '}' with
            | none => pure none
            | some k' =>
              let _ := comma
              let lo' ← if lo.isEmpty then pure 0 else readCount lo
              let hi' ← if hi.isEmpty then pure none else some <$> readCount hi
              if let some h := hi' then
                if h < lo' then throw (errAt "min repeat greater than max repeat" here)
              pure (some (lo', hi', k'))
        match bounds with
        | none => continue_ st (items ++ [.char '{']) here
        | some (lo, hi, k) =>
          let nothing := errAt "nothing to repeat" (here - 1)
          let some last := items.getLast? | throw nothing
          if last.isAnchor then throw nothing
          if last.isRepeat then throw (errAt "multiple repeat" (here - 1))
          let body := last.repeatBody
          let (greed, k) ← match ← accept src k '?' with
            | some k' => pure (Greed.lazy, k')
            | none => match ← accept src k '+' with
              | some k' => pure (Greed.possessive, k')
              | none => pure (Greed.greedy, k)
          continue_ st (items.dropLast ++ [.rep lo hi greed body]) k
      else if c = '.' then continue_ st (items ++ [.any]) j
      else if c = '^' then continue_ st (items ++ [.anchor .lineStart]) j
      else if c = '$' then continue_ st (items ++ [.anchor .lineEnd]) j
      else if c = '(' then
        let start := i
        let closeGroup (st : ReadState) (k : Nat) :
            Except PatternError (ReadState × Nat) := do
          let some k' := ← accept src k ')' |
            throw (errAt "missing ), unterminated subpattern" start)
          pure (st, k')
        match ← accept src j '?' with
        | none =>
          let gid := st.groups
          let st := { st with groups := st.groups + 1 }
          let (body, st, k) ← readAlternatives src st verbose nested j fuel
          let (st, k) ← closeGroup st k
          let st := { st with closed := st.closed ++ [(gid, body.width st.groupWidth)] }
          continue_ st (items ++ [.group (some gid) body]) k
        | some k =>
          let some ch := tokenAt src k | throw (errAt "unexpected end of pattern" k)
          let k ← advance src k
          match ch with
          | .plain 'P' =>
            match ← accept src k '<' with
            | some k =>
              let (name, k) ← readName src '>' "group name" "" k (src.size + 1)
              if !isIdentifier name then
                throw (errAt ("bad character in group name " ++ quotedName name)
                  (k - name.length - 1))
              let gid := st.groups
              if let some old := st.names.lookup name then
                throw (errAt ("redefinition of group name " ++ quotedName name ++ " as group " ++
                  toString gid ++ "; was group " ++ toString old) (k - name.length - 1))
              let st := { st with groups := st.groups + 1, names := st.names ++ [(name, gid)] }
              let (body, st, k) ← readAlternatives src st verbose nested k fuel
              let (st, k) ← closeGroup st k
              let st := { st with closed := st.closed ++ [(gid, body.width st.groupWidth)] }
              continue_ st (items ++ [.group (some gid) body]) k
            | none =>
              match ← accept src k '=' with
              | some k =>
                let (name, k) ← readName src ')' "group name" "" k (src.size + 1)
                if !isIdentifier name then
                  throw (errAt ("bad character in group name " ++ quotedName name)
                    (k - name.length - 1))
                let some gid := st.names.lookup name |
                  throw (errAt ("unknown group name " ++ quotedName name) (k - name.length - 1))
                if !(st.closed.any (·.1 == gid)) then
                  throw (errAt "cannot refer to an open group" (k - name.length - 1))
                st.checkLookbehindRef gid k
                continue_ st (items ++ [.backref gid]) k
              | none =>
                let some t := tokenAt src k | throw (errAt "unexpected end of pattern" k)
                let k' ← advance src k
                throw (errAt ("unknown extension ?P" ++ t.text) (k' - t.text.length - 2))
          | .plain ':' =>
            let (body, st, k) ← readAlternatives src st verbose nested k fuel
            let (st, k) ← closeGroup st k
            continue_ st (items ++ [.group none body]) k
          | .plain '#' =>
            continue_ st items (← skipGroupComment src start k (src.size + 1))
          | .plain '>' =>
            let (body, st, k) ← readAlternatives src st verbose nested k fuel
            let (st, k) ← closeGroup st k
            continue_ st (items ++ [.atomic body]) k
          | .plain '(' =>
            let (name, k) ← readName src ')' "group name" "" k (src.size + 1)
            let gid ← if isIdentifier name then
                match st.names.lookup name with
                | some g => pure g
                | none => throw (errAt ("unknown group name " ++ quotedName name)
                    (k - name.length - 1))
              else
                -- any text that reads as an integer names a group by its number
                match Decimal.readInt name with
                | some g =>
                  if g < 0 then throw (errAt ("bad character in group name " ++ quotedName name)
                    (k - name.length - 1))
                  if g = 0 then throw (errAt "bad group number" (k - name.length - 1))
                  if g ≥ maxGroups then
                    throw (errAt ("invalid group reference " ++ toString g) (k - name.length - 1))
                  pure g.toNat
                | none => throw (errAt ("bad character in group name " ++ quotedName name)
                  (k - name.length - 1))
            let st := { st with condRefs := st.condRefs ++ [(gid, k - name.length - 1)] }
            st.checkLookbehindRef gid k
            let (yes, st, k) ← readSequence src st verbose (nested + 1) false [] k fuel
            let (no, st, k) ← match ← accept src k '|' with
              | some k' =>
                let (no, st, k'') ← readSequence src st verbose (nested + 1) false [] k' fuel
                if tokenAt src k'' = some (.plain '|') then
                  throw (errAt "conditional backref with more than two branches" k'')
                pure (no, st, k'')
              | none => pure (Node.seq [], st, k)
            let (st, k) ← closeGroup st k
            continue_ st (items ++ [.cond gid yes no]) k
          | .plain d =>
            if d = '=' ∨ d = '!' ∨ d = '<' then
              let (behind, negated, k) ← if d = '<' then do
                  let some t := tokenAt src k | throw (errAt "unexpected end of pattern" k)
                  let k' ← advance src k
                  if t = .plain '=' then pure (true, false, k')
                  else if t = .plain '!' then pure (true, true, k')
                  else throw (errAt ("unknown extension ?<" ++ t.text) (k' - t.text.length - 2))
                else pure (false, d = '!', k)
              let outer := st.lookbehindFrom
              let st := if behind ∧ outer.isNone then { st with lookbehindFrom := some st.groups }
                else st
              let (body, st, k) ← readAlternatives src st verbose nested k fuel
              let st := if behind ∧ outer.isNone then { st with lookbehindFrom := none } else st
              let (st, k) ← closeGroup st k
              continue_ st (items ++ [.look behind negated body]) k
            else if (flagOf? d).isSome ∨ d = '-' then
              let (on, off, global, k) ← readFlags src d k (src.size + 1)
              if global then
                if !first ∨ !items.isEmpty then
                  throw (errAt "global flags not at the start of the expression" start)
                let st := { st with flags := st.flags.union on }
                readSequence src st st.flags.verbose nested first items k fuel
              else
                let subVerbose := (verbose || on.verbose) && !off.verbose
                let (body, st, k) ← readAlternatives src st subVerbose nested k fuel
                let (st, k) ← closeGroup st k
                continue_ st (items ++ [.scoped on off body]) k
            else throw (errAt ("unknown extension ?" ++ String.ofList [d]) (k - 2))
          | .esc d => throw (errAt ("unknown extension ?\\" ++ String.ofList [d]) (k - 3))
      else continue_ st (items ++ [.char c]) j
termination_by structural f => f

end

/-- A pattern ready to match: its tree, the flags it applies throughout, and the bounds on
the length of each group. -/
structure Pattern where
  root : Node
  flags : Flags
  widths : List (Nat × (Nat × Option Nat))
  deriving Inhabited

/-- The bounds on the length of what a group of the pattern matches. -/
def Pattern.groupWidth (p : Pattern) (i : Nat) : Nat × Option Nat :=
  (p.widths.lookup i).getD (0, none)

/-- Whether every look-behind in a node has a body of one fixed length. -/
def Node.lookbehindFixed (gw : Nat → Nat × Option Nat) : Node → Bool
  | .look behind _ body =>
    (!behind || (body.width gw).2 == some (body.width gw).1) && body.lookbehindFixed gw
  | .seq nodes | .alt nodes => nodes.attach.all (fun ⟨n, _⟩ => n.lookbehindFixed gw)
  | .rep _ _ _ body | .group _ body | .atomic body | .scoped _ _ body => body.lookbehindFixed gw
  | .cond _ yes no => yes.lookbehindFixed gw && no.lookbehindFixed gw
  | _ => true

/-- Reads a pattern text: the pattern, or the first fault in it. -/
def compile (text : String) : Except PatternError Pattern := do
  let src := text.toList.toArray
  let i ← checkToken src 0
  let (root, st, j) ← readAlternatives src {} false 0 i (4 * src.size + 4)
  if j < src.size then throw (errAt "unbalanced parenthesis" j)
  for (g, p) in st.condRefs do
    if g ≥ st.groups then throw (errAt ("invalid group reference " ++ toString g) p)
  if !root.lookbehindFixed st.groupWidth then
    throw ⟨"look-behind requires fixed-width pattern", none, .malformed⟩
  return ⟨root, st.flags, st.closed⟩

end BookLinks.Regex
