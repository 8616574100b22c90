import BookLinks.Data.Literal
/-!
# Positions in a YAML text, and the errors that point at them

A mark is a place in the text: its index, and its line and column counted from zero. An
error names what was being read (its context) and what went wrong (its problem), each with
the mark it refers to. The text of a mark quotes the line it stands on, cut to about
seventy characters around it, with a caret under the place.
-/
namespace BookLinks.Yaml

structure Mark where
  index : Nat
  line : Nat
  column : Nat
  deriving Repr, DecidableEq, Inhabited

def isBreak (c : Char) : Bool :=
  c == '\r' || c == '\n' || c == '\x85' || c == '\u2028' || c == '\u2029'

/-- A line end, or the end of the text, which the reader marks with a NUL character. -/
def isBreakOrEnd (c : Char) : Bool := c == '\x00' || isBreak c

/-- A space, a line end or the end of the text. -/
def isSpaceOrEnd (c : Char) : Bool := c == ' ' || isBreakOrEnd c

/-- A space, a tab, a line end or the end of the text. -/
def isBlankOrEnd (c : Char) : Bool := c == '\t' || isSpaceOrEnd c

/-- How many characters of the line of `p` stand before it; at most `limit`. -/
def charsBefore (buf : Array Char) (p limit : Nat) : Nat :=
  ((buf.toList.take p).reverse.takeWhile (fun c => !isBreakOrEnd c)).length |>.min limit

/-- How many characters of the line of `p` stand from it on; at most `limit`. -/
def charsFrom (buf : Array Char) (p limit : Nat) : Nat :=
  ((buf.toList.drop p).takeWhile (fun c => !isBreakOrEnd c)).length |>.min limit

/-- Two lines that show the place of `m` in `buf`: the line indented by four spaces, cut
with `" ... "` where it runs on for 37 characters or more on either side, and a caret below
the place. -/
def Mark.snippet (buf : Array Char) (m : Mark) : String :=
  let p := m.index
  let back := charsBefore buf p 37
  let (head, start) := if back ≥ 37 then (" ... ", p - 32) else ("", p - back)
  let ahead := charsFrom buf p 37
  let (tail, stop) := if ahead ≥ 37 then (" ... ", p + 32) else ("", p + ahead)
  let body := String.ofList (buf.extract start stop).toList
  "    " ++ head ++ body ++ tail ++ "\n" ++
    String.ofList (List.replicate (4 + (p - start) + head.length) ' ') ++ "^"

/-- The text of a mark: where it is, counting lines and columns from one, and its snippet. -/
def Mark.text (buf : Array Char) (m : Mark) : String :=
  "  in \"<unicode string>\", line " ++ toString (m.line + 1) ++ ", column " ++
    toString (m.column + 1) ++ ":\n" ++ m.snippet buf

/-- An error at a place of the text: what was being read, and what went wrong. -/
structure MarkedError where
  context : Option String
  contextMark : Option Mark
  problem : Option String
  problemMark : Option Mark
  deriving Repr, Inhabited

/-- The lines of an error: the context, the context's mark unless the problem has one at
the same line and column, the problem and the problem's mark. -/
def MarkedError.message (buf : Array Char) (e : MarkedError) : String :=
  let contextMark := match e.contextMark with
    | none => []
    | some cm =>
      match e.problem, e.problemMark with
      | some _, some pm => if cm.line == pm.line && cm.column == pm.column then []
          else [cm.text buf]
      | _, _ => [cm.text buf]
  "\n".intercalate (e.context.toList ++ contextMark ++ e.problem.toList ++
    (e.problemMark.map (·.text buf)).toList)

inductive LoadError where
  /-- The text holds a character that may not stand in YAML, at a position. -/
  | unacceptable (code position : Nat)
  /-- The text breaks the rules of YAML at a marked place. -/
  | marked (e : MarkedError)
  /-- A number or date in the text has no value. -/
  | invalidValue (message : String)
  /-- A text tagged as a truth value is none of the words for one. -/
  | unknownWord (word : String)
  /-- A text tagged as a moment has no date in it. -/
  | noDate
  /-- A text tagged as a number is empty. -/
  | emptyNumber
  /-- A mapping stands where a moment's text is read. -/
  | notText
  /-- An escaped code point too large for a machine integer. -/
  | codeOverflow
  /-- Nesting that never ends. -/
  | tooDeep
  deriving Repr, Inhabited

/-- An error of the YAML rules, with context and problem. -/
def LoadError.fail (context : Option String) (contextMark : Option Mark) (problem : String)
    (problemMark : Mark) : LoadError :=
  .marked ⟨context, contextMark, some problem, some problemMark⟩

/-- Whether the error breaks a rule of YAML, rather than giving a scalar no value. -/
def LoadError.isSyntax : LoadError → Bool
  | .unacceptable _ _ | .marked _ => true
  | _ => false

/-- The message of an error in the text `buf`. -/
def LoadError.message (buf : Array Char) : LoadError → String
  | .unacceptable code position =>
    "unacceptable character #x" ++ String.ofList (Data.hexDigits 4 code) ++
      ": special characters are not allowed\n  in \"<unicode string>\", position " ++
      toString position
  | .marked e => e.message buf
  | .invalidValue m => m
  | .unknownWord w => Data.quoted w
  | .noDate => "'NoneType' object has no attribute 'groupdict'"
  | .emptyNumber => "string index out of range"
  | .notText => "expected string or bytes-like object, got 'list'"
  | .codeOverflow => "Python int too large to convert to C int"
  | .tooDeep => "maximum recursion depth exceeded"

end BookLinks.Yaml
