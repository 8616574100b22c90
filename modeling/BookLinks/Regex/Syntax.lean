/-! Patterns for matching URLs: their syntax tree, and the errors that a pattern text can
raise. A pattern is a tree of literals, character sets, anchors, sequences, alternatives,
repetitions, groups, back references, look-arounds and scoped flags. -/
namespace BookLinks.Regex

inductive Category where
  | digit
  | notDigit
  | space
  | notSpace
  | word
  | notWord
  deriving Repr, DecidableEq, Inhabited

inductive SetItem where
  | char (c : Char)
  | range (lo hi : Char)
  | category (c : Category)
  deriving Repr, DecidableEq, Inhabited

inductive Anchor where
  /-- `^`: the start, or after any line feed under the multi-line flag. -/
  | lineStart
  /-- `$`: the end or before a final line feed, or before any line feed under the
  multi-line flag. -/
  | lineEnd
  /-- `\A`: the start. -/
  | textStart
  /-- `\Z`: the end. -/
  | textEnd
  /-- `\b`: between a word character and a character that is not one. -/
  | boundary
  /-- `\B`: not at such a place. -/
  | nonBoundary
  deriving Repr, DecidableEq, Inhabited

/-- How a repetition chooses its count: most first, fewest first, or most without giving
any back. -/
inductive Greed where
  | greedy
  | lazy
  | possessive
  deriving Repr, DecidableEq, Inhabited

structure Flags where
  ignoreCase : Bool := false
  multiline : Bool := false
  dotAll : Bool := false
  verbose : Bool := false
  ascii : Bool := false
  unicode : Bool := false
  locale : Bool := false
  template : Bool := false
  deriving Repr, DecidableEq, Inhabited

inductive Node where
  | char (c : Char)
  | notChar (c : Char)
  | any
  | set (negated : Bool) (items : List SetItem)
  | anchor (a : Anchor)
  | seq (nodes : List Node)
  | alt (branches : List Node)
  | rep (min : Nat) (max : Option Nat) (greed : Greed) (body : Node)
  | group (index : Option Nat) (body : Node)
  | backref (index : Nat)
  | look (behind negated : Bool) (body : Node)
  | atomic (body : Node)
  | scoped (on off : Flags) (body : Node)
  | cond (index : Nat) (yes no : Node)
  deriving Repr, Inhabited

/-- The kinds of fault in a pattern text: a fault of its syntax, a repetition count
beyond the largest one that can be counted, or one written with more digits than an integer
is read with. -/
inductive FaultKind where
  | malformed
  | countTooLarge
  | countTooLong (digits : Nat)
  deriving Repr, DecidableEq, Inhabited

/-- Why a pattern text is not a pattern: a description and, where one is known, the
position in the pattern it refers to. -/
structure PatternError where
  message : String
  pos : Option Nat
  kind : FaultKind := .malformed
  deriving Repr, DecidableEq

/-- The text of a pattern error in `pattern`: the description, the position, and line and
column when the pattern has several lines. -/
def PatternError.text (pattern : String) (e : PatternError) : String :=
  match e.pos with
  | none => e.message
  | some p =>
    let base := e.message ++ " at position " ++ toString p
    let cs := pattern.toList
    if cs.contains '\n' then
      let before := cs.take p
      let line := before.count '\n' + 1
      let col := match before.reverse.findIdx? (· = '\n') with
        | some k => k + 1
        | none => p + 1
      base ++ " (line " ++ toString line ++ ", column " ++ toString col ++ ")"
    else base

/-- Bounds on the length of the texts a node matches; `none` is unbounded. A back reference
matches as much as its group, whose bounds `groupWidth` gives. -/
def Node.width (groupWidth : Nat → Nat × Option Nat) : Node → Nat × Option Nat
  | .char _ | .notChar _ | .any | .set _ _ => (1, some 1)
  | .anchor _ | .look _ _ _ => (0, some 0)
  | .seq nodes => nodes.attach.foldl (fun acc ⟨n, _⟩ =>
      let w := n.width groupWidth
      (acc.1 + w.1, match acc.2, w.2 with
        | some a, some b => some (a + b)
        | _, _ => none)) (0, some 0)
  | .alt [] => (0, some 0)
  | .alt (b :: bs) => (b :: bs).attach.foldl (fun acc ⟨n, _⟩ =>
      let w := n.width groupWidth
      (min acc.1 w.1, match acc.2, w.2 with
        | some a, some b => some (max a b)
        | _, _ => none)) (b.width groupWidth)
  | .rep lo hi _ body =>
    let w := body.width groupWidth
    (lo * w.1, match hi, w.2 with
      | some h, some b => some (h * b)
      | _, some 0 => some 0
      | _, _ => none)
  | .group _ body | .atomic body | .scoped _ _ body => body.width groupWidth
  | .backref i => groupWidth i
  | .cond _ yes no =>
    let a := yes.width groupWidth
    let b := no.width groupWidth
    (min a.1 b.1, match a.2, b.2 with
      | some x, some y => some (max x y)
      | _, _ => none)

end BookLinks.Regex
