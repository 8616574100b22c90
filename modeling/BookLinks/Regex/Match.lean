import BookLinks.Regex.Parse
import BookLinks.Text.Blank
import BookLinks.Text.Digit
import BookLinks.Text.CaseMap
/-!
# Matching a pattern against a text

A backtracking matcher. A node is matched at a position together with the rest of the
match, given as a continuation from the position reached and the groups captured so far;
alternatives and repetition counts are tried in the order of preference, and the first
continuation that succeeds decides. Every call spends one unit of fuel, and the fuel that
`search` gives bounds every path the matcher can take, so it never runs dry on a match
that exists.
-/
namespace BookLinks.Regex

open BookLinks.Text

/-- The spans of the groups captured so far, by group number. -/
abbrev Captures := List (Nat × (Nat × Nat))

/-- The rest of a match: from a position and captures, the end of the whole match. -/
abbrev Rest := Nat → Captures → Option (Nat × Captures)

/-- Characters that match one another without case under the full mapping, besides those
that share a lower case. -/
def caseVariants : List (Nat × List Nat) := [
  (0x69, [0x131]), (0x73, [0x17f]), (0xb5, [0x3bc]), (0x131, [0x69]), (0x17f, [0x73]),
  (0x345, [0x3b9, 0x1fbe]), (0x390, [0x1fd3]), (0x3b0, [0x1fe3]), (0x3b2, [0x3d0]),
  (0x3b5, [0x3f5]), (0x3b8, [0x3d1]), (0x3b9, [0x345, 0x1fbe]), (0x3ba, [0x3f0]),
  (0x3bc, [0xb5]), (0x3c0, [0x3d6]), (0x3c1, [0x3f1]), (0x3c2, [0x3c3]), (0x3c3, [0x3c2]),
  (0x3c6, [0x3d5]), (0x3d0, [0x3b2]), (0x3d1, [0x3b8]), (0x3d5, [0x3c6]), (0x3d6, [0x3c0]),
  (0x3f0, [0x3ba]), (0x3f1, [0x3c1]), (0x3f5, [0x3b5]), (0x432, [0x1c80]), (0x434, [0x1c81]),
  (0x43e, [0x1c82]), (0x441, [0x1c83]), (0x442, [0x1c84, 0x1c85]), (0x44a, [0x1c86]),
  (0x463, [0x1c87]), (0x1c80, [0x432]), (0x1c81, [0x434]), (0x1c82, [0x43e]),
  (0x1c83, [0x441]), (0x1c84, [0x442, 0x1c85]), (0x1c85, [0x442, 0x1c84]), (0x1c86, [0x44a]),
  (0x1c87, [0x463]), (0x1c88, [0xa64b]), (0x1e61, [0x1e9b]), (0x1e9b, [0x1e61]),
  (0x1fbe, [0x345, 0x3b9]), (0x1fd3, [0x390]), (0x1fe3, [0x3b0]), (0xa64b, [0x1c88]),
  (0xfb05, [0xfb06]), (0xfb06, [0xfb05])]

/-- Lower case of a character: the simple mapping, or ASCII letters only under the ASCII
flag. -/
def lowerUnder (fl : Flags) (c : Char) : Char :=
  if fl.ascii then (if 'A' ≤ c ∧ c ≤ 'Z' then Char.ofNat (c.toNat + 32) else c)
  else simpleLower c

/-- Upper case of a character, when it is one character. -/
def upperUnder (fl : Flags) (c : Char) : Char :=
  if fl.ascii then (if 'a' ≤ c ∧ c ≤ 'z' then Char.ofNat (c.toNat - 32) else c)
  else match upperChar c with
    | [u] => u
    | _ => c

/-- The characters that a character of the text may stand for when case is ignored. -/
def caseForms (fl : Flags) (c : Char) : List Char :=
  if !fl.ignoreCase then [c]
  else
    let lo := lowerUnder fl c
    let extra := if fl.ascii then [] else
      ((caseVariants.lookup lo.toNat).getD []).map Char.ofNat
    [c, lo, upperUnder fl c] ++ extra

/-- Whether the character `c` of the text matches the literal `lit`. -/
def charMatches (fl : Flags) (lit c : Char) : Bool :=
  if !fl.ignoreCase then c == lit
  else
    let lo := lowerUnder fl lit
    lowerUnder fl c == lo ||
      (!fl.ascii && ((caseVariants.lookup lo.toNat).getD []).contains (lowerUnder fl c).toNat)

def isWordChar (fl : Flags) (c : Char) : Bool :=
  if fl.ascii then c.isAlphanum || c == '_' else isAlnum c || c == '_'

def Category.holds (fl : Flags) (c : Char) : Category → Bool
  | .digit => if fl.ascii then c.isDigit else isDecimal c
  | .notDigit => !(if fl.ascii then c.isDigit else isDecimal c)
  | .space => if fl.ascii then c.toNat < 128 && isBlank c else isBlank c
  | .notSpace => !(if fl.ascii then c.toNat < 128 && isBlank c else isBlank c)
  | .word => isWordChar fl c
  | .notWord => !isWordChar fl c

/-- Whether a character is a member of a set item, case aside. -/
def SetItem.holds (fl : Flags) (c : Char) : SetItem → Bool
  | .char d => c == d
  | .range lo hi => lo ≤ c && c ≤ hi
  | .category k => k.holds fl c

/-- Whether a character of the text is in a set, case ignored when the flags say so. -/
def setMatches (fl : Flags) (negated : Bool) (items : List SetItem) (c : Char) : Bool :=
  (caseForms fl c).any (fun d => items.any (·.holds fl d)) != negated

/-- Whether an anchor holds at position `pos` of `input`. -/
def anchorHolds (fl : Flags) (input : Array Char) (pos : Nat) : Anchor → Bool
  | .lineStart => pos == 0 || (fl.multiline && input[pos - 1]? == some '\n')
  | .lineEnd =>
    pos == input.size || (fl.multiline && input[pos]? == some '\n') ||
      (pos + 1 == input.size && input[pos]? == some '\n')
  | .textStart => pos == 0
  | .textEnd => pos == input.size
  | .boundary =>
    input.size != 0 &&
      (pos > 0 && (input[pos - 1]?.map (isWordChar fl)).getD false) !=
        ((input[pos]?.map (isWordChar fl)).getD false)
  | .nonBoundary =>
    input.size != 0 &&
      (pos > 0 && (input[pos - 1]?.map (isWordChar fl)).getD false) ==
        ((input[pos]?.map (isWordChar fl)).getD false)

/-- Whether the text from `pos` repeats the text from `start` to `stop`, case ignored when
the flags say so. -/
def backrefMatches (fl : Flags) (input : Array Char) (start stop pos : Nat) : Bool :=
  pos + (stop - start) ≤ input.size &&
    (List.range (stop - start)).all (fun k =>
      match input[start + k]?, input[pos + k]? with
      | some a, some b => charMatches fl a b
      | _, _ => false)

def Captures.set (caps : Captures) (i start stop : Nat) : Captures :=
  (i, (start, stop)) :: caps.filter (·.1 != i)

mutual

/-- Matches `node` at `pos`, then the rest `k`; `gw` gives the bounds on the length of
each group, which fix how far back a look-behind starts. -/
def matchNode (input : Array Char) (gw : Nat → Nat × Option Nat) : Nat → Flags → Node → Nat → Captures → Rest →
    Option (Nat × Captures)
  | 0, _, _, _, _, _ => none
  | fuel + 1, fl, node, pos, caps, k =>
    match node with
    | .char c =>
      match input[pos]? with
      | some d => if charMatches fl c d then k (pos + 1) caps else none
      | none => none
    | .notChar c =>
      match input[pos]? with
      | some d => if charMatches fl c d then none else k (pos + 1) caps
      | none => none
    | .any =>
      match input[pos]? with
      | some d => if fl.dotAll || d != '\n' then k (pos + 1) caps else none
      | none => none
    | .set negated items =>
      match input[pos]? with
      | some d => if setMatches fl negated items d then k (pos + 1) caps else none
      | none => none
    | .anchor a => if anchorHolds fl input pos a then k pos caps else none
    | .seq nodes =>
      (nodes.foldr (fun n (rest : Rest) => fun p c => matchNode input gw fuel fl n p c rest) k)
        pos caps
    | .alt branches =>
      branches.firstM (fun b => matchNode input gw fuel fl b pos caps k)
    | .rep lo hi .possessive body =>
      match matchRep input gw fuel fl lo hi .greedy body 0 pos caps (fun p c => some (p, c)) with
      | some (p, c) => k p c
      | none => none
    | .rep lo hi greed body => matchRep input gw fuel fl lo hi greed body 0 pos caps k
    | .group none body => matchNode input gw fuel fl body pos caps k
    | .group (some i) body =>
      matchNode input gw fuel fl body pos caps (fun p c => k p (c.set i pos p))
    | .backref i =>
      match caps.lookup i with
      | some (s, e) =>
        if backrefMatches fl input s e pos then k (pos + (e - s)) caps else none
      | none => none
    | .look behind negated body =>
      let w := (body.width gw).1
      let found :=
        if behind then
          if w ≤ pos then
            matchNode input gw fuel fl body (pos - w) caps
              (fun p c => if p == pos then some (p, c) else none)
          else none
        else matchNode input gw fuel fl body pos caps (fun p c => some (p, c))
      match found, negated with
      | some (_, c), false => k pos c
      | none, true => k pos caps
      | _, _ => none
    | .atomic body =>
      match matchNode input gw fuel fl body pos caps (fun p c => some (p, c)) with
      | some (p, c) => k p c
      | none => none
    | .scoped on off body => matchNode input gw fuel ((fl.union on).minus off) body pos caps k
    | .cond i yes no =>
      matchNode input gw fuel fl (if (caps.lookup i).isSome then yes else no) pos caps k

/-- Matches `body` repeated between `lo` and `hi` times, `count` of them already matched,
then the rest `k`. Once the least count is reached, an iteration that matches nothing ends
the repetition. -/
def matchRep (input : Array Char) (gw : Nat → Nat × Option Nat) : Nat → Flags → Nat → Option Nat → Greed → Node → Nat →
    Nat → Captures → Rest → Option (Nat × Captures)
  | 0, _, _, _, _, _, _, _, _, _ => none
  | fuel + 1, fl, lo, hi, greed, body, count, pos, caps, k =>
    let more : Unit → Option (Nat × Captures) := fun _ =>
      if hi.any (· ≤ count) then none
      else matchNode input gw fuel fl body pos caps (fun p c =>
        if p == pos && lo ≤ count then none
        else matchRep input gw fuel fl lo hi greed body (count + 1) p c k)
    if count < lo then more ()
    else match greed with
      | .lazy =>
        match k pos caps with
        | some r => some r
        | none => more ()
      | _ =>
        match more () with
        | some r => some r
        | none => k pos caps

end

/-- The number of nodes of a pattern and the least counts of its repetitions: with the
length of a text, this bounds how deep a match of the pattern can go. -/
def Node.extent : Node → Nat
  | .seq nodes => nodes.attach.foldl (fun acc ⟨n, _⟩ => acc + n.extent) 1
  | .alt nodes => nodes.attach.foldl (fun acc ⟨n, _⟩ => acc + n.extent) 1
  | .rep lo _ _ body => lo + body.extent + 1
  | .group _ body | .atomic body | .scoped _ _ body | .look _ _ body => body.extent + 1
  | .cond _ yes no => yes.extent + no.extent + 1
  | _ => 1

/-- Whether the pattern matches the text starting at `start`. -/
def Pattern.matchesAt (p : Pattern) (input : Array Char) (start : Nat) : Bool :=
  let fuel := 4 * (p.root.extent + 2) * (input.size + 2)
  (matchNode input p.groupWidth fuel p.flags p.root start [] (fun q c => some (q, c))).isSome

/-- Whether the pattern matches the text somewhere: at the first position where it can. -/
def Pattern.search (p : Pattern) (text : String) : Bool :=
  let input := text.toList.toArray
  (List.range (input.size + 1)).any (p.matchesAt input)

end BookLinks.Regex
