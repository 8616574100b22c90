import BookLinks.Markdown.Heading
import BookLinks.Text.CaseMap
import BookLinks.Url.Percent
import BookLinks.Outcome
/-! The anchors of a document: one per heading, from a custom `{#id}` at its end or else from
its identifier, numbered `-1`, `-2`, … when an identifier repeats; and the `id` or `name`
attribute of every HTML tag. A fragment names an anchor after percent-decoding; the empty
fragment names the document itself. -/
namespace BookLinks.Markdown

open BookLinks.Text

/-- The custom id of a heading at `{#` position `k`: a run of characters other than blanks
and `}`, then anything but `}` up to a `}` that only spaces and tabs follow. -/
def customIdAt (t : Array Char) (k : Nat) : Option String := do
  guard (spellsFrom t k "\x7b#".toList)
  let idEnd := scanWhile t (fun c => !(isBlank c || c = '\x7d')) (k + 2)
  guard (idEnd > k + 2)
  let close := scanWhile t (· != '\x7d') idEnd
  guard (t[close]? == some '\x7d')
  guard (scanWhile t (fun c => c = ' ' || c = '\t') (close + 1) ≥ t.size)
  pure (String.ofList (sliceChars t (k + 2) idEnd))

/-- The custom id of a heading: the first `{#` that makes one. -/
def customId (raw : String) : Option String :=
  let t := raw.toList.toArray
  (List.range t.size).findSome? (customIdAt t)

/-- Whether a character equals an ASCII lower-case letter when case is ignored. -/
def matchesIgnoringCase (c x : Char) : Bool :=
  simpleLower c == x || (x == 'i' && simpleLower c == 'ı')

/-- Whether the characters from `i` spell the lower-case word `w`, case ignored. -/
def spellsIgnoringCase (t : Array Char) (i : Nat) (w : List Char) : Bool :=
  (List.range w.length).all (fun k =>
    match t[i + k]?, w[k]? with
    | some c, some x => matchesIgnoringCase c x
    | _, _ => false)

/-- Whether a character is an ASCII letter when case is ignored. -/
def isLetterIgnoringCase (c : Char) : Bool :=
  isAsciiLetter c || c = 'İ' || c = 'K' || c = 'ı' || c = 'ſ'

/-- The attribute `id="…"` or `name="…"` that begins with the blank at `j`: its value and
the end of the match. -/
def attributeAt (t : Array Char) (j : Nat) : Option (String × Nat) := do
  let c ← t[j]?
  guard (isBlank c)
  let k ← if spellsIgnoringCase t (j + 1) "id".toList then some (j + 3)
    else if spellsIgnoringCase t (j + 1) "name".toList then some (j + 5) else none
  let eq := scanWhile t isBlank k
  guard (t[eq]? == some '=')
  let q := scanWhile t isBlank (eq + 1)
  guard (t[q]? == some '"' || t[q]? == some '\'')
  let stop := scanWhile t (fun c => c != '"' && c != '\'') (q + 1)
  guard (stop > q + 1 && (t[stop]? == some '"' || t[stop]? == some '\''))
  pure (String.ofList (sliceChars t (q + 1) stop), stop + 1)

/-- The first attribute of the tag whose attributes may begin at `j`, before any `>`. -/
def tagAttributeFrom (t : Array Char) (j : Nat) : Option (String × Nat) :=
  if h : j < t.size then
    match attributeAt t j with
    | some r => some r
    | none => if t[j] = '>' then none else tagAttributeFrom t (j + 1)
  else none
termination_by t.size - j

/-- An HTML anchor at `p`: a tag opening with a letter, then an `id` or `name` attribute. -/
def htmlAnchorAt (t : Array Char) (p : Nat) : Option (String × Nat) := do
  guard (t[p]? == some '<')
  let c ← t[p + 1]?
  guard (isLetterIgnoringCase c)
  tagAttributeFrom t (p + 2)

/-- The HTML anchors of a text from `p` on, left to right without overlap. -/
def htmlAnchorsFrom (t : Array Char) (p : Nat) : List String :=
  if p < t.size then
    match htmlAnchorAt t p with
    | some (id, e) => id :: htmlAnchorsFrom t (max e (p + 1))
    | none => htmlAnchorsFrom t (p + 1)
  else []
termination_by t.size - p

/-- The anchors of the headings `raws`, given how often each identifier was seen. -/
def headingAnchors : List String → List (String × Nat) → List String
  | [], _ => []
  | raw :: rest, seen =>
    match customId raw with
    | some id => id :: headingAnchors rest seen
    | none =>
      let anchor := normalizeId (headingText raw)
      let count := (seen.lookup anchor).getD 0
      let name := if count = 0 then anchor else anchor ++ "-" ++ toString count
      name :: headingAnchors rest ((anchor, count + 1) :: seen)

/-- The anchors of a document text, without repeats, in sorted order. -/
def collectAnchors (text : String) : List String :=
  let all := headingAnchors (headings text) [] ++ htmlAnchorsFrom text.toList.toArray 0
  (all.mergeSort (fun a b => decide (a ≤ b))).eraseDups

/-- Checks that a fragment names one of `anchors`. -/
def checkFragment (fragment : String) (anchors : List String) : Outcome :=
  if fragment.isEmpty then Outcome.valid
  else if anchors.contains (Url.percentDecode fragment) then Outcome.valid
  else Outcome.error "anchor not found"

end BookLinks.Markdown
