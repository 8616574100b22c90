import BookLinks.Fs.Path
/-! Documents of a book and spans into them. A document is a path relative to the book root
and a text. Lines are separated by line feeds only; a span converts a range of character
offsets into UTF-8 byte offsets, with the 1-based line and column of its start. Offsets out
of range are clamped the way slicing clamps them: a negative offset counts from the end. -/
namespace BookLinks.Book

/-- A byte range of a document with the line and column where it starts. -/
structure Span where
  start : Nat
  stop : Nat
  line : Nat
  column : Int
  deriving Repr, DecidableEq, Inhabited

/-- A slice `[a, b)` of a sequence of `size` items, with negative ends counted from the end
and both ends clamped into range; the result never runs backwards. -/
def sliceRange (size : Nat) (a b : Int) : Nat × Nat :=
  let clamp (i : Int) : Nat :=
    let j := if i < 0 then i + size else i
    if j < 0 then 0 else min j.toNat size
  let lo := clamp a
  (lo, max lo (clamp b))

/-- A document with its line table: the character and byte offsets where its lines start. -/
structure Document where
  path : String
  text : String
  chars : Array Char
  lineStarts : Array Nat
  lineByteStarts : Array Nat
  deriving Inhabited

/-- Character and byte offsets of the starts of the lines of `cs`, from the given offsets. -/
def lineTableFrom : List Char → Nat → Nat → List (Nat × Nat)
  | [], _, _ => []
  | c :: rest, i, b =>
    if c = '\n' then (i + 1, b + 1) :: lineTableFrom rest (i + 1) (b + 1)
    else lineTableFrom rest (i + 1) (b + c.utf8Size)

def Document.make (path text : String) : Document :=
  let cs := text.toList
  let table := (0, 0) :: lineTableFrom cs 0 0
  { path, text, chars := cs.toArray, lineStarts := (table.map Prod.fst).toArray,
    lineByteStarts := (table.map Prod.snd).toArray }

namespace Document

/-- The directory of the document's path, empty for a document at the root. -/
def directory (d : Document) : String :=
  let p := Fs.parent d.path
  if p = "." then "" else p

/-- The 0-based line holding a character offset; offsets before the text are on line 0. -/
def lineOf (d : Document) (offset : Int) : Nat :=
  (d.lineStarts.toList.filter (fun (s : Nat) => (s : Int) ≤ offset)).length - 1

/-- Number of UTF-8 bytes of the characters in `[a, b)`. -/
def bytesBetween (d : Document) (a b : Nat) : Nat :=
  (d.chars.extract a b).toList.foldl (fun n c => n + c.utf8Size) 0

def byteOffset (d : Document) (offset : Int) : Nat :=
  let i := d.lineOf offset
  let ls := d.lineStarts.getD i 0
  let (a, b) := sliceRange d.chars.size ls offset
  d.lineByteStarts.getD i 0 + d.bytesBetween a b

/-- The span of the character range `[s, e)`. -/
def span (d : Document) (s e : Int) : Span :=
  let i := d.lineOf s
  { start := d.byteOffset s, stop := d.byteOffset e, line := i + 1,
    column := s - d.lineStarts.getD i 0 + 1 }

/-- The text of a 1-based line without trailing carriage returns and line feeds, or the
empty text for a line that does not exist. -/
def lineText (d : Document) (n : Int) : String :=
  if n < 1 ∨ n > d.lineStarts.size then ""
  else
    let k := n.toNat
    let start := d.lineStarts.getD (k - 1) 0
    let stop := if k < d.lineStarts.size then d.lineStarts.getD k 0 else d.chars.size
    let piece := (d.chars.extract start stop).toList
    String.ofList (piece.reverse.dropWhile (fun c => c = '\r' ∨ c = '\n')).reverse

/-- The characters in `[a, b)`, clamped into the text. -/
def slice (d : Document) (a b : Nat) : String :=
  String.ofList (d.chars.extract a b).toList

end Document

end BookLinks.Book
