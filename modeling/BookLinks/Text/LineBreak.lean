/-! Line boundaries in the general sense: besides line feed and carriage return, the
vertical tab, form feed, the file, group and record separators, next line and the line and
paragraph separators end a line, and a carriage return followed by a line feed ends one line.
`splitLines` keeps each line's terminator, so the lines concatenate to the text. -/
namespace BookLinks.Text

/-- Whether `c` ends a line. -/
def isLineBreak (c : Char) : Bool :=
  let n := c.toNat
  (0x0A ≤ n && n ≤ 0x0D) || (0x1C ≤ n && n ≤ 0x1E) || n == 0x85 || n == 0x2028 || n == 0x2029

/-- Lines of `cs` with their terminators, where `acc` holds the current line, reversed. -/
def splitLinesFrom : List Char → List Char → List (List Char)
  | [], acc => if acc.isEmpty then [] else [acc.reverse]
  | '\r' :: '\n' :: rest, acc => ('\n' :: '\r' :: acc).reverse :: splitLinesFrom rest []
  | c :: rest, acc =>
    if isLineBreak c then (c :: acc).reverse :: splitLinesFrom rest []
    else splitLinesFrom rest (c :: acc)

/-- The lines of a text, each with its terminator; the empty text has no lines. -/
def splitLines (cs : List Char) : List (List Char) := splitLinesFrom cs []

def lineBody (line : List Char) : List Char :=
  match line.reverse with
  | '\n' :: '\r' :: rest => rest.reverse
  | c :: rest => if isLineBreak c then rest.reverse else line
  | [] => []

theorem flatten_splitLinesFrom (cs acc : List Char) :
    (splitLinesFrom cs acc).flatten = acc.reverse ++ cs := by
  induction cs, acc using splitLinesFrom.induct with
  | case1 acc h => simp_all [splitLinesFrom]
  | case2 acc h => simp_all [splitLinesFrom]
  | case3 rest acc ih => simp [splitLinesFrom, ih]
  | case4 c rest acc h hb ih =>
    rw [splitLinesFrom.eq_3 _ _ _ h]
    simp [hb, ih]
  | case5 c rest acc h hb ih =>
    rw [splitLinesFrom.eq_3 _ _ _ h]
    simp [hb, ih]

theorem flatten_splitLines (cs : List Char) : (splitLines cs).flatten = cs := by
  simp [splitLines, flatten_splitLinesFrom]

end BookLinks.Text
