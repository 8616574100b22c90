import BookLinks.Book.Document
import BookLinks.Text.Utf8
import BookLinks.Text.Blank
import Mathlib.Data.List.Induction
/-!
# Spans and lines of a document

A document keeps a table of where its lines start, in characters and in UTF-8 bytes, and
reads a span off the line of its start. The table gives what counting from the start of the
text gives: the byte offset of a character offset is the size of the UTF-8 form of the text
before it, its line is one more than the line feeds before it, and its column counts from
the last line feed before it. The text of a line is the piece of the text between two line
feeds, without the carriage returns that end it.
-/
namespace BookLinks.Book

open BookLinks.Text

/-- The position of the last `c` in `cs`, or `-1` when `c` does not occur. -/
def lastIndexOf (c : Char) (cs : List Char) : Int :=
  match cs.reverse.findIdx? (· = c) with
  | some k => ((cs.length - 1 - k : Nat) : Int)
  | none => -1

/-! ### Sizes in bytes -/

@[simp] theorem encodeUtf8_nil : encodeUtf8 [] = [] := rfl

@[simp] theorem length_encodeUtf8_append (l₁ l₂ : List Char) :
    (encodeUtf8 (l₁ ++ l₂)).length = (encodeUtf8 l₁).length + (encodeUtf8 l₂).length := by
  simp [encodeUtf8]

@[simp] theorem length_encodeUtf8_cons (c : Char) (l : List Char) :
    (encodeUtf8 (c :: l)).length = c.utf8Size + (encodeUtf8 l).length := by
  simp [encodeUtf8]

theorem foldl_utf8Size (l : List Char) (n : Nat) :
    l.foldl (fun n c => n + c.utf8Size) n = n + (encodeUtf8 l).length := by
  induction l generalizing n with
  | nil => simp
  | cons c l ih => rw [List.foldl_cons, ih, length_encodeUtf8_cons]; omega

/-! ### The last line feed -/

theorem lastIndexOf_append_singleton (c d : Char) (l : List Char) :
    lastIndexOf c (l ++ [d]) = if d = c then (l.length : Int) else lastIndexOf c l := by
  unfold lastIndexOf
  rw [List.reverse_append, List.reverse_singleton, List.singleton_append, List.findIdx?_cons]
  by_cases hd : d = c
  · simp [hd]
  · rw [if_neg (by simpa using hd), if_neg hd]
    cases h : l.reverse.findIdx? (· = c) with
    | none => rfl
    | some k =>
      have hk : k < l.length := by
        simpa using (List.findIdx?_eq_some_iff_getElem.1 h).1
      simp only [Option.map_some, List.length_append, List.length_singleton]
      omega

theorem lastIndexOf_bounds (c : Char) (l : List Char) :
    -1 ≤ lastIndexOf c l ∧ lastIndexOf c l + 1 ≤ l.length := by
  induction l using List.reverseRecOn with
  | nil => simp [lastIndexOf]
  | append_singleton l d ih =>
    rw [lastIndexOf_append_singleton, List.length_append, List.length_singleton]
    split <;> omega

/-! ### The line table -/

/-- The offsets where the lines of `l` start. -/
def lineStartsOf (l : List Char) : List Nat := ((0, 0) :: lineTableFrom l 0 0).map Prod.fst

theorem lineTableFrom_cons (c : Char) (l : List Char) (i b : Nat) :
    lineTableFrom (c :: l) i b =
      if c = '\n' then (i + 1, b + 1) :: lineTableFrom l (i + 1) (b + 1)
      else lineTableFrom l (i + 1) (b + c.utf8Size) := rfl

theorem lineTableFrom_shift (l : List Char) (i b j a : Nat) :
    lineTableFrom l (i + j) (b + a) = (lineTableFrom l i b).map (fun p => (p.1 + j, p.2 + a)) := by
  induction l generalizing i b with
  | nil => rfl
  | cons c l ih =>
    unfold lineTableFrom
    split
    · rw [show i + j + 1 = (i + 1) + j by omega, show b + a + 1 = (b + 1) + a by omega, ih]
      rfl
    · rw [show i + j + 1 = (i + 1) + j by omega,
        show b + a + c.utf8Size = (b + c.utf8Size) + a by omega, ih]

theorem lineTableFrom_from (l : List Char) (j a : Nat) :
    lineTableFrom l j a = (lineTableFrom l 0 0).map (fun p => (p.1 + j, p.2 + a)) := by
  simpa using lineTableFrom_shift l 0 0 j a

theorem lineTableFrom_append (l₁ l₂ : List Char) (i b : Nat) :
    lineTableFrom (l₁ ++ l₂) i b =
      lineTableFrom l₁ i b ++ lineTableFrom l₂ (i + l₁.length) (b + (encodeUtf8 l₁).length) := by
  induction l₁ generalizing i b with
  | nil => rfl
  | cons c l ih =>
    rw [List.cons_append, lineTableFrom_cons, lineTableFrom_cons]
    have hnl : c = '\n' → c.utf8Size = 1 := by rintro rfl; rfl
    split
    · rename_i hc
      rw [ih, List.cons_append, length_encodeUtf8_cons, hnl hc, List.length_cons,
        show i + 1 + l.length = i + (l.length + 1) by omega,
        show b + 1 + (encodeUtf8 l).length = b + (1 + (encodeUtf8 l).length) by omega]
    · rw [ih, length_encodeUtf8_cons, List.length_cons,
        show i + 1 + l.length = i + (l.length + 1) by omega,
        show b + c.utf8Size + (encodeUtf8 l).length = b + (c.utf8Size + (encodeUtf8 l).length)
          by omega]

theorem length_lineTableFrom (l : List Char) (i b : Nat) :
    (lineTableFrom l i b).length = l.count '\n' := by
  induction l generalizing i b with
  | nil => rfl
  | cons c l ih =>
    unfold lineTableFrom
    split <;> simp_all

theorem mem_lineTableFrom_bounds {l : List Char} {i b : Nat} {p : Nat × Nat}
    (h : p ∈ lineTableFrom l i b) : i < p.1 ∧ p.1 ≤ i + l.length := by
  induction l generalizing i b with
  | nil => simp [lineTableFrom] at h
  | cons c l ih =>
    unfold lineTableFrom at h
    split at h
    · rcases List.mem_cons.1 h with rfl | h
      · simp
      · have := ih h
        simp only [List.length_cons]
        omega
    · have := ih h
      simp only [List.length_cons]
      omega

theorem getLast_lineTable (l : List Char) :
    ((0, 0) :: lineTableFrom l 0 0).getLast (List.cons_ne_nil _ _) =
      ((lastIndexOf '\n' l + 1).toNat,
        (encodeUtf8 (l.take (lastIndexOf '\n' l + 1).toNat)).length) := by
  induction l using List.reverseRecOn with
  | nil => simp [lastIndexOf, lineTableFrom]
  | append_singleton l d ih =>
    have hb := lastIndexOf_bounds '\n' l
    rw [lastIndexOf_append_singleton]
    simp only [lineTableFrom_append, Nat.zero_add]
    by_cases hd : d = '\n'
    · -- a final line feed starts a last, empty line
      subst hd
      have hsize : '\n'.utf8Size = 1 := rfl
      simp [lineTableFrom, List.getLast_cons, List.take_of_length_le, hsize]
    · have htable : lineTableFrom [d] l.length (encodeUtf8 l).length = [] := by
        simp [lineTableFrom, hd]
      simp only [htable, List.append_nil]
      rw [ih, if_neg hd, List.take_append_of_le_length (by omega)]

/-! ### Spans -/

section Span

variable (path text : String)

theorem lineStarts_make :
    (Document.make path text).lineStarts.toList = lineStartsOf text.toList := by
  simp [Document.make, lineStartsOf]

theorem lineByteStarts_make :
    (Document.make path text).lineByteStarts.toList =
      ((0, 0) :: lineTableFrom text.toList 0 0).map Prod.snd := by
  simp [Document.make]

theorem chars_make : (Document.make path text).chars.toList = text.toList := by
  simp [Document.make]

theorem lineTable_split {k : Nat} (hk : k ≤ text.toList.length) :
    (0, 0) :: lineTableFrom text.toList 0 0 =
      ((0, 0) :: lineTableFrom (text.toList.take k) 0 0) ++
        lineTableFrom (text.toList.drop k) k (encodeUtf8 (text.toList.take k)).length := by
  conv => lhs; rw [← List.take_append_drop k text.toList]
  rw [lineTableFrom_append, List.length_take_of_le hk, List.cons_append, Nat.zero_add,
    Nat.zero_add]

theorem lineOf_make {k : Nat} (hk : k ≤ text.toList.length) :
    (Document.make path text).lineOf k = (text.toList.take k).count '\n' := by
  unfold Document.lineOf
  rw [lineStarts_make, lineStartsOf, lineTable_split text hk, List.map_append, List.filter_append]
  have hbefore : ∀ p ∈ (0, 0) :: lineTableFrom (text.toList.take k) 0 0, p.1 ≤ k := by
    intro p hp
    rcases List.mem_cons.1 hp with rfl | hp
    · exact Nat.zero_le _
    · have := (mem_lineTableFrom_bounds hp).2
      simp only [List.length_take_of_le hk, Nat.zero_add] at this
      exact this
  have hafter : ∀ p ∈ lineTableFrom (text.toList.drop k) k (encodeUtf8 (text.toList.take k)).length,
      k < p.1 := fun p hp => (mem_lineTableFrom_bounds hp).1
  rw [List.filter_eq_self.2 (by simpa using hbefore),
    List.filter_eq_nil_iff.2 (by simpa using hafter)]
  simp [length_lineTableFrom]

theorem lineTable_getElem?_make {k : Nat} (hk : k ≤ text.toList.length) :
    ((0, 0) :: lineTableFrom text.toList 0 0)[(text.toList.take k).count '\n']? =
      some ((lastIndexOf '\n' (text.toList.take k) + 1).toNat,
        (encodeUtf8 ((text.toList.take k).take
          (lastIndexOf '\n' (text.toList.take k) + 1).toNat)).length) := by
  rw [lineTable_split text hk, ← getLast_lineTable, List.getLast_eq_getElem,
    List.getElem?_append_left (by simp [length_lineTableFrom])]
  simp [length_lineTableFrom]

theorem lineStart_make {k : Nat} (hk : k ≤ text.toList.length) :
    (Document.make path text).lineStarts.getD ((text.toList.take k).count '\n') 0 =
      (lastIndexOf '\n' (text.toList.take k) + 1).toNat := by
  rw [Array.getD_eq_getD_getElem?, ← Array.getElem?_toList, lineStarts_make, lineStartsOf,
    List.getElem?_map, lineTable_getElem?_make text hk]
  rfl

theorem lineByteStart_make {k : Nat} (hk : k ≤ text.toList.length) :
    (Document.make path text).lineByteStarts.getD ((text.toList.take k).count '\n') 0 =
      (encodeUtf8 ((text.toList.take k).take
        (lastIndexOf '\n' (text.toList.take k) + 1).toNat)).length := by
  rw [Array.getD_eq_getD_getElem?, ← Array.getElem?_toList, lineByteStarts_make,
    List.getElem?_map, lineTable_getElem?_make text hk]
  rfl

theorem byteOffset_make {k : Nat} (hk : k ≤ text.toList.length) :
    (Document.make path text).byteOffset k = (encodeUtf8 (text.toList.take k)).length := by
  have hb := lastIndexOf_bounds '\n' (text.toList.take k)
  unfold Document.byteOffset
  rw [lineOf_make path text hk]
  dsimp only
  rw [lineStart_make path text hk, lineByteStart_make path text hk]
  obtain ⟨ls, hls⟩ : ∃ ls, ls = (lastIndexOf '\n' (text.toList.take k) + 1).toNat := ⟨_, rfl⟩
  rw [← hls]
  have hlsk : ls ≤ k := by simp [List.length_take_of_le hk] at hb; omega
  have hslice : sliceRange (Document.make path text).chars.size ls k = (ls, k) := by
    have hsize : (Document.make path text).chars.size = text.toList.length := by
      simp [Document.make]
    simp only [sliceRange, hsize]
    split <;> split <;> simp_all <;> omega
  rw [hslice]
  simp only [Document.bytesBetween, Array.toList_extract, List.extract_eq_take_drop,
    foldl_utf8Size, Nat.zero_add]
  rw [chars_make, ← length_encodeUtf8_append, List.take_take, Nat.min_eq_left hlsk]
  congr 2
  rw [← List.take_append_drop ls (text.toList.take k), List.drop_take, List.take_take,
    Nat.min_eq_left hlsk]

theorem span_make {s e : Nat} (hse : s ≤ e) (he : e ≤ text.length) :
    (Document.make path text).span s e =
      { start := (encodeUtf8 (text.toList.take s)).length,
        stop := (encodeUtf8 (text.toList.take e)).length,
        line := (text.toList.take s).count '\n' + 1,
        column := s - (lastIndexOf '\n' (text.toList.take s) + 1) + 1 } := by
  have he' : e ≤ text.toList.length := by rw [String.length_toList]; exact he
  have hs : s ≤ text.toList.length := Nat.le_trans hse he'
  have hb := lastIndexOf_bounds '\n' (text.toList.take s)
  unfold Document.span
  rw [lineOf_make path text hs]
  dsimp only
  rw [byteOffset_make path text hs, byteOffset_make path text he', lineStart_make path text hs,
    Int.toNat_of_nonneg (by omega)]

end Span

/-! ### Lines -/

/-- The characters of line `k` of `l`, counted from 0, with its line feed: from its start up
to the next line's start, or to the end of the text. -/
def lineSlice (l : List Char) (k : Nat) : List Char :=
  let start := (lineStartsOf l).getD k l.length
  (l.drop start).take ((lineStartsOf l).getD (k + 1) l.length - start)

theorem lineStartsOf_cons (c : Char) (l : List Char) :
    lineStartsOf (c :: l) =
      0 :: (if c = '\n' then lineStartsOf l else (lineStartsOf l).tail).map (· + 1) := by
  unfold lineStartsOf
  rw [lineTableFrom_cons]
  split
  · rw [lineTableFrom_from l 1 1]
    simp
  · rw [Nat.zero_add, Nat.zero_add, lineTableFrom_from l 1 c.utf8Size]
    simp

@[simp] theorem lineStartsOf_getElem?_zero (l : List Char) : (lineStartsOf l)[0]? = some 0 := by
  simp [lineStartsOf]

theorem length_lineStartsOf (l : List Char) : (lineStartsOf l).length = l.count '\n' + 1 := by
  simp [lineStartsOf, length_lineTableFrom]

theorem length_splitOn_newline (l : List Char) : (l.splitOn '\n').length = l.count '\n' + 1 := by
  induction l with
  | nil => simp
  | cons c l ih =>
    rw [List.splitOn_cons_eq_if_modifyHead]
    by_cases hc : c = '\n'
    · subst hc
      simp [ih]
    · simp [hc, ih]

theorem newline_not_mem_of_mem_splitOn {l p : List Char} (hp : p ∈ l.splitOn '\n') :
    '\n' ∉ p := by
  induction l generalizing p with
  | nil => simp_all
  | cons c l ih =>
    rw [List.splitOn_cons_eq_if_modifyHead] at hp
    by_cases hc : c = '\n'
    · subst hc
      simp only [beq_self_eq_true, if_true, List.mem_cons] at hp
      rcases hp with rfl | hp
      · simp
      · exact ih hp
    · simp only [beq_iff_eq, hc, if_false] at hp
      obtain ⟨q, qs, hq⟩ := List.exists_cons_of_ne_nil (List.splitOn_ne_nil '\n' l)
      rw [hq, List.modifyHead_cons, List.mem_cons] at hp
      rcases hp with rfl | hp
      · simp only [List.mem_cons, not_or]
        exact ⟨Ne.symm hc, ih (by rw [hq]; exact List.mem_cons_self)⟩
      · exact ih (by rw [hq]; exact List.mem_cons_of_mem _ hp)

theorem lineSlice_cons_zero (c : Char) (l : List Char) :
    lineSlice (c :: l) 0 = if c = '\n' then ['\n'] else c :: lineSlice l 0 := by
  unfold lineSlice
  rw [lineStartsOf_cons]
  by_cases hc : c = '\n'
  · -- the line feed ends the first line, which is empty
    subst hc
    simp
  · simp [hc]

theorem lineSlice_cons_succ (c : Char) (l : List Char) (k : Nat) :
    lineSlice (c :: l) (k + 1) = if c = '\n' then lineSlice l k else lineSlice l (k + 1) := by
  unfold lineSlice
  rw [lineStartsOf_cons]
  by_cases hc : c = '\n'
  · subst hc
    simp
  · simp [hc]

theorem lineSlice_eq_piece (l : List Char) (k : Nat) (hk : k < (l.splitOn '\n').length) :
    lineSlice l k = (l.splitOn '\n').getD k [] ++
      (if k + 1 < (l.splitOn '\n').length then ['\n'] else []) := by
  induction l generalizing k with
  | nil =>
    simp only [List.splitOn_nil, List.length_singleton] at hk ⊢
    obtain rfl : k = 0 := by omega
    rfl
  | cons c l ih =>
    have hpieces := length_splitOn_newline l
    rw [List.splitOn_cons_eq_if_modifyHead] at hk ⊢
    obtain ⟨q, qs, hq⟩ := List.exists_cons_of_ne_nil (List.splitOn_ne_nil '\n' l)
    by_cases hc : c = '\n'
    · -- a line feed ends an empty first piece; the later pieces are those of the rest
      subst hc
      simp only [beq_self_eq_true, if_true, List.length_cons] at hk ⊢
      cases k with
      | zero => simp [lineSlice_cons_zero, hpieces]
      | succ k =>
        rw [lineSlice_cons_succ, if_pos rfl, ih k (by omega)]
        simp
    · -- another character joins the first piece
      simp only [beq_iff_eq, hc, if_false, List.length_modifyHead] at hk ⊢
      cases k with
      | zero =>
        rw [lineSlice_cons_zero, if_neg hc, ih 0 hk, hq]
        simp
      | succ k =>
        rw [lineSlice_cons_succ, if_neg hc, ih (k + 1) hk, hq]
        simp

theorem dropWhile_congr {p q : Char → Bool} {l : List Char} (h : ∀ x ∈ l, p x = q x) :
    l.dropWhile p = l.dropWhile q := by
  induction l with
  | nil => rfl
  | cons x l ih =>
    simp only [List.dropWhile_cons, h x List.mem_cons_self,
      ih fun y hy => h y (List.mem_cons_of_mem _ hy)]

theorem dropEnd_line (p : List Char) (hp : '\n' ∉ p) (last : Prop) [Decidable last] :
    ((p ++ (if last then [] else ['\n'])).reverse.dropWhile
        (fun c => c = '\r' ∨ c = '\n')).reverse = dropEndWhile (· = '\r') p := by
  have hrest : p.reverse.dropWhile (fun c => c = '\r' ∨ c = '\n') =
      p.reverse.dropWhile (· = '\r') := by
    refine dropWhile_congr fun x hx => ?_
    have hx' : x ≠ '\n' := fun h => hp (h ▸ List.mem_reverse.1 hx)
    simp [hx']
  by_cases hl : last
  · rw [if_pos hl, List.append_nil, hrest]
    rfl
  · rw [if_neg hl, List.reverse_append, List.reverse_singleton, List.singleton_append,
      List.dropWhile_cons_of_pos (by decide), hrest]
    rfl

theorem lineText_make (path text : String) (n : Int) :
    (Document.make path text).lineText n =
      if 1 ≤ n ∧ n ≤ (text.toList.count '\n' : Int) + 1 then
        String.ofList (dropEndWhile (· = '\r') ((text.toList.splitOn '\n').getD (n - 1).toNat []))
      else "" := by
  have hsize : (Document.make path text).lineStarts.size = text.toList.count '\n' + 1 := by
    rw [← Array.length_toList, lineStarts_make, length_lineStartsOf]
  unfold Document.lineText
  rw [hsize]
  by_cases hn : 1 ≤ n ∧ n ≤ (text.toList.count '\n' : Int) + 1
  · rw [if_neg (by omega), if_pos hn]
    obtain ⟨k, rfl⟩ : ∃ k : Nat, n = k + 1 := ⟨(n - 1).toNat, by omega⟩
    have hk : k < (text.toList.splitOn '\n').length := by rw [length_splitOn_newline]; omega
    have htoNat : ((k : Int) + 1).toNat = k + 1 := by omega
    dsimp only
    rw [htoNat, Nat.add_sub_cancel, show ((k : Int) + 1 - 1).toNat = k by omega]
    have hstarts : ∀ j, j < text.toList.count '\n' + 1 → ∀ d d',
        (Document.make path text).lineStarts.getD j d = (lineStartsOf text.toList).getD j d' := by
      intro j hj d d'
      have hj' : j < (lineStartsOf text.toList).length := by rw [length_lineStartsOf]; exact hj
      rw [Array.getD_eq_getD_getElem?, ← Array.getElem?_toList, lineStarts_make,
        List.getD_eq_getElem?_getD, List.getElem?_eq_getElem hj']
      rfl
    have hpiece : ((Document.make path text).chars.extract
        ((Document.make path text).lineStarts.getD k 0)
        (if k + 1 < text.toList.count '\n' + 1 then (Document.make path text).lineStarts.getD (k + 1) 0
          else (Document.make path text).chars.size)).toList = lineSlice text.toList k := by
      have hsz : (Document.make path text).chars.size = text.toList.length := by
        simp [Document.make]
      rw [hstarts k (by omega) 0 text.toList.length, Array.toList_extract, chars_make,
        List.extract_eq_take_drop, lineSlice]
      congr 2
      split
      · rw [hstarts (k + 1) (by omega) 0 text.toList.length]
      · rw [hsz, List.getD_eq_getElem?_getD, List.getElem?_eq_none (by rw [length_lineStartsOf]; omega)]
        rfl
    have hmem : (text.toList.splitOn '\n').getD k [] ∈ text.toList.splitOn '\n' := by
      rw [List.getD_eq_getElem?_getD, List.getElem?_eq_getElem hk]
      exact List.getElem_mem hk
    rw [hpiece, lineSlice_eq_piece _ _ hk, ← ite_not,
      dropEnd_line _ (newline_not_mem_of_mem_splitOn hmem)]
  · rw [if_pos (by omega), if_neg hn]

/-- A span and the text of a line, read off the line table, are what counting from the start
of the text gives. For offsets `s ≤ e` inside the text, the span starts and stops at the sizes
in UTF-8 bytes of the text before `s` and `e`, on the line one after the number of line feeds
before `s`, at the column counted from the last line feed before `s`. Line `n` is the `n`-th
piece of the text cut at its line feeds, without its trailing carriage returns, and the empty
text for a line that does not exist. -/
theorem span_lineText_eq_counted (path text : String) (s e : Nat) (hse : s ≤ e)
    (he : e ≤ text.length) :
    (Document.make path text).span s e =
      { start := (encodeUtf8 (text.toList.take s)).length,
        stop := (encodeUtf8 (text.toList.take e)).length,
        line := (text.toList.take s).count '\n' + 1,
        column := s - (lastIndexOf '\n' (text.toList.take s) + 1) + 1 } ∧
    ∀ n : Int, (Document.make path text).lineText n =
      if 1 ≤ n ∧ n ≤ (text.toList.count '\n' : Int) + 1 then
        String.ofList (dropEndWhile (· = '\r') ((text.toList.splitOn '\n').getD (n - 1).toNat []))
      else "" :=
  ⟨span_make path text hse he, lineText_make path text⟩

example : (Document.make "a.md" "é\r\nx").span 3 4 = ⟨4, 5, 2, 1⟩ := by decide

example : (Document.make "a.md" "é\r\nx").lineText 1 = "é" := by decide

/-- The spans and lines of a text with a two-byte character and a carriage return before its
line feed. -/
theorem span_lineText_of_accented_line :
    (3 ≤ 4 ∧ 4 ≤ "é\r\nx".length) ∧
    (Document.make "a.md" "é\r\nx").span 3 4 =
      { start := (encodeUtf8 ("é\r\nx".toList.take 3)).length,
        stop := (encodeUtf8 ("é\r\nx".toList.take 4)).length,
        line := ("é\r\nx".toList.take 3).count '\n' + 1,
        column := 3 - (lastIndexOf '\n' ("é\r\nx".toList.take 3) + 1) + 1 } ∧
    ∀ n : Int, (Document.make "a.md" "é\r\nx").lineText n =
      if 1 ≤ n ∧ n ≤ ("é\r\nx".toList.count '\n' : Int) + 1 then
        String.ofList (dropEndWhile (· = '\r') (("é\r\nx".toList.splitOn '\n').getD (n - 1).toNat []))
      else "" :=
  ⟨⟨by decide, by decide⟩, span_lineText_eq_counted "a.md" "é\r\nx" 3 4 (by decide) (by decide)⟩

end BookLinks.Book
