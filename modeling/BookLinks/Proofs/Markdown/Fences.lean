import BookLinks.Markdown.Heading
import BookLinks.Markdown.Mask
import BookLinks.Proofs.Text.Trim
/-!
# Two readings of fenced code

The heading collector and the link mask each decide which lines of a document are fenced code,
each by its own rule, and both rules are one `FenceReader` run over the lines. The collector
opens a fence on any fence run and closes it on any run of the same mark at least as wide. The
mask opens no backtick fence whose info text holds a backtick, and closes a fence only on a
line that is its mark alone. Where neither difference shows on any line (`plainAt`, given the
fence open before the line), the two read the same lines as fenced code and the headings are
read from exactly the lines the mask leaves. A backtick in the info text of a backtick fence is
enough to make them differ.
-/

namespace BookLinks.Markdown
open BookLinks.Text

/-! ### Fence runs -/

/-- A fence: its mark is a backtick or a tilde and it is at least three wide. -/
def IsFence (f : Char × Nat) : Prop := (f.1 = '`' ∨ f.1 = '~') ∧ 3 ≤ f.2

theorem fenceRun_eq_some_iff (l : List Char) (c : Char) (w : Nat) :
    fenceRun l = some (c, w) ↔ IsFence (c, w) ∧ ∃ k rest, k ≤ 3 ∧
      l = List.replicate k ' ' ++ List.replicate w c ++ rest ∧ rest.head? ≠ some c := by
  obtain ⟨hl, hd⟩ := eq_replicate_takeWhile_append ' ' l
  constructor
  · intro h
    unfold fenceRun at h
    dsimp only at h
    generalize hk : (l.takeWhile (· = ' ')).length = k at hl h
    split at h
    · cases h
    · rename_i hs
      have hdrop : l.drop k = l.dropWhile (· = ' ') := hk ▸ drop_length_takeWhile _ l
      rw [hdrop] at h
      split at h
      · rename_i c' rest0 hcons
        split at h
        · rename_i hc'
          split at h
          · rename_i hw
            cases h
            obtain ⟨hr, hrd⟩ := eq_replicate_takeWhile_append c rest0
            refine ⟨⟨hc', by omega⟩, k, rest0.dropWhile (· = c), by omega, ?_, hrd⟩
            rw [hl, hcons]
            conv => lhs; rw [hr]
            rw [Nat.add_comm 1, List.replicate_succ]
            simp
          · cases h
        · cases h
      · cases h
  · rintro ⟨⟨hc, hw⟩, k, rest, hk, rfl, hrest⟩
    have hsp : c ≠ ' ' := by rcases hc with rfl | rfl <;> decide
    obtain ⟨w', rfl⟩ : ∃ w', w = w' + 1 := ⟨w - 1, by omega⟩
    have hspaces : (List.replicate k ' ' ++ List.replicate (w' + 1) c ++ rest).takeWhile
        (· = ' ') = List.replicate k ' ' := by
      rw [List.append_assoc]
      exact takeWhile_replicate_append ' ' k (by simp [List.replicate_succ, hsp])
    have hrun := takeWhile_replicate_append c w' hrest
    simp only [fenceRun, hspaces, List.length_replicate]
    simp [List.replicate_succ, hc, hrun, Nat.not_lt.2 hk]
    omega


theorem fenceOpening_eq (l : List Char) :
    fenceOpening l = match fenceRun l with
      | some (c, w) => if c = '`' ∧ '`' ∈ l.drop (leadingSpaces l + w) then none else some (c, w)
      | none => none := by
  unfold fenceOpening fenceRun leadingSpaces
  dsimp only
  split
  · rfl
  · split
    · rename_i c rest hdrop
      have hinfo : ∀ r, l.drop ((l.takeWhile (· = ' ')).length + (1 + r)) = rest.drop r := by
        intro r
        rw [← List.drop_drop, hdrop]
        simp [Nat.add_comm 1]
      by_cases hc : c = '`' ∨ c = '~'
      · by_cases hw : 1 + (rest.takeWhile (· = c)).length ≥ 3
        · by_cases hb : c = '`' ∧ '`' ∈ rest.drop (rest.takeWhile (· = c)).length
          · obtain ⟨rfl, hx⟩ := hb
            simp only [ge_iff_le] at hw
            simp [hdrop, hw, hinfo, hx]
          · simp [hdrop, hc, hw, hinfo, hb]
        · simp [hdrop, hc, hw]
      · simp [hdrop, hc]
    · rename_i hnil
      simp [hnil]


/-! ### A line break that is not a carriage return or line feed

The mask keeps such a break on the line it reads; the heading collector drops it. Neither
reading changes. -/

theorem fenceRun_append_break {c : Char} (hsp : c ≠ ' ') (hf : c ≠ '`' ∧ c ≠ '~')
    (b : List Char) : fenceRun (b ++ [c]) = fenceRun b := by
  have hspaces := takeWhile_append_singleton (p := (· = ' ')) (by simpa using hsp) b
  unfold fenceRun
  dsimp only
  rw [hspaces]
  split
  · rfl
  · rw [List.drop_append_of_le_length (List.takeWhile_prefix _).length_le]
    cases b.drop (b.takeWhile (· = ' ')).length with
    | nil => simp [hf]
    | cons d rest =>
      simp only [List.cons_append]
      by_cases hfence : d = '`' ∨ d = '~'
      · have hcd : c ≠ d := by rcases hfence with rfl | rfl <;> simp [hf]
        rw [takeWhile_append_singleton (by simpa using hcd)]
      · simp [hfence]


theorem fenceOpening_append_break {c : Char} (hsp : c ≠ ' ') (hf : c ≠ '`' ∧ c ≠ '~')
    (b : List Char) : fenceOpening (b ++ [c]) = fenceOpening b := by
  have hlead : leadingSpaces (b ++ [c]) = leadingSpaces b := by
    simp only [leadingSpaces, takeWhile_append_singleton (p := (· = ' ')) (by simpa using hsp)]
  have hinfo : ∀ n, '`' ∈ (b ++ [c]).drop n ↔ '`' ∈ b.drop n := by
    intro n
    rw [List.drop_append, List.mem_append]
    have : '`' ∉ [c].drop (n - b.length) := fun h =>
      hf.1 (List.mem_singleton.1 (List.mem_of_mem_drop h)).symm
    simp [this]
  rw [fenceOpening_eq, fenceOpening_eq, fenceRun_append_break hsp hf, hlead]
  cases fenceRun b with
  | none => rfl
  | some f => simp [hinfo]

theorem closesFence_append_break {c : Char} (hc : isBlank c = true) (hsp : c ≠ ' ')
    (mark : Char) (width : Nat) (b : List Char) :
    closesFence mark width (b ++ [c]) = closesFence mark width b := by
  have hlead : leadingSpaces (b ++ [c]) = leadingSpaces b := by
    simp only [leadingSpaces, takeWhile_append_singleton (p := (· = ' ')) (by simpa using hsp)]
  simp only [closesFence, trim_append_blank hc, hlead]


/-! ### Two readers of fenced code -/

/-- A reader of fenced code: the fence a line opens, and whether a line closes an open fence
of a given mark and width. -/
structure FenceReader where
  opens : List Char → Option (Char × Nat)
  closes : Char → Nat → List Char → Bool

namespace FenceReader

/-- One line: whether it belongs to fenced code (it opens a fence, lies inside one or closes
it), and the fence open after it. -/
def step (r : FenceReader) : Option (Char × Nat) → List Char → Bool × Option (Char × Nat)
  | none, line =>
    match r.opens line with
    | some f => (true, some f)
    | none => (false, none)
  | some (mark, width), line => (true, if r.closes mark width line then none else some (mark, width))

/-- Which of `lines` belong to fenced code, from the fence open before the first. -/
def fenced (r : FenceReader) : Option (Char × Nat) → List (List Char) → List Bool
  | _, [] => []
  | open_, line :: rest => (r.step open_ line).1 :: r.fenced (r.step open_ line).2 rest

end FenceReader

namespace FenceReader

/-- How the heading collector reads fences: a fence run after at most three spaces opens a
fence, and a run of the same mark at least as wide closes it, whatever follows. -/
def collector : FenceReader where
  opens line := fenceRun (lineBody line)
  closes mark width line := (fenceRun (lineBody line)).any (fun f => f.1 == mark && width ≤ f.2)

/-- How the mask reads fences: a backtick fence whose info text holds a backtick opens
nothing, and only a line that is the fence's mark alone, after at most three spaces, closes. -/
def mask : FenceReader where
  opens line := fenceOpening (lineContent line)
  closes mark width line := closesFence mark width (lineContent line)

@[simp] theorem collector_opens (line : List Char) :
    collector.opens line = fenceRun (lineBody line) := rfl

@[simp] theorem collector_closes (mark : Char) (width : Nat) (line : List Char) :
    collector.closes mark width line =
      (fenceRun (lineBody line)).any (fun f => f.1 == mark && width ≤ f.2) := rfl

@[simp] theorem mask_opens (line : List Char) : mask.opens line = fenceOpening (lineContent line) :=
  rfl

@[simp] theorem mask_closes (mark : Char) (width : Nat) (line : List Char) :
    mask.closes mark width line = closesFence mark width (lineContent line) := rfl

/-- The fence open before each of `lines`, from the fence open before the first. -/
def openBefore (r : FenceReader) : Option (Char × Nat) → List (List Char) → List (Option (Char × Nat))
  | _, [] => []
  | open_, line :: rest => open_ :: r.openBefore (r.step open_ line).2 rest

variable {r s : FenceReader}

theorem step_isFence {line : List Char} (hfence : ∀ f, r.opens line = some f → IsFence f)
    {st : Option (Char × Nat)} (hst : ∀ f, st = some f → IsFence f) :
    ∀ f, (r.step st line).2 = some f → IsFence f := by
  intro f hf
  cases st with
  | none =>
    cases hopen : r.opens line with
    | none => simp [step, hopen] at hf
    | some g =>
      simp only [step, hopen, Option.some.injEq] at hf
      exact hf ▸ hfence g hopen
  | some g =>
    obtain ⟨m, w⟩ := g
    by_cases hc : r.closes m w line
    · simp [step, hc] at hf
    · simp only [step, hc, Bool.false_eq_true, ↓reduceIte, Option.some.injEq] at hf
      exact hf ▸ hst _ rfl

theorem openBefore_isFence (hfence : ∀ line f, r.opens line = some f → IsFence f)
    (lines : List (List Char)) {st : Option (Char × Nat)} (hst : ∀ f, st = some f → IsFence f) :
    ∀ o ∈ r.openBefore st lines, ∀ f, o = some f → IsFence f := by
  induction lines generalizing st with
  | nil => simp [openBefore]
  | cons line rest ih =>
    intro o ho
    rcases List.mem_cons.1 ho with rfl | ho
    · exact hst
    · exact ih (step_isFence (hfence line) hst) o ho

theorem fenced_eq_of_step_eq {lines : List (List Char)} {st : Option (Char × Nat)}
    (h : ∀ p ∈ lines.zip (r.openBefore st lines), r.step p.2 p.1 = s.step p.2 p.1) :
    r.fenced st lines = s.fenced st lines := by
  induction lines generalizing st with
  | nil => rfl
  | cons line rest ih =>
    have hstep : r.step st line = s.step st line := h (line, st) (by simp [openBefore])
    simp only [fenced, ← hstep]
    rw [ih fun p hp => h p (by simp [openBefore, hp])]

end FenceReader

theorem maskFencesFrom_fenced (lines : List (List Char)) (offset : Nat) (st : Option OpenFence) :
    (maskFencesFrom lines offset st).1 =
      (lines.zip (FenceReader.mask.fenced (st.map fun f => (f.mark, f.width)) lines)).map
        (fun p => if p.2 then blankOut p.1 else p.1) := by
  induction lines generalizing offset st with
  | nil => cases st <;> rfl
  | cons line rest ih =>
    cases st with
    | none =>
      cases hopen : fenceOpening (lineContent line) with
      | none => simp [maskFencesFrom, FenceReader.fenced, FenceReader.step, hopen, ih]
      | some f => simp [maskFencesFrom, FenceReader.fenced, FenceReader.step, hopen, ih]
    | some f =>
      by_cases hclose : closesFence f.mark f.width (lineContent line)
      · simp [maskFencesFrom, FenceReader.fenced, FenceReader.step, hclose, ih]
      · simp [maskFencesFrom, FenceReader.fenced, FenceReader.step, hclose, ih]

/-- The headings of lines outside fenced code, each line paired with whether it is fenced: a
fenced line yields no heading and no line that an underline could turn into one. -/
def headingsOutside : List (List Char × Bool) → List Char → List String
  | [], _ => []
  | (_, true) :: rest, _ => headingsOutside rest []
  | (line, false) :: rest, previous =>
    match atxTitle line with
    | some title => String.ofList title :: headingsOutside rest []
    | none =>
      if !(trim previous).isEmpty && isSetextUnderline line &&
          !(previous.take 4 == "    ".toList || previous.take 1 == ['\t']) &&
          !startsBlock previous then
        String.ofList (trim previous) :: headingsOutside rest []
      else headingsOutside rest line

theorem headingsFrom_fenced (lines : List (List Char)) (st : Option (Char × Nat))
    (previous : List Char) :
    headingsFrom (lines.map lineBody) st previous =
      headingsOutside ((lines.map lineBody).zip (FenceReader.collector.fenced st lines)) previous := by
  induction lines generalizing st previous with
  | nil => cases st <;> rfl
  | cons line rest ih =>
    cases st with
    | none =>
      cases hrun : fenceRun (lineBody line) with
      | none =>
        cases hatx : atxTitle (lineBody line) with
        | some title =>
          simp [headingsFrom, hrun, hatx, FenceReader.fenced, FenceReader.step, headingsOutside, ih]
        | none =>
          simp only [List.map_cons, headingsFrom, hrun, hatx, FenceReader.fenced,
            FenceReader.step, FenceReader.collector_opens, List.zip_cons_cons, headingsOutside]
          split <;> simp [ih]
      | some f =>
        simp [headingsFrom, hrun, FenceReader.fenced, FenceReader.step, headingsOutside, ih]
    | some f =>
      obtain ⟨mark, width⟩ := f
      cases hrun : fenceRun (lineBody line) with
      | none =>
        simp [headingsFrom, hrun, FenceReader.fenced, FenceReader.step, headingsOutside, ih]
      | some g =>
        obtain ⟨c, w⟩ := g
        by_cases hcl : c = mark ∧ w ≥ width
        · simp [headingsFrom, hrun, FenceReader.fenced, FenceReader.step, headingsOutside, ih, hcl]
        · simp [headingsFrom, hrun, FenceReader.fenced, FenceReader.step, headingsOutside, ih, hcl]


/-! ### When the two readings agree -/

/-- Whether the two readings of fenced code agree on a line, given the fence open before it.
With no fence open, a backtick fence run has no backtick after it. Inside a fence, a run of its
mark at least as wide has only blanks after it, and a line that is the mark repeated between
blanks has only spaces before it. -/
def plainAt : Option (Char × Nat) → List Char → Bool
  | none, b => (fenceRun b).all fun f =>
      f.1 != '`' || !(b.drop (leadingSpaces b + f.2)).contains '`'
  | some (m, width), b =>
      (fenceRun b).all (fun f =>
        f.1 != m || f.2 < width || (b.drop (leadingSpaces b + f.2)).all isBlank) &&
      ((trim b).isEmpty || !(trim b).all (· = m) || (b.takeWhile isBlank).all (· = ' '))

theorem plainAt_none {b : List Char} (h : plainAt none b = true) {w : Nat}
    (hr : fenceRun b = some ('`', w)) : '`' ∉ b.drop (leadingSpaces b + w) := by
  simpa [plainAt, hr] using h

theorem plainAt_some {b : List Char} {m : Char} {width : Nat}
    (h : plainAt (some (m, width)) b = true) :
    (∀ w, fenceRun b = some (m, w) → width ≤ w →
        ∀ x ∈ b.drop (leadingSpaces b + w), isBlank x = true) ∧
      (trim b ≠ [] → (trim b).all (· = m) → ∀ x ∈ b.takeWhile isBlank, x = ' ') := by
  simp only [plainAt, Bool.and_eq_true] at h
  obtain ⟨hrun, hspaces⟩ := h
  constructor
  · intro w hr hw x hx
    simp only [hr, Option.all_some, Bool.or_eq_true, bne_iff_ne, ne_eq, not_true_eq_false,
      decide_eq_true_eq, false_or, List.all_eq_true] at hrun
    exact hrun.resolve_left (by omega) x hx
  · intro hne hall x hx
    simp only [Bool.or_eq_true, List.isEmpty_iff, hne, false_or, Bool.not_eq_true', hall,
      Bool.true_eq_false, List.all_eq_true, decide_eq_true_eq] at hspaces
    exact hspaces x hx

theorem isBlank_fence_mark {m : Char} (hm : m = '`' ∨ m = '~') : isBlank m = false := by
  rcases hm with rfl | rfl <;> decide

theorem leadingSpaces_run {m : Char} (hm : m ≠ ' ') {n : Nat} (hn : 0 < n) (k : Nat)
    (rest : List Char) : leadingSpaces (List.replicate k ' ' ++ List.replicate n m ++ rest) = k := by
  obtain ⟨n, rfl⟩ : ∃ n', n = n' + 1 := ⟨n - 1, by omega⟩
  rw [leadingSpaces, List.append_assoc, takeWhile_replicate_append ' ' k (by simp [List.replicate_succ, hm]),
    List.length_replicate]

theorem fenceOpening_of_plainAt {b : List Char} (h : plainAt none b = true) :
    fenceOpening b = fenceRun b := by
  rw [fenceOpening_eq]
  cases hr : fenceRun b with
  | none => rfl
  | some f =>
    obtain ⟨c, w⟩ := f
    have hno : ¬ (c = '`' ∧ '`' ∈ b.drop (leadingSpaces b + w)) := by
      rintro ⟨rfl, hmem⟩
      exact plainAt_none h hr hmem
    simp [hno]

theorem closesFence_of_plainAt {b : List Char} {mark : Char} {width : Nat}
    (h : plainAt (some (mark, width)) b = true) (hf : IsFence (mark, width)) :
    closesFence mark width b = (fenceRun b).any (fun f => f.1 == mark && width ≤ f.2) := by
  obtain ⟨hmark, hwidth⟩ := hf
  have hsp : mark ≠ ' ' := by rcases hmark with rfl | rfl <;> decide
  rw [Bool.eq_iff_iff]
  constructor
  · -- the mask's closing line is spaces, the run and blanks: a run the collector closes on
    intro hc
    simp only [closesFence, Bool.and_eq_true, Bool.not_eq_eq_eq_not, Bool.not_true,
      List.isEmpty_eq_false_iff, List.all_eq_true, decide_eq_true_eq] at hc
    obtain ⟨⟨⟨hne, hall⟩, hlen⟩, hlead⟩ := hc
    obtain ⟨tail, hb, htail⟩ := eq_takeWhile_trim_append b
    have hcore : trim b = List.replicate (trim b).length mark :=
      List.eq_replicate_iff.2 ⟨rfl, fun x hx => hall x hx⟩
    have hpre : b.takeWhile isBlank = List.replicate (b.takeWhile isBlank).length ' ' :=
      List.eq_replicate_iff.2 ⟨rfl, (plainAt_some h).2 hne (List.all_eq_true.2 (by simpa using hall))⟩
    have hshape : b = List.replicate (b.takeWhile isBlank).length ' ' ++
        List.replicate (trim b).length mark ++ tail := by
      conv => lhs; rw [hb]
      rw [← hpre, ← hcore]
    have hpos : 0 < (trim b).length := List.length_pos_iff.2 hne
    have hk : leadingSpaces b = (b.takeWhile isBlank).length := by
      have := leadingSpaces_run hsp hpos (b.takeWhile isBlank).length tail
      rwa [← hshape] at this
    have hrun : fenceRun b = some (mark, (trim b).length) := by
      rw [fenceRun_eq_some_iff]
      refine ⟨⟨hmark, by omega⟩, _, tail, by omega, hshape, ?_⟩
      cases tail with
      | nil => simp
      | cons x tail =>
        have := htail x (by simp)
        intro hx
        simp only [List.head?_cons, Option.some.injEq] at hx
        subst hx
        simp [isBlank_fence_mark hmark] at this
    simp [hrun, hlen]
  · -- the collector's closing run has only blanks after it: the mask closes on it too
    intro hc
    cases hr : fenceRun b with
    | none => simp [hr] at hc
    | some f =>
      obtain ⟨c, w⟩ := f
      simp only [hr, Option.any_some, Bool.and_eq_true, beq_iff_eq, decide_eq_true_eq] at hc
      obtain ⟨rfl, hw⟩ := hc
      obtain ⟨-, k, rest, hk, hshape, -⟩ := (fenceRun_eq_some_iff b c w).1 hr
      have hlead : leadingSpaces b = k := by rw [hshape]; exact leadingSpaces_run hsp (by omega) _ _
      have hrest : ∀ x ∈ rest, isBlank x = true := by
        intro x hx
        apply (plainAt_some h).1 w hr hw x
        have hdrop : b.drop (k + w) = rest := by rw [hshape]; exact List.drop_left' (by simp)
        rw [hlead, hdrop]
        exact hx
      have htrim : trim b = List.replicate w c := by
        rw [hshape]; exact trim_run (isBlank_fence_mark hmark) (by omega) k hrest
      simp [closesFence, htrim, hlead, hk, hw]
      omega


/-! ### Lines of a text -/

/-- The terminator of a line: none, a carriage return and line feed, or one line break. -/
def IsTerminator (t : List Char) : Prop :=
  t = [] ∨ t = ['\r', '\n'] ∨ ∃ c, t = [c] ∧ isLineBreak c = true

theorem splitLinesFrom_shape (cs acc : List Char) (hacc : ∀ c ∈ acc, isLineBreak c = false) :
    ∀ l ∈ splitLinesFrom cs acc, ∃ body t, l = body ++ t ∧ (∀ c ∈ body, isLineBreak c = false) ∧
      IsTerminator t := by
  induction cs, acc using splitLinesFrom.induct with
  | case1 acc h => simp [splitLinesFrom, h]
  | case2 acc h =>
    intro l hl
    simp only [splitLinesFrom, h, Bool.false_eq_true, ↓reduceIte, List.mem_singleton] at hl
    exact ⟨acc.reverse, [], by simp [hl], by simpa using hacc, .inl rfl⟩
  | case3 rest acc ih =>
    intro l hl
    rw [splitLinesFrom, List.mem_cons] at hl
    rcases hl with rfl | hl
    · exact ⟨acc.reverse, ['\r', '\n'], by simp, by simpa using hacc, .inr (.inl rfl)⟩
    · exact ih (by simp) l hl
  | case4 c rest acc h hb ih =>
    intro l hl
    rw [splitLinesFrom.eq_3 _ _ _ h, if_pos hb, List.mem_cons] at hl
    rcases hl with rfl | hl
    · exact ⟨acc.reverse, [c], by simp, by simpa using hacc, .inr (.inr ⟨c, rfl, hb⟩)⟩
    · exact ih (by simp) l hl
  | case5 c rest acc h hb ih =>
    intro l hl
    rw [splitLinesFrom.eq_3 _ _ _ h, if_neg hb] at hl
    exact ih (by simp_all) l hl


section LineEnds

variable {body : List Char} (hb : ∀ c ∈ body, isLineBreak c = false)
include hb

theorem reverse_dropWhile_crlf :
    body.reverse.dropWhile (fun c => c = '\r' ∨ c = '\n') = body.reverse := by
  cases h : body.reverse with
  | nil => rfl
  | cons c rest =>
    have hc : c ∈ body := by rw [← List.mem_reverse, h]; simp
    have hbreak := hb c hc
    have hcr : ¬ (c = '\r' ∨ c = '\n') := by
      rintro (rfl | rfl) <;> simp [isLineBreak] at hbreak
    rw [List.dropWhile_cons_of_neg (by simpa using hcr)]

theorem lineBody_of_no_break : lineBody body = body := by
  unfold lineBody
  cases h : body.reverse with
  | nil => simpa using h
  | cons c rest =>
    have hc : c ∈ body := by rw [← List.mem_reverse, h]; simp
    have hbreak := hb c hc
    split
    next r heq =>
      simp only [List.cons.injEq] at heq
      rw [heq.1] at hbreak
      simp [isLineBreak] at hbreak
    next c' rest' _ heq =>
      simp only [List.cons.injEq] at heq
      obtain ⟨rfl, rfl⟩ := heq
      simp [hbreak]
    next heq => simp at heq

theorem lineBody_append_break {c : Char} (hc : isLineBreak c = true) :
    lineBody (body ++ [c]) = body := by
  unfold lineBody
  simp only [List.reverse_append, List.reverse_cons, List.reverse_nil, List.nil_append,
    List.cons_append]
  split
  next r heq =>
    simp only [List.cons.injEq] at heq
    have : '\r' ∈ body := by rw [← List.mem_reverse, heq.2]; simp
    simpa [isLineBreak] using hb _ this
  next c' rest' _ heq =>
    simp only [List.cons.injEq] at heq
    obtain ⟨rfl, rfl⟩ := heq
    simp [hc]
  next heq => simp at heq

theorem lineContent_of_no_break : lineContent body = body := by
  simp only [lineContent, dropEndWhile, reverse_dropWhile_crlf hb, List.reverse_reverse]

theorem lineBody_lineContent {t : List Char} (ht : IsTerminator t) :
    lineBody (body ++ t) = body ∧ (lineContent (body ++ t) = body ∨
      ∃ c, lineContent (body ++ t) = body ++ [c] ∧ isLineBreak c = true) := by
  rcases ht with rfl | rfl | ⟨c, rfl, hc⟩
  · simp [lineBody_of_no_break hb, lineContent_of_no_break hb]
  · refine ⟨by simp [lineBody], .inl ?_⟩
    simp only [lineContent, dropEndWhile, List.reverse_append, List.reverse_cons,
      List.reverse_nil, List.nil_append, List.cons_append]
    rw [List.dropWhile_cons_of_pos (by decide), List.dropWhile_cons_of_pos (by decide),
      reverse_dropWhile_crlf hb, List.reverse_reverse]
  · refine ⟨lineBody_append_break hb hc, ?_⟩
    by_cases hcr : c = '\r' ∨ c = '\n'
    · left
      simp only [lineContent, dropEndWhile, List.reverse_append, List.reverse_cons,
        List.reverse_nil, List.nil_append, List.cons_append,
        List.dropWhile_cons_of_pos (p := fun c => decide (c = '\r' ∨ c = '\n')) (by simpa using hcr),
        reverse_dropWhile_crlf hb, List.reverse_reverse]
    · right
      refine ⟨c, ?_, hc⟩
      simp only [lineContent, dropEndWhile, List.reverse_append, List.reverse_cons,
        List.reverse_nil, List.nil_append, List.cons_append,
        List.dropWhile_cons_of_neg (p := fun c => decide (c = '\r' ∨ c = '\n')) (by simpa using hcr),
        List.reverse_cons, List.reverse_reverse]

end LineEnds

theorem isLineBreak_blank {c : Char} (hc : isLineBreak c = true) :
    isBlank c = true ∧ c ≠ ' ' ∧ c ≠ '`' ∧ c ≠ '~' := by
  simp only [isLineBreak, Bool.or_eq_true, Bool.and_eq_true, decide_eq_true_eq, beq_iff_eq] at hc
  refine ⟨?_, ?_, ?_, ?_⟩
  · simp only [isBlank, Bool.or_eq_true, Bool.and_eq_true, decide_eq_true_eq, beq_iff_eq]
    omega
  all_goals
    intro h
    subst h
    simp at hc

/-! ### The two readings of a text -/

theorem fences_lineContent {body t : List Char} (hb : ∀ c ∈ body, isLineBreak c = false)
    (ht : IsTerminator t) :
    fenceOpening (lineContent (body ++ t)) = fenceOpening body ∧
      ∀ m w, closesFence m w (lineContent (body ++ t)) = closesFence m w body := by
  rcases (lineBody_lineContent hb ht).2 with h | ⟨c, h, hc⟩
  · rw [h]
    exact ⟨rfl, fun _ _ => rfl⟩
  · obtain ⟨hblank, hsp, hbt, htl⟩ := isLineBreak_blank hc
    rw [h]
    exact ⟨fenceOpening_append_break hsp ⟨hbt, htl⟩ body,
      fun m w => closesFence_append_break hblank hsp m w body⟩

theorem fenceRun_isFence {l : List Char} {f : Char × Nat} (h : fenceRun l = some f) :
    IsFence f :=
  ((fenceRun_eq_some_iff l f.1 f.2).1 h).1

theorem collector_step_eq_mask {body t : List Char} (hb : ∀ c ∈ body, isLineBreak c = false)
    (ht : IsTerminator t) {st : Option (Char × Nat)} (hst : ∀ f, st = some f → IsFence f)
    (hplain : plainAt st (lineBody (body ++ t)) = true) :
    FenceReader.collector.step st (body ++ t) = FenceReader.mask.step st (body ++ t) := by
  have hbody := (lineBody_lineContent hb ht).1
  obtain ⟨hopen, hclose⟩ := fences_lineContent hb ht
  rw [hbody] at hplain
  cases st with
  | none =>
    simp only [FenceReader.step, FenceReader.collector_opens, FenceReader.mask_opens, hopen,
      hbody, fenceOpening_of_plainAt hplain]
  | some f =>
    obtain ⟨m, w⟩ := f
    simp only [FenceReader.step, FenceReader.collector_closes, FenceReader.mask_closes, hclose,
      hbody, closesFence_of_plainAt hplain (hst _ rfl)]

/-- On a text whose every line is plain for the fence the collector has open before it, the
heading collector and the mask read the same lines as fenced code: the mask blanks exactly
those lines, and the headings are read from the others. -/
theorem collector_fenced_eq_mask_of_plain (text : String)
    (hplain : ∀ p ∈ (splitLines text.toList).zip
      (FenceReader.collector.openBefore none (splitLines text.toList)),
        plainAt p.2 (lineBody p.1) = true) :
    FenceReader.collector.fenced none (splitLines text.toList) =
        FenceReader.mask.fenced none (splitLines text.toList) ∧
      (maskFences text.toList).1 = ((splitLines text.toList).zip
        (FenceReader.mask.fenced none (splitLines text.toList))).flatMap
          (fun p => if p.2 then blankOut p.1 else p.1) ∧
      headings text = headingsOutside (((splitLines text.toList).map lineBody).zip
        (FenceReader.mask.fenced none (splitLines text.toList))) [] := by
  have hshape := splitLinesFrom_shape text.toList [] (by simp)
  have hfences : ∀ o ∈ FenceReader.collector.openBefore none (splitLines text.toList),
      ∀ f, o = some f → IsFence f :=
    FenceReader.openBefore_isFence (fun _ _ hf => fenceRun_isFence hf) _ (by simp)
  have hagree : FenceReader.collector.fenced none (splitLines text.toList) =
      FenceReader.mask.fenced none (splitLines text.toList) := by
    apply FenceReader.fenced_eq_of_step_eq
    intro p hp
    obtain ⟨body, t, hl, hb, ht⟩ := hshape p.1 (List.of_mem_zip hp).1
    rw [hl]
    exact collector_step_eq_mask hb ht (hfences p.2 (List.of_mem_zip hp).2) (hl ▸ hplain p hp)
  refine ⟨hagree, ?_, ?_⟩
  · simp [maskFences, maskFencesFrom_fenced, List.flatMap_def]
  · rw [headings, headingsFrom_fenced, hagree]

theorem fenced_lines_of_plain_text :
    (∀ p ∈ (splitLines "```py\nx\n```\n# Title\n".toList).zip
        (FenceReader.collector.openBefore none (splitLines "```py\nx\n```\n# Title\n".toList)),
        plainAt p.2 (lineBody p.1) = true) ∧
      FenceReader.collector.fenced none (splitLines "```py\nx\n```\n# Title\n".toList) =
        FenceReader.mask.fenced none (splitLines "```py\nx\n```\n# Title\n".toList) :=
  have h : ∀ p ∈ (splitLines "```py\nx\n```\n# Title\n".toList).zip
      (FenceReader.collector.openBefore none (splitLines "```py\nx\n```\n# Title\n".toList)),
      plainAt p.2 (lineBody p.1) = true := by
    decide +kernel
  ⟨h, (collector_fenced_eq_mask_of_plain _ h).1⟩

/-- A backtick fence whose info text holds a backtick: the collector reads both lines as fenced
code and drops the heading, while the mask blanks neither. -/
theorem backtick_info_fence_hides_heading :
    FenceReader.collector.fenced none (splitLines "```a`b\n# Title\n".toList) = [true, true] ∧
      FenceReader.mask.fenced none (splitLines "```a`b\n# Title\n".toList) = [false, false] ∧
      (maskFences "```a`b\n# Title\n".toList).1 = "```a`b\n# Title\n".toList ∧
      atxTitle "# Title".toList = some "Title".toList ∧
      headings "```a`b\n# Title\n" = [] := by
  decide +kernel

end BookLinks.Markdown
