import BookLinks.Markdown.Mask
import Mathlib.Data.List.TakeWhile
import Mathlib.Data.List.Forall2
/-!
# What masking keeps

Masking blanks characters and does nothing else. The masked text is as long as the
document; each of its characters is the document's own or that character's blank; and every
region it reports is blank in it. A blanked run never ends on a backslash, because every
pass blanks whole lines or whole matches, and no line and no match ends on one; so a
character that masking keeps has the same backslashes before it in both texts. Each region
starts before it stops, inside the document, and masking sorts the regions by their starts.

Each pass is shown to be a `MaskStep` whose regions lie in its text (a `PlacedStep`), and
masking is their composition.
-/
namespace BookLinks.Markdown

open BookLinks.Text

/-! ### Blanking a character -/

/-- `d` is the character `c`, kept or blanked. -/
def KeptOrBlank (c d : Char) : Prop := d = c ∨ d = blankChar c

@[simp] theorem blankChar_blankChar (c : Char) : blankChar (blankChar c) = blankChar c := by
  unfold blankChar
  split <;> simp_all

@[simp] theorem isBlank_blankChar (c : Char) : isBlank (blankChar c) = true := by
  unfold blankChar
  split
  · rename_i h
    rcases h with rfl | rfl <;> decide
  · decide

theorem blankChar_ne_of_not_isBlank {c : Char} (h : isBlank c = false) : blankChar c ≠ c := by
  intro he
  have := isBlank_blankChar c
  rw [he] at this
  simp [h] at this

theorem KeptOrBlank.trans {a b c : Char} (hab : KeptOrBlank a b) (hbc : KeptOrBlank b c) :
    KeptOrBlank a c := by
  rcases hab with rfl | rfl <;> rcases hbc with rfl | rfl <;> simp [KeptOrBlank]

theorem KeptOrBlank.eq_of_not_isBlank {c d : Char} (h : KeptOrBlank c d)
    (hd : isBlank d = false) : d = c := by
  rcases h with h | rfl
  · exact h
  · simp at hd

/-! ### One pass -/

/-- A masking pass from `t` to `m` that reports `regions`: it keeps the length, keeps or
blanks each character, never ends a blanked run on a backslash, and leaves every region
blank. -/
structure MaskStep (t m : List Char) (regions : List Region) : Prop where
  length_eq : m.length = t.length
  keeps : ∀ (i : Nat) (c d : Char), t[i]? = some c → m[i]? = some d → KeptOrBlank c d
  clean : ∀ (j : Nat) (c : Char), t[j]? = some '\\' → m[j]? ≠ some '\\' →
    t[j + 1]? = some c → m[j + 1]? = some (blankChar c)
  blank : ∀ r ∈ regions, ∀ (i : Nat) (d : Char), r.start ≤ i → i < r.stop → m[i]? = some d →
    isBlank d = true

theorem MaskStep.exists_keeps {t m : List Char} {rs : List Region} (h : MaskStep t m rs)
    {i : Nat} {c : Char} (hc : t[i]? = some c) : ∃ d, m[i]? = some d ∧ KeptOrBlank c d := by
  have hi : i < m.length := by
    rw [h.length_eq]
    exact (List.getElem?_eq_some_iff.1 hc).1
  exact ⟨m[i], List.getElem?_eq_getElem hi, h.keeps i c _ hc (List.getElem?_eq_getElem hi)⟩

theorem MaskStep.trans {t m₁ m₂ : List Char} {rs₁ rs₂ : List Region} (h₁ : MaskStep t m₁ rs₁)
    (h₂ : MaskStep m₁ m₂ rs₂) : MaskStep t m₂ (rs₁ ++ rs₂) where
  length_eq := h₂.length_eq.trans h₁.length_eq
  keeps i c d hc hd := by
    obtain ⟨b, hb, hcb⟩ := h₁.exists_keeps hc
    exact hcb.trans (h₂.keeps i b d hb hd)
  clean j c hj hm hc := by
    obtain ⟨b, hb, hcb⟩ := h₁.exists_keeps hc
    obtain ⟨d, hd, hbd⟩ := h₂.exists_keeps hb
    have hbd' : d = blankChar c := by
      by_cases hk : m₁[j]? = some '\\'
      · -- the first pass kept the backslash, so the second blanked the run on to `j + 1`
        rw [h₂.clean j b hk hm hb] at hd
        cases hd
        rcases hcb with rfl | rfl <;> simp
      · rw [h₁.clean j c hj hk hc] at hb
        cases hb
        rcases hbd with rfl | rfl <;> simp
    rw [hd, hbd']
  blank r hr i d hi hi' hd := by
    rcases List.mem_append.1 hr with hr | hr
    · have hi₁ : i < m₁.length := by
        rw [← h₂.length_eq]
        exact (List.getElem?_eq_some_iff.1 hd).1
      have hb := List.getElem?_eq_getElem hi₁
      have hbl := h₁.blank r hr i _ hi hi' hb
      rcases h₂.keeps i _ d hb hd with rfl | rfl
      · exact hbl
      · simp
    · exact h₂.blank r hr i d hi hi' hd

/-! ### Passes over matches -/

theorem blankRange_size (out : Array Char) (a b : Nat) : (blankRange out a b).size = out.size := by
  unfold blankRange
  have hrun : ∀ n, ((List.range n).foldl (fun acc k => acc.modify (a + k) blankChar) out).size =
      out.size := by
    intro n
    induction n with
    | zero => rfl
    | succ n ih => rw [List.range_succ, List.foldl_append]; simp [ih]
  exact hrun _

theorem blankRange_getElem? (out : Array Char) (a b i : Nat) :
    (blankRange out a b)[i]? = if a ≤ i ∧ i < b then out[i]?.map blankChar else out[i]? := by
  unfold blankRange
  have hrun : ∀ n, ((List.range n).foldl (fun acc k => acc.modify (a + k) blankChar) out)[i]? =
      if a ≤ i ∧ i < a + n then out[i]?.map blankChar else out[i]? := by
    intro n
    induction n with
    | zero =>
      have hnone : ¬ (a ≤ i ∧ i < a + 0) := by omega
      simp only [List.range_zero, List.foldl_nil, if_neg hnone]
    | succ n ih =>
      rw [List.range_succ, List.foldl_append]
      simp only [List.foldl_cons, List.foldl_nil, Array.getElem?_modify, ih]
      by_cases hi : i = a + n
      · subst hi
        simp
      · have : (a ≤ i ∧ i < a + (n + 1)) ↔ (a ≤ i ∧ i < a + n) := by omega
        simp [Ne.symm hi, this]
  rw [hrun]
  by_cases h : a ≤ i ∧ i < b
  · rw [if_pos ⟨h.1, by omega⟩, if_pos h]
  · rw [if_neg (by omega), if_neg h]

/-- What a pass needs of a recognizer: a match ends after it starts, inside the text, and
not on a backslash. -/
structure Recognizes (recognize : Array Char → Nat → Option Nat) : Prop where
  bounds : ∀ t p e, recognize t p = some e → p < e ∧ e ≤ t.size
  last : ∀ t p e, recognize t p = some e → t[e - 1]? ≠ some '\\'

/-- Whether a position lies in one of the regions. -/
def coveredBy (rs : List Region) (i : Nat) : Bool := rs.any (fun r => r.start ≤ i ∧ i < r.stop)

theorem maskMatchesFrom_size (recognize : Array Char → Nat → Option Nat) (kind : RegionKind)
    (input : Array Char) (p : Nat) (out : Array Char) (acc : List Region) :
    (maskMatchesFrom recognize kind input p out acc).1.size = out.size := by
  fun_induction maskMatchesFrom recognize kind input p out acc with
  | case1 p out acc _ e _ e' ih => rw [ih, blankRange_size]
  | case2 p out acc _ _ ih => exact ih
  | case3 => rfl

theorem maskMatchesFrom_spec {recognize : Array Char → Nat → Option Nat}
    (hr : Recognizes recognize) (kind : RegionKind) (input : Array Char) (p : Nat)
    (out : Array Char) (acc : List Region) :
    ∃ news, (maskMatchesFrom recognize kind input p out acc).2 = acc.reverse ++ news ∧
      (∀ r ∈ news, r.start < r.stop ∧ r.stop ≤ input.size ∧ input[r.stop - 1]? ≠ some '\\') ∧
      ∀ i, (maskMatchesFrom recognize kind input p out acc).1[i]? =
        if coveredBy news i then out[i]?.map blankChar else out[i]? := by
  fun_induction maskMatchesFrom recognize kind input p out acc with
  | case1 p out acc _ e he e' ih =>
    obtain ⟨hpe, hes⟩ := hr.bounds input p e he
    have hmax : e' = e := by show max e (p + 1) = e; omega
    rw [hmax] at ih ⊢
    obtain ⟨news, hnews, hwf, hblank⟩ := ih
    refine ⟨⟨p, e, kind⟩ :: news, by simp [hnews], ?_, ?_⟩
    · intro r hr'
      rcases List.mem_cons.1 hr' with rfl | hr'
      · exact ⟨hpe, hes, hr.last input p e he⟩
      · exact hwf r hr'
    · intro i
      rw [hblank, blankRange_getElem?]
      -- a position of the new match is blanked once, whatever later matches cover
      by_cases hi : p ≤ i ∧ i < e
      · have hcov : coveredBy (⟨p, e, kind⟩ :: news) i := by simp [coveredBy, hi]
        rw [if_pos hi, if_pos hcov]
        split <;> cases out[i]? <;> simp
      · have hcov : coveredBy (⟨p, e, kind⟩ :: news) i = coveredBy news i := by
          simp [coveredBy, hi]
        rw [if_neg hi, hcov]
  | case2 p out acc _ _ ih => exact ih
  | case3 p out acc _ => exact ⟨[], by simp, by simp, by simp [coveredBy]⟩

theorem maskMatches_step {recognize : Array Char → Nat → Option Nat} (hr : Recognizes recognize)
    (kind : RegionKind) (input : Array Char) :
    MaskStep input.toList (maskMatches recognize kind input).1.toList
      (maskMatches recognize kind input).2 := by
  obtain ⟨news, hnews, hwf, hblank⟩ := maskMatchesFrom_spec hr kind input 0 input []
  simp only [maskMatches, hnews, List.reverse_nil, List.nil_append]
  have hget : ∀ i, (maskMatchesFrom recognize kind input 0 input []).1.toList[i]? =
      if coveredBy news i then input[i]?.map blankChar else input[i]? := by
    intro i
    rw [Array.getElem?_toList, hblank]
  refine ⟨by simp [maskMatchesFrom_size], ?_, ?_, ?_⟩
  · intro i c d hc hd
    rw [Array.getElem?_toList] at hc
    rw [hget, hc] at hd
    split at hd <;> simp at hd <;> simp [KeptOrBlank, hd]
  · intro j c hj hm hc
    rw [Array.getElem?_toList] at hj hc
    rw [hget, hj] at hm
    have hcov : coveredBy news j := by
      cases hn : coveredBy news j
      · simp [hn] at hm
      · rfl
    obtain ⟨r, hr', hrj⟩ := List.any_eq_true.1 hcov
    have ⟨_, _, hlast⟩ := hwf r hr'
    have hj1 : j + 1 < r.stop := by
      refine Nat.lt_of_not_le fun hge => hlast ?_
      have : r.stop - 1 = j := by simp at hrj; omega
      rw [this, hj]
    have hcov' : coveredBy news (j + 1) := List.any_eq_true.2 ⟨r, hr', by simp at hrj ⊢; omega⟩
    rw [hget, if_pos hcov', hc]
    rfl
  · intro r hr' i d hi hi' hd
    have hcov : coveredBy news i := List.any_eq_true.2 ⟨r, hr', by simp [hi, hi']⟩
    rw [hget, if_pos hcov] at hd
    obtain ⟨c, -, rfl⟩ := Option.map_eq_some_iff.1 hd
    exact isBlank_blankChar c

/-! ### The recognizers -/

theorem Recognizes.of_last {recognize : Array Char → Nat → Option Nat}
    (h : ∀ t p e, recognize t p = some e → p < e ∧ ∃ c, t[e - 1]? = some c ∧ c ≠ '\\') :
    Recognizes recognize where
  bounds t p e he := by
    obtain ⟨hpe, c, hc, -⟩ := h t p e he
    have := (Array.getElem?_eq_some_iff.1 hc).1
    omega
  last t p e he := by
    obtain ⟨-, c, hc, hne⟩ := h t p e he
    rw [hc]
    simpa using hne

theorem spellsAt_getElem? {t : Array Char} {i : Nat} {w : List Char} (h : spellsAt t i w = true)
    {k : Nat} (hk : k < w.length) : t[i + k]? = w[k]? := by
  simp only [spellsAt, List.all_eq_true, List.mem_range, beq_iff_eq] at h
  exact h k hk

theorem findFrom_spec {t : Array Char} {w : List Char} {i k : Nat} (h : findFrom t w i = some k) :
    i ≤ k ∧ spellsAt t k w = true := by
  fun_induction findFrom t w i with
  | case1 i _ hs => simp at h; subst h; exact ⟨Nat.le_refl _, hs⟩
  | case2 i _ _ ih => have := ih h; exact ⟨by omega, this.2⟩
  | case3 => simp at h

theorem backtickRun_getElem? {t : Array Char} {i k : Nat} (hk : k < backtickRun t i) :
    t[i + k]? = some '`' := by
  fun_induction backtickRun t i generalizing k with
  | case1 i hi ht ih =>
    cases k with
    | zero => simp [ht, hi]
    | succ k => rw [show i + (k + 1) = (i + 1) + k by omega]; exact ih (by omega)
  | case2 => omega
  | case3 => omega

theorem codeSpanEnd_spec {t : Array Char} {n j e : Nat} (hn : 0 < n)
    (h : codeSpanEnd t n j = some e) : j < e ∧ t[e - 1]? = some '`' := by
  fun_induction codeSpanEnd t n j with
  | case1 => simp at h
  | case2 j _ _ hrun =>
    simp at h
    subst h
    refine ⟨by omega, ?_⟩
    have := backtickRun_getElem? (t := t) (i := j + 1) (k := n - 1) (by omega)
    rw [← this]
    congr 1
    omega
  | case3 j _ _ _ ih => have := ih h; exact ⟨by omega, this.2⟩
  | case4 => simp at h

theorem codeSpanAt_recognizes : Recognizes codeSpanAt := .of_last fun t p e h => by
  unfold codeSpanAt at h
  split at h
  · rename_i hopen
    have hrun : 0 < backtickRun t p := by
      have ht : t[p]? = some '`' := by
        simp only [Bool.and_eq_true, beq_iff_eq] at hopen
        exact hopen.1
      have hp : p < t.size := (Array.getElem?_eq_some_iff.1 ht).1
      rw [backtickRun]
      simp [hp, (Array.getElem?_eq_some_iff.1 ht).2]
    obtain ⟨hlt, hlast⟩ := codeSpanEnd_spec hrun h
    exact ⟨by omega, '`', hlast, by decide⟩
  · simp at h

theorem commentAt_recognizes : Recognizes commentAt := .of_last fun t p e h => by
  unfold commentAt at h
  split at h
  · obtain ⟨k, hk, rfl⟩ := Option.map_eq_some_iff.1 h
    obtain ⟨hle, hs⟩ := findFrom_spec hk
    have := spellsAt_getElem? hs (k := 2) (by decide)
    exact ⟨by omega, '>', by simpa using this, by decide⟩
  · simp at h

theorem blockMathAt_recognizes : Recognizes blockMathAt := .of_last fun t p e h => by
  unfold blockMathAt at h
  split at h
  · split at h
    · rename_i k hk
      have hle := (findFrom_spec hk).1
      split at h
      · rename_i hd
        simp at h
        subst h
        exact ⟨by omega, '$', by simpa using hd, by decide⟩
      · simp at h
    · simp at h
  · simp at h

theorem inlineMathEnd_spec {t : Array Char} {j e : Nat} (h : inlineMathEnd t j = some e) :
    j < e ∧ t[e - 1]? = some '$' := by
  fun_induction inlineMathEnd t j with
  | case1 j hj c hc =>
    simp at h
    subst h
    exact ⟨by omega, by simpa [hj] using hc⟩
  | case2 => simp at h
  | case3 => simp at h
  | case4 =>
    rename_i ih
    have := ih h
    exact ⟨by omega, this.2⟩
  | case5 => simp at h
  | case6 =>
    rename_i ih
    have := ih h
    exact ⟨by omega, this.2⟩
  | case7 => simp at h

theorem inlineMathAt_recognizes : Recognizes inlineMathAt := .of_last fun t p e h => by
  unfold inlineMathAt at h
  split at h
  · obtain ⟨hlt, hlast⟩ := inlineMathEnd_spec h
    exact ⟨by omega, '$', hlast, by decide⟩
  · simp at h

theorem parenMathEnd_spec {t : Array Char} {j e : Nat} (h : parenMathEnd t j = some e) :
    j < e ∧ t[e - 1]? = some ')' := by
  fun_induction parenMathEnd t j with
  | case1 j _ hc =>
    simp at h
    subst h
    exact ⟨by omega, by simpa using hc.2⟩
  | case2 => simp at h
  | case3 j _ _ _ ih => have := ih h; exact ⟨by omega, this.2⟩
  | case4 => simp at h

theorem parenMathAt_recognizes : Recognizes parenMathAt := .of_last fun t p e h => by
  unfold parenMathAt at h
  split at h
  · obtain ⟨hlt, hlast⟩ := parenMathEnd_spec h
    exact ⟨by omega, ')', hlast, by decide⟩
  · simp at h

theorem bracketMathAt_recognizes : Recognizes bracketMathAt := .of_last fun t p e h => by
  unfold bracketMathAt at h
  split at h
  · obtain ⟨k, hk, rfl⟩ := Option.map_eq_some_iff.1 h
    obtain ⟨hle, hs⟩ := findFrom_spec hk
    have := spellsAt_getElem? hs (k := 1) (by decide)
    exact ⟨by omega, ']', by simpa using this, by decide⟩
  · simp at h

/-! ### Passes over lines -/

def KeptOrBlankLine (l l' : List Char) : Prop := l' = l ∨ l' = blankOut l

theorem mem_dropLast_cons {α : Type} {x l : α} {rest : List α} (h : x ∈ (l :: rest).dropLast) :
    (x = l ∧ rest ≠ []) ∨ x ∈ rest.dropLast := by
  cases rest with
  | nil => simp at h
  | cons y ys =>
    rw [List.dropLast_cons_cons, List.mem_cons] at h
    exact h.imp (fun h => ⟨h, by simp⟩) id

theorem splitLinesFrom_ends (cs acc : List Char) :
    ∀ l ∈ (splitLinesFrom cs acc).dropLast, ∃ c, l.getLast? = some c ∧ isLineBreak c = true := by
  induction cs, acc using splitLinesFrom.induct with
  | case1 acc h => simp [splitLinesFrom, h]
  | case2 acc h => simp [splitLinesFrom, h]
  | case3 rest acc ih =>
    intro l hl
    rw [splitLinesFrom] at hl
    rcases mem_dropLast_cons hl with ⟨rfl, -⟩ | hl
    · exact ⟨'\n', by simp, by decide⟩
    · exact ih l hl
  | case4 c rest acc h hb ih =>
    intro l hl
    rw [splitLinesFrom.eq_3 _ _ _ h, if_pos hb] at hl
    rcases mem_dropLast_cons hl with ⟨rfl, -⟩ | hl
    · exact ⟨c, by simp, hb⟩
    · exact ih l hl
  | case5 c rest acc h hb ih =>
    intro l hl
    rw [splitLinesFrom.eq_3 _ _ _ h, if_neg hb] at hl
    exact ih l hl

theorem splitLines_ends (cs : List Char) :
    ∀ l ∈ (splitLines cs).dropLast, ∃ c, l.getLast? = some c ∧ isLineBreak c = true :=
  splitLinesFrom_ends cs []

theorem blankOut_getElem? (l : List Char) (i : Nat) : (blankOut l)[i]? = l[i]?.map blankChar := by
  simp [blankOut]

theorem lines_step {lines out : List (List Char)} (h : List.Forall₂ KeptOrBlankLine lines out)
    (hends : ∀ l ∈ lines.dropLast, ∃ c, l.getLast? = some c ∧ isLineBreak c = true) :
    MaskStep lines.flatten out.flatten [] := by
  induction h with
  | nil => exact ⟨rfl, by simp, by simp, by simp⟩
  | @cons l l' rest rest' hl _ ih =>
    have ih := ih (fun x hx => by
      cases rest with
      | nil => simp at hx
      | cons y ys => exact hends x (by rw [List.dropLast_cons_cons]; exact List.mem_cons_of_mem _ hx))
    have hlen : l'.length = l.length := by rcases hl with rfl | rfl <;> simp [blankOut]
    have hline : ∀ (i : Nat) (c : Char), l[i]? = some c → l'[i]? = some c ∨ l'[i]? = some (blankChar c) := by
      intro i c hc
      rcases hl with rfl | rfl
      · exact .inl hc
      · exact .inr (by rw [blankOut_getElem?, hc]; rfl)
    simp only [List.flatten_cons]
    refine ⟨by simp [hlen, ih.length_eq], ?_, ?_, by simp⟩
    · intro i c d hc hd
      by_cases hi : i < l.length
      · rw [List.getElem?_append_left hi] at hc
        rw [List.getElem?_append_left (by omega)] at hd
        rcases hline i c hc with h' | h' <;> rw [h'] at hd <;> cases hd
        · exact .inl rfl
        · exact .inr rfl
      · rw [List.getElem?_append_right (by omega)] at hc
        rw [List.getElem?_append_right (by omega), hlen] at hd
        exact ih.keeps _ c d hc hd
    · intro j c hj hm hc
      by_cases hj1 : j + 1 < l.length
      · rw [List.getElem?_append_left (by omega)] at hj hm
        rw [List.getElem?_append_left hj1] at hc
        rw [List.getElem?_append_left (by omega)]
        rcases hl with rfl | rfl
        · exact absurd hj hm
        · rw [blankOut_getElem?, hc]; rfl
      · by_cases hjl : j < l.length
        · -- the backslash ends its line: only the last line may end so, and nothing follows it
          have hlast : l.getLast? = some '\\' := by
            rw [List.getLast?_eq_getElem?, show l.length - 1 = j by omega]
            rwa [List.getElem?_append_left hjl] at hj
          cases rest with
          | nil =>
            simp only [List.flatten_nil, List.append_nil] at hc
            have := (List.getElem?_eq_some_iff.1 hc).1
            omega
          | cons y ys =>
            obtain ⟨c', hc', hb⟩ := hends l (by rw [List.dropLast_cons_cons]; exact List.mem_cons_self)
            rw [hlast] at hc'
            cases hc'
            simp [isLineBreak] at hb
        · rw [List.getElem?_append_right (by omega)] at hj hc
          rw [List.getElem?_append_right (by omega), hlen] at hm
          rw [List.getElem?_append_right (by omega), hlen]
          have := ih.clean (j - l.length) c hj hm (by rwa [show j - l.length + 1 = j + 1 - l.length by omega])
          rwa [show j - l.length + 1 = j + 1 - l.length by omega] at this

theorem MaskStep.withRegions {t m : List Char} {rs : List Region} (h : MaskStep t m [])
    (hrs : ∀ r ∈ rs, ∀ (i : Nat) (d : Char), r.start ≤ i → i < r.stop → m[i]? = some d →
      isBlank d = true) : MaskStep t m rs :=
  { h with blank := hrs }

@[simp] theorem blankOut_length (l : List Char) : (blankOut l).length = l.length := by
  simp [blankOut]

theorem isBlank_of_blankOut {l : List Char} {k : Nat} {d : Char} (h : (blankOut l)[k]? = some d) :
    isBlank d = true := by
  rw [blankOut_getElem?] at h
  obtain ⟨c, -, rfl⟩ := Option.map_eq_some_iff.1 h
  exact isBlank_blankChar c

theorem flatten_cons_getElem?_of_le {l : List Char} {ls : List (List Char)} {offset i : Nat}
    (h : offset + l.length ≤ i) :
    (l :: ls).flatten[i - offset]? = ls.flatten[i - (offset + l.length)]? := by
  rw [List.flatten_cons, List.getElem?_append_right (by omega)]
  congr 1
  omega

theorem flatten_cons_getElem?_of_lt {l : List Char} {ls : List (List Char)} {offset i : Nat}
    (h₁ : offset ≤ i) (h : i < offset + l.length) :
    (l :: ls).flatten[i - offset]? = l[i - offset]? := by
  rw [List.flatten_cons, List.getElem?_append_left (by omega)]

theorem lineContent_length_le (line : List Char) : (lineContent line).length ≤ line.length := by
  simp only [lineContent, dropEndWhile, List.length_reverse]
  exact (List.length_dropWhile_le _ _).trans (by simp)

theorem isBlank_of_blank_line {line : List Char} (h : (trim (lineContent line)).isEmpty = true)
    {c : Char} (hc : c ∈ line) : isBlank c = true := by
  have hbody : ∀ x ∈ lineContent line, isBlank x = true := by
    intro x hx
    simp only [trim, trimEnd, trimStart, List.isEmpty_iff, List.reverse_eq_nil_iff,
      List.dropWhile_eq_nil_iff, List.mem_reverse] at h
    rw [← List.takeWhile_append_dropWhile (p := isBlank) (l := lineContent line)] at hx
    rcases List.mem_append.1 hx with hx | hx
    · exact List.mem_takeWhile_imp hx
    · exact h x hx
  rw [← List.mem_reverse, ← List.takeWhile_append_dropWhile
    (p := fun c => decide (c = '\r' ∨ c = '\n')) (l := line.reverse)] at hc
  rcases List.mem_append.1 hc with hc | hc
  · have := List.mem_takeWhile_imp hc
    simp only [decide_eq_true_eq] at this
    rcases this with rfl | rfl <;> decide
  · exact hbody c (by simpa [lineContent, dropEndWhile] using hc)

/-- Fenced code is masked line by line. A region reported from `offset` on starts at
`offset` or later, or at the fence still open there; and what it covers from `offset` on is
blank in the lines the pass gives back. -/
theorem maskFencesFrom_spec (lines : List (List Char)) (offset : Nat)
    (state : Option OpenFence) :
    List.Forall₂ KeptOrBlankLine lines (maskFencesFrom lines offset state).1 ∧
      (∀ r ∈ (maskFencesFrom lines offset state).2,
        offset ≤ r.start ∨ ∃ f, state = some f ∧ r.start = f.start) ∧
      ∀ r ∈ (maskFencesFrom lines offset state).2, ∀ (i : Nat) (d : Char),
        max r.start offset ≤ i → i < r.stop →
          (maskFencesFrom lines offset state).1.flatten[i - offset]? = some d →
          isBlank d = true := by
  induction lines generalizing offset state with
  | nil =>
    cases state with
    | none => simp [maskFencesFrom]
    | some f =>
      simp only [maskFencesFrom, List.mem_singleton, forall_eq]
      exact ⟨.nil, .inr ⟨f, rfl, rfl⟩, fun i d h1 h2 => by omega⟩
  | cons line rest ih =>
    have hrest : ∀ (out : List Char) (outs : List (List Char)) (r : Region) (i : Nat) (d : Char),
        out.length = line.length → offset + line.length ≤ i →
        (out :: outs).flatten[i - offset]? = some d →
        outs.flatten[i - (offset + line.length)]? = some d := by
      intro out outs r i d hlen hi hd
      rwa [flatten_cons_getElem?_of_le (by omega), hlen] at hd
    have hline : ∀ (outs : List (List Char)) (i : Nat) (d : Char), offset ≤ i →
        i < offset + line.length → (blankOut line :: outs).flatten[i - offset]? = some d →
        isBlank d = true := by
      intro outs i d h1 h2 hd
      rw [flatten_cons_getElem?_of_lt h1 (by simpa using h2)] at hd
      exact isBlank_of_blankOut hd
    cases state with
    | none =>
      simp only [maskFencesFrom]
      split
      · rename_i c w _
        obtain ⟨h1, h2, h3⟩ := ih (offset + line.length) (some ⟨c, w, offset⟩)
        refine ⟨.cons (.inr rfl) h1, fun r hr => ?_, fun r hr i d hi hi' hd => ?_⟩
        · rcases h2 r hr with h | ⟨f, hf, hs⟩
          · exact .inl (by omega)
          · cases hf; exact .inl (Nat.le_of_eq hs.symm)
        · by_cases hlt : i < offset + line.length
          · exact hline _ i d (by omega) hlt hd
          · exact h3 r hr i d (by omega) hi' (hrest _ _ r i d (by simp) (by omega) hd)
      · obtain ⟨h1, h2, h3⟩ := ih (offset + line.length) none
        refine ⟨.cons (.inl rfl) h1, fun r hr => ?_, fun r hr i d hi hi' hd => ?_⟩
        · rcases h2 r hr with h | ⟨f, hf, -⟩
          · exact .inl (by omega)
          · cases hf
        · have hs : offset + line.length ≤ r.start := by
            rcases h2 r hr with h | ⟨f, hf, -⟩
            · exact h
            · cases hf
          exact h3 r hr i d (by omega) hi' (hrest _ _ r i d rfl (by omega) hd)
    | some f =>
      simp only [maskFencesFrom]
      split
      · obtain ⟨h1, h2, h3⟩ := ih (offset + line.length) none
        have hs : ∀ r ∈ (maskFencesFrom rest (offset + line.length) none).2,
            offset + line.length ≤ r.start := by
          intro r hr
          rcases h2 r hr with h | ⟨f, hf, -⟩
          · exact h
          · cases hf
        refine ⟨.cons (.inr rfl) h1, fun r hr => ?_, fun r hr i d hi hi' hd => ?_⟩
        · rcases List.mem_cons.1 hr with rfl | hr
          · exact .inr ⟨f, rfl, rfl⟩
          · exact .inl (by have := hs r hr; omega)
        · rcases List.mem_cons.1 hr with rfl | hr
          · -- the closing line ends the region, inside the blanked line
            have hbody := lineContent_length_le line
            exact hline _ i d (by omega) (by simp at hi'; omega) hd
          · have := hs r hr
            exact h3 r hr i d (by omega) hi' (hrest _ _ r i d (by simp) (by omega) hd)
      · obtain ⟨h1, h2, h3⟩ := ih (offset + line.length) (some f)
        refine ⟨.cons (.inr rfl) h1, fun r hr => ?_, fun r hr i d hi hi' hd => ?_⟩
        · rcases h2 r hr with h | hf
          · exact .inl (by omega)
          · exact .inr hf
        · by_cases hlt : i < offset + line.length
          · exact hline _ i d (by omega) hlt hd
          · exact h3 r hr i d (by omega) hi' (hrest _ _ r i d (by simp) (by omega) hd)

theorem linePass_step {text : List Char} {out : List (List Char)} {rs : List Region}
    (hlines : List.Forall₂ KeptOrBlankLine (splitLines text) out)
    (hblank : ∀ r ∈ rs, ∀ (i : Nat) (d : Char), max r.start 0 ≤ i → i < r.stop →
      out.flatten[i - 0]? = some d → isBlank d = true) :
    MaskStep text out.flatten rs := by
  have hstep := lines_step hlines (splitLines_ends text)
  rw [flatten_splitLines] at hstep
  exact hstep.withRegions fun r hr i d hi hi' hd =>
    hblank r hr i d (by omega) hi' (by simpa using hd)

theorem maskFences_step (text : List Char) :
    MaskStep text (maskFences text).1 (maskFences text).2 := by
  obtain ⟨h1, -, h3⟩ := maskFencesFrom_spec (splitLines text) 0 none
  exact linePass_step h1 h3

theorem indentClose_cases {st st1 : IndentState} {blank indented : Bool} {closed : List Region}
    (h : (match st.blockStart with
      | some s =>
        if !(blank || indented) then
          ([⟨s, st.blockEnd, .code⟩], ⟨none, st.blockEnd, st.previousBlank, st.inList⟩)
        else ([], st)
      | none => ([], st)) = (closed, st1)) :
    (∃ s, st.blockStart = some s ∧ (blank || indented) = false ∧ closed = [⟨s, st.blockEnd, .code⟩] ∧
        st1 = ⟨none, st.blockEnd, st.previousBlank, st.inList⟩) ∨
      (closed = [] ∧ st1 = st ∧ ∀ s, st.blockStart = some s → (blank || indented) = true) := by
  split at h
  · rename_i s hs
    split at h
    · rename_i hclose
      cases h
      exact .inl ⟨s, hs, by simpa using hclose, rfl, rfl⟩
    · rename_i hkeep
      cases h
      refine .inr ⟨rfl, rfl, fun _ _ => ?_⟩
      simpa [Bool.or_eq_true, or_iff_not_imp_left] using hkeep
  · rename_i hs
    cases h
    exact .inr ⟨rfl, rfl, fun s' hs' => by simp [hs] at hs'⟩

/-- Indented code is masked line by line. While a block is open its end lies before
`offset`. A region reported from `offset` on starts at `offset` or later, or at the block
still open there; and what it covers from `offset` on is blank in the lines the pass gives
back: blanked indented lines, and blank lines kept inside a block. -/
theorem maskIndentedFrom_spec (lines : List (List Char)) (offset : Nat) (st : IndentState) :
    (∀ s, st.blockStart = some s → st.blockEnd ≤ offset) →
    List.Forall₂ KeptOrBlankLine lines (maskIndentedFrom lines offset st).1 ∧
      (∀ r ∈ (maskIndentedFrom lines offset st).2,
        offset ≤ r.start ∨ st.blockStart = some r.start) ∧
      ∀ r ∈ (maskIndentedFrom lines offset st).2, ∀ (i : Nat) (d : Char),
        max r.start offset ≤ i → i < r.stop →
          (maskIndentedFrom lines offset st).1.flatten[i - offset]? = some d →
          isBlank d = true := by
  fun_induction maskIndentedFrom lines offset st with
  | case1 offset st s hs =>
    intro hend
    have := hend s hs
    simp only [List.mem_singleton, forall_eq]
    exact ⟨.nil, .inr hs, fun i d h1 h2 => by omega⟩
  | case2 => simp
  | case3 line rest offset st body blank indented closed st1 hmatch next hopen opened r ih =>
    intro hend
    have hind : indented = true := by simp only [Bool.and_eq_true] at hopen; exact hopen.1
    obtain ⟨-, -, hclose, -⟩ | ⟨rfl, rfl, -⟩ := indentClose_cases hmatch
    · simp [hind] at hclose
    obtain ⟨h1, h2, h3⟩ := ih (fun _ _ => by
      have := lineContent_length_le line
      show offset + (lineContent line).length ≤ offset + line.length
      omega)
    refine ⟨.cons (.inr rfl) h1, fun r hr => ?_, fun r hr i d hi hi' hd => ?_⟩
    · rcases h2 r (by simpa using hr) with h | h
      · exact .inl (by omega)
      · cases hs : st1.blockStart with
        | none =>
          simp only [opened, hs, Option.getD_none, Option.some.injEq] at h
          exact .inl (by omega)
        | some s =>
          simp only [opened, hs, Option.getD_some, Option.some.injEq] at h
          exact .inr (by rw [h])
    · by_cases hlt : i < offset + line.length
      · rw [flatten_cons_getElem?_of_lt (by omega) (by simpa using hlt)] at hd
        exact isBlank_of_blankOut hd
      · rw [flatten_cons_getElem?_of_le (by simp; omega), blankOut_length] at hd
        exact h3 r (by simpa using hr) i d (by omega) hi' hd
  | case4 line rest offset st body blank indented closed st1 hmatch next hkeep inList r ih =>
    intro hend
    rcases indentClose_cases hmatch with ⟨s, hs, -, rfl, hst1⟩ | ⟨rfl, rfl, hopen⟩
    · -- the line closes the block: the region ends before it, and no block is open after it
      have hnone : st1.blockStart = none := by rw [hst1]
      obtain ⟨h1, h2, h3⟩ := ih (fun s' hs' => by simp [hnone] at hs')
      refine ⟨.cons (.inl rfl) h1, fun r hr => ?_, fun r hr i d hi hi' hd => ?_⟩
      · rcases List.mem_append.1 hr with hr | hr
        · rw [List.mem_singleton.1 hr]
          exact .inr hs
        · rcases h2 r hr with h | h
          · exact .inl (by omega)
          · simp [hnone] at h
      · rcases List.mem_append.1 hr with hr | hr
        · rw [List.mem_singleton.1 hr] at hi hi'
          have := hend s hs
          simp at hi hi'
          omega
        · have hs' : offset + line.length ≤ r.start := by
            rcases h2 r hr with h | h
            · exact h
            · simp [hnone] at h
          rw [flatten_cons_getElem?_of_le (by omega)] at hd
          exact h3 r hr i d (by omega) hi' hd
    · obtain ⟨h1, h2, h3⟩ := ih (fun s hs => by
        have := hend s hs
        show st1.blockEnd ≤ offset + line.length
        omega)
      refine ⟨.cons (.inl rfl) h1, fun r hr => ?_, fun r hr i d hi hi' hd => ?_⟩
      · rcases h2 r (by simpa using hr) with h | h
        · exact .inl (by omega)
        · exact .inr h
      · have hr : r ∈ (maskIndentedFrom rest (offset + line.length) ⟨st1.blockStart,
            st1.blockEnd, blank, inList⟩).2 := by simpa using hr
        by_cases hlt : i < offset + line.length
        · -- inside the kept line: only a block that stays open covers it, and then it is blank
          rcases h2 r hr with h | h
          · omega
          · have hline : blank = true := by
              have hb : st1.blockStart = some r.start := h
              have hor := hopen r.start hb
              simp only [hb, Option.isSome_some, Bool.true_or, Bool.and_true] at hkeep
              simp only [Bool.or_eq_true] at hor
              exact hor.resolve_right hkeep
            rw [flatten_cons_getElem?_of_lt (by omega) hlt] at hd
            exact isBlank_of_blank_line hline (List.mem_of_getElem? hd)
        · rw [flatten_cons_getElem?_of_le (by omega)] at hd
          exact h3 r hr i d (by omega) hi' hd

theorem maskIndented_step (text : List Char) :
    MaskStep text (maskIndented text).1 (maskIndented text).2 := by
  obtain ⟨h1, -, h3⟩ := maskIndentedFrom_spec (splitLines text) 0 {} (by simp)
  exact linePass_step h1 h3

/-! ### Where regions lie -/

theorem MaskStep.mono {t m : List Char} {rs rs' : List Region} (h : MaskStep t m rs)
    (hsub : ∀ r ∈ rs', r ∈ rs) : MaskStep t m rs' :=
  { h with blank := fun r hr => h.blank r (hsub r hr) }

/-- A masking pass whose regions also start before they stop, inside the text it reads. -/
structure PlacedStep (t m : List Char) (regions : List Region) : Prop
    extends MaskStep t m regions where
  within : ∀ r ∈ regions, r.start ≤ r.stop ∧ r.stop ≤ t.length

theorem PlacedStep.trans {t m₁ m₂ : List Char} {rs₁ rs₂ : List Region}
    (h₁ : PlacedStep t m₁ rs₁) (h₂ : PlacedStep m₁ m₂ rs₂) : PlacedStep t m₂ (rs₁ ++ rs₂) where
  toMaskStep := h₁.toMaskStep.trans h₂.toMaskStep
  within r hr := by
    rcases List.mem_append.1 hr with hr | hr
    · exact h₁.within r hr
    · rw [← h₁.length_eq]
      exact h₂.within r hr

theorem PlacedStep.mono {t m : List Char} {rs rs' : List Region} (h : PlacedStep t m rs)
    (hsub : ∀ r ∈ rs', r ∈ rs) : PlacedStep t m rs' where
  toMaskStep := h.toMaskStep.mono hsub
  within r hr := h.within r (hsub r hr)

theorem maskFencesFrom_within (lines : List (List Char)) (offset : Nat)
    (state : Option OpenFence) (hst : ∀ f, state = some f → f.start ≤ offset) :
    ∀ r ∈ (maskFencesFrom lines offset state).2,
      r.start ≤ r.stop ∧ r.stop ≤ offset + lines.flatten.length := by
  induction lines generalizing offset state with
  | nil =>
    cases state with
    | none => simp [maskFencesFrom]
    | some f => simpa [maskFencesFrom] using hst f rfl
  | cons line rest ih =>
    have hrest : ∀ st : Option OpenFence, (∀ f, st = some f → f.start ≤ offset + line.length) →
        ∀ r ∈ (maskFencesFrom rest (offset + line.length) st).2,
          r.start ≤ r.stop ∧ r.stop ≤ offset + (line :: rest).flatten.length := by
      intro st hst' r hr
      have := ih (offset + line.length) st hst' r hr
      simp only [List.flatten_cons, List.length_append]
      omega
    cases state with
    | none =>
      simp only [maskFencesFrom]
      split
      · exact hrest _ fun f hf => by cases hf; exact Nat.le_add_right _ _
      · exact hrest none fun f hf => by cases hf
    | some f =>
      have hf := hst f rfl
      simp only [maskFencesFrom]
      split
      · intro r hr
        rcases List.mem_cons.1 hr with rfl | hr
        · -- the closing line ends the region before its line break
          have := lineContent_length_le line
          simp only [List.flatten_cons, List.length_append]
          omega
        · exact hrest none (fun f hf => by cases hf) r hr
      · exact hrest (some f) fun f' hf' => by cases hf'; omega

theorem maskIndentedFrom_within (lines : List (List Char)) (offset : Nat) (st : IndentState) :
    (∀ s, st.blockStart = some s → s ≤ st.blockEnd ∧ st.blockEnd ≤ offset) →
    ∀ r ∈ (maskIndentedFrom lines offset st).2,
      r.start ≤ r.stop ∧ r.stop ≤ offset + lines.flatten.length := by
  fun_induction maskIndentedFrom lines offset st with
  | case1 offset st s hs =>
    intro hst
    simpa using hst s hs
  | case2 => simp
  | case3 line rest offset st body blank indented closed st1 hmatch next hopen opened r ih =>
    intro hst
    have hind : indented = true := by simp only [Bool.and_eq_true] at hopen; exact hopen.1
    obtain ⟨-, -, hclose, -⟩ | ⟨rfl, rfl, -⟩ := indentClose_cases hmatch
    · simp [hind] at hclose
    have hbody : body.length ≤ line.length := lineContent_length_le line
    have hopened : ∀ s, opened.blockStart = some s →
        s ≤ opened.blockEnd ∧ opened.blockEnd ≤ offset + line.length := by
      intro s hs
      cases hst1 : st1.blockStart with
      | none =>
        simp only [opened, hst1, Option.getD_none, Option.some.injEq] at hs
        subst hs
        exact ⟨Nat.le_add_right _ _, by show offset + body.length ≤ _; omega⟩
      | some s₀ =>
        simp only [opened, hst1, Option.getD_some, Option.some.injEq] at hs
        subst hs
        have := hst s₀ hst1
        exact ⟨by show s₀ ≤ offset + body.length; omega, by show offset + body.length ≤ _; omega⟩
    intro x hx
    have := ih hopened x (by simpa using hx)
    simp only [List.flatten_cons, List.length_append]
    omega
  | case4 line rest offset st body blank indented closed st1 hmatch next hkeep inList r ih =>
    intro hst
    have hcases := indentClose_cases hmatch
    have hlater : (∀ s, st1.blockStart = some s →
        s ≤ st1.blockEnd ∧ st1.blockEnd ≤ offset + line.length) →
        ∀ x ∈ r.2, x.start ≤ x.stop ∧ x.stop ≤ offset + (line :: rest).flatten.length := by
      intro h x hx
      have := ih h x hx
      simp only [List.flatten_cons, List.length_append]
      omega
    intro x hx
    rcases List.mem_append.1 hx with hx | hx
    · obtain ⟨s, hs, -, rfl, -⟩ | ⟨rfl, -⟩ := hcases
      · rw [List.mem_singleton.1 hx]
        have := hst s hs
        simp only [List.flatten_cons, List.length_append]
        omega
      · simp at hx
    · obtain ⟨s, -, -, -, rfl⟩ | ⟨-, rfl, -⟩ := hcases
      · exact hlater (fun s' hs' => by simp at hs') x hx
      · exact hlater (fun s hs => by have := hst s hs; omega) x hx

theorem maskFences_placed (text : List Char) :
    PlacedStep text (maskFences text).1 (maskFences text).2 where
  toMaskStep := maskFences_step text
  within r hr := by
    simpa [flatten_splitLines] using maskFencesFrom_within (splitLines text) 0 none (by simp) r hr

theorem maskIndented_placed (text : List Char) :
    PlacedStep text (maskIndented text).1 (maskIndented text).2 where
  toMaskStep := maskIndented_step text
  within r hr := by
    simpa [flatten_splitLines] using maskIndentedFrom_within (splitLines text) 0 {} (by simp) r hr

theorem maskMatches_placed {recognize : Array Char → Nat → Option Nat} (hr : Recognizes recognize)
    (kind : RegionKind) (input : Array Char) :
    PlacedStep input.toList (maskMatches recognize kind input).1.toList
      (maskMatches recognize kind input).2 where
  toMaskStep := maskMatches_step hr kind input
  within r hr' := by
    obtain ⟨news, hnews, hwf, -⟩ := maskMatchesFrom_spec hr kind input 0 input []
    simp only [maskMatches, hnews, List.reverse_nil, List.nil_append] at hr'
    obtain ⟨h1, h2, -⟩ := hwf r hr'
    exact ⟨Nat.le_of_lt h1, by simpa using h2⟩

/-! ### Masking -/

theorem mask_placed (text : List Char) :
    PlacedStep text (mask text).text.toList (mask text).regions := by
  -- name the text and regions after each pass, and chain the passes' steps
  rcases hm1 : maskFences text with ⟨m1, r1⟩
  have s1 : PlacedStep text m1 r1 := by simpa [hm1] using maskFences_placed text
  rcases hm2 : maskIndented m1 with ⟨m2, r2⟩
  have s2 : PlacedStep m1 m2 r2 := by simpa [hm2] using maskIndented_placed m1
  rcases hm3 : maskMatches codeSpanAt .code m2.toArray with ⟨m3, r3⟩
  have s3 : PlacedStep m2 m3.toList r3 := by
    simpa [hm3] using maskMatches_placed codeSpanAt_recognizes .code m2.toArray
  rcases hm4 : maskMatches commentAt .comment m3 with ⟨m4, r4⟩
  have s4 : PlacedStep m3.toList m4.toList r4 := by
    simpa [hm4] using maskMatches_placed commentAt_recognizes .comment m3
  rcases hm5 : maskMatches blockMathAt .mathBlock m4 with ⟨m5, r5⟩
  have s5 : PlacedStep m4.toList m5.toList r5 := by
    simpa [hm5] using maskMatches_placed blockMathAt_recognizes .mathBlock m4
  rcases hm6 : maskMatches inlineMathAt .mathInline m5 with ⟨m6, r6⟩
  have s6 : PlacedStep m5.toList m6.toList r6 := by
    simpa [hm6] using maskMatches_placed inlineMathAt_recognizes .mathInline m5
  rcases hm7 : maskMatches parenMathAt .mathParen m6 with ⟨m7, r7⟩
  have s7 : PlacedStep m6.toList m7.toList r7 := by
    simpa [hm7] using maskMatches_placed parenMathAt_recognizes .mathParen m6
  rcases hm8 : maskMatches bracketMathAt .mathBracket m7 with ⟨m8, r8⟩
  have s8 : PlacedStep m7.toList m8.toList r8 := by
    simpa [hm8] using maskMatches_placed bracketMathAt_recognizes .mathBracket m7
  have hall := (((((((s1.trans s2).trans s3).trans s4).trans s5).trans s6).trans s7).trans s8)
  simp only [mask, hm1, hm2, hm3, hm4, hm5, hm6, hm7, hm8]
  exact hall.mono fun r hr => by simpa [List.append_assoc] using (List.mem_mergeSort.1 hr)

theorem mask_step (text : List Char) :
    MaskStep text (mask text).text.toList (mask text).regions :=
  (mask_placed text).toMaskStep

theorem mask_regions_sorted (text : List Char) :
    (mask text).regions.Pairwise (fun a b => a.start ≤ b.start) := by
  unfold mask
  repeat' split
  exact (List.pairwise_mergeSort (fun a b c hab hbc => by simp at *; omega)
    (fun a b => by simp; omega) _).imp (by simp)

/-- Masking keeps the offsets of the document. The masked text is as long as the document,
and each of its characters is the document's own or a space standing for a character that
is not a line break. Every region is blank in the masked text, starts before it stops
inside the document, and the regions come in the order of their starts. -/
theorem mask_blanks_regions_in_place (text : List Char) :
    (mask text).text.size = text.length ∧
    (∀ (i : Nat) (c : Char), text[i]? = some c →
      (mask text).text[i]? = some c ∨
        ((mask text).text[i]? = some ' ' ∧ c ≠ '\r' ∧ c ≠ '\n')) ∧
    (∀ r ∈ (mask text).regions, ∀ i, r.start ≤ i → i < r.stop →
      ∃ d, (mask text).text[i]? = some d ∧ isBlank d = true) ∧
    (mask text).regions.Pairwise (fun a b => a.start ≤ b.start) ∧
    ∀ r ∈ (mask text).regions, r.start ≤ r.stop ∧ r.stop ≤ text.length := by
  have h := mask_placed text
  have hlen : (mask text).text.size = text.length := by simpa using h.length_eq
  refine ⟨hlen, fun i c hc => ?_, fun r hr i hi hi' => ?_, mask_regions_sorted text, h.within⟩
  · obtain ⟨d, hd, hcd⟩ := h.exists_keeps hc
    rw [Array.getElem?_toList] at hd
    rw [hd]
    rcases hcd with rfl | rfl
    · exact .inl rfl
    · unfold blankChar
      by_cases hbr : c = '\r' ∨ c = '\n'
      · exact .inl (by rw [if_pos hbr])
      · rw [if_neg hbr]
        exact .inr ⟨rfl, fun e => hbr (.inl e), fun e => hbr (.inr e)⟩
  · have hlt : i < (mask text).text.size := by
      have := (h.within r hr).2
      omega
    refine ⟨_, Array.getElem?_eq_getElem hlt, h.blank r hr i _ hi hi' ?_⟩
    rw [Array.getElem?_toList, Array.getElem?_eq_getElem hlt]

/-! ### Backslashes before a kept character -/

theorem KeptOrBlank.ne_backslash {c d : Char} (h : KeptOrBlank c d) (hc : c ≠ '\\') :
    d ≠ '\\' := by
  rcases h with rfl | rfl
  · exact hc
  · unfold blankChar
    split
    · exact hc
    · decide

theorem MaskStep.backslashes_before {t m : List Char} {rs : List Region} (h : MaskStep t m rs) :
    ∀ {i : Nat} {c : Char}, t[i]? = some c → m[i]? = some c → blankChar c ≠ c →
      (t.take i).reverse.takeWhile (· = '\\') = (m.take i).reverse.takeWhile (· = '\\')
  | 0, _, _, _, _ => by simp
  | i + 1, c, hc, hm, hne => by
    have hi : i < t.length := by
      have := (List.getElem?_eq_some_iff.1 hc).1
      omega
    obtain ⟨d, hd, hbd⟩ := h.exists_keeps (List.getElem?_eq_getElem hi)
    rw [List.take_add_one, List.take_add_one, List.getElem?_eq_getElem hi, hd]
    simp only [Option.toList_some, List.reverse_append, List.reverse_cons, List.reverse_nil,
      List.nil_append, List.singleton_append, List.takeWhile_cons]
    by_cases hb : t[i] = '\\'
    · -- a backslash kept before a kept character: had the pass blanked it, it would have
      have hd' : d = '\\' := by
        cases hk : decide (d = '\\') with
        | true => exact of_decide_eq_true hk
        | false =>
          have hclean := h.clean i c (by rw [List.getElem?_eq_getElem hi, hb])
            (by rw [hd]; simpa using hk) hc
          rw [hm] at hclean
          exact absurd (Option.some.inj hclean).symm hne
      subst hd'
      have hrun := MaskStep.backslashes_before h (List.getElem?_eq_getElem hi) (hb ▸ hd)
        (by rw [hb]; decide)
      simp [hb, hrun]
    · simp [hb, hbd.ne_backslash hb]

end BookLinks.Markdown
