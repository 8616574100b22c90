import BookLinks.Markdown.Heading
import Mathlib
/-!
# Stripping emphasis from headings

The text of a heading loses its emphasis marks by rounds: a round rewrites the emphasis by
asterisks and tildes, then the emphasis by underscores, and rounds go on until one changes
nothing. Each match is replaced by its body, which is two marks or more shorter, so a round
that changes the text shortens it, and the rounds end after at most as many rounds as the text
has characters.

Main statement: `headingText_strips_emphasis`. The rounds on a heading end at a text on which
neither kind of emphasis finds a match, and that text is the one whose escapes are then read.
-/

namespace BookLinks.Text

/-- A recognizer shrinks when each match it finds ends inside the text and is replaced by at
least two characters fewer than it spans. -/
def Shrinks (r : Recognizer) : Prop :=
  ∀ t p e rep, r t p = some (e, rep) → e ≤ t.size ∧ rep.length + 2 ≤ e - p

theorem rewriteFrom_of_no_match {r : Recognizer} {t : Array Char} {p : Nat}
    (h : ∀ q, p ≤ q → q < t.size → r t q = none) : rewriteFrom r t p = t.toList.drop p := by
  fun_induction rewriteFrom r t p with
  | case1 p hp e rep hm _ _ => simp [h p (Nat.le_refl p) hp] at hm
  | case2 p hp e rep hm _ _ => simp [h p (Nat.le_refl p) hp] at hm
  | case3 p hp _ ih =>
    have hp' : p < t.toList.length := by simpa using hp
    rw [ih (fun q hq => h q (by omega)), ← List.getElem_cons_drop hp']
    simp
  | case4 p hp => rw [List.drop_eq_nil_of_le (by rw [Array.length_toList]; omega)]

section Shrinking

variable {r : Recognizer} (hr : Shrinks r) (t : Array Char)
include hr

theorem length_rewriteFrom_le (p : Nat) : (rewriteFrom r t p).length ≤ t.size - p := by
  fun_induction rewriteFrom r t p with
  | case1 p _ e rep hm _ ih =>
    have := hr t p e rep hm
    simp only [List.length_append]
    omega
  | case2 p _ e rep hm hpe _ =>
    have := hr t p e rep hm
    omega
  | case3 p hp _ ih =>
    simp only [List.length_cons]
    omega
  | case4 => simp

theorem length_rewriteFrom_lt {p q : Nat} (hpq : p ≤ q) (hq : q < t.size) (hm : r t q ≠ none) :
    (rewriteFrom r t p).length < t.size - p := by
  fun_induction rewriteFrom r t p with
  | case1 p _ e rep he _ _ =>
    have := hr t p e rep he
    have := length_rewriteFrom_le hr t e
    simp only [List.length_append]
    omega
  | case2 p _ e rep he hpe _ =>
    have := hr t p e rep he
    omega
  | case3 p _ hnone ih =>
    have hlt : p + 1 ≤ q := by
      rcases Nat.lt_or_eq_of_le hpq with h | rfl
      · exact h
      · exact absurd hnone hm
    have := ih hlt
    simp only [List.length_cons]
    omega
  | case4 p hp => omega

theorem rewrite_eq_or_length_lt (cs : List Char) :
    rewrite r cs = cs ∨ (rewrite r cs).length < cs.length := by
  by_cases h : ∀ q, q < cs.length → r cs.toArray q = none
  · left
    rw [rewrite, rewriteFrom_of_no_match (fun q _ hq => h q (by simpa using hq))]
    simp
  · right
    obtain ⟨q, hq, hm⟩ := not_forall₂.1 h
    simpa [rewrite] using length_rewriteFrom_lt hr cs.toArray (Nat.zero_le q) (by simpa using hq) hm

theorem length_rewrite_le (cs : List Char) : (rewrite r cs).length ≤ cs.length := by
  rcases rewrite_eq_or_length_lt hr cs with h | h
  · exact Nat.le_of_eq (congrArg List.length h)
  · exact Nat.le_of_lt h

theorem eq_none_of_rewrite_eq {cs : List Char} (h : rewrite r cs = cs) {q : Nat}
    (hq : q < cs.length) : r cs.toArray q = none := by
  by_contra hm
  have := length_rewriteFrom_lt hr cs.toArray (Nat.zero_le q) (by simpa using hq) hm
  rw [← rewrite, h] at this
  simp at this

end Shrinking

theorem le_size_of_spellsFrom {t : Array Char} {i : Nat} {w : List Char}
    (h : spellsFrom t i w = true) (hw : w ≠ []) : i + w.length ≤ t.size := by
  have hk : w.length - 1 < w.length := by
    have := List.length_pos_iff.2 hw
    omega
  have hlast := List.all_eq_true.1 h (w.length - 1) (List.mem_range.2 hk)
  rw [List.getElem?_eq_getElem hk] at hlast
  have hin : i + (w.length - 1) < t.size := by
    by_contra hge
    rw [Array.getElem?_eq_none (by omega)] at hlast
    simp at hlast
  omega

end BookLinks.Text

namespace BookLinks.Markdown

open BookLinks.Text

theorem emphasisClose_bounds {t : Array Char} {mark : Char} {n : Nat}
    {after : Option Char → Bool} {j q : Nat} (h : emphasisClose t mark n after j = some q) :
    j < q ∧ q + n ≤ t.size := by
  fun_induction emphasisClose t mark n after j with
  | case1 => simp at h
  | case2 x hx _ hfound =>
    cases h
    have hspell : spellsFrom t (x + 1) (List.replicate n mark) = true := by
      simp only [Bool.and_eq_true] at hfound
      exact hfound.1.2
    rcases Nat.eq_zero_or_pos n with rfl | hn
    · omega
    · have := le_size_of_spellsFrom hspell (by simp only [ne_eq, List.replicate_eq_nil_iff]; omega)
      simp only [List.length_replicate] at this
      omega
  | case3 x _ _ _ ih =>
    have := ih h
    omega
  | case4 => simp at h

theorem emphasisWith_shrinks {t : Array Char} {p : Nat} {mark : Char} {n : Nat}
    {after : Option Char → Bool} {e : Nat} {rep : List Char} (hn : 0 < n)
    (h : emphasisWith t p mark n after = some (e, rep)) : e ≤ t.size ∧ rep.length + 2 ≤ e - p := by
  unfold emphasisWith at h
  cases hf : t[p + n]? with
  | none => simp [hf] at h
  | some first =>
    cases hq : emphasisClose t mark n after (p + n) with
    | none => simp [hf, hq] at h
    | some q =>
      cases hb : isBlank first with
      | true =>
        have hg : (guard (isBlank first = false) : Option Unit) = none := by rw [hb]; rfl
        simp [hf, hq, hg] at h
      | false =>
        simp [hf, hq, hb] at h
        obtain ⟨rfl, rfl⟩ := h
        have := emphasisClose_bounds hq
        simp only [sliceChars, Array.length_toList, Array.size_extract]
        omega

theorem firstEmphasis_shrinks {t : Array Char} {p : Nat} {mark : Char}
    {after : Option Char → Bool} :
    ∀ {ns : List Nat} {e : Nat} {rep : List Char}, (∀ n ∈ ns, 0 < n) →
      firstEmphasis t p mark after ns = some (e, rep) → e ≤ t.size ∧ rep.length + 2 ≤ e - p
  | [], _, _, _, h => by simp [firstEmphasis] at h
  | n :: ns, _, _, hpos, h => by
    unfold firstEmphasis at h
    split at h
    · cases h
      exact emphasisWith_shrinks (hpos n (by simp)) ‹_›
    · exact firstEmphasis_shrinks (fun m hm => hpos m (by simp [hm])) h

theorem pos_of_mem_runWidths {t : Array Char} {p : Nat} {mark : Char} :
    ∀ n ∈ runWidths t p mark, 0 < n := by
  intro n hn
  simp only [runWidths, List.mem_map] at hn
  obtain ⟨m, -, rfl⟩ := hn
  exact Nat.succ_pos m

theorem shrinks_starEmphasisAt : Shrinks starEmphasisAt := by
  intro t p e rep h
  unfold starEmphasisAt at h
  split at h
  · exact firstEmphasis_shrinks pos_of_mem_runWidths h
  · split at h
    · exact firstEmphasis_shrinks (by simp) h
    · cases h

theorem shrinks_underscoreEmphasisAt : Shrinks underscoreEmphasisAt := by
  intro t p e rep h
  unfold underscoreEmphasisAt at h
  split at h
  · exact firstEmphasis_shrinks pos_of_mem_runWidths h
  · cases h

theorem starEmphasisAt_of_size_le {t : Array Char} {p : Nat} (h : t.size ≤ p) :
    starEmphasisAt t p = none := by
  have hnot : spellsFrom t p ['~', '~'] = false := by
    rw [Bool.eq_false_iff]
    intro hs
    have := le_size_of_spellsFrom hs (by simp)
    simp only [List.length_cons, List.length_nil] at this
    omega
  simp [starEmphasisAt, hnot, Array.getElem?_eq_none h]

theorem underscoreEmphasisAt_of_size_le {t : Array Char} {p : Nat} (h : t.size ≤ p) :
    underscoreEmphasisAt t p = none := by
  simp [underscoreEmphasisAt, Array.getElem?_eq_none h]

/-! ### Rounds -/

theorem stripEmphasis_succ (n : Nat) (cs : List Char) :
    stripEmphasis (n + 1) cs =
      if emphasisRound cs = cs then cs else stripEmphasis n (emphasisRound cs) := rfl

theorem length_emphasisRound_lt {cs : List Char} (h : emphasisRound cs ≠ cs) :
    (emphasisRound cs).length < cs.length := by
  have hu := length_rewrite_le shrinks_underscoreEmphasisAt (rewrite starEmphasisAt cs)
  rcases rewrite_eq_or_length_lt shrinks_starEmphasisAt cs with hs | hs
  · rw [emphasisRound, hs] at h ⊢
    exact (rewrite_eq_or_length_lt shrinks_underscoreEmphasisAt cs).resolve_left h
  · exact Nat.lt_of_le_of_lt hu hs

theorem emphasis_eq_none_of_emphasisRound_eq {cs : List Char} (h : emphasisRound cs = cs)
    (p : Nat) : starEmphasisAt cs.toArray p = none ∧ underscoreEmphasisAt cs.toArray p = none := by
  -- the first rewrite cannot have shortened the text, or the round would have too
  have hs : rewrite starEmphasisAt cs = cs := by
    refine (rewrite_eq_or_length_lt shrinks_starEmphasisAt cs).resolve_right fun hlt => ?_
    have := length_rewrite_le shrinks_underscoreEmphasisAt (rewrite starEmphasisAt cs)
    rw [← emphasisRound, h] at this
    omega
  have hu : rewrite underscoreEmphasisAt cs = cs := by rwa [emphasisRound, hs] at h
  by_cases hp : p < cs.length
  · exact ⟨eq_none_of_rewrite_eq shrinks_starEmphasisAt hs hp,
      eq_none_of_rewrite_eq shrinks_underscoreEmphasisAt hu hp⟩
  · have hle : cs.toArray.size ≤ p := by simpa using Nat.le_of_not_lt hp
    exact ⟨starEmphasisAt_of_size_le hle, underscoreEmphasisAt_of_size_le hle⟩

theorem stripEmphasis_eq_iterate :
    ∀ (n : Nat) (cs : List Char), cs.length < n →
      ∃ k ≤ cs.length, (∀ i < k, emphasisRound^[i + 1] cs ≠ emphasisRound^[i] cs) ∧
        stripEmphasis n cs = emphasisRound^[k] cs ∧
        emphasisRound (emphasisRound^[k] cs) = emphasisRound^[k] cs
  | 0, _, h => absurd h (Nat.not_lt_zero _)
  | n + 1, cs, h => by
    rw [stripEmphasis_succ]
    by_cases hfix : emphasisRound cs = cs
    · exact ⟨0, Nat.zero_le _, fun i hi => absurd hi (Nat.not_lt_zero i), by simp [hfix], hfix⟩
    · have hlt := length_emphasisRound_lt hfix
      obtain ⟨k, hk, hchange, hrun, hstop⟩ := stripEmphasis_eq_iterate n (emphasisRound cs) (by omega)
      refine ⟨k + 1, by omega, fun i hi => ?_, ?_, ?_⟩
      · cases i with
        | zero => exact hfix
        | succ i =>
          simpa only [Function.iterate_succ_apply] using hchange i (by omega)
      · simpa only [if_neg hfix, Function.iterate_succ_apply] using hrun
      · simpa only [Function.iterate_succ_apply] using hstop

/-- The emphasis-stripping rounds of a heading end: a round that changes a text shortens it,
and from the heading's inline text, the rounds change it `k` times for some `k` no larger than its length and then reach a text that a round leaves
alone. On that text neither kind of emphasis finds a match, and the heading's text is read from
it by replacing escapes and trimming blanks. -/
theorem headingText_strips_emphasis (raw : String) :
    (∀ t, emphasisRound t ≠ t → (emphasisRound t).length < t.length) ∧
    ∃ k ≤ (inlineText raw).length,
      (∀ i < k, emphasisRound^[i + 1] (inlineText raw) ≠ emphasisRound^[i] (inlineText raw)) ∧
      headingText raw =
        String.ofList (trim (rewrite escapeAt (emphasisRound^[k] (inlineText raw)))) ∧
      emphasisRound (emphasisRound^[k] (inlineText raw)) = emphasisRound^[k] (inlineText raw) ∧
      ∀ p, starEmphasisAt (emphasisRound^[k] (inlineText raw)).toArray p = none ∧
        underscoreEmphasisAt (emphasisRound^[k] (inlineText raw)).toArray p = none := by
  refine ⟨fun t ht => length_emphasisRound_lt ht, ?_⟩
  obtain ⟨k, hk, hchange, hrun, hstop⟩ :=
    stripEmphasis_eq_iterate ((inlineText raw).length + 1) (inlineText raw) (by omega)
  refine ⟨k, hk, hchange, ?_, hstop, emphasis_eq_none_of_emphasisRound_eq hstop⟩
  rw [← hrun]
  rfl

end BookLinks.Markdown
