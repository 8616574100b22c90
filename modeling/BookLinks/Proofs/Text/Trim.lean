import BookLinks.Text.Blank
import Mathlib.Data.List.DropRight
/-!
# Runs and trimming

A text splits at the end of its leading run, the longest prefix whose characters pass a test,
and trimming drops the blank runs at both ends. Trimming twice trims once, a blank added at
the end changes no trim, and a text made of spaces, a run of one non-blank character and blanks
trims to the run.
-/

namespace BookLinks.Text

section Runs

variable {α : Type} {p : α → Bool}

theorem takeWhile_append_of_stop {body rest : List α} (inside : ∀ a ∈ body, p a = true)
    (stop : ∀ a, rest.head? = some a → p a = false) : (body ++ rest).takeWhile p = body := by
  rw [List.takeWhile_append_of_pos inside]
  cases rest with
  | nil => simp
  | cons a rest => simp [stop a rfl]

theorem drop_length_takeWhile (p : α → Bool) (l : List α) :
    l.drop (l.takeWhile p).length = l.dropWhile p := by
  induction l with
  | nil => rfl
  | cons a l ih => by_cases h : p a <;> simp [List.takeWhile, List.dropWhile, h, ih]

theorem takeWhile_append_singleton {c : α} (hc : p c = false) (xs : List α) :
    (xs ++ [c]).takeWhile p = xs.takeWhile p := by
  induction xs with
  | nil => simp [List.takeWhile, hc]
  | cons x xs ih => by_cases hx : p x <;> simp [List.takeWhile, hx, ih]

end Runs

theorem takeWhile_replicate_append (x : Char) (n : Nat) {rest : List Char}
    (h : rest.head? ≠ some x) :
    (List.replicate n x ++ rest).takeWhile (· = x) = List.replicate n x := by
  apply takeWhile_append_of_stop
  · intro a ha
    simp [(List.mem_replicate.1 ha).2]
  · rintro a ha
    simp only [decide_eq_false_iff_not]
    rintro rfl
    exact h ha

theorem eq_replicate_takeWhile_append (x : Char) (l : List Char) :
    l = List.replicate (l.takeWhile (· = x)).length x ++ l.dropWhile (· = x) ∧
      (l.dropWhile (· = x)).head? ≠ some x := by
  have hrep : l.takeWhile (· = x) = List.replicate (l.takeWhile (· = x)).length x :=
    List.eq_replicate_iff.2 ⟨rfl, fun b hb => by simpa using List.all_eq_true.1 List.all_takeWhile b hb⟩
  constructor
  · calc l = l.takeWhile (· = x) ++ l.dropWhile (· = x) := List.takeWhile_append_dropWhile.symm
      _ = _ := by rw [← hrep]
  · have := List.head?_dropWhile_not (fun c => decide (c = x)) l
    intro hx
    rw [hx] at this
    simp at this

/-! ### Blanks at the ends -/

theorem trimEnd_append_blanks (u : List Char) :
    trimEnd u ++ (u.reverse.takeWhile isBlank).reverse = u := by
  rw [trimEnd, ← List.reverse_append, List.takeWhile_append_dropWhile, List.reverse_reverse]

theorem eq_takeWhile_trim_append (b : List Char) :
    ∃ tail, b = b.takeWhile isBlank ++ trim b ++ tail ∧ ∀ x ∈ tail, isBlank x = true := by
  refine ⟨((trimStart b).reverse.takeWhile isBlank).reverse, ?_, ?_⟩
  · rw [List.append_assoc, trim, trimEnd_append_blanks, trimStart, List.takeWhile_append_dropWhile]
  · intro x hx
    simpa using List.all_eq_true.1 List.all_takeWhile x (List.mem_reverse.1 hx)

theorem trim_trim (cs : List Char) : trim (trim cs) = trim cs := by
  have hhead := List.head?_dropWhile_not isBlank cs
  have hstart : trimStart (trimEnd (trimStart cs)) = trimEnd (trimStart cs) := by
    have hpre := trimEnd_append_blanks (trimStart cs)
    cases he : trimEnd (trimStart cs) with
    | nil => rfl
    | cons c rest =>
      rw [he] at hpre
      have hc : (trimStart cs).head? = some c := by rw [← hpre]; simp
      simp only [trimStart] at hc
      rw [hc] at hhead
      simp [trimStart, hhead]
  unfold trim
  rw [hstart]
  simp [trimEnd, List.dropWhile_idempotent]

theorem strip_strip (s : String) : strip (strip s) = strip s := by
  simp [strip, trim_trim]

theorem trim_append_blank {c : Char} (hc : isBlank c = true) (b : List Char) :
    trim (b ++ [c]) = trim b := by
  unfold trim trimStart
  rw [List.dropWhile_append]
  split
  · rename_i he
    simp only [List.isEmpty_iff] at he
    simp [he, hc, trimEnd]
  · simp [trimEnd, hc]

theorem trim_run {m : Char} (hm : isBlank m = false) {n : Nat} (hn : 0 < n) (k : Nat)
    {rest : List Char} (hrest : ∀ x ∈ rest, isBlank x = true) :
    trim (List.replicate k ' ' ++ List.replicate n m ++ rest) = List.replicate n m := by
  obtain ⟨n, rfl⟩ : ∃ n', n = n' + 1 := ⟨n - 1, by omega⟩
  have hstart : trimStart (List.replicate k ' ' ++ List.replicate (n + 1) m ++ rest) =
      List.replicate (n + 1) m ++ rest := by
    rw [trimStart, List.append_assoc, List.dropWhile_append_of_pos (by simp [isBlank]),
      List.replicate_succ, List.cons_append, List.dropWhile_cons_of_neg (by simp [hm])]
  have hend : (List.replicate (n + 1) m ++ rest).reverse.dropWhile isBlank =
      (List.replicate (n + 1) m).reverse := by
    rw [List.reverse_append, List.dropWhile_append_of_pos (by simpa using hrest),
      List.reverse_replicate, List.replicate_succ, List.dropWhile_cons_of_neg (by simp [hm])]
  rw [trim, hstart, trimEnd, hend, List.reverse_reverse]

end BookLinks.Text
