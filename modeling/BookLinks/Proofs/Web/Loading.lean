import BookLinks.Proofs.Web.Persistence
import Mathlib
/-!
# What a cache file loads as

The cache takes its entries from the members of the mapping under `entries` in its file, when
the file is JSON text whose `version` equals one. A member becomes an entry under its key when
its value is a mapping with a boolean `valid` and a number `timestamp`: an integer gives the
double nearest to it, a boolean one or zero, a double itself. The reason is kept when it is text
and is empty otherwise. Every other member is passed over, and a file that is missing, cannot be
read, or is not JSON gives no entries; a loaded cache is clean.

Making the cache stops, instead of passing the file over, in exactly three cases: the file's
bytes are not UTF-8, the text holds an integer with more digits than may be converted, or a
member that would be taken has an integer timestamp too large for a double.
-/
namespace BookLinks.Web

open BookLinks.Data BookLinks.Data.Json BookLinks.Decimal BookLinks.Fs

/-! ### Entries of a cache file -/

/-- How a cache file gives a timestamp: an integer as the double nearest to it, a boolean as one
or zero, and a double as itself. -/
inductive StampOf : Value → Float → Prop
  | int {n : Int} {x : Float} (h : Int.toFloat? n = some x) : StampOf (.int n) x
  | bool (b : Bool) : StampOf (.bool b) (if b then 1 else 0)
  | float (x : Float) : StampOf (.float x) x

/-- A value of a cache file that the cache takes as the entry `e`: a mapping whose `valid` is a
boolean and whose `timestamp` is a number, with its `reason` when that is text. -/
structure ReadsAsEntry (raw : Value) (e : CacheEntry) : Prop where
  map : ∃ fs, raw = .map fs
  valid : raw.field? "valid" = some (.bool e.valid)
  timestamp : ∃ t, raw.field? "timestamp" = some t ∧ StampOf t e.timestamp
  reason : e.reason = ((raw.field? "reason").bind Value.str?).getD ""

/-- A value that would be taken as an entry but for its integer timestamp, too large for a
double. -/
def Overflows (raw : Value) : Prop :=
  ∃ valid n, raw.field? "valid" = some (.bool valid) ∧ raw.field? "timestamp" = some (.int n) ∧
    Int.toFloat? n = none

theorem reason_eq_getD (raw : Value) :
    (match raw.field? "reason" with
      | some (.str s) => s
      | _ => "") = ((raw.field? "reason").bind Value.str?).getD "" := by
  rcases raw.field? "reason" with _ | ⟨_ | _ | _ | _ | s | _ | _ | _ | _ | _⟩ <;> rfl

theorem field?_of_not_map {raw : Value} (h : ∀ fs, raw ≠ .map fs) (key : String) :
    raw.field? key = none := by
  cases raw with
  | map fs => exact absurd rfl (h fs)
  | _ => rfl

theorem entryOf_eq_some_iff {raw : Value} {e : CacheEntry} :
    entryOf raw = .ok (some e) ↔ ReadsAsEntry raw e := by
  constructor
  · intro h
    cases raw with
    | map fs =>
      unfold entryOf at h
      dsimp only at h
      split at h
      · next valid n hv ht =>
        cases hn : Int.toFloat? n with
        | none => simp [hn] at h
        | some x =>
          simp only [hn, Except.ok.injEq, Option.some.injEq] at h
          subst h
          exact ⟨⟨fs, rfl⟩, hv, ⟨_, ht, .int hn⟩, reason_eq_getD _⟩
      · next valid x hv ht =>
        simp only [Except.ok.injEq, Option.some.injEq] at h
        subst h
        exact ⟨⟨fs, rfl⟩, hv, ⟨_, ht, .float x⟩, reason_eq_getD _⟩
      · next valid b hv ht =>
        simp only [Except.ok.injEq, Option.some.injEq] at h
        subst h
        exact ⟨⟨fs, rfl⟩, hv, ⟨_, ht, .bool b⟩, reason_eq_getD _⟩
      · cases h
    | _ => cases h
  · rintro ⟨⟨fs, rfl⟩, hv, ⟨t, ht, hstamp⟩, hreason⟩
    obtain ⟨valid, reason, stamp⟩ := e
    dsimp only at hv hreason hstamp
    subst hreason
    unfold entryOf
    dsimp only
    rw [hv, ht]
    have hr := congrArg (fun r => (Except.ok (some (CacheEntry.mk valid r stamp)) :
      Except CacheFault (Option CacheEntry))) (reason_eq_getD (.map fs))
    cases hstamp with
    | int h =>
      simp only [h]
      exact hr
    | bool b => exact hr
    | float x => exact hr

theorem entryOf_error_iff (raw : Value) : (∃ f, entryOf raw = .error f) ↔ Overflows raw := by
  constructor
  · rintro ⟨f, h⟩
    cases raw with
    | map fs =>
      unfold entryOf at h
      dsimp only at h
      split at h
      · next valid n hv ht =>
        cases hn : Int.toFloat? n with
        | none => exact ⟨valid, n, hv, ht, hn⟩
        | some x => simp [hn] at h
      all_goals cases h
    | _ => cases h
  · rintro ⟨valid, n, hv, ht, hn⟩
    have hmap : ∃ fs, raw = .map fs := by
      by_contra hnot
      rw [field?_of_not_map (fun fs h => hnot ⟨fs, h⟩)] at hv
      cases hv
    obtain ⟨fs, rfl⟩ := hmap
    exact ⟨.overflow, by unfold entryOf; dsimp only; rw [hv, ht]; simp [hn]⟩

/-! ### The members of a mapping with text keys -/

theorem field?_object (fs : List (String × Value)) (key : String) :
    (Value.object fs).field? key = fs.lookup key := by
  induction fs with
  | nil => rfl
  | cons f fs ih =>
    obtain ⟨k, x⟩ := f
    simp only [Value.object, Value.field?, List.map_cons, List.find?_cons, Value.sameKey,
      List.lookup_cons] at ih ⊢
    by_cases h : key = k
    · subst h
      simp
    · have hne : (k == key) = false := by simpa using Ne.symm h
      have hne' : (key == k) = false := by simpa using h
      rw [hne, hne']
      exact ih

theorem lookup_eq_some_iff_mem {gs : List (String × Value)} (hk : (gs.map Prod.fst).Nodup)
    {key : String} {raw : Value} : gs.lookup key = some raw ↔ (key, raw) ∈ gs := by
  induction gs with
  | nil => simp
  | cons g gs ih =>
    obtain ⟨k, x⟩ := g
    rw [List.map_cons, List.nodup_cons] at hk
    rw [List.lookup_cons, List.mem_cons]
    by_cases h : key = k
    · subst h
      have hout : (key, raw) ∉ gs := fun hm =>
        hk.1 (by simpa using List.mem_map_of_mem (f := Prod.fst) hm)
      simp [hout, eq_comm]
    · have hne : (key == k) = false := by simpa using h
      simp only [hne, ih hk.2, Prod.mk.injEq, h, false_and, false_or]

/-- The entry a value of a cache file's entries gives, if any. -/
def entryValue (raw : Value) : Option CacheEntry := (entryOf raw).toOption.join

theorem entryValue_eq_some_iff {raw : Value} {e : CacheEntry} :
    entryValue raw = some e ↔ ReadsAsEntry raw e := by
  rw [← entryOf_eq_some_iff, entryValue]
  rcases entryOf raw with _ | _ | e' <;> simp [Except.toOption]

theorem lookup_filterMap_entries (h : Value → Option CacheEntry) :
    ∀ {gs : List (String × Value)}, (gs.map Prod.fst).Nodup → ∀ key,
      (gs.filterMap fun g => (h g.2).map (g.1, ·)).lookup key = (gs.lookup key).bind h
  | [], _, _ => rfl
  | (k, raw) :: gs, hk, key => by
    rw [List.map_cons, List.nodup_cons] at hk
    have ih := lookup_filterMap_entries h hk.2
    have hrest : (gs.filterMap fun g => (h g.2).map (g.1, ·)).lookup k = none := by
      rw [ih, List.lookup_eq_none_iff.2 fun p hp => bne_iff_ne.2 fun heq =>
        hk.1 (by rw [heq]; exact List.mem_map.2 ⟨p, hp, rfl⟩), Option.bind_none]
    rw [List.filterMap_cons, List.lookup_cons]
    by_cases hkey : key = k
    · subst hkey
      cases hh : h raw <;> simp [hh, hrest]
    · have hne : (key == k) = false := by simpa using hkey
      rw [hne]
      cases hh : h raw
      · exact ih key
      · rw [Option.map_some, List.lookup_cons, hne]
        exact ih key

theorem foldlM_members_eq_ok {f : List (String × CacheEntry) → Value × Value →
      Except CacheFault (List (String × CacheEntry))}
    (hf : ∀ acc (g : String × Value),
      f acc (.str g.1, g.2) = (entryOf g.2).map fun o => acc ++ (o.map (g.1, ·)).toList) :
    ∀ (gs : List (String × Value)) (acc res : List (String × CacheEntry)),
      (gs.map fun g => ((.str g.1 : Value), g.2)).foldlM f acc = .ok res ↔
        (∀ g ∈ gs, ∃ o, entryOf g.2 = .ok o) ∧
          res = acc ++ gs.filterMap fun g => (entryValue g.2).map (g.1, ·)
  | [], acc, res => by simp [pure, Except.pure, eq_comm]
  | g :: gs, acc, res => by
    rw [List.map_cons, List.foldlM_cons, hf]
    cases he : entryOf g.2 with
    | error x => simp [he, Except.map, bind, Except.bind]
    | ok o =>
      simp only [Except.map, bind, Except.bind]
      rw [foldlM_members_eq_ok hf gs]
      have hfirst : (entryValue g.2).map (g.1, ·) = o.map (g.1, ·) := by
        simp [entryValue, he, Except.toOption]
      cases o <;> simp [hfirst, he, List.append_assoc]

/-! ### The entries of a file -/

/-- The member under a key of the entries of a parsed cache file, when its version is one. -/
def fileMember (data : Value) (key : String) : Option Value :=
  if (data.field? "version").map Value.isOne = some true then
    (data.field? "entries").bind (·.field? key)
  else none

theorem entriesOf_members {data : Value} (hd : TextKeyed data) :
    ∃ gs : List (String × Value), (gs.map Prod.fst).Nodup ∧
      (∀ key, fileMember data key = gs.lookup key) ∧
      ∀ es, entriesOf data = .ok es ↔ (∀ g ∈ gs, ∃ o, entryOf g.2 = .ok o) ∧
        es = gs.filterMap fun g => (entryValue g.2).map (g.1, ·) := by
  have hnone : (∀ key, fileMember data key = none) → entriesOf data = .ok [] →
      ∃ gs : List (String × Value), (gs.map Prod.fst).Nodup ∧
        (∀ key, fileMember data key = gs.lookup key) ∧
        ∀ es, entriesOf data = .ok es ↔ (∀ g ∈ gs, ∃ o, entryOf g.2 = .ok o) ∧
          es = gs.filterMap fun g => (entryValue g.2).map (g.1, ·) := fun hm he =>
    ⟨[], List.nodup_nil, hm, fun es => by simp [he, eq_comm]⟩
  cases hd with
  | @map fs hk hv =>
    by_cases hver : ((Value.object fs).field? "version").map Value.isOne = some true
    · cases hent : (Value.object fs).field? "entries" with
      | none =>
        refine hnone (fun key => by simp [fileMember, hent]) ?_
        simp only [Value.object] at hver hent
        simp [entriesOf, Value.object, hent]
      | some x =>
        obtain ⟨f, hf, hfx⟩ := mem_of_field? hent
        have hx : TextKeyed x := hfx ▸ hv f hf
        cases hx with
        | @map gs hgk _ =>
          refine ⟨gs, hgk, fun key => ?_, fun es => ?_⟩
          · rw [fileMember, if_pos hver, hent, Option.bind_some, field?_object]
          · simp only [Value.object] at hver hent
            simp only [entriesOf, Value.object, hent, hver, Option.getD_some, Bool.not_true,
              Bool.false_eq_true, if_false]
            rw [foldlM_members_eq_ok (fun acc g => ?_) gs [] es, List.nil_append]
            dsimp only
            rcases entryOf g.2 with x | _ | e <;> simp [bind, Except.bind, Except.map, pure, Except.pure]
        | _ =>
          refine hnone (fun key => by rw [fileMember, if_pos hver, hent]; rfl) ?_
          simp only [Value.object] at hver hent
          simp only [entriesOf, Value.object, hent, hver, Option.getD_some, Bool.not_true,
              Bool.false_eq_true, if_false]
    · refine hnone (fun key => by simp [fileMember, hver]) ?_
      have hoff : (!(((Value.object fs).field? "version").map Value.isOne).getD false) = true := by
        revert hver
        rcases ((Value.object fs).field? "version").map Value.isOne with _ | _ | _ <;> simp
      unfold entriesOf
      dsimp only [Value.object] at hoff ⊢
      exact if_pos hoff
  | _ => exact hnone (fun key => rfl) rfl

theorem entriesOf_error_iff {data : Value} (hd : TextKeyed data) :
    (∃ f, entriesOf data = .error f) ↔
      ∃ key raw, fileMember data key = some raw ∧ Overflows raw := by
  obtain ⟨gs, hnd, hmem, hok⟩ := entriesOf_members hd
  constructor
  · rintro ⟨f, hf⟩
    have hbad : ¬ ∀ g ∈ gs, ∃ o, entryOf g.2 = .ok o := fun hall => by
      have hes := (hok _).2 ⟨hall, rfl⟩
      rw [hf] at hes
      cases hes
    push Not at hbad
    obtain ⟨g, hg, hno⟩ := hbad
    obtain ⟨x, hx⟩ : ∃ x, entryOf g.2 = .error x := by
      cases h : entryOf g.2 with
      | error x => exact ⟨x, rfl⟩
      | ok o => exact absurd h (hno o)
    refine ⟨g.1, g.2, ?_, (entryOf_error_iff g.2).1 ⟨x, hx⟩⟩
    rw [hmem, lookup_eq_some_iff_mem hnd]
    exact hg
  · rintro ⟨key, raw, hraw, hover⟩
    obtain ⟨x, hx⟩ := (entryOf_error_iff raw).2 hover
    rw [hmem, lookup_eq_some_iff_mem hnd] at hraw
    cases h : entriesOf data with
    | error f => exact ⟨f, rfl⟩
    | ok es =>
      obtain ⟨o, ho⟩ := ((hok es).1 h).1 _ hraw
      rw [hx] at ho
      cases ho

theorem lookup_entriesOf {data : Value} {es : List (String × CacheEntry)} (hd : TextKeyed data)
    (h : entriesOf data = .ok es) (key : String) (e : CacheEntry) :
    es.lookup key = some e ↔ ∃ raw, fileMember data key = some raw ∧ ReadsAsEntry raw e := by
  obtain ⟨gs, hnd, hmem, hok⟩ := entriesOf_members hd
  obtain ⟨-, rfl⟩ := (hok es).1 h
  rw [lookup_filterMap_entries entryValue hnd, ← hmem, Option.bind_eq_some_iff]
  simp only [entryValue_eq_some_iff]

/-! ### Loading the file -/

section Load

variable {v : Volume} {cwd path : String}

theorem load_error_iff :
    (∃ f, OutcomeCache.load v cwd path = .error f) ↔
      (∃ bs e, v.readText (join cwd path) = .error (.undecodable bs e)) ∨
      (∃ text f, v.readText (join cwd path) = .ok text ∧ Json.parse text = .error f ∧
        f.error.isSyntax = false) ∨
      ∃ text data, v.readText (join cwd path) = .ok text ∧ Json.parse text = .ok data ∧
        ∃ f, entriesOf data = .error f := by
  cases ht : v.readText (join cwd path) with
  | error r =>
    rcases r with ⟨e⟩ | ⟨bs, e⟩
    · cases e <;> simp [OutcomeCache.load, ht]
    · simp [OutcomeCache.load, ht]
  | ok text =>
    cases hp : Json.parse text with
    | error f => cases hs : f.error.isSyntax <;> simp [OutcomeCache.load, ht, hp, hs]
    | ok data =>
      cases he : entriesOf data <;>
        simp [OutcomeCache.load, ht, hp, he, bind, Except.bind, pure, Except.pure]

theorem load_ok_entries {c : OutcomeCache} {logs : List LogRecord}
    (h : OutcomeCache.load v cwd path = .ok (c, logs)) :
    (∃ text data, v.readText (join cwd path) = .ok text ∧ Json.parse text = .ok data ∧
      entriesOf data = .ok c.entries) ∨
    (c.entries = [] ∧ ∀ text, v.readText (join cwd path) = .ok text →
      ∃ f, Json.parse text = .error f) :=
  (load_ok_cases h).2.2

/-- Making the cache from any file: it fails exactly on bytes that are not UTF-8, on an integer
of too many digits, and on a member that would be taken but for an integer timestamp too large
for a double. Otherwise the cache is clean, backed by its file, and holds under each key exactly
the entry that the file's member under that key reads as. -/
theorem load_reads_well_formed_entries (v : Volume) (cwd path : String) :
    ((∃ f, OutcomeCache.load v cwd path = .error f) ↔
      (∃ bs e, v.readText (join cwd path) = .error (.undecodable bs e)) ∨
      (∃ text f, v.readText (join cwd path) = .ok text ∧ Json.parse text = .error f ∧
        f.error.isSyntax = false) ∨
      ∃ text data key raw, v.readText (join cwd path) = .ok text ∧ Json.parse text = .ok data ∧
        fileMember data key = some raw ∧ Overflows raw) ∧
    ∀ c logs, OutcomeCache.load v cwd path = .ok (c, logs) →
      c.file = some path ∧ c.dirty = false ∧ (c.entries.map Prod.fst).Nodup ∧
      ∀ key e, c.entries.lookup key = some e ↔
        ∃ text data raw, v.readText (join cwd path) = .ok text ∧ Json.parse text = .ok data ∧
          fileMember data key = some raw ∧ ReadsAsEntry raw e := by
  refine ⟨?_, fun c logs h => ?_⟩
  · rw [load_error_iff]
    refine or_congr_right (or_congr_right ⟨?_, ?_⟩)
    · rintro ⟨text, data, ht, hp, hf⟩
      obtain ⟨key, raw, hm, ho⟩ := (entriesOf_error_iff (parse_textKeyed hp)).1 hf
      exact ⟨text, data, key, raw, ht, hp, hm, ho⟩
    · rintro ⟨text, data, key, raw, ht, hp, hm, ho⟩
      exact ⟨text, data, ht, hp, (entriesOf_error_iff (parse_textKeyed hp)).2 ⟨key, raw, hm, ho⟩⟩
  · obtain ⟨hfile, hdirty, hnd⟩ := load_wellFormed h
    refine ⟨hfile, hdirty, hnd, fun key e => ?_⟩
    rcases load_ok_entries h with ⟨text, data, ht, hp, he⟩ | ⟨hnil, hbad⟩
    · rw [lookup_entriesOf (parse_textKeyed hp) he]
      constructor
      · rintro ⟨raw, hm, hr⟩
        exact ⟨text, data, raw, ht, hp, hm, hr⟩
      · -- the file has one text and one parse
        rintro ⟨text', data', raw, ht', hp', hm, hr⟩
        rw [ht] at ht'
        cases ht'
        rw [hp] at hp'
        cases hp'
        exact ⟨raw, hm, hr⟩
    · rw [hnil, List.lookup_nil]
      refine ⟨fun h => (by cases h), ?_⟩
      rintro ⟨text, data, raw, ht, hp, -⟩
      obtain ⟨f, hf⟩ := hbad text ht
      rw [hp] at hf
      cases hf

end Load

/-- A file of the one byte `0xff`, which is not UTF-8: making the cache from it fails. -/
theorem load_stops_on_undecodable_file :
    (Volume.readBytes ⟨[(["cache.json"], .file [0xff])]⟩ "/cache.json").toOption = some [0xff] ∧
    (Text.decodeUtf8 [0xff]).toOption = none ∧
    (OutcomeCache.load ⟨[(["cache.json"], .file [0xff])]⟩ "/" "cache.json").toOption = none := by
  decide +kernel

end BookLinks.Web
