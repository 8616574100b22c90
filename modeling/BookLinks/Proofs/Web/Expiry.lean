import BookLinks.Web.Cache
import Mathlib.Data.List.Induction
/-!
# When a cached outcome is still there

Expiry in the outcome cache is lazy and destructive: an entry stays until a lookup of its key
finds that the time passed since it was stored is at least the lookup's timeout, and that
lookup drops it, whatever later lookups would have allowed. Storing a key replaces its entry,
clearing drops every entry, and operations on other keys leave it alone.

The main statement follows an entry through any sequence of stores, lookups, get-or-computes
and clears, with any clock readings: a lookup finds the entry written last for its key (or
held from the start) exactly when nothing cleared or replaced it since and no lookup of the key
since then, this one included, found it expired. A get-or-compute that finds no entry stores
what it computes at the clock's reading after the computation; one that finds it returns the
entry's outcome and leaves the cache as it was.

The test is the one the lookup makes, that the time passed is at least the timeout. When the
time passed is not a number, as when the clock reads the same infinity at the store and at the
lookup, that test fails and the entry stays, although the time passed is not below the timeout
either.
-/
namespace BookLinks.Web.OutcomeCache

/-- Whether an entry is fresh at `now` for a timeout: the time passed since it was stored is
not at least the timeout. -/
def isFresh (timeout : Seconds) (now : Float) (e : CacheEntry) : Bool :=
  !timeout.reachedBy (now - e.timestamp)

/-! ### One operation, for one key -/

theorem lookup_cons_ite (l : List (String × CacheEntry)) (k k' : String) (v : CacheEntry) :
    ((k', v) :: l).lookup k = if k = k' then some v else l.lookup k := by
  rw [List.lookup_cons]
  cases hb : k == k' with
  | true => rw [if_pos (beq_iff_eq.1 hb)]
  | false => rw [if_neg (by simpa using hb)]

theorem lookup_filter_ne (l : List (String × CacheEntry)) (key k : String) :
    (l.filter (·.1 != key)).lookup k = if k = key then none else l.lookup k := by
  induction l with
  | nil => simp
  | cons p l ih =>
    obtain ⟨k', v⟩ := p
    by_cases hk' : k' = key
    · -- the entry of the dropped key goes
      subst hk'
      rw [List.filter_cons_of_neg (by simp), ih, lookup_cons_ite]
      by_cases hk : k = k' <;> simp [hk]
    · rw [List.filter_cons_of_pos (by simpa using hk'), lookup_cons_ite, lookup_cons_ite, ih]
      by_cases hk : k = key
      · subst hk
        simp [Ne.symm hk']
      · simp [hk]

theorem lookup_fst (c : OutcomeCache) (key : String) (now : Float) (timeout : Seconds) :
    (c.lookup key now timeout).1 = (c.entries.lookup key).filter (isFresh timeout now) := by
  unfold lookup
  cases c.entries.lookup key with
  | none => rfl
  | some e =>
    by_cases h : timeout.reachedBy (now - e.timestamp) <;> simp [h, isFresh, Option.filter_some]

theorem lookup_entries_lookup (c : OutcomeCache) (key : String) (now : Float) (timeout : Seconds)
    (k : String) :
    (c.lookup key now timeout).2.entries.lookup k =
      if k = key then (c.entries.lookup key).filter (isFresh timeout now)
      else c.entries.lookup k := by
  unfold lookup
  cases he : c.entries.lookup key with
  | none =>
    by_cases hk : k = key
    · subst hk; simp [he]
    · simp [hk]
  | some e =>
    by_cases h : timeout.reachedBy (now - e.timestamp)
    · simp only [h, if_true]
      rw [lookup_filter_ne]
      by_cases hk : k = key <;> simp [hk, isFresh, h, Option.filter_some]
    · simp only [h, Bool.false_eq_true, if_false]
      by_cases hk : k = key
      · subst hk; simp [he, isFresh, h, Option.filter_some]
      · simp [hk]

theorem lookup_map_update (l : List (String × CacheEntry)) (key k : String) (e : CacheEntry) :
    (l.map (fun (p : String × CacheEntry) => if p.1 == key then (p.1, e) else (p.1, p.2))).lookup k =
      if k = key then (if (l.lookup key).isSome then some e else none) else l.lookup k := by
  induction l with
  | nil => simp
  | cons p l ih =>
    obtain ⟨k', v⟩ := p
    by_cases hk' : k' = key
    · -- the first entry of the key takes the new value
      subst hk'
      simp only [List.map_cons, beq_self_eq_true, if_true, lookup_cons_ite, ih]
      by_cases hk : k = k' <;> simp [hk]
    · have hb : (k' == key) = false := by simpa using hk'
      simp only [List.map_cons, hb, Bool.false_eq_true, if_false, lookup_cons_ite, ih]
      by_cases hk : k = key
      · subst hk
        have hne : (k = k') = False := eq_false (Ne.symm hk')
        simp only [hne, if_false, if_true]
      · by_cases hkk : k = k'
        · subst hkk; simp [hk]
        · simp [hk, hkk]

theorem contains_eq_isSome (c : OutcomeCache) (key : String) :
    c.contains key = (c.entries.lookup key).isSome := by
  unfold contains
  rw [Bool.eq_iff_iff, List.any_eq_true, List.lookup_isSome_iff]
  constructor
  · rintro ⟨p, hp, h⟩; exact ⟨p, hp, beq_iff_eq.2 (beq_iff_eq.1 h).symm⟩
  · rintro ⟨p, hp, h⟩; exact ⟨p, hp, beq_iff_eq.2 (beq_iff_eq.1 h).symm⟩

theorem store_entries_lookup (c : OutcomeCache) (key : String) (o : Outcome) (now : Float)
    (k : String) :
    (c.store key o now).2.entries.lookup k =
      if k = key then some ⟨o.isValid, o.reason, now⟩ else c.entries.lookup k := by
  unfold store
  split
  · rename_i hin
    dsimp only
    rw [lookup_map_update, ← contains_eq_isSome, hin]
    rfl
  · rename_i hout
    dsimp only
    have hnone : c.entries.lookup key = none := by
      cases h : c.entries.lookup key with
      | none => rfl
      | some _ => rw [contains_eq_isSome, h] at hout; exact absurd rfl hout
    rw [List.lookup_append, lookup_cons_ite, List.lookup_nil]
    by_cases hk : k = key
    · subst hk; simp [hnone]
    · simp [hk]

theorem getOrCompute_entries_lookup (c : OutcomeCache) (key : String) (now : Float)
    (timeout : Seconds) (compute : Unit → Outcome) (later : Float) (k : String) :
    (c.getOrCompute key now timeout compute later).2.entries.lookup k =
      if k = key then
        ((c.entries.lookup key).filter (isFresh timeout now)).or
          (some ⟨(compute ()).isValid, (compute ()).reason, later⟩)
      else c.entries.lookup k := by
  have hfst := lookup_fst c key now timeout
  have hsnd := lookup_entries_lookup c key now timeout
  unfold getOrCompute
  rcases hl : c.lookup key now timeout with ⟨found, c'⟩
  rw [hl] at hfst hsnd
  cases found with
  | some e =>
    dsimp only
    rw [hsnd]
    by_cases hk : k = key
    · subst hk; simp [← hfst]
    · simp [hk]
  | none =>
    dsimp only
    rw [store_entries_lookup, hsnd]
    by_cases hk : k = key
    · subst hk; simp [← hfst]
    · simp [hk]

/-! ### Sequences of operations -/

/-- An operation a caller runs on the cache, with the clock readings it makes: a get-or-compute
reads the clock for its lookup and again for its store, after the computation. -/
inductive Op where
  | store (key : String) (outcome : Outcome) (now : Float)
  | lookup (key : String) (now : Float) (timeout : Seconds)
  | getOrCompute (key : String) (now : Float) (timeout : Seconds) (compute : Unit → Outcome)
      (later : Float)
  | clear

def Op.run (c : OutcomeCache) : Op → OutcomeCache
  | .store key o now => (c.store key o now).2
  | .lookup key now timeout => (c.lookup key now timeout).2
  | .getOrCompute key now timeout compute later =>
    (c.getOrCompute key now timeout compute later).2
  | .clear => c.clear

def runOps (c : OutcomeCache) (ops : List Op) : OutcomeCache := ops.foldl Op.run c

theorem runOps_append_singleton (c : OutcomeCache) (ops : List Op) (op : Op) :
    runOps c (ops ++ [op]) = op.run (runOps c ops) := by
  simp [runOps]

/-- The entry an operation run on `c` writes for `key`: a store of the key writes its outcome,
and a get-or-compute of it that finds no fresh entry writes what it computes. -/
def Op.writes (c : OutcomeCache) (key : String) : Op → Option CacheEntry
  | .store k o now => if k = key then some ⟨o.isValid, o.reason, now⟩ else none
  | .getOrCompute k now timeout compute later =>
    if k = key ∧ (c.lookup k now timeout).1 = none then
      some ⟨(compute ()).isValid, (compute ()).reason, later⟩
    else none
  | _ => none

/-- An operation spares the entry of `key` stored at `stamp`: it is about another key, or it
looks the key up, alone or to get or compute its outcome, while the entry is fresh. A store of
the key replaces the entry, and clearing drops it. -/
def Op.Spares (key : String) (stamp : Float) : Op → Prop
  | .store k _ _ => k ≠ key
  | .lookup k now timeout => k = key → timeout.reachedBy (now - stamp) = false
  | .getOrCompute k now timeout _ _ => k = key → timeout.reachedBy (now - stamp) = false
  | .clear => False

/-- `e` is the entry of `key` as the operations `pre` leave it written: held by `c` when there
are none, else written by the last of them. -/
def WrittenBy (c : OutcomeCache) (key : String) (pre : List Op) (e : CacheEntry) : Prop :=
  (pre = [] ∧ c.entries.lookup key = some e) ∨
    ∃ pre' op, pre = pre' ++ [op] ∧ op.writes (runOps c pre') key = some e

theorem writtenBy_append_singleton (c : OutcomeCache) (key : String) (ops : List Op) (op : Op)
    (e : CacheEntry) :
    WrittenBy c key (ops ++ [op]) e ↔ op.writes (runOps c ops) key = some e := by
  unfold WrittenBy
  constructor
  · rintro (⟨h, -⟩ | ⟨pre', op', h, hw⟩)
    · simp at h
    · obtain ⟨rfl, rfl⟩ := List.append_inj' h rfl |>.imp_right List.singleton_inj.1
      exact hw
  · exact fun h => .inr ⟨ops, op, rfl, h⟩

theorem exists_split_append_singleton {P : List Op → Prop} {Q : Op → Prop} (ops : List Op)
    (op : Op) :
    (∃ pre post, ops ++ [op] = pre ++ post ∧ P pre ∧ ∀ x ∈ post, Q x) ↔
      P (ops ++ [op]) ∨ ((∃ pre post, ops = pre ++ post ∧ P pre ∧ ∀ x ∈ post, Q x) ∧ Q op) := by
  constructor
  · rintro ⟨pre, post, hsplit, hp, hq⟩
    rcases List.eq_nil_or_concat post with rfl | ⟨post', x, rfl⟩
    · rw [List.append_nil] at hsplit
      exact .inl (hsplit ▸ hp)
    · rw [List.concat_eq_append, ← List.append_assoc] at hsplit
      obtain ⟨rfl, rfl⟩ := List.append_inj' hsplit rfl |>.imp_right List.singleton_inj.1
      exact .inr ⟨⟨pre, post', rfl, hp, fun y hy => hq y (by simp [hy])⟩, hq op (by simp)⟩
  · rintro (hp | ⟨⟨pre, post, rfl, hp, hq⟩, hop⟩)
    · exact ⟨ops ++ [op], [], by simp, hp, by simp⟩
    · refine ⟨pre, post ++ [op], by simp, hp, fun y hy => ?_⟩
      rcases List.mem_append.1 hy with hy | hy
      · exact hq y hy
      · rw [List.mem_singleton.1 hy]; exact hop

theorem run_entries_lookup_iff (c : OutcomeCache) (key : String) (e : CacheEntry) (op : Op) :
    (op.run c).entries.lookup key = some e ↔
      op.writes c key = some e ∨ (c.entries.lookup key = some e ∧ op.Spares key e.timestamp) := by
  cases op with
  | store k o now =>
    simp only [Op.run, Op.writes, Op.Spares, store_entries_lookup]
    by_cases hk : k = key
    · subst hk; simp
    · simp [Ne.symm hk, hk]
  | lookup k now timeout =>
    simp only [Op.run, Op.writes, Op.Spares, lookup_entries_lookup]
    by_cases hk : k = key
    · subst hk
      simp [Option.filter_eq_some_iff, isFresh]
    · simp [Ne.symm hk, hk]
  | getOrCompute k now timeout compute later =>
    simp only [Op.run, Op.writes, Op.Spares, getOrCompute_entries_lookup, lookup_fst]
    by_cases hk : k = key
    · subst hk
      simp only [if_true, true_and, forall_const]
      cases hcur : c.entries.lookup k with
      | none => simp
      | some e₀ =>
        by_cases hfresh : isFresh timeout now e₀ = true
        · have hstays : timeout.reachedBy (now - e₀.timestamp) = false := by
            simpa [isFresh] using hfresh
          simp only [Option.filter_some, hfresh, if_true, Option.some_or, reduceCtorEq,
            if_false, false_or, Option.some.injEq]
          constructor
          · rintro rfl; exact ⟨rfl, hstays⟩
          · rintro ⟨rfl, -⟩; rfl
        · have hgone : timeout.reachedBy (now - e₀.timestamp) = true := by
            simpa [isFresh] using hfresh
          simp only [Option.filter_some, hfresh, Bool.false_eq_true, if_false, Option.none_or,
            if_true, Option.some.injEq]
          constructor
          · exact .inl
          · rintro (h | ⟨rfl, hstays⟩)
            · exact h
            · rw [hgone] at hstays; exact absurd hstays (by decide)
    · simp [Ne.symm hk, hk]
  | clear => simp [Op.run, Op.writes, Op.Spares, clear]

theorem runOps_entries_lookup_iff (c : OutcomeCache) (key : String) (e : CacheEntry)
    (ops : List Op) :
    (runOps c ops).entries.lookup key = some e ↔
      ∃ pre post, ops = pre ++ post ∧ WrittenBy c key pre e ∧
        ∀ op ∈ post, op.Spares key e.timestamp := by
  induction ops using List.reverseRecOn with
  | nil =>
    simp only [runOps, List.foldl_nil, List.nil_eq_append_iff]
    constructor
    · intro h; exact ⟨[], [], by simp, .inl ⟨rfl, h⟩, by simp⟩
    · rintro ⟨pre, post, ⟨rfl, rfl⟩, (⟨-, h⟩ | ⟨pre', op, h, -⟩), -⟩
      · exact h
      · simp at h
  | append_singleton ops op ih =>
    rw [runOps_append_singleton, run_entries_lookup_iff, exists_split_append_singleton,
      writtenBy_append_singleton, ih]

/-! ### Lookups and get-or-computes -/

theorem lookup_fst_eq_some_iff (c : OutcomeCache) (key : String) (now : Float)
    (timeout : Seconds) (e : CacheEntry) :
    (c.lookup key now timeout).1 = some e ↔
      c.entries.lookup key = some e ∧ timeout.reachedBy (now - e.timestamp) = false := by
  rw [lookup_fst, Option.filter_eq_some_iff]
  simp [isFresh]

theorem lookup_entries_lookup_of_none {c : OutcomeCache} {key : String} {now : Float}
    {timeout : Seconds} (h : (c.lookup key now timeout).1 = none) :
    (c.lookup key now timeout).2.entries.lookup key = none := by
  rw [lookup_entries_lookup, if_pos rfl, ← lookup_fst, h]

theorem lookup_snd_of_some {c : OutcomeCache} {key : String} {now : Float} {timeout : Seconds}
    {e : CacheEntry} (h : (c.lookup key now timeout).1 = some e) :
    (c.lookup key now timeout).2 = c := by
  revert h
  unfold lookup
  cases c.entries.lookup key with
  | none => intro h; cases h
  | some e' =>
    by_cases hr : timeout.reachedBy (now - e'.timestamp)
    · simp [hr]
    · simp [hr]

theorem getOrCompute_of_lookup_none {c : OutcomeCache} {key : String} {now : Float}
    {timeout : Seconds} (compute : Unit → Outcome) (later : Float)
    (h : (c.lookup key now timeout).1 = none) :
    (c.getOrCompute key now timeout compute later).1 = (compute (), false) ∧
      (c.getOrCompute key now timeout compute later).2.entries.lookup key =
        some ⟨(compute ()).isValid, (compute ()).reason, later⟩ := by
  refine ⟨?_, by rw [getOrCompute_entries_lookup, if_pos rfl, ← lookup_fst, h]; rfl⟩
  unfold getOrCompute
  rcases hl : c.lookup key now timeout with ⟨found, c'⟩
  rw [hl] at h
  cases h
  rfl

theorem getOrCompute_of_lookup_some {c : OutcomeCache} {key : String} {now : Float}
    {timeout : Seconds} {e : CacheEntry} (compute : Unit → Outcome) (later : Float)
    (h : (c.lookup key now timeout).1 = some e) :
    c.getOrCompute key now timeout compute later = ((e.outcome, true), c) := by
  have hc := lookup_snd_of_some h
  unfold getOrCompute
  rcases hl : c.lookup key now timeout with ⟨found, c'⟩
  rw [hl] at h hc
  cases h
  cases hc
  rfl

theorem CacheEntry.outcome_of_stored (o : Outcome) (now : Float) (hs : o.status ≠ .warning)
    (hn : o.notes = []) : (⟨o.isValid, o.reason, now⟩ : CacheEntry).outcome = o := by
  obtain ⟨status, reason, notes⟩ := o
  subst hn
  cases status with
  | valid => rfl
  | warning => exact absurd rfl hs
  | error => rfl

/-- The life of an entry through any sequence of stores, lookups, get-or-computes and clears
run on a cache `c`, with any clock readings. A lookup finds `e` exactly when `e` was written for
its key last (by a store, or by a get-or-compute that found nothing), or held by `c` with no
write since, and since then nothing cleared the cache and every lookup of the key, this one
included, ran when the time passed since `e` was stored was not at least its timeout. A lookup
that finds nothing leaves no entry. A get-or-compute whose lookup would find nothing gives the
computed outcome and stores it at the clock's reading after the computation; otherwise it gives
the entry's outcome, from the cache, whatever it would compute, and leaves the cache as it was.
That outcome is the stored one when the stored outcome was valid or an error without notes. -/
theorem lookup_after_ops_iff_spared (c : OutcomeCache) (ops : List Op) (key : String)
    (now : Float) (timeout : Seconds) :
    (∀ e, ((runOps c ops).lookup key now timeout).1 = some e ↔
      ∃ pre post, ops = pre ++ post ∧ WrittenBy c key pre e ∧
        (∀ op ∈ post, op.Spares key e.timestamp) ∧
        timeout.reachedBy (now - e.timestamp) = false) ∧
    (((runOps c ops).lookup key now timeout).1 = none →
      ((runOps c ops).lookup key now timeout).2.entries.lookup key = none) ∧
    (∀ compute later, ((runOps c ops).lookup key now timeout).1 = none →
      ((runOps c ops).getOrCompute key now timeout compute later).1 = (compute (), false) ∧
      ((runOps c ops).getOrCompute key now timeout compute later).2.entries.lookup key =
        some ⟨(compute ()).isValid, (compute ()).reason, later⟩) ∧
    (∀ compute later e, ((runOps c ops).lookup key now timeout).1 = some e →
      (runOps c ops).getOrCompute key now timeout compute later =
        ((e.outcome, true), runOps c ops)) ∧
    ∀ (o : Outcome) (t : Float), o.status ≠ .warning → o.notes = [] →
      (⟨o.isValid, o.reason, t⟩ : CacheEntry).outcome = o := by
  refine ⟨fun e => ?_, lookup_entries_lookup_of_none, fun compute later h =>
    getOrCompute_of_lookup_none compute later h,
    fun compute later e h => getOrCompute_of_lookup_some compute later h,
    CacheEntry.outcome_of_stored⟩
  rw [lookup_fst_eq_some_iff, runOps_entries_lookup_iff]
  constructor
  · rintro ⟨⟨pre, post, hsplit, hw, hs⟩, hfresh⟩
    exact ⟨pre, post, hsplit, hw, hs, hfresh⟩
  · rintro ⟨pre, post, hsplit, hw, hs, hfresh⟩
    exact ⟨⟨pre, post, hsplit, hw, hs⟩, hfresh⟩

/-- A get-or-compute that looks up at 0 and, its computation done, stores at 100 leaves an entry
that a lookup at 105 with a timeout of 10 finds: the time is counted from the store. -/
theorem lookup_finds_entry_stored_after_computation :
    ((runOps {} [.getOrCompute "k" 0 (.whole 10) (fun _ => Outcome.valid) 100]).lookup "k" 105
        (.whole 10)).1 = some ⟨true, "", 100⟩ :=
  ((lookup_after_ops_iff_spared {} [.getOrCompute "k" 0 (.whole 10) (fun _ => Outcome.valid) 100]
      "k" 105 (.whole 10)).1 _).2
    ⟨[.getOrCompute "k" 0 (.whole 10) (fun _ => Outcome.valid) 100], [], rfl,
      .inr ⟨[], _, rfl, rfl⟩, by simp, by decide⟩

/-- When the clock overflows to infinity before a store and a lookup, the time passed between
them is not a number: it is not below the timeout, and yet the lookup finds the entry. -/
theorem lookup_keeps_entry_at_infinite_clock :
    ((({} : OutcomeCache).store "k" Outcome.valid (1e308 + 1e308)).2.lookup "k"
        (1e308 + 1e308) (.real 60)).1.isSome = true ∧
      ¬ ((1e308 + 1e308 : Float) - (1e308 + 1e308) < 60) := by
  decide +kernel

end BookLinks.Web.OutcomeCache
