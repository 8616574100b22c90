import BookLinks.Config.Settings
import Mathlib
/-!
# What reading settings checks

Settings are read from a mapping one after another, from the defaults, and the first refusal
stops the reading (`settingReads`). Each read keeps the bounds that the checks of the
durations and of `jobs` establish, so every settings that reading returns has them; and each
read fails only with a refusal of a setting or at a limit of numbers: a repetition count too
large in a pattern, a duration given as an integer too large for a double, or an integer too
long to write where a text is read or quoted.

The duration checks refuse a request timeout at most `0` and a retry backoff below `0`. A
double that is not a number passes both, so the bounds they leave are "positive, or not a
number" and "not negative, or not a number".

Main statement: `ofMapping_checks_bounds`.
-/

namespace BookLinks.Config

open BookLinks.Data

/-! ### Comparing doubles with zero -/

section Doubles

open Float.Model

theorem unpack_zero : (0 : Float).toModel.unpack = .zero .positive := rfl

theorem le_iff_unpack {a b : Float} : a ≤ b ↔ a.toModel.unpack.le b.toModel.unpack = true := by
  change decide (a.toModel ≤ b.toModel) = true ↔ _
  rw [decide_eq_true_iff]
  rfl

theorem lt_iff_unpack {a b : Float} : a < b ↔ a.toModel.unpack.lt b.toModel.unpack = true := by
  change decide (a.toModel < b.toModel) = true ↔ _
  rw [decide_eq_true_iff]
  rfl

theorem isNaN_iff_unpack {a : Float} : a.isNaN = true ↔ a.toModel.unpack.isNaN = true := Iff.rfl

theorem pos_or_isNaN_of_not_le_zero {x : Float} (h : ¬ x ≤ 0) : 0 < x ∨ x.isNaN = true := by
  rw [le_iff_unpack, unpack_zero] at h
  rw [lt_iff_unpack, unpack_zero, isNaN_iff_unpack]
  cases hu : x.toModel.unpack with
  | notANumber => simp [UnpackedFloat.isNaN]
  | infinity s =>
    rw [hu] at h
    cases s <;> simp_all [UnpackedFloat.le, UnpackedFloat.lt, UnpackedFloat.compare]
  | zero s =>
    rw [hu] at h
    simp_all [UnpackedFloat.le, UnpackedFloat.compare]
  | finite s m e hm =>
    rw [hu] at h
    cases s <;> simp_all [UnpackedFloat.le, UnpackedFloat.lt, UnpackedFloat.compare]

theorem nonneg_or_isNaN_of_not_lt_zero {x : Float} (h : ¬ x < 0) : 0 ≤ x ∨ x.isNaN = true := by
  rw [lt_iff_unpack, unpack_zero] at h
  rw [le_iff_unpack, unpack_zero, isNaN_iff_unpack]
  cases hu : x.toModel.unpack with
  | notANumber => simp [UnpackedFloat.isNaN]
  | infinity s =>
    rw [hu] at h
    cases s <;> simp_all [UnpackedFloat.le, UnpackedFloat.lt, UnpackedFloat.compare]
  | zero s =>
    simp [UnpackedFloat.le, UnpackedFloat.compare]
  | finite s m e hm =>
    rw [hu] at h
    cases s <;> simp_all [UnpackedFloat.le, UnpackedFloat.lt, UnpackedFloat.compare]

end Doubles

/-! ### Given settings -/

namespace Given

variable {g : Given} {key : String} {v : Value}

theorem exists_mem_of_get? (h : g.get? key = some v) : ∃ kv ∈ g, kv.2 = v := by
  obtain ⟨kv, hkv, rfl⟩ := Option.map_eq_some_iff.1 h
  exact ⟨kv, List.mem_reverse.1 (List.mem_of_find?_eq_some hkv), rfl⟩

theorem get?_of_present? (h : g.present? key = some v) : g.get? key = some v := by
  unfold present? at h
  split at h
  · cases h
  · cases h
  · cases h
    assumption

theorem exists_get?_of_overflowsFloat (h : ((g.get? key).getD .null).overflowsFloat = true) :
    ∃ v, g.get? key = some v ∧ v.overflowsFloat = true := by
  cases hv : g.get? key with
  | none => simp [hv, Value.overflowsFloat] at h
  | some v => exact ⟨v, rfl, by simpa [hv] using h⟩

end Given

/-! ### Values that cannot be written -/

theorem textFits_map_of_mem {entries : List (Value × Value)} {kv : Value × Value}
    (hkv : kv ∈ entries) (hk : kv.1.textFits = false) : (Value.map entries).textFits = false := by
  rw [Value.textFits.eq_3, List.all_eq_false]
  exact ⟨⟨kv, hkv⟩, List.mem_attach _ _, by simp [hk]⟩

/-! ### What one read can do -/

/-- The bounds that the checks of the durations and of `jobs` leave. -/
def Bounded (s : Settings) : Prop :=
  ¬ s.requestTimeout ≤ 0 ∧ ¬ s.retryBackoff < 0 ∧ ∀ n ∈ s.jobs, 1 ≤ n

/-- The keys of the durations, which are read as doubles. -/
def durationKeys : List String := ["request-timeout", "retry-backoff"]

/-- Why reading settings from `g` can fail: a refusal of a setting, a repetition count in a
pattern too large or written with too many digits, a duration given as an integer too large for
a double, or an integer too long to write in a given value. -/
inductive Cause (g : Given) : ConfigError → Prop
  | refusal {e : ConfigError} : e.isRefusal = true → Cause g e
  | countTooLarge : Cause g .countTooLarge
  | countTooLong (digits : Nat) : Cause g (.countTooLong digits)
  | floatOverflow {key : String} {v : Value} :
      key ∈ durationKeys → g.get? key = some v → v.overflowsFloat = true → Cause g .floatOverflow
  | textTooLong {kv : String × Value} : kv ∈ g → kv.2.textFits = false → Cause g .textTooLong

/-- A reading's result: settings with `P`, or an error with `Q`. -/
def Keeps (P : Settings → Prop) (Q : ConfigError → Prop) : Except ConfigError Settings → Prop
  | .ok s => P s
  | .error e => Q e

section Reads

variable {g : Given} {key : String} {e : ConfigError}

theorem cause_of_get?_text (hv : g.get? key = some v) (hfit : v.textFits = false) :
    Cause g .textTooLong := by
  obtain ⟨kv, hkv, rfl⟩ := Given.exists_mem_of_get? hv
  exact .textTooLong hkv hfit

theorem cause_of_flag (h : g.flag key = .error e) : Cause g e := by
  unfold Given.flag at h
  split at h
  · cases h
  · rename_i v hv
    split at h
    · cases h
    · cases hfit : v.textFits
      · rw [hfit] at h
        cases h
        exact cause_of_get?_text (Given.get?_of_present? hv) hfit
      · rw [hfit] at h
        cases h
        exact .refusal rfl

theorem cause_of_text? (h : g.text? key = .error e) : Cause g e := by
  unfold Given.text? at h
  split at h
  · rename_i v hv
    split at h
    · cases hfit : v.textFits
      · rw [hfit] at h
        cases h
        exact cause_of_get?_text hv hfit
      · rw [hfit] at h
        cases h
    · cases h
  · cases h

theorem compile_error_cases {source : String} (h : UrlPattern.compile source = .error e) :
    e.isRefusal = true ∨ e = .countTooLarge ∨ ∃ n, e = .countTooLong n := by
  unfold UrlPattern.compile at h
  split at h
  · cases h
  · cases h
    split
    · exact .inr (.inl rfl)
    · exact .inr (.inr ⟨_, rfl⟩)
    · exact .inl rfl

theorem cause_of_compile {source : String} (h : UrlPattern.compile source = .error e) :
    Cause g e := by
  rcases compile_error_cases h with hr | rfl | ⟨n, rfl⟩
  · exact .refusal hr
  · exact .countTooLarge
  · exact .countTooLong n

theorem exists_of_mapM_eq_error {α β : Type} {f : α → Except ConfigError β} :
    ∀ {l : List α}, l.mapM f = .error e → ∃ a ∈ l, f a = .error e
  | [], h => by cases h
  | a :: l, h => by
    rw [List.mapM_cons] at h
    cases ha : f a with
    | error e' =>
      rw [ha] at h
      cases h
      exact ⟨a, List.mem_cons_self, ha⟩
    | ok b =>
      rw [ha] at h
      cases hl : l.mapM f with
      | error e' =>
        rw [hl] at h
        cases h
        obtain ⟨a', ha', hf⟩ := exists_of_mapM_eq_error hl
        exact ⟨a', List.mem_cons_of_mem _ ha', hf⟩
      | ok bs =>
        rw [hl] at h
        cases h

theorem keeps_map {α : Type} {P : Settings → Prop} {Q : ConfigError → Prop}
    {x : Except ConfigError α} {f : α → Settings} (hok : ∀ a, x = .ok a → P (f a))
    (herr : ∀ e, x = .error e → Q e) : Keeps P Q (x.map f) := by
  cases x with
  | ok a => exact hok a rfl
  | error e => exact herr e rfl

theorem cause_of_headerRule {k v : Value} (h : headerRule k v = .error e) :
    (e = .textTooLong ∧ k.textFits = false) ∨
      e.isRefusal = true ∨ e = .countTooLarge ∨ ∃ n, e = .countTooLong n := by
  unfold headerRule at h
  cases hraws : v.asTextList? with
  | none =>
    simp only [hraws] at h
    change Except.error _ = _ at h
    cases h
    cases hk : k.textFits
    · exact .inl ⟨by simp, rfl⟩
    · exact .inr (.inl (by simp [ConfigError.isRefusal]))
  | some raws =>
    simp only [hraws] at h
    cases hhs : raws.mapM (fun raw => (HttpHeader.parse raw).mapError ConfigError.badHeader) with
    | error e' =>
      rw [hhs] at h
      cases h
      obtain ⟨raw, -, hraw⟩ := exists_of_mapM_eq_error hhs
      cases hp : HttpHeader.parse raw with
      | error he => rw [hp] at hraw; cases hraw; exact .inr (.inl rfl)
      | ok _ => rw [hp] at hraw; cases hraw
    | ok headers =>
      rw [hhs] at h
      cases hk : k.textFits
      · simp only [hk] at h
        cases h
        exact .inl ⟨rfl, rfl⟩
      · simp only [hk] at h
        cases hu : UrlPattern.compile k.text with
        | error e' =>
          rw [hu] at h
          cases h
          exact .inr (compile_error_cases hu)
        | ok _ => rw [hu] at h; cases h

theorem cause_of_headerRules {v : Value} (hv : g.get? "http-headers" = some v)
    (h : headerRules v = .error e) : Cause g e := by
  unfold headerRules at h
  split at h
  · cases h
  · rename_i entries
    obtain ⟨⟨k, w⟩, hkw, hrule⟩ := exists_of_mapM_eq_error h
    rcases cause_of_headerRule hrule with ⟨rfl, hk⟩ | hr | rfl | ⟨n, rfl⟩
    · exact cause_of_get?_text hv (textFits_map_of_mem hkw hk)
    · exact .refusal hr
    · exact .countTooLarge
    · exact .countTooLong n
  · cases h
    exact .refusal rfl

variable (g)

theorem readFlag_keeps {set : Settings → Bool → Settings}
    (hset : ∀ s b, Bounded s → Bounded (set s b)) (s : Settings) (hs : Bounded s) :
    Keeps Bounded (Cause g) (readFlag key set g s) := by
  unfold readFlag
  split
  · exact hset s _ hs
  · exact hs
  · exact cause_of_flag ‹_›

theorem readExclude_keeps (s : Settings) (hs : Bounded s) :
    Keeps Bounded (Cause g) (readExclude g s) := by
  unfold readExclude
  split
  · refine keeps_map (fun _ _ => hs) fun e he => ?_
    obtain ⟨_, -, hp⟩ := exists_of_mapM_eq_error he
    exact cause_of_compile hp
  · exact .refusal rfl

theorem readUserAgent_keeps (s : Settings) (hs : Bounded s) :
    Keeps Bounded (Cause g) (readUserAgent g s) := by
  unfold readUserAgent
  split
  · split
    · exact hs
    · exact hs
  · exact hs
  · exact cause_of_text? ‹_›

theorem readCount_keeps {err : ConfigError} (herr : err.isRefusal = true)
    {set : Settings → Nat → Settings} (hset : ∀ s n, Bounded s → Bounded (set s n))
    (s : Settings) (hs : Bounded s) : Keeps Bounded (Cause g) (readCount key err set g s) := by
  unfold readCount
  split
  · split
    · split
      · exact .refusal herr
      · exact hset s _ hs
    · exact .refusal herr
  · exact hs

theorem readWarningPolicy_keeps (s : Settings) (hs : Bounded s) :
    Keeps Bounded (Cause g) (readWarningPolicy g s) := by
  unfold readWarningPolicy
  split
  · dsimp only
    split
    · exact hs
    · exact .refusal rfl
  · exact hs
  · exact cause_of_text? ‹_›

theorem readHeaders_keeps (s : Settings) (hs : Bounded s) :
    Keeps Bounded (Cause g) (readHeaders g s) := by
  unfold readHeaders
  refine keeps_map (fun _ _ => hs) fun e he => ?_
  cases hv : g.get? "http-headers" with
  | none => rw [hv] at he; cases he
  | some v => rw [hv] at he; exact cause_of_headerRules hv he

theorem readSeconds_keeps {accepts : Float → Bool} {err : ConfigError}
    (hkey : key ∈ durationKeys) (herr : err.isRefusal = true)
    {set : Settings → Float → Settings}
    (hset : ∀ s x, accepts x = true → Bounded s → Bounded (set s x))
    (s : Settings) (hs : Bounded s) :
    Keeps Bounded (Cause g) (readSeconds key accepts err set g s) := by
  unfold readSeconds
  split
  · dsimp only
    split
    · rename_i hover
      obtain ⟨v, hv, hov⟩ := Given.exists_get?_of_overflowsFloat hover
      exact .floatOverflow hkey hv hov
    · split
      · split
        · exact hset s _ ‹_› hs
        · exact .refusal herr
      · exact .refusal herr
  · exact hs

theorem readSeverity_keeps (s : Settings) (hs : Bounded s) :
    Keeps Bounded (Cause g) (readSeverity g s) := by
  unfold readSeverity
  split
  · dsimp only
    split
    · exact hs
    · split
      · exact hs
      · exact .refusal rfl
  · exact hs
  · exact cause_of_text? ‹_›

theorem readJobs_keeps (s : Settings) (hs : Bounded s) :
    Keeps Bounded (Cause g) (readJobs g s) := by
  unfold readJobs
  split
  · split
    · split
      · exact .refusal rfl
      · refine ⟨hs.1, hs.2.1, fun n hn => ?_⟩
        simp only [Option.mem_def, Option.some.injEq] at hn
        omega
    · exact .refusal rfl
  · exact hs

end Reads

/-! ### A whole reading -/

theorem Keeps.mono {P P' : Settings → Prop} {Q Q' : ConfigError → Prop}
    {r : Except ConfigError Settings} (hP : ∀ s, P s → P' s) (hQ : ∀ e, Q e → Q' e)
    (h : Keeps P Q r) : Keeps P' Q' r := by
  cases r with
  | ok s => exact hP s h
  | error e => exact hQ e h

theorem keeps_foldlM {P : Settings → Prop} {Q : ConfigError → Prop} (g : Given) :
    ∀ (reads : List SettingRead) (s : Settings),
      (∀ read ∈ reads, ∀ s, P s → Keeps P Q (read g s)) → P s →
      Keeps P Q (reads.foldlM (fun s read => read g s) s)
  | [], s, _, hs => hs
  | read :: reads, s, hreads, hs => by
    rw [List.foldlM_cons]
    have hstep := hreads read List.mem_cons_self s hs
    cases hr : read g s with
    | error e => rw [hr] at hstep; exact hstep
    | ok s' =>
      rw [hr] at hstep
      exact keeps_foldlM g reads s' (fun r hr => hreads r (List.mem_cons_of_mem _ hr)) hstep

theorem bounded_default : Bounded {} := by
  refine ⟨by decide +kernel, by decide +kernel, fun n hn => ?_⟩
  cases hn

theorem settingReads_keep (g : Given) :
    ∀ read ∈ settingReads, ∀ s, Bounded s → Keeps Bounded (Cause g) (read g s) := by
  intro read hread
  simp only [settingReads, List.mem_cons, List.not_mem_nil, or_false] at hread
  rcases hread with rfl | rfl | rfl | rfl | rfl | rfl | rfl | rfl | rfl | rfl | rfl | rfl
  · exact readFlag_keeps g fun _ _ hs => hs
  · exact readFlag_keeps g fun _ _ hs => hs
  · exact readExclude_keeps g
  · exact readUserAgent_keeps g
  · exact readCount_keeps g rfl fun _ _ hs => hs
  · exact readWarningPolicy_keeps g
  · exact readHeaders_keeps g
  · exact readSeconds_keeps g (by simp [durationKeys]) rfl
      fun _ _ hx hs => ⟨by simpa using hx, hs.2⟩
  · exact readCount_keeps g rfl fun _ _ hs => hs
  · exact readSeconds_keeps g (by simp [durationKeys]) rfl
      fun _ _ hx hs => ⟨hs.1, by simpa using hx, hs.2.2⟩
  · exact readSeverity_keeps g
  · exact readJobs_keeps g

theorem ofMapping_keeps (data : List (Value × Value)) :
    Keeps Bounded (fun e => Cause (Given.ofMapping data) e ∨
      (e = .textTooLong ∧ ∃ kv ∈ data, kv.1.textFits = false)) (Settings.ofMapping data) := by
  unfold Settings.ofMapping
  split
  · exact (keeps_foldlM _ settingReads {} (settingReads_keep _) bounded_default).mono
      (fun _ hs => hs) fun _ he => .inl he
  · rename_i hall
    exact .inr ⟨rfl, by simpa using hall⟩

/-- Reading settings from a mapping either refuses it, meets a limit of numbers, or gives
settings whose request timeout is positive, whose retry backoff is not negative, and whose
number of jobs, when set, is at least `1`, where a duration that is not a number passes both
checks. The limits are a repetition count in a pattern too large or written with too many
digits, a duration given as an integer too large for a double, and an integer too long to write
in a key or a value. -/
theorem ofMapping_checks_bounds (data : List (Value × Value)) :
    (∀ s, Settings.ofMapping data = .ok s →
      (0 < s.requestTimeout ∨ s.requestTimeout.isNaN = true) ∧
      (0 ≤ s.retryBackoff ∨ s.retryBackoff.isNaN = true) ∧
      ∀ n ∈ s.jobs, 1 ≤ n) ∧
    ∀ e, Settings.ofMapping data = .error e →
      e.isRefusal = true ∨ e = .countTooLarge ∨ (∃ n, e = .countTooLong n) ∨
      (e = .floatOverflow ∧ ∃ key ∈ ["request-timeout", "retry-backoff"],
        ∃ v, (Given.ofMapping data).get? key = some v ∧ v.overflowsFloat = true) ∨
      (e = .textTooLong ∧ ∃ kv ∈ data, kv.1.textFits = false ∨ kv.2.textFits = false) := by
  have h := ofMapping_keeps data
  refine ⟨fun s hs => ?_, fun e he => ?_⟩
  · rw [hs] at h
    exact ⟨pos_or_isNaN_of_not_le_zero h.1, nonneg_or_isNaN_of_not_lt_zero h.2.1, h.2.2⟩
  · rw [he] at h
    rcases h with h | ⟨rfl, kv, hkv, hk⟩
    · cases h with
      | refusal hr => exact .inl hr
      | countTooLarge => exact .inr (.inl rfl)
      | countTooLong n => exact .inr (.inr (.inl ⟨n, rfl⟩))
      | floatOverflow hkey hv hov => exact .inr (.inr (.inr (.inl ⟨rfl, _, hkey, _, hv, hov⟩)))
      | textTooLong hkv hfit =>
        obtain ⟨⟨k, v⟩, hmem, rfl⟩ := List.mem_map.1 hkv
        exact .inr (.inr (.inr (.inr ⟨rfl, (k, v), hmem, .inr hfit⟩)))
    · exact .inr (.inr (.inr (.inr ⟨rfl, kv, hkv, .inl hk⟩)))

/-- The bounds are no stronger, and not every failure is a refusal: a request timeout given as
the text `nan` passes its check and is not positive, a retry backoff given as `10 ^ 400`
overflows a double, and a user agent given as `16 ^ 4000` is too long to write. -/
theorem ofMapping_nan_timeout_and_limits :
    (∃ s, Settings.ofMapping [(.str "request-timeout", .str "nan")] = .ok s ∧
      s.requestTimeout.isNaN = true ∧ ¬ 0 < s.requestTimeout) ∧
    Settings.ofMapping [(.str "retry-backoff", .int (10 ^ 400))] = .error .floatOverflow ∧
    Settings.ofMapping [(.str "user-agent", .int (16 ^ 4000))] = .error .textTooLong := by
  -- each reading is run by the kernel, through a test of its result that is a boolean
  have hnan : (match Settings.ofMapping [(.str "request-timeout", .str "nan")] with
      | .ok s => s.requestTimeout.isNaN && !decide (0 < s.requestTimeout)
      | .error _ => false) = true := by decide +kernel
  have hover : (match Settings.ofMapping [(.str "retry-backoff", .int (10 ^ 400))] with
      | .error .floatOverflow => true
      | _ => false) = true := by decide +kernel
  have hlong : (match Settings.ofMapping [(.str "user-agent", .int (16 ^ 4000))] with
      | .error .textTooLong => true
      | _ => false) = true := by decide +kernel
  refine ⟨?_, ?_, ?_⟩
  · split at hnan
    · simp only [Bool.and_eq_true, Bool.not_eq_true', decide_eq_false_iff_not] at hnan
      exact ⟨_, ‹_›, hnan⟩
    · cases hnan
  · split at hover
    · assumption
    · cases hover
  · split at hlong
    · assumption
    · cases hlong

end BookLinks.Config
