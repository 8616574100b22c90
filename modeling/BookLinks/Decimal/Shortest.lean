/-! The shortest decimal that reads back as a given double. A double is split into its sign
and `m · 2^e`; the reals that round to it form an interval around it, whose ends belong to it
when `m` is even (ties go to the even neighbour). For 1, 2, … 17 significant digits, the two
neighbours of the value on that decimal grid are tested in exact arithmetic; the first grid
with a hit wins, the nearer of two hits is taken, and of two equally near the even one. -/
namespace BookLinks.Decimal

/-- A finite double without its sign: `mantissa · 2^exponent`. `narrowBelow` holds when the
gap to the next smaller double is half the gap to the next larger one. -/
structure Dyadic where
  mantissa : Nat
  exponent : Int
  narrowBelow : Bool
  deriving Repr, DecidableEq

inductive FloatShape where
  | nan
  | infinite (negative : Bool)
  | finite (negative : Bool) (d : Dyadic)
  deriving Repr, DecidableEq

def FloatShape.ofFloat (x : Float) : FloatShape :=
  let b : Nat := x.toBits.toNat
  let negative := b / Nat.pow 2 63 = 1
  let ex : Nat := (b / Nat.pow 2 52) % 2048
  let fr : Nat := b % Nat.pow 2 52
  if ex = 2047 then (if fr = 0 then .infinite negative else .nan)
  else if ex = 0 then .finite negative ⟨fr, -1074, false⟩
  else .finite negative ⟨fr + Nat.pow 2 52, (ex : Int) - 1075, fr = 0 ∧ ex > 1⟩

/-- Compares `a · 10^p` with `b · 2^q` exactly. -/
def compareScaled (a : Nat) (p : Int) (b : Nat) (q : Int) : Ordering :=
  compare (a * Nat.pow 10 p.toNat * Nat.pow 2 (-q).toNat)
    (b * Nat.pow 2 q.toNat * Nat.pow 10 (-p).toNat)

/-- Raises a guess of the decimal exponent while `10^(E+1) ≤ c · 2^q`. -/
def raiseExponent (c : Nat) (q : Int) : Nat → Int → Int
  | 0, e => e
  | fuel + 1, e =>
    if compareScaled 1 (e + 1) c q != .gt then raiseExponent c q fuel (e + 1) else e

/-- Lowers a guess of the decimal exponent while `10^E > c · 2^q`. -/
def lowerExponent (c : Nat) (q : Int) : Nat → Int → Int
  | 0, e => e
  | fuel + 1, e =>
    if compareScaled 1 e c q == .gt then lowerExponent c q fuel (e - 1) else e

/-- The largest `E` with `10^E ≤ c · 2^q`, for `c > 0`. -/
def decimalExponent (c : Nat) (q : Int) : Int :=
  let guess := (((Nat.log2 c : Nat) : Int) + q) * 78913 / 262144
  lowerExponent c q 8 (raiseExponent c q 8 guess)

/-- The digits of `d · 10^p` with trailing zeros moved into the exponent. -/
def dropTrailingZeros : Nat → Nat → Int → Nat × Int
  | 0, d, p => (d, p)
  | fuel + 1, d, p =>
    if d ≠ 0 ∧ d % 10 = 0 then dropTrailingZeros fuel (d / 10) (p + 1) else (d, p)

/-- The interval of reals that round to a positive double, as `[lo, hi] · 2^q` around
`c · 2^q`, with whether its ends belong to it. -/
structure RoundingInterval where
  c : Nat
  lo : Nat
  hi : Nat
  q : Int
  closed : Bool

/-- The rounding interval of `m · 2^e`. -/
def Dyadic.interval (d : Dyadic) : RoundingInterval :=
  let c := 4 * d.mantissa
  { c, lo := if d.narrowBelow then c - 1 else c - 2, hi := c + 2, q := d.exponent - 2,
    closed := d.mantissa % 2 = 0 }

/-- The decimal with `n` significant digits nearest the value that lies in the interval,
if one does: the value lies in `[E, E + 1)` decades. -/
def RoundingInterval.hitAt (r : RoundingInterval) (E : Int) (n : Nat) : Option (Nat × Int) :=
  let p := E - n + 1
  let up := Nat.pow 2 r.q.toNat * Nat.pow 10 (-p).toNat
  let den := Nat.pow 2 (-r.q).toNat * Nat.pow 10 p.toNat
  let num := r.c * up
  let lo := r.lo * up
  let hi := r.hi * up
  let inside (d : Nat) : Bool :=
    let s := d * den
    (lo < s && s < hi) || (r.closed && (s == lo || s == hi))
  let d0 := num / den
  let d1 := d0 + 1
  match inside d0, inside d1 with
  | true, true =>
    let below := num - d0 * den
    let above := d1 * den - num
    if below < above then some (d0, p)
    else if above < below then some (d1, p)
    else if d0 % 2 = 0 then some (d0, p) else some (d1, p)
  | true, false => some (d0, p)
  | false, true => some (d1, p)
  | false, false => none

/-- Tries `n, n + 1, …` significant digits, at most `fuel` of them. -/
def RoundingInterval.searchFrom (r : RoundingInterval) (E : Int) : Nat → Nat → Nat × Int
  | 0, _ => (r.c, r.q)
  | fuel + 1, n =>
    match r.hitAt E n with
    | some hit => hit
    | none => r.searchFrom E fuel (n + 1)

/-- The shortest decimal `d · 10^p` that reads back as the double `m · 2^e`, for `m > 0`;
`d` has no trailing zero. -/
def Dyadic.shortest (x : Dyadic) : Nat × Int :=
  let r := x.interval
  let (d, p) := r.searchFrom (decimalExponent r.c r.q) 17 1
  dropTrailingZeros 20 d p

end BookLinks.Decimal
