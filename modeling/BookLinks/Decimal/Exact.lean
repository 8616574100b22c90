import BookLinks.Decimal.Shortest
/-!
# Comparing a double with an integer exactly

A finite double is `± m · 2^e`, so it can be compared with any integer in exact integer
arithmetic; the infinities lie beyond every integer and not-a-number is unordered.
-/
namespace BookLinks.Decimal

/-- How a double compares with an integer; none when the double is not a number. -/
def compareFloatInt (x : Float) (n : Int) : Option Ordering :=
  match FloatShape.ofFloat x with
  | .nan => none
  | .infinite negative => some (if negative then .lt else .gt)
  | .finite negative d =>
    let m : Int := if negative then -(d.mantissa : Int) else d.mantissa
    if d.exponent ≥ 0 then some (compare (m * Nat.pow 2 d.exponent.toNat) n)
    else some (compare m (n * Nat.pow 2 (-d.exponent).toNat))

def Float.atLeastInt (x : Float) (n : Int) : Bool :=
  match compareFloatInt x n with
  | some .gt | some .eq => true
  | _ => false

end BookLinks.Decimal
